import IcpcVerify.Python.JsonText
import IcpcVerify.Python.Utf8

/-!
# Reading JSON from bytes

`json.loads` of a byte string tells the encoding from the zeros and the byte order mark at
its front.  No code point of a JSON text is zero, so the bytes of such a text in UTF-8 are
taken for UTF-8.
-/

namespace IcpcVerify.Python

/-! ## Encodings -/

/-- What `json.detect_encoding` returns. -/
inductive JsonEncoding where
  | utf8
  | utf8Sig
  | utf16
  | utf16be
  | utf16le
  | utf32
  | utf32be
  | utf32le
  deriving DecidableEq

/-- The encoding that the first bytes without a mark tell. -/
def detectByZeros : Bytes → JsonEncoding
  | [b₀, b₁] =>
      if b₀ = 0 then .utf16be
      else if b₁ = 0 then .utf16le
      else .utf8
  | b₀ :: b₁ :: b₂ :: b₃ :: _ =>
      if b₀ = 0 then if b₁ = 0 then .utf32be else .utf16be
      else if b₁ = 0 then if b₂ = 0 ∧ b₃ = 0 then .utf32le else .utf16le
      else .utf8
  | _ => .utf8

def bomUtf8 : Bytes := [0xEF, 0xBB, 0xBF]
def bomUtf16be : Bytes := [0xFE, 0xFF]
def bomUtf16le : Bytes := [0xFF, 0xFE]
def bomUtf32be : Bytes := [0x00, 0x00, 0xFE, 0xFF]
def bomUtf32le : Bytes := [0xFF, 0xFE, 0x00, 0x00]

/-- `json.detect_encoding`. -/
def detectEncoding (raw : Bytes) : JsonEncoding :=
  if bomUtf32be.isPrefixOf raw ∨ bomUtf32le.isPrefixOf raw then .utf32
  else if bomUtf16be.isPrefixOf raw ∨ bomUtf16le.isPrefixOf raw then .utf16
  else if bomUtf8.isPrefixOf raw then .utf8Sig
  else detectByZeros raw

/-- The number of some bytes. -/
def bytesNumber (bigEndian : Bool) (bytes : Bytes) : ℕ :=
  (if bigEndian then bytes else bytes.reverse).foldl (fun n byte => n * 256 + byte.toNat) 0

/-- The numbers of two bytes each; `none` is truncated data. -/
def units16 (bigEndian : Bool) : Bytes → Option (List ℕ)
  | [] => some []
  | [_] => none
  | b₀ :: b₁ :: rest => (units16 bigEndian rest).map (bytesNumber bigEndian [b₀, b₁] :: ·)

/-- UTF-16 with the handler `surrogatepass`. -/
def decodeUtf16 (bigEndian : Bool) (raw : Bytes) : Option PyStr :=
  (units16 bigEndian raw).map fun units => joinPieces (units.map .escape)

/-- UTF-32 with the handler `surrogatepass`. -/
def decodeUtf32 (bigEndian : Bool) : Bytes → Option PyStr
  | [] => some []
  | b₀ :: b₁ :: b₂ :: b₃ :: rest =>
      let number := bytesNumber bigEndian [b₀, b₁, b₂, b₃]
      if number < 0x110000 then (decodeUtf32 bigEndian rest).map (chr number :: ·) else none
  | _ => none

/-- `raw.decode(detect_encoding(raw), "surrogatepass")`; `none` is `UnicodeDecodeError`. -/
def decodeDetected (raw : Bytes) : Option PyStr :=
  match detectEncoding raw with
  | .utf8 => decodeUtf8 true raw
  | .utf8Sig => decodeUtf8 true (raw.drop 3)
  | .utf16 => decodeUtf16 (bomUtf16be.isPrefixOf raw) (raw.drop 2)
  | .utf16be => decodeUtf16 true raw
  | .utf16le => decodeUtf16 false raw
  | .utf32 => decodeUtf32 (bomUtf32be.isPrefixOf raw) (raw.drop 4)
  | .utf32be => decodeUtf32 true raw
  | .utf32le => decodeUtf32 false raw

example : decodeDetected [0xFF, 0xFE, 0x31, 0x00] = some (py "1") := by
  decide +kernel

example : decodeDetected [0x00, 0x31, 0x00, 0x32] = some (py "12") := by
  decide +kernel

/-- `json.loads` of a byte string; `none` is `ValueError`. -/
def loadsBytes (rt : Runtime) (raw : Bytes) : Option JsonValue :=
  (decodeDetected raw).bind (loads rt)

/-! ## Texts with blanks around them -/

variable {rt : Runtime}

/-- Blanks around a value are passed over. -/
theorem Renders.loads_of_blanks {value : JsonValue} {text : PyStr}
    (hrenders : Renders rt value text) {before after : PyStr} (hbefore : JsonBlank before)
    (hafter : JsonBlank after) : Python.loads rt (before ++ (text ++ after)) = some value := by
  have hlength : text.length < (before ++ (text ++ after)).length + 1 := by
    simp only [List.length_append]
    omega
  have hread : scanValue rt ((before ++ (text ++ after)).length + 1) (text ++ after) =
      some (value, after) :=
    hrenders.scan hlength fun c hc => .inl (hafter c (List.mem_of_mem_head? hc))
  have hend : skipSpace after = [] := List.dropWhile_eq_nil_iff.2 hafter
  have hmark : (before ++ (text ++ after)).head? ≠ some byteOrderMark := by
    cases before with
    | cons c before =>
        intro heq
        have hspace := hbefore c List.mem_cons_self
        rw [Option.some.inj heq] at hspace
        cases hspace
    | nil =>
        obtain ⟨c, rest, rfl, -, -, hc⟩ := hrenders.head
        exact fun heq => hc (Option.some.inj heq)
  rw [Python.loads, if_neg hmark, hrenders.skipSpace_blank hbefore, hread]
  simp only [Option.bind_eq_bind, Option.bind_some, if_pos hend]
  rfl

/-! ## UTF-8 -/

/-- An ASCII code point other than zero. -/
def IsAsciiMark (c : CodePoint) : Prop :=
  0 < c.val ∧ c.val < 0x80

theorem IsAsciiMark.byte {c : CodePoint} (hc : IsAsciiMark c) :
    ∃ byte, utf8Bytes c = [byte] ∧ 0 < byte.toNat ∧ byte.toNat < 0x80 := by
  refine ⟨UInt8.ofNat c.val, ?_, ?_⟩
  · rw [utf8Bytes]
    exact if_pos hc.2
  · rw [toNat_ofNat_of_lt (hc.2.trans (by decide))]
    exact hc

theorem isAsciiMark_of_isJsonSpace {c : CodePoint} (hc : isJsonSpace c = true) :
    IsAsciiMark c := by
  simp only [isJsonSpace, decide_eq_true_eq] at hc
  rcases hc with rfl | rfl | rfl | rfl <;> exact ⟨by decide, by decide⟩

/-- Two such bytes at the front are taken for UTF-8. -/
theorem detectEncoding_eq_utf8 {b₀ b₁ : UInt8} (h₀ : 0 < b₀.toNat ∧ b₀.toNat < 0x80)
    (h₁ : 0 < b₁.toNat) (rest : Bytes) : detectEncoding (b₀ :: b₁ :: rest) = .utf8 := by
  have hne : ∀ byte : UInt8, byte.toNat = 0 ∨ 0x80 ≤ byte.toNat → (byte == b₀) = false := by
    intro byte hbyte
    rw [beq_eq_false_iff_ne]
    rintro rfl
    omega
  have hzero₀ : b₀ ≠ 0 := by
    rintro rfl
    exact absurd h₀.1 (by decide)
  have hzero₁ : b₁ ≠ 0 := by
    rintro rfl
    exact absurd h₁ (by decide)
  have h00 := hne 0x00 (by decide)
  have hfe := hne 0xFE (by decide)
  have hff := hne 0xFF (by decide)
  have hef := hne 0xEF (by decide)
  simp only [detectEncoding, bomUtf32be, bomUtf32le, bomUtf16be, bomUtf16le, bomUtf8,
    List.isPrefixOf, h00, hfe, hff, hef, Bool.false_and, Bool.false_eq_true, or_self, if_false]
  match rest with
  | [] => rw [detectByZeros, if_neg hzero₀, if_neg hzero₁]
  | [_] => rfl
  | _ :: _ :: _ => rw [detectByZeros, if_neg hzero₀, if_neg hzero₁]

/-- A text that starts with two such code points is decoded from its bytes. -/
theorem decodeDetected_encodeUtf8 {c₀ c₁ : CodePoint} {rest : PyStr} {content : Bytes}
    (h₀ : IsAsciiMark c₀) (h₁ : IsAsciiMark c₁)
    (hencoded : encodeUtf8 (c₀ :: c₁ :: rest) = some content) :
    decodeDetected content = some (c₀ :: c₁ :: rest) := by
  have hdecoded := decodeUtf8_encodeUtf8 true hencoded
  obtain ⟨b₀, hb₀, hmark₀⟩ := h₀.byte
  obtain ⟨b₁, hb₁, hmark₁⟩ := h₁.byte
  have hcontent : content = b₀ :: b₁ :: rest.flatMap utf8Bytes := by
    rw [encodeUtf8] at hencoded
    split_ifs at hencoded
    rw [← Option.some.inj hencoded, List.flatMap_cons, List.flatMap_cons, hb₀, hb₁]
    rfl
  have hdetected : detectEncoding content = .utf8 := by
    rw [hcontent]
    exact detectEncoding_eq_utf8 hmark₀ hmark₁.1 _
  rw [decodeDetected, hdetected]
  exact hdecoded

/-- So is a text of such code points, however short. -/
theorem decodeDetected_of_ascii {text : PyStr} (htext : ∀ c ∈ text, IsAsciiMark c)
    {content : Bytes} (hencoded : encodeUtf8 text = some content) :
    decodeDetected content = some text := by
  match text, htext with
  | [], _ =>
      obtain rfl := Option.some.inj hencoded
      rfl
  | [c], hmark =>
      obtain ⟨byte, hbyte, -⟩ := (hmark c List.mem_cons_self).byte
      have hcontent : content = [byte] := by
        rw [encodeUtf8] at hencoded
        split_ifs at hencoded
        rw [← Option.some.inj hencoded, List.flatMap_cons, hbyte]
        rfl
      have hdetected : detectEncoding [byte] = .utf8 := by
        simp [detectEncoding, bomUtf32be, bomUtf32le, bomUtf16be, bomUtf16le, bomUtf8,
          detectByZeros]
      have hdecoded := decodeUtf8_encodeUtf8 true hencoded
      rw [hcontent] at hdecoded ⊢
      rw [decodeDetected, hdetected]
      exact hdecoded
  | c₀ :: c₁ :: rest, hmark =>
      exact decodeDetected_encodeUtf8 (hmark c₀ List.mem_cons_self)
        (hmark c₁ (List.mem_cons_of_mem _ List.mem_cons_self)) hencoded

theorem chr_val_of_ascii {n : ℕ} (hn : n < 0x80) : (chr n).val = n :=
  Nat.mod_eq_of_lt (hn.trans (by decide))

/-- ASCII code points are encoded as themselves. -/
theorem encodeUtf8_ascii {content : Bytes} (hcontent : ∀ byte ∈ content, byte.toNat < 0x80) :
    encodeUtf8 (content.map fun byte => chr byte.toNat) = some content := by
  have hfree : SurrogateFree (content.map fun byte => chr byte.toNat) :=
    List.forall_mem_map.2 fun byte hbyte =>
      not_isSurrogate_chr (.inl ((hcontent byte hbyte).trans (by decide)))
  have hbytes : ∀ byte ∈ content, utf8Bytes (chr byte.toNat) = [byte] := by
    intro byte hbyte
    have hval := chr_val_of_ascii (hcontent byte hbyte)
    rw [utf8Bytes, hval, if_pos (hcontent byte hbyte), UInt8.ofNat_toNat]
  rw [encodeUtf8, if_pos hfree, List.flatMap_map, List.flatMap_congr hbytes]
  exact congrArg some (List.flatMap_singleton' content)

/-- ASCII bytes other than zero are decoded one by one. -/
theorem decodeDetected_ascii {content : Bytes}
    (hcontent : ∀ byte ∈ content, 0 < byte.toNat ∧ byte.toNat < 0x80) :
    decodeDetected content = some (content.map fun byte => chr byte.toNat) := by
  apply decodeDetected_of_ascii
  · intro c hc
    obtain ⟨byte, hbyte, rfl⟩ := List.mem_map.1 hc
    rw [IsAsciiMark, chr_val_of_ascii (hcontent byte hbyte).2]
    exact hcontent byte hbyte
  · exact encodeUtf8_ascii fun byte hbyte => (hcontent byte hbyte).2

/-- A word or a numeral is no object. -/
theorem scanScalar_ne_dict {text rest : PyStr} {entries : List (PyStr × JsonValue)} :
    scanScalar rt text ≠ some (.dict entries, rest) := by
  intro hscan
  rw [scanScalar] at hscan
  split at hscan
  · rename_i constant hconstant
    have hmem := List.mem_of_find?_eq_some hconstant
    have hvalue : constant.2 = .dict entries := congrArg Prod.fst (Option.some.inj hscan)
    simp only [jsonConstants, List.mem_cons, List.not_mem_nil, or_false] at hmem
    rcases hmem with rfl | rfl | rfl | rfl | rfl | rfl <;> cases hvalue
  · obtain ⟨⟨number, rest'⟩, -, hnumber⟩ := Option.bind_eq_some_iff.1 hscan
    obtain ⟨value, hvalue, hresult⟩ := Option.bind_eq_some_iff.1 hnumber
    have hdict : value = .dict entries := congrArg Prod.fst (Option.some.inj hresult)
    rw [numberValue, hdict] at hvalue
    split_ifs at hvalue
    · obtain ⟨x, -, hx⟩ := Option.map_eq_some_iff.1 hvalue
      cases hx
    · obtain ⟨n, -, hn⟩ := Option.map_eq_some_iff.1 hvalue
      cases hn

/-- Without a brace there is no object. -/
theorem openBrace_mem_of_loads {text : PyStr} {entries : List (PyStr × JsonValue)}
    (hread : Python.loads rt text = some (.dict entries)) : openBrace ∈ text := by
  rw [Python.loads] at hread
  split_ifs at hread
  obtain ⟨⟨value, rest⟩, hscan, hend⟩ := Option.bind_eq_some_iff.1 hread
  have hvalue : value = .dict entries := by
    simp only at hend
    split_ifs at hend
    exact Option.some.inj hend
  have hsuffix : skipSpace text <:+ text := List.dropWhile_suffix _
  apply hsuffix.subset
  rw [hvalue] at hscan
  cases hstart : skipSpace text with
  | nil =>
      rw [hstart, scanValue] at hscan
      · cases hscan
      · simp
  | cons c after =>
      rw [hstart, scanValue] at hscan
      split_ifs at hscan with hquote hbracket hbrace
      · obtain ⟨scanned, -, heq⟩ := Option.map_eq_some_iff.1 hscan
        cases heq
      · split at hscan
        · cases hscan
        · obtain ⟨scanned, -, heq⟩ := Option.map_eq_some_iff.1 hscan
          cases heq
      · rw [hbrace]
        exact List.mem_cons_self
      · exact absurd hscan scanScalar_ne_dict

/-- A blank or the closing code point behind it. -/
theorem blank_head {blank : PyStr} (hblank : JsonBlank blank) {closing : CodePoint}
    (hclosing : IsAsciiMark closing) (rest : PyStr) :
    ∃ c rest', blank ++ closing :: rest = c :: rest' ∧ IsAsciiMark c := by
  cases blank with
  | nil => exact ⟨closing, rest, rfl, hclosing⟩
  | cons c blank => exact ⟨c, _, rfl, isAsciiMark_of_isJsonSpace (hblank c List.mem_cons_self)⟩

/-- The text of an object starts with a brace and another such code point. -/
theorem Renders.dict_head {entries : List (PyStr × JsonValue)} {text : PyStr}
    (hrenders : Renders rt (.dict entries) text) :
    ∃ c rest, text = openBrace :: c :: rest ∧ IsAsciiMark c := by
  have hquote : IsAsciiMark quote := ⟨by decide, by decide⟩
  have hbrace : IsAsciiMark closeBrace := ⟨by decide, by decide⟩
  cases hrenders with
  | scalar hstart hscan =>
      have hread := hscan [] (by simp [AfterValue])
      exact absurd hread scanScalar_ne_dict
  | emptyDict hblank =>
      obtain ⟨c, rest, heq, hc⟩ := blank_head hblank hbrace []
      exact ⟨c, rest, by rw [heq], hc⟩
  | dict hentries =>
      cases hentries with
      | last hbefore =>
          obtain ⟨c, rest, heq, hc⟩ := blank_head hbefore hquote _
          exact ⟨c, rest, by rw [heq], hc⟩
      | more hbefore =>
          obtain ⟨c, rest, heq, hc⟩ := blank_head hbefore hquote _
          exact ⟨c, rest, by rw [heq], hc⟩

/-- However an object is written, with blanks around it and in UTF-8, `json.loads` reads it
from the bytes. -/
theorem Renders.loadsBytes_dict {entries : List (PyStr × JsonValue)} {text : PyStr}
    (hrenders : Renders rt (.dict entries) text) {before after : PyStr}
    (hbefore : JsonBlank before) (hafter : JsonBlank after) {content : Bytes}
    (hencoded : encodeUtf8 (before ++ (text ++ after)) = some content) :
    loadsBytes rt content = some (.dict entries) := by
  have hread := hrenders.loads_of_blanks hbefore hafter
  obtain ⟨c₁, rest, htext, hc₁⟩ := hrenders.dict_head
  have hbrace : IsAsciiMark openBrace := ⟨by decide, by decide⟩
  have hdecoded : decodeDetected content = some (before ++ (text ++ after)) := by
    rw [htext] at hencoded ⊢
    match before, hbefore with
    | [], _ => exact decodeDetected_encodeUtf8 hbrace hc₁ hencoded
    | [c], hblank =>
        have hc := isAsciiMark_of_isJsonSpace (hblank c List.mem_cons_self)
        exact decodeDetected_encodeUtf8 hc hbrace hencoded
    | c :: d :: _, hblank =>
        have hc := isAsciiMark_of_isJsonSpace (hblank c List.mem_cons_self)
        have hd := isAsciiMark_of_isJsonSpace
          (hblank d (List.mem_cons_of_mem _ List.mem_cons_self))
        exact decodeDetected_encodeUtf8 hc hd hencoded
  rw [loadsBytes, hdecoded, Option.bind_some, hread]

end IcpcVerify.Python
