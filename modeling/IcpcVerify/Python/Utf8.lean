import IcpcVerify.Python.Encoding

/-!
# Reading UTF-8

`bytes.decode("utf-8")` takes the shortest encoding of a code point only, and of a
surrogate only where the error handler lets it pass.  Text files are read with every end
of line made a single newline.
-/

namespace IcpcVerify.Python

/-! ## Decoding -/

/-- A sequence of bytes that has been started. -/
structure Sequence where
  /-- Continuation bytes still due. -/
  due : ℕ
  /-- The number in the bits so far. -/
  bits : ℕ
  /-- The first number that needs a sequence of this length. -/
  low : ℕ

/-- The sequence that a first byte starts. -/
def startSequence (byte : UInt8) : Option Sequence :=
  let lead := byte.toNat
  if lead < 0x80 then some ⟨0, lead, 0⟩
  else if lead < 0xC0 then none
  else if lead < 0xE0 then some ⟨1, lead - 0xC0, 0x80⟩
  else if lead < 0xF0 then some ⟨2, lead - 0xE0, 0x800⟩
  else if lead < 0xF8 then some ⟨3, lead - 0xF0, 0x10000⟩
  else none

/-- The sequence after one more byte. -/
def continueSequence (sequence : Sequence) (byte : UInt8) : Option Sequence :=
  if 0x80 ≤ byte.toNat ∧ byte.toNat < 0xC0 then
    some ⟨sequence.due - 1, sequence.bits * 64 + (byte.toNat - 0x80), sequence.low⟩
  else none

/-- The code point of a sequence that is complete. -/
def endSequence (passSurrogates : Bool) (sequence : Sequence) : Option CodePoint :=
  if sequence.low ≤ sequence.bits ∧ sequence.bits < 0x110000 ∧
      (passSurrogates = true ∨ ¬IsSurrogate (chr sequence.bits)) then
    some (chr sequence.bits)
  else none

/-- The text of the bytes, the first of which continue the sequence if there is one. -/
def decodeFrom (passSurrogates : Bool) : Option Sequence → Bytes → Option PyStr
  | none, [] => some []
  | some _, [] => none
  | started, byte :: rest => do
      let sequence ← match started with
        | none => startSequence byte
        | some sequence => continueSequence sequence byte
      if sequence.due = 0 then do
        let c ← endSequence passSurrogates sequence
        let text ← decodeFrom passSurrogates none rest
        return c :: text
      else decodeFrom passSurrogates (some sequence) rest

/-- `bytes.decode("utf-8")`, with the handler `surrogatepass` if `passSurrogates`; `none`
is `UnicodeDecodeError`. -/
def decodeUtf8 (passSurrogates : Bool) (bytes : Bytes) : Option PyStr :=
  decodeFrom passSurrogates none bytes

/-! ## What was encoded is decoded -/

section Decoding

variable (passSurrogates : Bool) (rest : Bytes)

theorem toNat_ofNat_of_lt {n : ℕ} (hn : n < 256) : (UInt8.ofNat n).toNat = n := by
  rw [UInt8.toNat_ofNat']
  exact Nat.mod_eq_of_lt hn

/-- A first byte that more bytes follow. -/
theorem decodeFrom_start {lead : ℕ} {sequence : Sequence}
    (hstart : startSequence (UInt8.ofNat lead) = some sequence) (hdue : sequence.due ≠ 0) :
    decodeFrom passSurrogates none (UInt8.ofNat lead :: rest) =
      decodeFrom passSurrogates (some sequence) rest := by
  rw [decodeFrom]
  simp only [hstart, Option.bind_eq_bind, Option.bind_some, if_neg hdue]

theorem continueSequence_ofNat (sequence : Sequence) (k : ℕ) :
    continueSequence sequence (UInt8.ofNat (0x80 + k % 64)) =
      some ⟨sequence.due - 1, sequence.bits * 64 + k % 64, sequence.low⟩ := by
  have hbyte : (UInt8.ofNat (0x80 + k % 64)).toNat = 0x80 + k % 64 := toNat_ofNat_of_lt (by omega)
  rw [continueSequence, hbyte, if_pos (by omega), Nat.add_sub_cancel_left]

/-- A continuation byte that is not the last. -/
theorem decodeFrom_continue (due bits low k : ℕ) :
    decodeFrom passSurrogates (some ⟨due + 2, bits, low⟩) (UInt8.ofNat (0x80 + k % 64) :: rest) =
      decodeFrom passSurrogates (some ⟨due + 1, bits * 64 + k % 64, low⟩) rest := by
  rw [decodeFrom]
  simp only [continueSequence_ofNat, Option.bind_eq_bind, Option.bind_some,
    Nat.add_one_sub_one, if_neg (Nat.succ_ne_zero due)]

variable {c : CodePoint} (hc : ¬IsSurrogate c)
include hc

theorem endSequence_val {low : ℕ} (hlow : low ≤ c.val) :
    endSequence passSurrogates ⟨0, c.val, low⟩ = some c := by
  have hchr : chr c.val = c := Fin.ext (Nat.mod_eq_of_lt c.isLt)
  rw [endSequence, hchr, if_pos ⟨hlow, c.isLt, .inr hc⟩]

/-- The last continuation byte of a code point. -/
theorem decodeFrom_last {bits low : ℕ} (hlow : low ≤ c.val) (hbits : bits = c.val / 64) :
    decodeFrom passSurrogates (some ⟨1, bits, low⟩) (UInt8.ofNat (0x80 + c.val % 64) :: rest) =
      (decodeFrom passSurrogates none rest).map (c :: ·) := by
  have hval : bits * 64 + c.val % 64 = c.val := by omega
  rw [decodeFrom]
  simp only [continueSequence_ofNat, Option.bind_eq_bind, Option.bind_some, hval, if_true,
    endSequence_val passSurrogates hc hlow]
  cases decodeFrom passSurrogates none rest <;> rfl

/-- One code point is read back from the front of a text. -/
theorem decodeFrom_utf8Bytes :
    decodeFrom passSurrogates none (utf8Bytes c ++ rest) =
      (decodeFrom passSurrogates none rest).map (c :: ·) := by
  have hbound : c.val < 0x110000 := c.isLt
  rw [utf8Bytes]
  split_ifs with hone htwo hthree
  · have hstart : startSequence (UInt8.ofNat c.val) = some ⟨0, c.val, 0⟩ := by
      simp only [startSequence, toNat_ofNat_of_lt (show c.val < 256 by omega), if_pos hone]
    rw [List.singleton_append, decodeFrom, hstart]
    simp only [Option.bind_eq_bind, Option.bind_some, if_true,
      endSequence_val passSurrogates hc (Nat.zero_le _)]
    cases decodeFrom passSurrogates none rest <;> rfl
  · have hstart : startSequence (UInt8.ofNat (0xC0 + c.val / 64)) =
        some ⟨1, c.val / 64, 0x80⟩ := by
      simp only [startSequence, toNat_ofNat_of_lt (show 0xC0 + c.val / 64 < 256 by omega)]
      rw [if_neg (by omega), if_neg (by omega), if_pos (by omega), Nat.add_sub_cancel_left]
    rw [List.cons_append, decodeFrom_start passSurrogates _ hstart one_ne_zero]
    exact decodeFrom_last passSurrogates rest hc (not_lt.1 hone) rfl
  · have hstart : startSequence (UInt8.ofNat (0xE0 + c.val / 64 ^ 2)) =
        some ⟨2, c.val / 64 ^ 2, 0x800⟩ := by
      simp only [startSequence, toNat_ofNat_of_lt (show 0xE0 + c.val / 64 ^ 2 < 256 by omega)]
      rw [if_neg (by omega), if_neg (by omega), if_neg (by omega), if_pos (by omega),
        Nat.add_sub_cancel_left]
    rw [List.cons_append, decodeFrom_start passSurrogates _ hstart two_ne_zero, List.cons_append,
      decodeFrom_continue]
    exact decodeFrom_last passSurrogates rest hc (not_lt.1 htwo) (by omega)
  · have hstart : startSequence (UInt8.ofNat (0xF0 + c.val / 64 ^ 3)) =
        some ⟨3, c.val / 64 ^ 3, 0x10000⟩ := by
      simp only [startSequence, toNat_ofNat_of_lt (show 0xF0 + c.val / 64 ^ 3 < 256 by omega)]
      rw [if_neg (by omega), if_neg (by omega), if_neg (by omega), if_neg (by omega),
        if_pos (by omega), Nat.add_sub_cancel_left]
    rw [List.cons_append, decodeFrom_start passSurrogates _ hstart three_ne_zero,
      List.cons_append, decodeFrom_continue, List.cons_append, decodeFrom_continue]
    exact decodeFrom_last passSurrogates rest hc (not_lt.1 hthree) (by omega)

end Decoding

/-- Decoding gives back every text that has an encoding. -/
theorem decodeUtf8_encodeUtf8 (passSurrogates : Bool) {text : PyStr} {bytes : Bytes}
    (hencoded : encodeUtf8 text = some bytes) : decodeUtf8 passSurrogates bytes = some text := by
  have hfree : SurrogateFree text := by
    rw [← encodeUtf8_isSome_iff, hencoded]
    rfl
  rw [encodeUtf8, if_pos hfree] at hencoded
  obtain rfl := Option.some.inj hencoded
  clear hencoded
  rw [decodeUtf8]
  induction text with
  | nil => rfl
  | cons c text ih =>
      rw [surrogateFree_cons] at hfree
      rw [List.flatMap_cons, decodeFrom_utf8Bytes passSurrogates _ hfree.1, ih hfree.2]
      rfl

/-! ## Text files -/

def carriageReturn : CodePoint := ord '\r'

/-- `\r\n` and `\r` become `\n`; a newline right after a carriage return is dropped. -/
def translateNewlines (afterReturn : Bool) : PyStr → PyStr
  | [] => []
  | c :: rest =>
      if c = carriageReturn then newline :: translateNewlines true rest
      else if afterReturn ∧ c = newline then translateNewlines false rest
      else c :: translateNewlines false rest

/-- `path.read_text(encoding="utf-8")` of a file with this content; `none` is
`UnicodeDecodeError`. -/
def readText (content : Bytes) : Option PyStr :=
  (decodeUtf8 false content).map (translateNewlines false)

theorem translateNewlines_of_notMem {text : PyStr} (htext : carriageReturn ∉ text) :
    translateNewlines false text = text := by
  induction text with
  | nil => rfl
  | cons c text ih =>
      obtain ⟨hc, hrest⟩ := List.ne_and_not_mem_of_not_mem_cons htext
      rw [translateNewlines, if_neg (Ne.symm hc), if_neg (by simp), ih hrest]

/-- A text without carriage returns that was written to a file is read back from it. -/
theorem readText_encodeUtf8 {text : PyStr} {content : Bytes}
    (hencoded : encodeUtf8 text = some content) (htext : carriageReturn ∉ text) :
    readText content = some text := by
  rw [readText, decodeUtf8_encodeUtf8 false hencoded, Option.map_some,
    translateNewlines_of_notMem htext]

end IcpcVerify.Python
