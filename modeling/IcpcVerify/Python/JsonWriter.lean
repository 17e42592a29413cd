import IcpcVerify.Python.JsonText

/-!
# Written JSON is read back

`json.dumps` writes ASCII by default: a code point above `0xFFFF` becomes the escapes of
two surrogates, and so a high surrogate right before a low one comes back as one code
point.  Nothing else is lost; with `ensure_ascii=False` nothing is lost at all.
-/

namespace IcpcVerify.Python

/-! ## Writing -/

/-- `\u` and four digits. -/
def hexEscape (n : ℕ) : PyStr :=
  [backslash, ord 'u', hexDigit (n / 16 ^ 3 % 16), hexDigit (n / 16 ^ 2 % 16),
    hexDigit (n / 16 % 16), hexDigit (n % 16)]

/-- The letter that stands for a code point behind a backslash. -/
def shortEscape (c : CodePoint) : Option CodePoint :=
  if c = quote ∨ c = backslash then some c
  else if c = chr 0x0A then some (ord 'n')
  else if c = chr 0x0D then some (ord 'r')
  else if c = chr 0x09 then some (ord 't')
  else if c = chr 0x0C then some (ord 'f')
  else if c = chr 0x08 then some (ord 'b')
  else none

/-- The two surrogates of a code point above `0xFFFF`. -/
def highOf (c : CodePoint) : ℕ :=
  0xD800 + (c.val - 0x10000) / 0x400

def lowOf (c : CodePoint) : ℕ :=
  0xDC00 + (c.val - 0x10000) % 0x400

/-- The escapes of the encoder that writes ASCII. -/
def escapeAscii (c : CodePoint) : PyStr :=
  match shortEscape c with
  | some letter => [backslash, letter]
  | none =>
      if 0x20 ≤ c.val ∧ c.val ≤ 0x7E then [c]
      else if c.val < 0x10000 then hexEscape c.val
      else hexEscape (highOf c) ++ hexEscape (lowOf c)

def quoteAscii (text : PyStr) : PyStr :=
  quote :: (text.flatMap escapeAscii ++ [quote])

section Writing

variable (rt : Runtime)

/-- `float.__repr__`, and the words for what is not finite. -/
def floatText : PyFloat → PyStr
  | .finite x => rt.strFloat x
  | .posInf => py "Infinity"
  | .negInf => py "-Infinity"
  | .nan => py "NaN"

namespace JsonValue

mutual

/-- `json.dumps(value)`. -/
def dumps : JsonValue → PyStr
  | null => py "null"
  | bool value => if value then py "true" else py "false"
  | int value => formatInt value
  | float value => floatText rt value
  | str text => quoteAscii text
  | list items => openBracket :: (List.intercalate (py ", ") (dumpsItems items) ++ [closeBracket])
  | dict entries =>
      openBrace :: (List.intercalate (py ", ") (dumpsEntries entries) ++ [closeBrace])

def dumpsItems : List JsonValue → List PyStr
  | [] => []
  | item :: items => dumps item :: dumpsItems items

def dumpsEntries : List (PyStr × JsonValue) → List PyStr
  | [] => []
  | (key, value) :: entries => (quoteAscii key ++ py ": " ++ dumps value) :: dumpsEntries entries

end

end JsonValue

end Writing

/-! ## Escapes -/

theorem hexValue_hexDigit {d : ℕ} (hd : d < 16) : hexValue (hexDigit d) = some d := by
  interval_cases d <;> rfl

theorem hexNumber_hexDigits {n : ℕ} (hn : n < 0x10000) :
    hexNumber [hexDigit (n / 16 ^ 3 % 16), hexDigit (n / 16 ^ 2 % 16), hexDigit (n / 16 % 16),
      hexDigit (n % 16)] = some n := by
  simp only [hexNumber, List.foldlM_cons, List.foldlM_nil,
    hexValue_hexDigit (Nat.mod_lt _ (show 0 < 16 by decide)), Option.map_some,
    Option.bind_eq_bind, Option.bind_some, Option.pure_def, Option.some.injEq]
  omega

theorem scanPieces_hexEscape {n : ℕ} (hn : n < 0x10000) (rest : PyStr) :
    scanPieces (hexEscape n ++ rest) = (scanPieces rest).map (addPiece (.escape n)) := by
  rw [hexEscape]
  simp only [List.cons_append, List.nil_append, scanPieces_escape, hexNumber_hexDigits hn,
    Option.bind_some]

theorem unescape_shortEscape {c letter : CodePoint} (hshort : shortEscape c = some letter) :
    letter ≠ ord 'u' ∧ unescape letter = some c := by
  rw [shortEscape] at hshort
  split_ifs at hshort with hself hn hr ht hf hb <;> obtain rfl := Option.some.inj hshort
  · rcases hself with rfl | rfl <;> exact ⟨by decide, by decide⟩
  · exact ⟨by decide, hn ▸ by decide⟩
  · exact ⟨by decide, hr ▸ by decide⟩
  · exact ⟨by decide, ht ▸ by decide⟩
  · exact ⟨by decide, hf ▸ by decide⟩
  · exact ⟨by decide, hb ▸ by decide⟩

theorem scanPieces_shortEscape {c letter : CodePoint} (hshort : shortEscape c = some letter)
    (rest : PyStr) :
    scanPieces (backslash :: letter :: rest) = (scanPieces rest).map (addPiece (.plain c)) := by
  obtain ⟨hletter, hc⟩ := unescape_shortEscape hshort
  rw [scanPieces_letter hletter, hc, Option.bind_some]

theorem shortEscape_eq_none {c : CodePoint} (hshort : shortEscape c = none) :
    c ≠ quote ∧ c ≠ backslash := by
  rw [shortEscape] at hshort
  split_ifs at hshort with hself
  simpa using hself

/-- The pieces of a code point in a text of ASCII. -/
def asciiPieces (c : CodePoint) : List StringPiece :=
  if (shortEscape c).isSome ∨ (0x20 ≤ c.val ∧ c.val ≤ 0x7E) then [.plain c]
  else if c.val < 0x10000 then [.escape c.val]
  else [.escape (highOf c), .escape (lowOf c)]

/-- Puts pieces in front of those that were scanned. -/
def addPieces (pieces : List StringPiece) (scanned : List StringPiece × PyStr) :
    List StringPiece × PyStr :=
  (pieces ++ scanned.1, scanned.2)

theorem scanPieces_escapeAscii (c : CodePoint) (rest : PyStr) :
    scanPieces (escapeAscii c ++ rest) = (scanPieces rest).map (addPieces (asciiPieces c)) := by
  have hbound : c.val < 0x110000 := c.isLt
  rw [escapeAscii, asciiPieces]
  cases hshort : shortEscape c with
  | some letter => exact scanPieces_shortEscape hshort rest
  | none =>
      obtain ⟨hquote, hbackslash⟩ := shortEscape_eq_none hshort
      simp only [Option.isSome_none, Bool.false_eq_true, false_or]
      split_ifs with hprintable hsmall
      · exact scanPieces_plain ⟨hquote, hbackslash, not_lt.2 hprintable.1⟩ rest
      · exact scanPieces_hexEscape hsmall rest
      · have hhigh : highOf c < 0x10000 := by
          rw [highOf]
          omega
        have hlow : lowOf c < 0x10000 := by
          rw [lowOf]
          omega
        rw [List.append_assoc, scanPieces_hexEscape hhigh, scanPieces_hexEscape hlow,
          Option.map_map]
        rfl

theorem scanPieces_escaped (text rest : PyStr) :
    scanPieces (text.flatMap escapeAscii ++ quote :: rest) =
      some (text.flatMap asciiPieces, rest) := by
  induction text with
  | nil => exact scanPieces_quote rest
  | cons c text ih =>
      rw [List.flatMap_cons, List.append_assoc, scanPieces_escapeAscii, ih]
      rfl

/-! ## Surrogates -/

/-- What a text becomes when every high surrogate is joined with the low one behind it. -/
def mergeSurrogates : PyStr → PyStr
  | [] => []
  | high :: low :: rest =>
      if IsHighSurrogate high.val ∧ IsLowSurrogate low.val then
        joinSurrogates high.val low.val :: mergeSurrogates rest
      else high :: mergeSurrogates (low :: rest)
  | [c] => [c]

/-- No high surrogate stands right before a low one. -/
def NoSurrogatePair (text : PyStr) : Prop :=
  text.IsChain fun c d => ¬(IsHighSurrogate c.val ∧ IsLowSurrogate d.val)

instance (text : PyStr) : Decidable (NoSurrogatePair text) :=
  inferInstanceAs (Decidable (List.IsChain _ text))

theorem length_mergeSurrogates_le (text : PyStr) :
    (mergeSurrogates text).length ≤ text.length := by
  induction text using mergeSurrogates.induct with
  | case1 => rfl
  | case2 high low rest hpair ih =>
      rw [mergeSurrogates, if_pos hpair]
      simp only [List.length_cons]
      omega
  | case3 high low rest hpair ih =>
      rw [mergeSurrogates, if_neg hpair]
      simp only [List.length_cons] at ih ⊢
      omega
  | case4 c => rfl

/-- Joining changes a text only where there are two surrogates to join. -/
theorem mergeSurrogates_eq_self_iff (text : PyStr) :
    mergeSurrogates text = text ↔ NoSurrogatePair text := by
  induction text using mergeSurrogates.induct with
  | case1 => simp [mergeSurrogates, NoSurrogatePair]
  | case2 high low rest hpair ih =>
      have hshorter := length_mergeSurrogates_le rest
      rw [mergeSurrogates, if_pos hpair, NoSurrogatePair, List.isChain_cons_cons]
      apply iff_of_false
      · intro heq
        have hlength := congrArg List.length heq
        simp only [List.length_cons] at hlength
        omega
      · exact fun hchain => hchain.1 hpair
  | case3 high low rest hpair ih =>
      rw [mergeSurrogates, if_neg hpair, List.cons.injEq, ih, NoSurrogatePair, NoSurrogatePair,
        List.isChain_cons_cons]
      simp only [hpair, not_false_eq_true, true_and]
  | case4 c => simp [mergeSurrogates, NoSurrogatePair]

theorem joinPieces_plain (c : CodePoint) (pieces : List StringPiece) :
    joinPieces (.plain c :: pieces) = c :: joinPieces pieces := by
  rw [joinPieces]

/-- An escape that has nothing to join with. -/
theorem joinPieces_escape {n : ℕ} {pieces : List StringPiece}
    (halone : ∀ low, pieces.head? = some (.escape low) →
      ¬(IsHighSurrogate n ∧ IsLowSurrogate low)) :
    joinPieces (.escape n :: pieces) = chr n :: joinPieces pieces := by
  cases pieces with
  | nil => rfl
  | cons piece pieces =>
      cases piece with
      | plain c => rfl
      | escape low => rw [joinPieces, if_neg (halone low rfl)]

theorem joinPieces_pair {high low : ℕ} (hpair : IsHighSurrogate high ∧ IsLowSurrogate low)
    (pieces : List StringPiece) :
    joinPieces (.escape high :: .escape low :: pieces) =
      joinSurrogates high low :: joinPieces pieces := by
  rw [joinPieces, if_pos hpair]

theorem chr_val (c : CodePoint) : chr c.val = c :=
  Fin.ext (Nat.mod_eq_of_lt c.isLt)

/-- The escapes of a code point above `0xFFFF` stand for it. -/
theorem joinSurrogates_halves {c : CodePoint} (hc : 0x10000 ≤ c.val) :
    (IsHighSurrogate (highOf c) ∧ IsLowSurrogate (lowOf c)) ∧
      joinSurrogates (highOf c) (lowOf c) = c := by
  have hbound : c.val < 0x110000 := c.isLt
  constructor
  · constructor
    · rw [IsHighSurrogate, highOf]
      omega
    · rw [IsLowSurrogate, lowOf]
      omega
  · have hval : 0x10000 + (highOf c - 0xD800) * 0x400 + (lowOf c - 0xDC00) = c.val := by
      rw [highOf, lowOf]
      omega
    rw [joinSurrogates, hval, chr_val]

theorem isSome_shortEscape_lt {c : CodePoint} (hc : (shortEscape c).isSome) : c.val < 0x80 := by
  rw [shortEscape] at hc
  split_ifs at hc with hself hn hr ht hf hb
  · rcases hself with rfl | rfl <;> decide
  · exact hn ▸ by decide
  · exact hr ▸ by decide
  · exact ht ▸ by decide
  · exact hf ▸ by decide
  · exact hb ▸ by decide
  · cases hc

/-- The pieces of a code point are joined to it, unless it is a high surrogate with a low
one behind it. -/
theorem joinPieces_asciiPieces {c : CodePoint} {pieces : List StringPiece}
    (halone : ∀ low, pieces.head? = some (.escape low) →
      ¬(IsHighSurrogate c.val ∧ IsLowSurrogate low)) :
    joinPieces (asciiPieces c ++ pieces) = c :: joinPieces pieces := by
  rw [asciiPieces]
  split_ifs with hplain hsmall
  · exact joinPieces_plain c pieces
  · rw [List.singleton_append, joinPieces_escape halone, chr_val]
  · obtain ⟨hpair, hjoined⟩ := joinSurrogates_halves (not_lt.1 hsmall)
    rw [List.cons_append, List.singleton_append, joinPieces_pair hpair, hjoined]

/-- Surrogates are written as escapes of their own. -/
theorem asciiPieces_surrogate {c : CodePoint} (hc : IsSurrogate c) :
    asciiPieces c = [.escape c.val] := by
  obtain ⟨hlow, hhigh⟩ := hc
  have hshort : ¬((shortEscape c).isSome ∨ (0x20 ≤ c.val ∧ c.val ≤ 0x7E)) := by
    rintro (hsome | hprintable)
    · have hsmall := isSome_shortEscape_lt hsome
      omega
    · omega
  rw [asciiPieces, if_neg hshort, if_pos (by omega)]

/-- If the pieces of a code point start with the escape of a low surrogate, it is one. -/
theorem eq_of_head_asciiPieces {c : CodePoint} {low : ℕ} {pieces : List StringPiece}
    (hhead : (asciiPieces c ++ pieces).head? = some (.escape low)) (hlow : IsLowSurrogate low) :
    c.val = low := by
  have hbound : c.val < 0x110000 := c.isLt
  rw [asciiPieces] at hhead
  split_ifs at hhead with hplain hsmall
  · cases hhead
  · exact StringPiece.escape.inj (Option.some.inj hhead)
  · have heq : highOf c = low := StringPiece.escape.inj (Option.some.inj hhead)
    rw [IsLowSurrogate, ← heq, highOf] at hlow
    omega

theorem joinPieces_flatMap (text : PyStr) :
    joinPieces (text.flatMap asciiPieces) = mergeSurrogates text := by
  induction text using mergeSurrogates.induct with
  | case1 => rfl
  | case2 high low rest hpair ih =>
      obtain ⟨hhigh, hlow⟩ := hpair
      have hhighSurrogate : IsSurrogate high := ⟨hhigh.1, hhigh.2.trans (by decide)⟩
      have hlowSurrogate : IsSurrogate low := ⟨le_trans (by decide) hlow.1, hlow.2⟩
      rw [mergeSurrogates, if_pos ⟨hhigh, hlow⟩, List.flatMap_cons, List.flatMap_cons,
        asciiPieces_surrogate hhighSurrogate, asciiPieces_surrogate hlowSurrogate, ← ih]
      exact joinPieces_pair ⟨hhigh, hlow⟩ _
  | case3 high low rest hpair ih =>
      rw [mergeSurrogates, if_neg hpair, List.flatMap_cons, joinPieces_asciiPieces, ih]
      rintro n hhead ⟨hhigh, hlow⟩
      rw [List.flatMap_cons] at hhead
      exact hpair ⟨hhigh, eq_of_head_asciiPieces hhead hlow ▸ hlow⟩
  | case4 c =>
      rw [mergeSurrogates, List.flatMap_singleton, ← List.append_nil (asciiPieces c),
        joinPieces_asciiPieces (by simp)]
      rfl

/-! ## Strings -/

/-- A quoted text comes back with its surrogates joined. -/
theorem scanString_escaped (text : PyStr) :
    scanString (text.flatMap escapeAscii ++ [quote]) = some (mergeSurrogates text, []) := by
  rw [scanString, scanPieces_escaped, ← joinPieces_flatMap]
  rfl

/-- The piece that `escapeJson` writes of a code point. -/
def jsonPiece (c : CodePoint) : StringPiece :=
  if (shortEscape c).isSome ∨ 0x20 ≤ c.val then .plain c else .escape c.val

/-- The two escapings differ in what they do beyond ASCII. -/
theorem escapeJson_eq (c : CodePoint) :
    escapeJson c =
      ((shortEscape c).map fun letter => [backslash, letter]).getD
        (if c.val < 0x20 then hexEscape c.val else [c]) := by
  by_cases hself : c = quote ∨ c = backslash
  · rcases hself with rfl | rfl <;> rfl
  · have hne : c ≠ chr 0x22 ∧ c ≠ chr 0x5C := not_or.1 hself
    have hrest : (if c.val < 0x20 then
          py "\\u00" ++ [hexDigit (c.val / 16), hexDigit (c.val % 16)] else [c]) =
        if c.val < 0x20 then hexEscape c.val else [c] := by
      split_ifs with hcontrol
      · have hzero : c.val / 16 ^ 3 = 0 ∧ c.val / 16 ^ 2 = 0 := by omega
        have hdigit : c.val / 16 % 16 = c.val / 16 := by omega
        rw [hexEscape, hzero.1, hzero.2, hdigit]
        rfl
      · rfl
    rw [escapeJson, shortEscape, if_neg hne.1, if_neg hne.2, if_neg hself, hrest]
    generalize (if c.val < 0x20 then hexEscape c.val else [c]) = rest
    split_ifs <;> rfl

theorem scanPieces_escapeJson (c : CodePoint) (rest : PyStr) :
    scanPieces (escapeJson c ++ rest) = (scanPieces rest).map (addPiece (jsonPiece c)) := by
  rw [escapeJson_eq, jsonPiece]
  cases hshort : shortEscape c with
  | some letter => exact scanPieces_shortEscape hshort rest
  | none =>
      obtain ⟨hquote, hbackslash⟩ := shortEscape_eq_none hshort
      simp only [Option.map_none, Option.getD_none, Option.isSome_none, Bool.false_eq_true,
        false_or]
      by_cases hcontrol : c.val < 0x20
      · rw [if_pos hcontrol, if_neg (not_le.2 hcontrol)]
        exact scanPieces_hexEscape (by omega) rest
      · rw [if_neg hcontrol, if_pos (not_lt.1 hcontrol)]
        exact scanPieces_plain ⟨hquote, hbackslash, hcontrol⟩ rest

theorem joinPieces_jsonPiece (c : CodePoint) (pieces : List StringPiece) :
    joinPieces (jsonPiece c :: pieces) = c :: joinPieces pieces := by
  rw [jsonPiece]
  split_ifs with hplain
  · exact joinPieces_plain c pieces
  · rw [joinPieces_escape, chr_val]
    rintro low - ⟨hhigh, -⟩
    rw [IsHighSurrogate] at hhigh
    omega

/-- Without escapes for what is not ASCII a quoted text comes back as it was. -/
theorem scanString_quoteJson (text : PyStr) :
    scanString (text.flatMap escapeJson ++ [quote]) = some (text, []) := by
  have hscan : scanPieces (text.flatMap escapeJson ++ [quote]) =
      some (text.map jsonPiece, []) := by
    induction text with
    | nil => exact scanPieces_quote []
    | cons c text ih =>
        rw [List.flatMap_cons, List.append_assoc, scanPieces_escapeJson, ih]
        rfl
  have hjoin : joinPieces (text.map jsonPiece) = text := by
    clear hscan
    induction text with
    | nil => rfl
    | cons c text ih => rw [List.map_cons, joinPieces_jsonPiece, ih]
  have hresult : scanString (text.flatMap escapeJson ++ [quote]) =
      some (joinPieces (text.map jsonPiece), []) := by
    rw [scanString, hscan]
    rfl
  rw [hresult, hjoin]

/-! ## Numbers and words -/

/-- The scanner takes the whole of what `repr` prints of a float for one float, and `float`
reads it back. -/
def Runtime.ReadsBack (rt : Runtime) (x : ℚ) : Prop :=
  scanNumber (rt.strFloat x) = some ((rt.strFloat x, true), []) ∧
    rt.parseFloat (rt.strFloat x) = some (.finite x)

/-- The number has few enough digits for `int`. -/
def SmallInt (n : ℤ) : Prop :=
  n.natAbs < 10 ^ Yaml.intMaxStrDigits

variable {rt : Runtime}

/-- A numeral starts as no container and no string does. -/
theorem startsScalar_of_scanNumber {text : PyStr} (hscan : scanNumber text ≠ none) :
    StartsScalar text := by
  cases text with
  | nil => exact absurd rfl hscan
  | cons c rest =>
      have hstart : c = ord '-' ∨ isAsciiDigit c = true := by
        by_contra hnone
        rw [not_or, Bool.not_eq_true] at hnone
        apply hscan
        apply scanNumber_eq_none
        rw [scanSign, if_neg (by simpa using hnone.1)]
        exact scanWhole_eq_nil hnone.2 rest
      rcases hstart with rfl | hdigit
      · exact ⟨_, rest, rfl, rfl, by decide⟩
      · have hne : ∀ d, isAsciiDigit d = false → c ≠ d := by
          rintro d hd rfl
          exact Bool.false_ne_true (hd.symm.trans hdigit)
        refine ⟨c, rest, rfl, ?_, ?_⟩
        · simp [isJsonSpace, hne (ord ' ') rfl, hne (ord '\t') rfl, hne (ord '\n') rfl,
            hne (ord '\r') rfl]
        · simp [hne quote rfl, hne openBracket rfl, hne openBrace rfl, hne closeBracket rfl,
            hne byteOrderMark rfl]

theorem renders_number {numeral : PyStr} {isFloat : Bool} {value : JsonValue}
    (hscan : scanNumber numeral = some ((numeral, isFloat), []))
    (hvalue : numberValue rt numeral isFloat = some value) : Renders rt value numeral := by
  have hsome : scanNumber numeral ≠ none := by
    rw [hscan]
    exact Option.some_ne_none _
  apply Renders.scalar (startsScalar_of_scanNumber hsome)
  intro after hafter
  have hread : scanNumber (numeral ++ after) = some ((numeral, isFloat), after) := by
    rw [scanNumber_append hafter.stopsNumeral, hscan]
    rfl
  have hconstants := @find_constants_of_scanNumber (numeral ++ after) (by
    rw [hread]
    exact Option.some_ne_none _)
  rw [scanScalar, hconstants, hread]
  simp only [Option.bind_eq_bind, Option.bind_some, hvalue]
  rfl

theorem renders_float {x : ℚ} (hx : rt.ReadsBack x) :
    Renders rt (.float (.finite x)) (rt.strFloat x) := by
  apply renders_number hx.1
  rw [numberValue, if_pos rfl, hx.2]
  rfl

theorem isAsciiDigit_digitChar {d : ℕ} (hd : d < 10) : isAsciiDigit (digitChar d) = true := by
  interval_cases d <;> rfl

/-- Only zero is printed with a zero in front. -/
theorem head_digits_ne_zero {n : ℕ} (hn : n ≠ 0) : (Decimal.digits n).head? ≠ some 0 := by
  rw [Decimal.digits, if_neg hn, List.head?_reverse,
    List.getLast?_eq_some_getLast (Nat.digits_ne_nil_iff_ne_zero.2 hn)]
  exact fun heq => Nat.getLast_digit_ne_zero 10 hn (Option.some.inj heq)

theorem scanWhole_formatNat (n : ℕ) : scanWhole (formatNat n) = formatNat n := by
  have hdigits : ∀ d ∈ Decimal.digits n, d < 10 := fun _ => Decimal.lt_ten_of_mem_digits
  by_cases hn : n = 0
  · subst hn
    rfl
  · obtain ⟨d, ds, hsplit⟩ := List.exists_cons_of_ne_nil (Decimal.digits_ne_nil n)
    have hd : d ≠ 0 := by
      rintro rfl
      exact head_digits_ne_zero hn (by rw [hsplit]; rfl)
    have hzero : digitChar d ≠ ord '0' := by
      have hten : d < 10 := hdigits d (by simp [hsplit])
      interval_cases d
      · exact absurd rfl hd
      all_goals decide
    have htext : formatNat n = digitChar d :: ds.map digitChar := by
      rw [formatNat, hsplit, List.map_cons]
    have hall : ∀ c ∈ formatNat n, isAsciiDigit c = true := by
      intro c hc
      obtain ⟨e, he, rfl⟩ := List.mem_map.1 hc
      exact isAsciiDigit_digitChar (hdigits e he)
    rw [htext] at hall ⊢
    rw [scanWhole, if_neg hzero]
    exact List.takeWhile_eq_self_iff.2 hall

theorem scanNumber_formatInt (n : ℤ) :
    scanNumber (formatInt n) = some ((formatInt n, false), []) := by
  have hwhole := scanWhole_formatNat n.natAbs
  have hne : formatNat n.natAbs ≠ [] := by
    rw [formatNat, Ne, List.map_eq_nil_iff]
    exact Decimal.digits_ne_nil _
  have hsign : scanSign [ord '-'] (formatNat n.natAbs) = [] := by
    obtain ⟨d, ds, hsplit⟩ := List.exists_cons_of_ne_nil (Decimal.digits_ne_nil n.natAbs)
    have hd : d < 10 := Decimal.lt_ten_of_mem_digits (n := n.natAbs) (by simp [hsplit])
    rw [formatNat, hsplit, List.map_cons, scanSign, if_neg]
    rw [List.mem_singleton]
    exact (digitChar_plain hd).2.1
  rw [formatInt]
  split_ifs with hn
  · have hminus : scanSign [ord '-'] (py "-" ++ formatNat n.natAbs) = py "-" := rfl
    have hdrop : (py "-" ++ formatNat n.natAbs).drop (py "-").length = formatNat n.natAbs := rfl
    simp only [scanNumber, hminus, hdrop, hwhole, if_neg hne, List.drop_length]
    simp [scanFraction, scanExponent]
  · simp only [scanNumber, List.nil_append, hsign, List.length_nil, List.drop_zero, hwhole,
      if_neg hne, List.drop_length]
    simp [scanFraction, scanExponent]

theorem readInt_formatInt {n : ℤ} (hn : SmallInt n) : readInt rt (formatInt n) = .ok n := by
  rw [formatInt]
  split_ifs with hneg
  · have hdigits : ∀ d ∈ Decimal.digits n.natAbs, d < 10 := fun _ => Decimal.lt_ten_of_mem_digits
    have hskip : (py "-" ++ formatNat n.natAbs).dropWhile isNumberSpace =
        py "-" ++ formatNat n.natAbs := rfl
    have hsign : takeSign (py "-" ++ formatNat n.natAbs) = (true, formatNat n.natAbs) := rfl
    have hrun : digitRun (formatNat n.natAbs) = some (Decimal.digits n.natAbs, []) :=
      digitRun_digitChars hdigits
    have hhead : (formatNat n.natAbs).head? ≠ some (ord '_') := by
      obtain ⟨d, ds, hsplit⟩ := List.exists_cons_of_ne_nil (Decimal.digits_ne_nil n.natAbs)
      rw [formatNat, hsplit, List.map_cons, List.head?_cons]
      exact fun heq => (digitChar_plain (hdigits d (by simp [hsplit]))).2.2.2 (Option.some.inj heq)
    have hlength : ¬Yaml.intMaxStrDigits < (Decimal.digits n.natAbs).length :=
      not_lt.2 (length_digits_le (by decide) hn)
    have hvalue : -((n.natAbs : ℕ) : ℤ) = n := by omega
    simp only [readInt, hskip, hsign, if_neg hhead, hrun, if_neg (Decimal.digits_ne_nil n.natAbs),
      if_neg hlength, Decimal.value_digits, if_true, hvalue]
    rfl
  · have hvalue : ((n.natAbs : ℕ) : ℤ) = n := by omega
    rw [List.nil_append, readInt_formatNat rt hn, hvalue]

theorem renders_int {n : ℤ} (hn : SmallInt n) : Renders rt (.int n) (formatInt n) := by
  apply renders_number (scanNumber_formatInt n)
  rw [numberValue, if_neg Bool.false_ne_true, readInt_formatInt hn]
  rfl

/-- A word is found before it is tried as a numeral. -/
theorem renders_constant {constant : PyStr × JsonValue} (hconstant : constant ∈ jsonConstants) :
    Renders rt constant.2 constant.1 := by
  simp only [jsonConstants, List.mem_cons, List.not_mem_nil, or_false] at hconstant
  rcases hconstant with rfl | rfl | rfl | rfl | rfl | rfl <;>
    exact .scalar ⟨_, _, rfl, rfl, by decide⟩ fun after _ => rfl

theorem renders_str {text body : PyStr} (hscan : scanString body = some (text, [])) :
    Renders rt (.str text) (quote :: body) :=
  .str hscan

/-! ## Containers -/

/-- The texts of one entry of a `dict`. -/
def RendersEntry (rt : Runtime) (entry : PyStr × JsonValue) (piece : PyStr) : Prop :=
  ∃ body text, scanString body = some (entry.1, []) ∧ Renders rt entry.2 text ∧
    piece = quote :: (body ++ colon :: (py " " ++ text))

/-- The writers put the items of a list between a separator that starts with a comma. -/
theorem rendersItems_intercalate {items : List JsonValue} {pieces : List PyStr}
    (hpieces : List.Forall₂ (Renders rt) items pieces) (hne : items ≠ [])
    {before between after : PyStr} (hbefore : JsonBlank before) (hbetween : JsonBlank between)
    (hafter : JsonBlank after) :
    RendersItems rt items
      (before ++ (List.intercalate (comma :: between) pieces ++ (after ++ [closeBracket]))) := by
  induction hpieces generalizing before with
  | nil => exact absurd rfl hne
  | @cons item piece items pieces hitem hrest ih =>
      cases hrest with
      | nil =>
          rw [List.intercalate_singleton]
          exact .last hbefore hitem hafter
      | @cons item' piece' items pieces hitem' hrest =>
          have hmore := ih (List.cons_ne_nil _ _) hbetween
          have hjoined := RendersItems.more hbefore hitem jsonBlank_nil hmore
          rw [List.intercalate_cons_cons]
          simpa only [List.append_assoc, List.cons_append, List.nil_append] using hjoined

theorem jsonBlank_space : JsonBlank (py " ") := by
  simp [JsonBlank, py, isJsonSpace]

/-- The same for the entries of a `dict`. -/
theorem rendersEntries_intercalate {entries : List (PyStr × JsonValue)} {pieces : List PyStr}
    (hpieces : List.Forall₂ (RendersEntry rt) entries pieces) (hne : entries ≠ [])
    {before between after : PyStr} (hbefore : JsonBlank before) (hbetween : JsonBlank between)
    (hafter : JsonBlank after) :
    RendersEntries rt entries
      (before ++ (List.intercalate (comma :: between) pieces ++ (after ++ [closeBrace]))) := by
  induction hpieces generalizing before with
  | nil => exact absurd rfl hne
  | @cons entry piece entries pieces hentry hrest ih =>
      obtain ⟨key, value⟩ := entry
      obtain ⟨body, text, hkey, hvalue, rfl⟩ := hentry
      cases hrest with
      | nil =>
          have hlast := RendersEntries.last hbefore hkey jsonBlank_nil jsonBlank_space hvalue hafter
          rw [List.intercalate_singleton]
          simpa only [List.append_assoc, List.cons_append, List.nil_append] using hlast
      | @cons entry' piece' entries pieces hentry' hrest =>
          have hmore := ih (List.cons_ne_nil _ _) hbetween
          have hjoined := RendersEntries.more hbefore hkey jsonBlank_nil jsonBlank_space hvalue
            jsonBlank_nil hmore
          rw [List.intercalate_cons_cons]
          simpa only [List.append_assoc, List.cons_append, List.nil_append] using hjoined

theorem renders_list {items : List JsonValue} {pieces : List PyStr}
    (hpieces : List.Forall₂ (Renders rt) items pieces) {before between after : PyStr}
    (hbefore : JsonBlank before) (hbetween : JsonBlank between) (hafter : JsonBlank after) :
    Renders rt (.list items) (openBracket ::
      (before ++ (List.intercalate (comma :: between) pieces ++ (after ++ [closeBracket])))) := by
  cases hpieces with
  | nil =>
      have hblank : JsonBlank (before ++ after) := List.forall_mem_append.2 ⟨hbefore, hafter⟩
      have hempty : Renders rt (.list []) _ := .emptyList hblank
      simpa using hempty
  | cons hitem hrest =>
      exact .list (rendersItems_intercalate (.cons hitem hrest) (List.cons_ne_nil _ _) hbefore
        hbetween hafter)

theorem renders_dict {entries : List (PyStr × JsonValue)} {pieces : List PyStr}
    (hpieces : List.Forall₂ (RendersEntry rt) entries pieces) {before between after : PyStr}
    (hbefore : JsonBlank before) (hbetween : JsonBlank between) (hafter : JsonBlank after) :
    Renders rt (.dict (collectEntries entries)) (openBrace ::
      (before ++ (List.intercalate (comma :: between) pieces ++ (after ++ [closeBrace])))) := by
  cases hpieces with
  | nil =>
      have hblank : JsonBlank (before ++ after) := List.forall_mem_append.2 ⟨hbefore, hafter⟩
      have hempty : Renders rt (.dict []) _ := .emptyDict hblank
      simpa [collectEntries] using hempty
  | cons hentry hrest =>
      exact .dict (rendersEntries_intercalate (.cons hentry hrest) (List.cons_ne_nil _ _) hbefore
        hbetween hafter)

/-! ## What is written in ASCII -/

namespace JsonValue

mutual

/-- The value that comes back: texts with their surrogates joined, and dictionaries with
one entry for every key. -/
def reread : JsonValue → JsonValue
  | str text => str (mergeSurrogates text)
  | list items => list (rereadItems items)
  | dict entries => dict (collectEntries (rereadEntries entries))
  | value => value

def rereadItems : List JsonValue → List JsonValue
  | [] => []
  | item :: items => reread item :: rereadItems items

def rereadEntries : List (PyStr × JsonValue) → List (PyStr × JsonValue)
  | [] => []
  | (key, value) :: entries => (mergeSurrogates key, reread value) :: rereadEntries entries

end

mutual

/-- The numbers of a value are read back. -/
def Printable (rt : Runtime) : JsonValue → Prop
  | int n => SmallInt n
  | float (.finite x) => rt.ReadsBack x
  | list items => PrintableItems rt items
  | dict entries => PrintableEntries rt entries
  | _ => True

def PrintableItems (rt : Runtime) : List JsonValue → Prop
  | [] => True
  | item :: items => Printable rt item ∧ PrintableItems rt items

def PrintableEntries (rt : Runtime) : List (PyStr × JsonValue) → Prop
  | [] => True
  | (_, value) :: entries => Printable rt value ∧ PrintableEntries rt entries

end

mutual

theorem renders_dumps (value : JsonValue) (hvalue : value.Printable rt) :
    Renders rt value.reread (value.dumps rt) := by
  cases value with
  | null => exact @renders_constant rt (py "null", .null) (by simp [jsonConstants])
  | bool value =>
      cases value with
      | true => exact @renders_constant rt (py "true", .bool true) (by simp [jsonConstants])
      | false => exact @renders_constant rt (py "false", .bool false) (by simp [jsonConstants])
  | int n => exact renders_int hvalue
  | float x =>
      cases x with
      | finite x => exact renders_float hvalue
      | posInf => exact @renders_constant rt (py "Infinity", .float .posInf) (by simp [jsonConstants])
      | negInf =>
          exact @renders_constant rt (py "-Infinity", .float .negInf) (by simp [jsonConstants])
      | nan => exact @renders_constant rt (py "NaN", .float .nan) (by simp [jsonConstants])
  | str text =>
      rw [reread, dumps]
      exact renders_str (scanString_escaped text)
  | list items =>
      rw [reread, dumps]
      exact renders_list (rendersItems_dumps items hvalue) jsonBlank_nil jsonBlank_space
        jsonBlank_nil
  | dict entries =>
      rw [reread, dumps]
      exact renders_dict (rendersEntries_dumps entries hvalue) jsonBlank_nil jsonBlank_space
        jsonBlank_nil

theorem rendersItems_dumps (items : List JsonValue) (hitems : PrintableItems rt items) :
    List.Forall₂ (Renders rt) (rereadItems items) (dumpsItems rt items) := by
  cases items with
  | nil => exact .nil
  | cons item items =>
      exact .cons (renders_dumps item hitems.1) (rendersItems_dumps items hitems.2)

theorem rendersEntries_dumps (entries : List (PyStr × JsonValue))
    (hentries : PrintableEntries rt entries) :
    List.Forall₂ (RendersEntry rt) (rereadEntries entries) (dumpsEntries rt entries) := by
  cases entries with
  | nil => exact .nil
  | cons entry entries =>
      obtain ⟨key, value⟩ := entry
      refine .cons ⟨_, _, scanString_escaped key, renders_dumps value hentries.1, ?_⟩
        (rendersEntries_dumps entries hentries.2)
      rw [quoteAscii]
      simp only [List.cons_append, List.append_assoc]
      rfl

end

/-- `json.loads(json.dumps(value))`. -/
theorem loads_dumps {value : JsonValue} (hvalue : value.Printable rt) :
    loads rt (value.dumps rt) = some value.reread :=
  (renders_dumps value hvalue).loads

end JsonValue

end IcpcVerify.Python
