import IcpcVerify.Python.Runtime

/-!
# Texts that UTF-8 can encode

A Python text may hold surrogates, which no encoding of it to UTF-8 exists for.  The
lemmas here say which of the program's ways to make a text keep it free of them.
-/

namespace IcpcVerify.Python

def IsSurrogate (c : CodePoint) : Prop :=
  0xD800 ≤ c.val ∧ c.val ≤ 0xDFFF

instance (c : CodePoint) : Decidable (IsSurrogate c) :=
  inferInstanceAs (Decidable (_ ∧ _))

def SurrogateFree (s : PyStr) : Prop :=
  ∀ c ∈ s, ¬IsSurrogate c

-- The search would go through all code points instead of those of the text.
instance (s : PyStr) : Decidable (SurrogateFree s) :=
  List.decidableBAll (fun c => ¬IsSurrogate c) s

/-! ## Encoding -/

/-- The bytes of one code point. -/
def utf8Bytes (c : CodePoint) : Bytes :=
  let n := c.val
  let continuation (k : ℕ) : UInt8 := UInt8.ofNat (0x80 + k % 64)
  if n < 0x80 then [UInt8.ofNat n]
  else if n < 0x800 then [UInt8.ofNat (0xC0 + n / 64), continuation n]
  else if n < 0x10000 then
    [UInt8.ofNat (0xE0 + n / 64 ^ 2), continuation (n / 64), continuation n]
  else
    [UInt8.ofNat (0xF0 + n / 64 ^ 3), continuation (n / 64 ^ 2), continuation (n / 64),
      continuation n]

/-- `str.encode("utf-8")`; `none` is `UnicodeEncodeError`. -/
def encodeUtf8 (s : PyStr) : Option Bytes :=
  if SurrogateFree s then some (s.flatMap utf8Bytes) else none

theorem encodeUtf8_isSome_iff (s : PyStr) :
    (encodeUtf8 s).isSome = true ↔ SurrogateFree s := by
  rw [encodeUtf8]
  split <;> simp_all

/-! ## Texts made of others -/

@[simp]
theorem surrogateFree_nil : SurrogateFree [] :=
  nofun

@[simp]
theorem surrogateFree_cons (c : CodePoint) (s : PyStr) :
    SurrogateFree (c :: s) ↔ ¬IsSurrogate c ∧ SurrogateFree s :=
  List.forall_mem_cons

@[simp]
theorem surrogateFree_append (s t : PyStr) :
    SurrogateFree (s ++ t) ↔ SurrogateFree s ∧ SurrogateFree t :=
  List.forall_mem_append

theorem SurrogateFree.sublist {s t : PyStr} (ht : SurrogateFree t) (hsub : s.Sublist t) :
    SurrogateFree s :=
  fun c hc => ht c (hsub.mem hc)

theorem SurrogateFree.strip {s : PyStr} (hs : SurrogateFree s) : SurrogateFree (strip s) :=
  hs.sublist ((List.rdropWhile_prefix isSpace _).sublist.trans (List.dropWhile_sublist isSpace))

theorem SurrogateFree.intercalate {sep : PyStr} {parts : List PyStr}
    (hsep : SurrogateFree sep) (hparts : ∀ part ∈ parts, SurrogateFree part) :
    SurrogateFree (List.intercalate sep parts) :=
  forall_mem_intercalate hsep hparts

/-! ## Literals and numbers -/

theorem not_isSurrogate_chr {n : ℕ} (hn : n < 0xD800 ∨ (0xDFFF < n ∧ n < 0x110000)) :
    ¬IsSurrogate (chr n) := by
  have hval : (chr n).val = n := by
    apply Nat.mod_eq_of_lt
    omega
  rw [IsSurrogate, hval]
  omega

theorem not_isSurrogate_ord (c : Char) : ¬IsSurrogate (ord c) :=
  not_isSurrogate_chr c.valid

/-- The source holds no surrogates. -/
@[simp]
theorem surrogateFree_py (text : String) : SurrogateFree (py text) := by
  intro c hc
  obtain ⟨char, -, rfl⟩ := List.mem_map.1 hc
  exact not_isSurrogate_ord char

theorem not_isSurrogate_digitChar {d : ℕ} (hd : d < 10) : ¬IsSurrogate (digitChar d) := by
  interval_cases d <;> decide

theorem surrogateFree_digits {ds : List ℕ} (hds : ∀ d ∈ ds, d < 10) :
    SurrogateFree (ds.map digitChar) := by
  intro c hc
  obtain ⟨d, hd, rfl⟩ := List.mem_map.1 hc
  exact not_isSurrogate_digitChar (hds d hd)

/-- A lower-case hexadecimal digit. -/
def hexDigit (d : ℕ) : CodePoint :=
  if d < 10 then digitChar d else chr (0x61 + (d - 10))

theorem not_isSurrogate_hexDigit : ∀ d < 16, ¬IsSurrogate (hexDigit d) := by
  decide

@[simp]
theorem surrogateFree_formatNat (n : ℕ) : SurrogateFree (formatNat n) :=
  surrogateFree_digits fun _ => Decimal.lt_ten_of_mem_digits

@[simp]
theorem surrogateFree_formatInt (n : ℤ) : SurrogateFree (formatInt n) := by
  rw [formatInt]
  split_ifs <;> simp

@[simp]
theorem surrogateFree_formatFixed (places : ℕ) (x : ℚ) :
    SurrogateFree (formatFixed places x) := by
  have hwhole : SurrogateFree ((Decimal.digits (gridSteps places x / 10 ^ places)).map
      digitChar) := surrogateFree_digits fun _ => Decimal.lt_ten_of_mem_digits
  have hfraction : SurrogateFree ((Decimal.padded places (gridSteps places x % 10 ^ places)).map
      digitChar) := surrogateFree_digits fun _ => Decimal.lt_ten_of_mem_padded
  have hdot : ¬IsSurrogate (ord '.') := not_isSurrogate_ord '.'
  rw [formatFixed, writeNumeral]
  split_ifs <;> simp [hwhole, hfraction, hdot]

/-! ## What is taken from the library -/

/-- Replaced characters, representations and printed floats hold no surrogates. -/
structure Runtime.EscapesSurrogates (rt : Runtime) : Prop where
  decodeReplace : ∀ bytes, SurrogateFree (rt.decodeReplace bytes)
  repr : ∀ s, SurrogateFree (rt.repr s)
  strFloat : ∀ x, SurrogateFree (rt.strFloat x)

/-- `\udcff` and its like; nothing else is escaped here. -/
def escapeSurrogate (c : CodePoint) : PyStr :=
  if IsSurrogate c then
    py "\\u" ++ [hexDigit (c.val / 16 ^ 3 % 16), hexDigit (c.val / 16 ^ 2 % 16),
      hexDigit (c.val / 16 % 16), hexDigit (c.val % 16)]
  else [c]

/-- The library on bytes that are ASCII or, from 128 on, undecodable. -/
def Runtime.escaping : Runtime :=
  { Runtime.ascii with
    repr := fun s => py "'" ++ s.flatMap escapeSurrogate ++ py "'"
    decodeReplace := List.map fun byte =>
      if byte < 128 then chr byte.toNat else chr 0xFFFD
    decodeSurrogateescape := List.map fun byte =>
      if byte < 128 then chr byte.toNat else chr (0xDC00 + byte.toNat) }

theorem surrogateFree_escapeSurrogate (c : CodePoint) : SurrogateFree (escapeSurrogate c) := by
  have hhex : ∀ n : ℕ, ¬IsSurrogate (hexDigit (n % 16)) :=
    fun n => not_isSurrogate_hexDigit (n % 16) (by omega)
  rw [escapeSurrogate]
  split_ifs with hc
  · simp [hhex]
  · simpa using hc

theorem Runtime.escaping_escapesSurrogates : Runtime.escaping.EscapesSurrogates where
  decodeReplace bytes c hc := by
    have hbyte : ∀ byte : UInt8, ¬IsSurrogate
        (if byte < 128 then chr byte.toNat else chr 0xFFFD) := by
      intro byte
      have hsmall : byte.toNat < 256 := byte.toNat_lt
      split_ifs
      · exact not_isSurrogate_chr (by omega)
      · exact not_isSurrogate_chr (by omega)
    obtain ⟨byte, -, rfl⟩ := List.mem_map.1 hc
    exact hbyte byte
  repr s := by
    have hescaped : SurrogateFree (s.flatMap escapeSurrogate) := by
      intro c hc
      obtain ⟨c', -, hmem⟩ := List.mem_flatMap.1 hc
      exact surrogateFree_escapeSurrogate c' c hmem
    simp [Runtime.escaping, hescaped]
  strFloat := surrogateFree_formatFixed 1

end IcpcVerify.Python
