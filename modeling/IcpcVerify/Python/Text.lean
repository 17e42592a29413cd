import IcpcVerify.Core.Decimal

/-!
# Python strings

A Python `str` is a sequence of code points in which surrogates may occur, so
`Char` is too small for it.  The operations here are the ones the program uses
on strings: whitespace splitting and stripping, splitting at a separator, and
reading and printing plain decimal numerals.
-/

namespace IcpcVerify.Python

abbrev CodePoint := Fin 0x110000
abbrev PyStr := List CodePoint
abbrev Bytes := List UInt8

instance : LawfulBEq CodePoint :=
  inferInstance

instance : LawfulBEq PyStr :=
  inferInstance

/-- `chr`, on its range. -/
def chr (n : ℕ) : CodePoint :=
  Fin.ofNat 0x110000 n

def ord (c : Char) : CodePoint :=
  chr c.toNat

/-- A string literal of the source. -/
def py (text : String) : PyStr :=
  text.toList.map ord

/-- `str.isspace` on one code point. -/
def isSpace (c : CodePoint) : Bool :=
  (0x9 ≤ c.val ∧ c.val ≤ 0xD) || (0x1C ≤ c.val ∧ c.val ≤ 0x20) || c.val == 0x85 ||
    c.val == 0xA0 || c.val == 0x1680 || (0x2000 ≤ c.val ∧ c.val ≤ 0x200A) ||
    c.val == 0x2028 || c.val == 0x2029 || c.val == 0x202F || c.val == 0x205F ||
    c.val == 0x3000

/-- `str.strip()`. -/
def strip (s : PyStr) : PyStr :=
  (s.dropWhile isSpace).rdropWhile isSpace

/-- `str.split()`: the maximal runs without whitespace. -/
def splitWhitespace (s : PyStr) : List PyStr :=
  (s.splitOnP isSpace).filter (· ≠ [])

/-- `str.split(sep)` for a separator of one code point. -/
def splitOn (sep : CodePoint) (s : PyStr) : List PyStr :=
  s.splitOnP (· == sep)

/-- What joined texts are made of. -/
theorem forall_mem_intercalate {p : CodePoint → Prop} {sep : PyStr} {parts : List PyStr}
    (hsep : ∀ c ∈ sep, p c) (hparts : ∀ part ∈ parts, ∀ c ∈ part, p c) :
    ∀ c ∈ List.intercalate sep parts, p c := by
  induction parts with
  | nil => simp
  | cons part parts ih =>
      obtain ⟨hpart, hrest⟩ := List.forall_mem_cons.1 hparts
      cases parts with
      | nil => simpa using hpart
      | cons part' parts =>
          rw [List.intercalate_cons_cons, List.append_assoc]
          exact List.forall_mem_append.2 ⟨hpart, List.forall_mem_append.2 ⟨hsep, ih hrest⟩⟩

/-- `str.rstrip(c)` for one code point. -/
def rstrip (c : CodePoint) (s : PyStr) : PyStr :=
  s.rdropWhile (· == c)

def newline : CodePoint := ord '\n'

/-- Zeros of the decimal digit blocks (general category Nd); each block is the
ten code points from its zero on. -/
def decimalZeros : List ℕ :=
  [0x30, 0x660, 0x6F0, 0x7C0, 0x966, 0x9E6, 0xA66, 0xAE6, 0xB66, 0xBE6, 0xC66,
    0xCE6, 0xD66, 0xDE6, 0xE50, 0xED0, 0xF20, 0x1040, 0x1090, 0x17E0, 0x1810,
    0x1946, 0x19D0, 0x1A80, 0x1A90, 0x1B50, 0x1BB0, 0x1C40, 0x1C50, 0xA620,
    0xA8D0, 0xA900, 0xA9D0, 0xA9F0, 0xAA50, 0xABF0, 0xFF10, 0x104A0, 0x10D30,
    0x11066, 0x110F0, 0x11136, 0x111D0, 0x112F0, 0x11450, 0x114D0, 0x11650,
    0x116C0, 0x11730, 0x118E0, 0x11950, 0x11C50, 0x11D50, 0x11DA0, 0x11F50,
    0x16A60, 0x16AC0, 0x16B50, 0x1D7CE, 0x1D7D8, 0x1D7E2, 0x1D7EC, 0x1D7F6,
    0x1E140, 0x1E2F0, 0x1E4F0, 0x1E950, 0x1FBF0]

/-- Value of a decimal digit; this is what `\d` matches and `float` reads. -/
def digitValue (c : CodePoint) : Option ℕ :=
  (decimalZeros.find? fun low => low ≤ c.val ∧ c.val ≤ low + 9).map (c.val - ·)

/-- The ASCII digit for a value below ten. -/
def digitChar (d : ℕ) : CodePoint :=
  chr (0x30 + d)

theorem digitValue_digitChar {d : ℕ} (hd : d < 10) :
    digitValue (digitChar d) = some d := by
  interval_cases d <;> decide

/-- Longest prefix of digits, as values, and what follows it. -/
def spanDigits : PyStr → List ℕ × PyStr
  | [] => ([], [])
  | c :: rest =>
      match digitValue c with
      | none => ([], c :: rest)
      | some d => (d :: (spanDigits rest).1, (spanDigits rest).2)

/-- A string whose first code point, if any, is no digit. -/
def StartsWithoutDigit (s : PyStr) : Prop :=
  ∀ c ∈ s.head?, digitValue c = none

theorem spanDigits_append {ds : List ℕ} (hds : ∀ d ∈ ds, d < 10) {rest : PyStr}
    (hrest : StartsWithoutDigit rest) :
    spanDigits (ds.map digitChar ++ rest) = (ds, rest) := by
  induction ds with
  | nil =>
      cases rest with
      | nil => rfl
      | cons c rest =>
          have hc : digitValue c = none := hrest c (by simp)
          simp [spanDigits, hc]
  | cons d ds ih =>
      have hd := digitValue_digitChar (hds d (by simp))
      have htail := ih fun d' hd' => hds d' (by simp [hd'])
      simp [spanDigits, hd, htail]

/-- Printed form of a natural number. -/
def formatNat (n : ℕ) : PyStr :=
  (Decimal.digits n).map digitChar

/-- Printed form of an integer. -/
def formatInt (n : ℤ) : PyStr :=
  (if n < 0 then py "-" else []) ++ formatNat n.natAbs

end IcpcVerify.Python
