import IcpcVerify.Core.Rounding
import IcpcVerify.Python.Text

/-!
# Python numbers

Times and memory sizes are finite floats, read as exact rationals.  Values that
come from a text (a token, a tolerance) may also be infinite or not a number,
and keep Python's comparison rules.
-/

namespace IcpcVerify.Python

/-- A Python `float`, with the finite ones as exact rationals. -/
inductive PyFloat where
  | finite (value : ℚ)
  | posInf
  | negInf
  | nan
  deriving DecidableEq

namespace PyFloat

def isNan : PyFloat → Bool
  | nan => true
  | _ => false

/-- Python's `==`: not reflexive on NaN. -/
def eq : PyFloat → PyFloat → Bool
  | finite x, finite y => x = y
  | posInf, posInf => true
  | negInf, negInf => true
  | _, _ => false

/-- Python's `<=` with a finite left side. -/
def finiteLe (x : ℚ) : PyFloat → Bool
  | finite y => x ≤ y
  | posInf => true
  | negInf => false
  | nan => false

/-- Python's `<=`. -/
def le : PyFloat → PyFloat → Bool
  | finite x, y => finiteLe x y
  | posInf, y => y = posInf
  | negInf, y => !y.isNan
  | nan, _ => false

/-- Python's `abs`. -/
def abs : PyFloat → PyFloat
  | finite x => finite |x|
  | posInf => posInf
  | negInf => posInf
  | nan => nan

/-- Python's `/` by a positive finite number, with its rounding. -/
def divPositive (round : ℚ → PyFloat) : PyFloat → ℚ → PyFloat
  | finite x, y => round (x / y)
  | infinite, _ => infinite

/-- Python's `*` with a finite right side. -/
def mulFinite : PyFloat → ℚ → PyFloat
  | finite x, y => finite (x * y)
  | posInf, y => if y = 0 then nan else if 0 < y then posInf else negInf
  | negInf, y => if y = 0 then nan else if 0 < y then negInf else posInf
  | nan, _ => nan

/-- Dividing one side of a comparison is multiplying the other. -/
theorem finiteLe_div_iff {x y : ℚ} (hy : 0 < y) (bound : PyFloat) :
    finiteLe (x / y) bound = true ↔ finiteLe x (bound.mulFinite y) = true := by
  cases bound with
  | finite b => simp [finiteLe, mulFinite, div_le_iff₀ hy]
  | posInf => simp [finiteLe, mulFinite, hy, hy.ne']
  | negInf => simp [finiteLe, mulFinite, hy, hy.ne']
  | nan => simp [finiteLe, mulFinite]

/-- Nothing but zero is within any multiple of zero. -/
theorem eq_zero_of_finiteLe_mulFinite_zero {x : ℚ} {bound : PyFloat}
    (hle : finiteLe |x| (bound.mulFinite 0) = true) : x = 0 := by
  cases bound <;> simp [finiteLe, mulFinite] at hle
  exact hle

end PyFloat

/-- Count of grid steps of size `10^-places` in the rounded magnitude. -/
def gridSteps (places : ℕ) (x : ℚ) : ℕ :=
  (Rounding.halfEven (|x| * (10 ^ places : ℕ))).toNat

/-- A fixed-point numeral with the given digits. -/
def writeNumeral (whole fraction : List ℕ) : PyStr :=
  whole.map digitChar ++ ord '.' :: fraction.map digitChar

/-- `f"{x:.{places}f}"`: correctly rounded, ties to even. -/
def formatFixed (places : ℕ) (x : ℚ) : PyStr :=
  (if x < 0 then py "-" else []) ++
    writeNumeral (Decimal.digits (gridSteps places x / 10 ^ places))
      (Decimal.padded places (gridSteps places x % 10 ^ places))

/-- `round(x, places)`. -/
def roundTo (places : ℕ) (x : ℚ) : ℚ :=
  Rounding.toGrid (10 ^ places) x

/-- `float(s)` for a plain numeral: digits with an optional fraction. -/
def numeralValue (s : PyStr) : Option ℚ :=
  match spanDigits s with
  | ([], _) => none
  | (whole, []) => some (Decimal.numeral whole [])
  | (whole, dot :: rest) =>
      if dot = ord '.' then
        match spanDigits rest with
        | ([], _) => none
        | (fraction, []) => some (Decimal.numeral whole fraction)
        | (_, _ :: _) => none
      else none

/-- `int(s)` for plain digits after an optional minus sign. -/
def integerValue (s : PyStr) : Option ℤ :=
  match s with
  | [] => none
  | c :: rest =>
      if c = ord '-' then (naturalValue rest).map fun n => -(n : ℤ)
      else (naturalValue s).map fun n => (n : ℤ)
where
  naturalValue (digits : PyStr) : Option ℕ :=
    match spanDigits digits with
    | ([], _) => none
    | (ds, []) => some (Decimal.value ds)
    | (_, _ :: _) => none

theorem numeralValue_writeNumeral {whole fraction : List ℕ}
    (hwhole : ∀ d ∈ whole, d < 10) (hfraction : ∀ d ∈ fraction, d < 10)
    (hwhole_ne : whole ≠ []) (hfraction_ne : fraction ≠ []) :
    numeralValue (writeNumeral whole fraction) =
      some (Decimal.numeral whole fraction) := by
  have hdot : StartsWithoutDigit (ord '.' :: fraction.map digitChar) := by
    intro c hc
    obtain rfl : ord '.' = c := by simpa using hc
    decide
  have hspan := spanDigits_append hwhole hdot
  have hspan' : spanDigits (fraction.map digitChar) = (fraction, []) := by
    have hend : StartsWithoutDigit [] := by simp [StartsWithoutDigit]
    simpa using spanDigits_append hfraction hend
  obtain ⟨d, ds, rfl⟩ := List.exists_cons_of_ne_nil hwhole_ne
  obtain ⟨f, fs, rfl⟩ := List.exists_cons_of_ne_nil hfraction_ne
  rw [numeralValue, writeNumeral, hspan]
  simp only [hspan', if_true]

theorem roundTo_eq_gridSteps {places : ℕ} {x : ℚ} (hx : 0 ≤ x) :
    roundTo places x = gridSteps places x / 10 ^ places := by
  have hround : 0 ≤ Rounding.halfEven (x * (10 ^ places : ℕ)) :=
    Rounding.halfEven_nonneg (by positivity)
  have hsteps : ((gridSteps places x : ℕ) : ℚ) =
      Rounding.halfEven (x * (10 ^ places : ℕ)) := by
    rw [gridSteps, abs_of_nonneg hx]
    exact_mod_cast Int.toNat_of_nonneg hround
  rw [roundTo, Rounding.toGrid, ← hsteps]
  push_cast
  rfl

/-- What a fixed-point numeral is read back as is the rounded number. -/
theorem numeralValue_formatFixed {places : ℕ} (hplaces : 0 < places) {x : ℚ}
    (hx : 0 ≤ x) :
    numeralValue (formatFixed places x) = some (roundTo places x) := by
  have hpadded : Decimal.padded places (gridSteps places x % 10 ^ places) ≠ [] := by
    rw [Ne, ← List.length_eq_zero_iff, Decimal.length_padded]
    omega
  rw [formatFixed, if_neg (not_lt.2 hx), List.nil_append,
    numeralValue_writeNumeral (fun _ => Decimal.lt_ten_of_mem_digits)
      (fun _ => Decimal.lt_ten_of_mem_padded) (Decimal.digits_ne_nil _) hpadded,
    Decimal.numeral_digits_padded, roundTo_eq_gridSteps hx]

end IcpcVerify.Python
