import IcpcVerify.Core.FloatFormat
import IcpcVerify.Python.Runtime

/-!
# Doubles

A Python float is a double.  What `-` and `/` make of two of them is the exact result,
rounded to the nearest double, or an infinity if that is too large.
-/

namespace IcpcVerify.Python

def double : FloatFormat :=
  ⟨53, -1074, by decide⟩

/-- The finite doubles are below. -/
def doubleLimit : ℚ :=
  2 ^ 1024

/-- A finite double. -/
def IsDouble (x : ℚ) : Prop :=
  double.Representable x ∧ |x| < doubleLimit

/-- The double nearest to a result. -/
def roundDouble (x : ℚ) : PyFloat :=
  if |double.round x| < doubleLimit then .finite (double.round x)
  else if 0 < x then .posInf else .negInf

/-- An infinity, NaN, or a finite double. -/
def PyFloat.IsDouble : PyFloat → Prop
  | .finite x => Python.IsDouble x
  | _ => True

theorem roundDouble_of_isDouble {x : ℚ} (hx : IsDouble x) : roundDouble x = .finite x := by
  rw [roundDouble, FloatFormat.round_of_representable hx.1, if_pos hx.2]

theorem isDouble_roundDouble (x : ℚ) : (roundDouble x).IsDouble := by
  rw [roundDouble]
  split_ifs with hlimit
  · exact ⟨FloatFormat.representable_round x, hlimit⟩
  · trivial
  · trivial

theorem abs_roundDouble (x : ℚ) : (roundDouble x).abs = roundDouble |x| := by
  rw [roundDouble, roundDouble, ← FloatFormat.abs_round, abs_abs]
  by_cases hlimit : |double.round x| < doubleLimit
  · rw [if_pos hlimit, if_pos hlimit]
    rfl
  · have hne : x ≠ 0 := by
      rintro rfl
      rw [FloatFormat.round_zero, abs_zero, doubleLimit] at hlimit
      exact hlimit (by positivity)
    rw [if_neg hlimit, if_neg hlimit, if_pos (abs_pos.2 hne)]
    split_ifs <;> rfl

/-- A result within a bound that is a float stays so when it is rounded. -/
theorem roundDouble_le {x : ℚ} (hx : 0 ≤ x) {bound : PyFloat} (hbound : bound.IsDouble)
    (hle : PyFloat.finiteLe x bound = true) : (roundDouble x).le bound = true := by
  cases bound with
  | finite y =>
      have hxy : x ≤ y := by simpa [PyFloat.finiteLe] using hle
      have hround := FloatFormat.round_le_of_representable hx hxy hbound.1
      have hlimit : |double.round x| < doubleLimit := by
        rw [abs_of_nonneg (FloatFormat.round_nonneg hx)]
        exact hround.trans_lt ((le_abs_self y).trans_lt hbound.2)
      rw [roundDouble, if_pos hlimit]
      simpa [PyFloat.le, PyFloat.finiteLe] using hround
  | posInf =>
      rw [roundDouble]
      split_ifs <;> rfl
  | negInf => cases hle
  | nan => cases hle

theorem roundDouble_le_posInf (x : ℚ) : (roundDouble x).le .posInf = true := by
  rw [roundDouble]
  split_ifs <;> rfl

/-- An infinite bound is kept by a quotient as well. -/
theorem divPositive_le_posInf (x y : ℚ) :
    ((roundDouble x).divPositive roundDouble y).le .posInf = true := by
  have hkept := roundDouble_le_posInf x
  cases hround : roundDouble x with
  | finite z => exact roundDouble_le_posInf (z / y)
  | posInf => rfl
  | negInf => rfl
  | nan =>
      rw [hround] at hkept
      cases hkept

/-- `float` gives doubles, and results are rounded to them. -/
structure DoubleArithmetic (rt : Runtime) : Prop where
  parseFloat : ∀ s x, rt.parseFloat s = some x → x.IsDouble
  roundFloat : rt.roundFloat = roundDouble

/-- The library on plain ASCII texts with the numbers of Python. -/
def Runtime.doubles : Runtime :=
  { Runtime.ascii with
    parseFloat := fun s => (numeralValue s).map roundDouble
    roundFloat := roundDouble }

theorem doubles_doubleArithmetic : DoubleArithmetic Runtime.doubles where
  parseFloat := by
    intro s x hx
    obtain ⟨value, -, rfl⟩ := Option.map_eq_some_iff.1 hx
    exact isDouble_roundDouble value
  roundFloat := rfl

end IcpcVerify.Python
