import Mathlib

/-!
# Decimal numerals

Digit lists are most significant first, as they are written.  A number printed
in fixed-point form is a whole part, whatever its length, and a fraction padded
to a fixed count of places; reading the two parts back gives the number.
-/

namespace IcpcVerify.Decimal

/-- Digits of a natural number, with a single zero for zero. -/
def digits (n : ℕ) : List ℕ :=
  if n = 0 then [0] else (Nat.digits 10 n).reverse

/-- The last `places` digits, padded with zeros on the left. -/
def padded : ℕ → ℕ → List ℕ
  | 0, _ => []
  | places + 1, n => padded places (n / 10) ++ [n % 10]

/-- Number written by a list of digits. -/
def value (ds : List ℕ) : ℕ :=
  Nat.ofDigits 10 ds.reverse

/-- Number written by a whole part and a fraction. -/
def numeral (whole fraction : List ℕ) : ℚ :=
  value whole + value fraction / 10 ^ fraction.length

theorem numeral_nonneg (whole fraction : List ℕ) : 0 ≤ numeral whole fraction := by
  rw [numeral]
  positivity

@[simp]
theorem value_digits (n : ℕ) : value (digits n) = n := by
  rw [digits, value]
  split
  · subst n
    rfl
  · rw [List.reverse_reverse, Nat.ofDigits_digits]

theorem digits_ne_nil (n : ℕ) : digits n ≠ [] := by
  rw [digits]
  split
  · simp
  · rw [Ne, List.reverse_eq_nil_iff, ← Ne, Nat.digits_ne_nil_iff_ne_zero]
    assumption

theorem lt_ten_of_mem_digits {n d : ℕ} (hd : d ∈ digits n) : d < 10 := by
  rw [digits] at hd
  split at hd
  · rw [List.mem_singleton] at hd
    omega
  · exact Nat.digits_lt_base (by norm_num) (List.mem_reverse.1 hd)

@[simp]
theorem length_padded (places n : ℕ) : (padded places n).length = places := by
  induction places generalizing n with
  | zero => rfl
  | succ places ih => simp [padded, ih]

theorem lt_ten_of_mem_padded {places n d : ℕ} (hd : d ∈ padded places n) :
    d < 10 := by
  induction places generalizing n with
  | zero => simp [padded] at hd
  | succ places ih =>
      rcases List.mem_append.1 hd with hinit | hlast
      · exact ih hinit
      · rw [List.mem_singleton] at hlast
        omega

/-- Padding keeps the number when it has few enough digits. -/
theorem value_padded {places n : ℕ} (hlt : n < 10 ^ places) :
    value (padded places n) = n := by
  induction places generalizing n with
  | zero =>
      have : n = 0 := by simpa using hlt
      subst n
      rfl
  | succ places ih =>
      have hquotient : n / 10 < 10 ^ places := by
        rw [Nat.div_lt_iff_lt_mul (by norm_num), ← pow_succ]
        exact hlt
      have hinit := ih hquotient
      rw [value] at hinit ⊢
      rw [padded, List.reverse_append, List.reverse_singleton, List.singleton_append,
        Nat.ofDigits_cons, hinit]
      omega

/-- A count of grid steps, printed as whole part and padded fraction, reads
back as that count divided by the steps in a unit. -/
theorem numeral_digits_padded (places n : ℕ) :
    numeral (digits (n / 10 ^ places)) (padded places (n % 10 ^ places)) =
      n / 10 ^ places := by
  have hpos : 0 < 10 ^ places := by positivity
  rw [numeral, value_digits, value_padded (Nat.mod_lt _ hpos), length_padded,
    eq_div_iff (by positivity), add_mul, div_mul_cancel₀ _ (by positivity)]
  exact_mod_cast Nat.div_add_mod' n (10 ^ places)

end IcpcVerify.Decimal
