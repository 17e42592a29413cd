import IcpcVerify.Python.Text

/-!
# Runs of digits

`\d` takes the decimal digits of every script.  A run of them is read as its values, and
what is read off a text is its longest such run.
-/

namespace IcpcVerify.Python

/-- The digits have the given values. -/
def ReadsAs (digits : PyStr) (values : List ℕ) : Prop :=
  List.Forall₂ (fun c value => digitValue c = some value) digits values

/-- The run of digits at the start of a text, and what follows it. -/
theorem spanDigits_spec (s : PyStr) :
    ∃ digits, s = digits ++ (spanDigits s).2 ∧ ReadsAs digits (spanDigits s).1 ∧
      StartsWithoutDigit (spanDigits s).2 := by
  induction s with
  | nil => exact ⟨[], rfl, .nil, fun c hc => by cases hc⟩
  | cons c s ih =>
      cases hc : digitValue c with
      | none =>
          simp only [spanDigits, hc]
          refine ⟨[], rfl, .nil, fun c' hc' => ?_⟩
          obtain rfl : c = c' := by simpa using hc'
          exact hc
      | some value =>
          obtain ⟨digits, hsplit, hread, hrest⟩ := ih
          simp only [spanDigits, hc]
          exact ⟨c :: digits, by rw [List.cons_append, ← hsplit], .cons hc hread, hrest⟩

theorem spanDigits_of_readsAs {digits : PyStr} {values : List ℕ} (hread : ReadsAs digits values)
    {rest : PyStr} (hrest : StartsWithoutDigit rest) :
    spanDigits (digits ++ rest) = (values, rest) := by
  induction hread with
  | nil =>
      cases rest with
      | nil => rfl
      | cons c rest => simp [spanDigits, hrest c (by simp)]
  | cons hc _ ih => simp [spanDigits, hc, ih]

theorem readsAs_nil_iff {digits : PyStr} {values : List ℕ} (hread : ReadsAs digits values) :
    digits = [] ↔ values = [] := by
  cases hread <;> simp

theorem ReadsAs.exists_cons {digits : PyStr} {values : List ℕ} (hread : ReadsAs digits values)
    (hne : digits ≠ []) : ∃ value rest, values = value :: rest :=
  List.exists_cons_of_ne_nil fun hnil => hne ((readsAs_nil_iff hread).2 hnil)

/-- Every character of a run is a digit. -/
theorem ReadsAs.isDigit {digits : PyStr} {values : List ℕ} (hread : ReadsAs digits values) :
    ∀ c ∈ digits, (digitValue c).isSome = true := by
  induction hread with
  | nil => simp
  | cons hc _ ih => exact List.forall_mem_cons.2 ⟨by rw [hc]; rfl, ih⟩

theorem exists_readsAs {digits : PyStr} (hdigits : ∀ c ∈ digits, (digitValue c).isSome = true) :
    ∃ values, ReadsAs digits values := by
  induction digits with
  | nil => exact ⟨[], .nil⟩
  | cons c digits ih =>
      obtain ⟨hc, hrest⟩ := List.forall_mem_cons.1 hdigits
      obtain ⟨value, hvalue⟩ := Option.isSome_iff_exists.1 hc
      obtain ⟨values, hread⟩ := ih hrest
      exact ⟨value :: values, .cons hvalue hread⟩

/-- No digit is white space. -/
theorem isSpace_of_digit {c : CodePoint} (hc : (digitValue c).isSome = true) :
    isSpace c = false := by
  have hblocks : ∀ low ∈ decimalZeros, ∀ offset < 10, isSpace (chr (low + offset)) = false := by
    decide +kernel
  rw [digitValue, Option.isSome_map, List.find?_isSome] at hc
  obtain ⟨low, hlow, hblock⟩ := hc
  obtain ⟨hfrom, hto⟩ := of_decide_eq_true hblock
  have hchr : chr (low + (c.val - low)) = c := by
    rw [Nat.add_sub_cancel' hfrom]
    exact Fin.ofNat_val_eq_self c
  rw [← hchr]
  exact hblocks low hlow (c.val - low) (by omega)

/-- The digits of a printed number. -/
theorem spanDigits_formatNat (n : ℕ) : spanDigits (formatNat n) = (Decimal.digits n, []) := by
  have hend : StartsWithoutDigit [] := by simp [StartsWithoutDigit]
  have hspan := @spanDigits_append (Decimal.digits n)
    (fun _ => Decimal.lt_ten_of_mem_digits) [] hend
  rwa [List.append_nil] at hspan

end IcpcVerify.Python
