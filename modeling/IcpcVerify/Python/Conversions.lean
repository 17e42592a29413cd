import IcpcVerify.Core.FallibleRun
import IcpcVerify.Python.Shlex
import IcpcVerify.Python.Yaml

/-!
# When conversions raise

`str`, `float`, `int` and `shlex.split` on values of a document: which values they take,
and what they raise on the others.
-/

namespace IcpcVerify.Python

open IcpcVerify.FallibleRun

/-- Exceptions of a failed conversion. -/
def Unconverted (exc : PyError) : Prop :=
  exc.kind = .value ∨ exc.kind = .type ∨ exc.kind = .overflow

theorem valueError_unconverted (message : PyStr) : Unconverted ⟨.value, message⟩ :=
  .inl rfl

theorem typeError_unconverted (message : PyStr) : Unconverted ⟨.type, message⟩ :=
  .inr (.inl rfl)

theorem overflowError_unconverted (message : PyStr) : Unconverted ⟨.overflow, message⟩ :=
  .inr (.inr rfl)

namespace Yaml

/-! ## Text -/

mutual

/-- No integer in the value is too long to be printed. -/
def Printable : Yaml → Prop
  | int value => (formatNat value.natAbs).length ≤ intMaxStrDigits
  | tuple first second => first.Printable ∧ second.Printable
  | set items => PrintableItems items
  | list items => PrintableItems items
  | dict entries => PrintableEntries entries
  | _ => True

def PrintableItems : List Yaml → Prop
  | [] => True
  | item :: items => item.Printable ∧ PrintableItems items

def PrintableEntries : List (Yaml × Yaml) → Prop
  | [] => True
  | (key, value) :: entries =>
      key.Printable ∧ value.Printable ∧ PrintableEntries entries

end

/-- The values that `str` converts. -/
def HasText : Yaml → Prop
  | str _ => True
  | value => value.Printable

variable (rt : Runtime)

theorem strInt_returnsIff (value : ℤ) :
    ReturnsIff ((formatNat value.natAbs).length ≤ intMaxStrDigits) (· = intDigitsError)
      (strInt value) := by
  by_cases hlong : intMaxStrDigits < (formatNat value.natAbs).length
  · rw [strInt, if_pos hlong]
    have hraised : ReturnsIff False (· = intDigitsError) (.error intDigitsError : PyM PyStr) :=
      returnsIff_error rfl
    exact hraised.congr (by simpa using hlong)
  · rw [strInt, if_neg hlong]
    exact (returnsIff_ok _).congr (by simpa using hlong)

mutual

theorem reprValue_returnsIff : ∀ value : Yaml,
    ReturnsIff value.Printable (· = intDigitsError) (value.reprValue rt)
  | null => returnsIff_ok _
  | bool _ => returnsIff_ok _
  | int value => strInt_returnsIff value
  | float _ => returnsIff_ok _
  | str _ => returnsIff_ok _
  | binary _ => returnsIff_ok _
  | date _ _ _ => returnsIff_ok _
  | tuple first second => (reprValue_returnsIff first).bind fun _ _ =>
      (reprValue_returnsIff second).bind_ok
  | set items => (reprItems_returnsIff items).bind_ok
  | list items => (reprItems_returnsIff items).bind_ok
  | dict entries => (reprEntries_returnsIff entries).bind_ok

theorem reprItems_returnsIff : ∀ items : List Yaml,
    ReturnsIff (PrintableItems items) (· = intDigitsError) (reprItems rt items)
  | [] => returnsIff_ok _
  | item :: items => (reprValue_returnsIff item).bind fun _ _ =>
      (reprItems_returnsIff items).bind_ok

theorem reprEntries_returnsIff : ∀ entries : List (Yaml × Yaml),
    ReturnsIff (PrintableEntries entries) (· = intDigitsError) (reprEntries rt entries)
  | [] => returnsIff_ok _
  | (key, value) :: entries => (reprValue_returnsIff key).bind fun _ _ =>
      (reprValue_returnsIff value).bind fun _ _ => (reprEntries_returnsIff entries).bind_ok

end

/-- Where `str` raises, it is over an integer that is too long. -/
theorem toStr_returnsIff (value : Yaml) :
    ReturnsIff value.HasText (· = intDigitsError) (value.toStr rt) := by
  cases value with
  | str value => exact returnsIff_ok value
  | date name text shown => exact returnsIff_ok text
  | _ => exact reprValue_returnsIff rt _

theorem intDigitsError_unconverted : Unconverted intDigitsError :=
  valueError_unconverted _

theorem toStr_converts (value : Yaml) :
    ReturnsIff value.HasText Unconverted (value.toStr rt) :=
  (toStr_returnsIff rt value).mono fun _ herror => herror ▸ intDigitsError_unconverted

/-! ## Numbers -/

/-- The values that `float` converts. -/
def IsFloat : Yaml → Prop
  | bool _ => True
  | int value => value.natAbs < floatOverflow
  | float _ => True
  | str value => (rt.parseFloat value).isSome = true
  | binary content => ((asciiText content).bind rt.parseFloat).isSome = true
  | _ => False

/-- The values that `int` converts. -/
def IsInt : Yaml → Prop
  | bool _ => True
  | int _ => True
  | float (.finite _) => True
  | str value => (rt.parseInt value).isSome = true
  | binary content => ((asciiText content).bind rt.parseInt).isSome = true
  | _ => False

theorem toFloat_returnsIff (value : Yaml) :
    ReturnsIff (value.IsFloat rt) Unconverted (value.toFloat rt) := by
  cases value with
  | bool value => exact returnsIff_ok _
  | int value =>
      by_cases hlarge : floatOverflow ≤ value.natAbs
      · rw [toFloat, if_pos hlarge]
        exact (returnsIff_error (overflowError_unconverted _)).congr
          (by simpa [IsFloat] using hlarge)
      · rw [toFloat, if_neg hlarge]
        exact (returnsIff_ok _).congr (by simpa [IsFloat] using hlarge)
  | float value => exact returnsIff_ok value
  | str value =>
      rw [toFloat, IsFloat]
      cases rt.parseFloat value with
      | some number => exact (returnsIff_ok number).congr (by simp)
      | none => exact (returnsIff_error (valueError_unconverted _)).congr (by simp)
  | binary content =>
      rw [toFloat, IsFloat]
      cases (asciiText content).bind rt.parseFloat with
      | some number => exact (returnsIff_ok number).congr (by simp)
      | none => exact (returnsIff_error (valueError_unconverted _)).congr (by simp)
  | _ => exact returnsIff_error (typeError_unconverted _)

theorem toInt_returnsIff (value : Yaml) :
    ReturnsIff (value.IsInt rt) Unconverted (value.toInt rt) := by
  cases value with
  | bool value => exact returnsIff_ok _
  | int value => exact returnsIff_ok value
  | float value =>
      cases value with
      | finite value => exact returnsIff_ok _
      | nan => exact returnsIff_error (valueError_unconverted _)
      | _ => exact returnsIff_error (overflowError_unconverted _)
  | str value =>
      rw [toInt, IsInt]
      cases rt.parseInt value with
      | some number => exact (returnsIff_ok number).congr (by simp)
      | none => exact (returnsIff_error (valueError_unconverted _)).congr (by simp)
  | binary content =>
      rw [toInt, IsInt]
      cases (asciiText content).bind rt.parseInt with
      | some number => exact (returnsIff_ok number).congr (by simp)
      | none => exact (returnsIff_error (valueError_unconverted _)).congr (by simp)
  | _ => exact returnsIff_error (typeError_unconverted _)

end Yaml

/-! ## Words of a command line -/

namespace Shlex

/-- Where the lexer stands after a character. -/
def Mode.next : Mode → CodePoint → Mode
  | .between, c =>
      if c ∈ whitespace then .between
      else if c = backslash then .escaped none
      else if c ∈ quotes then .quoted c
      else .word
  | .word, c =>
      if c ∈ whitespace then .between
      else if c ∈ quotes then .quoted c
      else if c = backslash then .escaped none
      else .word
  | .quoted quote, c =>
      if c = quote then .word
      else if c = backslash ∧ quote = ord '"' then .escaped (some quote)
      else .quoted quote
  | .escaped none, _ => .word
  | .escaped (some quote), _ => .quoted quote

/-- Every quote in the text is closed, and a character follows every backslash that
escapes one. -/
def Balanced (text : PyStr) : Prop :=
  text.foldl Mode.next .between = .between ∨ text.foldl Mode.next .between = .word

theorem step_mode (state : State) (c : CodePoint) : (step state c).mode = state.mode.next c := by
  obtain ⟨mode, token, words⟩ := state
  cases mode with
  | between => simp only [step, Mode.next]; split_ifs <;> rfl
  | word => simp only [step, Mode.next]; split_ifs <;> rfl
  | quoted quote => simp only [step, Mode.next]; split_ifs <;> rfl
  | escaped quote => cases quote <;> rfl

theorem foldl_step_mode (text : PyStr) (state : State) :
    (text.foldl step state).mode = text.foldl Mode.next state.mode := by
  induction text generalizing state with
  | nil => rfl
  | cons c text ih => rw [List.foldl_cons, List.foldl_cons, ih, step_mode]

theorem split_returnsIff (text : PyStr) : ReturnsIff (Balanced text) Unconverted (split text) := by
  rw [split, Balanced, ← show start.mode = .between from rfl, ← foldl_step_mode, finish]
  cases (text.foldl step start).mode with
  | between => exact (returnsIff_ok _).congr (by simp [start])
  | word => exact (returnsIff_ok _).congr (by simp)
  | quoted quote => exact (returnsIff_error (valueError_unconverted _)).congr (by simp [start])
  | escaped quote => exact (returnsIff_error (valueError_unconverted _)).congr (by simp [start])

end Shlex

end IcpcVerify.Python
