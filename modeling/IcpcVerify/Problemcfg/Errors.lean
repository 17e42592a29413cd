import IcpcVerify.Problemcfg
import IcpcVerify.Python.Conversions

/-!
# Errors of loading a configuration

What `load_problem_config` checks itself it reports as a `ProblemConfigError`.  The
conversions it makes on the way raise errors of their own, so a document is reported
as it should exactly when every conversion that is reached succeeds.
-/

namespace IcpcVerify.Problemcfg

open IcpcVerify.Python
open IcpcVerify.FallibleRun

/-- The exception is a `ProblemConfigError`. -/
def Reported (exc : PyError) : Prop :=
  exc.kind = .problemConfig

theorem not_reported_of_unconverted {exc : PyError} (hunconverted : Unconverted exc) :
    ¬Reported exc := by
  rw [Reported]
  rcases hunconverted with hkind | hkind | hkind <;> rw [hkind] <;> decide

theorem problemConfigError_reported (message : PyStr) : Reported (problemConfigError message) :=
  rfl

/-! ## What a document says -/

/-- The mapping at the top of a document, which is empty in an empty one. -/
def IsTop (tree : Yaml) (raw : Mapping) : Prop :=
  (tree = .null ∧ raw = []) ∨ tree = .dict raw

/-- The limits given, of which there are none if the value counts as false. -/
def IsLimits (raw limits : Mapping) : Prop :=
  ((∀ value ∈ raw.get? (py "limits"), value.truthy = false) ∧ limits = []) ∨
    (raw.get? (py "limits") = some (.dict limits) ∧ limits ≠ [])

/-- The value of `type`. -/
def typeOf (raw : Mapping) : Yaml :=
  (raw.get? (py "type")).getD (.str (py "pass-fail"))

/-- The type has a text, which is `pass-fail` in a problem of the new format. -/
def IsSupported (rt : Runtime) (raw : Mapping) : Prop :=
  ∃ text, (typeOf raw).toStr rt = .ok text ∧
    (raw.get? (py "problem_format_version") = none ∨ strip text = py "pass-fail")

/-- Directories below `output_validators/` that may be the validator's. -/
def candidates (files : ProblemFiles) : List DirEntry :=
  (files.outputValidators.getD []).filter DirEntry.isDir

/-- There are several, and no `output_validator` to be preferred. -/
def Ambiguous (files : ProblemFiles) : Prop :=
  files.outputValidator = false ∧ 1 < (candidates files).length

/-- There is a directory for the validator. -/
def HasValidator (files : ProblemFiles) : Prop :=
  files.outputValidator = true ∨ (candidates files).length = 1

/-- The value of `validation`. -/
def validationValue (raw : Mapping) : Yaml :=
  (raw.get? (py "validation")).getD .null

/-- `validation` is null, or names a mode for which there is a validator. -/
def IsMode (rt : Runtime) (raw : Mapping) (files : ProblemFiles) : Prop :=
  validationValue raw = .null ∨
    ∃ text mode, (validationValue raw).toStr rt = .ok text ∧
      validationModeOf (List.intercalate (py " ") (splitWhitespace text)) = some mode ∧
        (mode = .default ∨ HasValidator files)

/-- The limits are numbers. -/
structure LimitsConvert (rt : Runtime) (limits : Mapping) : Prop where
  timeLimit : ∀ value ∈ limits.get? (py "time_limit"), value.IsFloat rt
  memory : ∀ value ∈ limits.get? (py "memory"), value.IsInt rt
  timeMultiplier : ∀ value ∈ limits.get? (py "time_multiplier"), value.IsFloat rt

/-- The value can be made flags, unless it is none that flags are given by. -/
def FlagsConvert : Yaml → Prop
  | .str text => Shlex.Balanced text
  | .list items => ∀ item ∈ items, item.HasText
  | _ => True

/-- Flags can be given by such a value. -/
def GivesFlags : Yaml → Prop
  | .null => True
  | .str _ => True
  | .list _ => True
  | _ => False

/-- The value that the flags are taken from, unless there is none. -/
inductive IsFlagsSource (raw : Mapping) : Yaml → Prop where
  | legacy {value : Yaml} (hvalue : raw.get? (py "validator_flags") = some value)
      (hnull : value ≠ .null) : IsFlagsSource raw value
  | args {outputValidator : Mapping} {value : Yaml}
      (hlegacy : ∀ value ∈ raw.get? (py "validator_flags"), value = .null)
      (hgiven : raw.get? (py "output_validator") = some (.dict outputValidator))
      (hvalue : outputValidator.get? (py "args") = some value) : IsFlagsSource raw value

/-- Every conversion that is reached succeeds, in the order in which they are made. -/
def Converts (rt : Runtime) (files : ProblemFiles) (raw : Mapping) : Prop :=
  (typeOf raw).HasText ∧ (IsSupported rt raw → ∀ limits, IsLimits raw limits →
    LimitsConvert rt limits ∧ (¬Ambiguous files →
      (validationValue raw).HasText ∧ (IsMode rt raw files →
        (∀ value, IsFlagsSource raw value → FlagsConvert value) ∧
          ((∀ value, IsFlagsSource raw value → GivesFlags value) →
            ∀ name ∈ raw.get? (py "name"), name.HasText))))

/-! ## The stages -/

variable {rt : Runtime} {problemDir : Path} {files : ProblemFiles} {raw : Mapping}

theorem topLevel_failsOnly (tree : Yaml) : FailsOnly Reported (topLevel tree) := by
  cases tree with
  | null => exact failsOnly_ok _
  | dict raw => exact failsOnly_ok _
  | _ => exact failsOnly_error (problemConfigError_reported _)

theorem topLevel_eq_ok_iff {tree : Yaml} : topLevel tree = .ok raw ↔ IsTop tree raw := by
  cases tree <;> simp [topLevel, IsTop, pure, Except.pure, throw, throwThe, MonadExceptOf.throw,
    eq_comm]

theorem checkType_failsOnly_iff (isNew : Bool) :
    FailsOnly Reported (checkType rt raw isNew) ↔ (typeOf raw).HasText := by
  have htext := Yaml.toStr_converts rt (typeOf raw)
  rw [checkType, ← typeOf, failsOnly_bind_iff,
    htext.failsOnly_iff fun _ => not_reported_of_unconverted, and_iff_left_iff_imp]
  intro _ text _
  dsimp only
  split_ifs
  · exact failsOnly_error (problemConfigError_reported _)
  · exact failsOnly_ok ()

theorem checkType_eq_ok_iff :
    checkType rt raw (raw.get? (py "problem_format_version")).isSome = .ok () ↔
      IsSupported rt raw := by
  rw [checkType, ← typeOf, bind_eq_ok_iff, IsSupported]
  refine exists_congr fun text => and_congr_right fun _ => ?_
  by_cases htype : strip text = py "pass-fail"
  · simp [htype, pure, Except.pure]
  · cases raw.get? (py "problem_format_version") with
    | none => simp [pure, Except.pure]
    | some version => simp [htype, throw, throwThe, MonadExceptOf.throw]

theorem limitsOf_failsOnly (raw : Mapping) : FailsOnly Reported (limitsOf raw) := by
  rw [limitsOf]
  split
  · exact failsOnly_ok _
  · exact failsOnly_error (problemConfigError_reported _)

theorem orEmpty_eq_dict_iff {value : Option Yaml} {entries : Mapping} :
    orEmpty value = .dict entries ↔
      ((∀ found ∈ value, found.truthy = false) ∧ entries = []) ∨
        (value = some (.dict entries) ∧ entries ≠ []) := by
  cases value with
  | none =>
      rw [orEmpty, Yaml.dict.injEq, eq_comm]
      simp
  | some found =>
      cases htruthy : found.truthy with
      | false =>
          have hempty : found = .dict entries → entries = [] := by
            rintro rfl
            simpa [Yaml.truthy] using htruthy
          simp only [orEmpty, htruthy, Bool.false_eq_true, if_false, Yaml.dict.injEq,
            Option.mem_def, Option.some.injEq, forall_eq', true_and, eq_comm (a := [])]
          tauto
      | true =>
          have hne : found = .dict entries → entries ≠ [] := by
            rintro rfl hnil
            rw [hnil] at htruthy
            cases htruthy
          simp only [orEmpty, htruthy, if_true, Option.mem_def, Option.some.injEq, forall_eq',
            Bool.true_eq_false, false_and, false_or]
          tauto

theorem limitsOf_eq_ok_iff {limits : Mapping} :
    limitsOf raw = .ok limits ↔ IsLimits raw limits := by
  rw [IsLimits, ← orEmpty_eq_dict_iff, limitsOf]
  cases orEmpty (raw.get? (py "limits")) <;>
    simp [pure, Except.pure, throw, throwThe, MonadExceptOf.throw]

/-- What is found below `output_validators/`, by the number of its directories. -/
theorem findValidatorDir_of_plural (problemDir : Path) {entries : List DirEntry}
    (hsingular : files.outputValidator = false) (hplural : files.outputValidators = some entries) :
    ((candidates files).length = 0 ∧ findValidatorDir problemDir files = .ok none) ∨
      ((candidates files).length = 1 ∧
        ∃ dir, findValidatorDir problemDir files = .ok (some dir)) ∨
      (1 < (candidates files).length ∧
        ∃ message, findValidatorDir problemDir files = .error (problemConfigError message)) := by
  have hlength : (((entries.filter DirEntry.isDir).map DirEntry.name).insertionSort
      fun first second => first ≤ second).length = (candidates files).length := by
    rw [List.length_insertionSort, List.length_map, candidates, hplural, Option.getD_some]
  rw [← hlength, findValidatorDir, hsingular, hplural, if_neg Bool.false_ne_true]
  dsimp only
  generalize ((entries.filter DirEntry.isDir).map DirEntry.name).insertionSort
    (fun first second => first ≤ second) = names
  rcases names with _ | ⟨name, _ | ⟨name', names⟩⟩
  · exact .inl ⟨rfl, rfl⟩
  · exact .inr (.inl ⟨rfl, _, rfl⟩)
  · exact .inr (.inr ⟨by simp, _, rfl⟩)

theorem findValidatorDir_returnsIff (problemDir : Path) (files : ProblemFiles) :
    ReturnsIff (¬Ambiguous files) Reported (findValidatorDir problemDir files) := by
  rw [Ambiguous]
  cases hsingular : files.outputValidator with
  | true =>
      rw [findValidatorDir, hsingular]
      exact (returnsIff_ok _).congr (by simp)
  | false =>
      cases hplural : files.outputValidators with
      | none =>
          rw [findValidatorDir, hsingular, hplural, candidates, hplural]
          exact (returnsIff_ok _).congr (by simp)
      | some entries =>
          rcases findValidatorDir_of_plural problemDir hsingular hplural with
            ⟨hnone, hfound⟩ | ⟨hone, dir, hfound⟩ | ⟨hmany, message, hraised⟩
          · rw [hfound, hnone]
            exact (returnsIff_ok _).congr (by simp)
          · rw [hfound, hone]
            exact (returnsIff_ok _).congr (by simp)
          · rw [hraised]
            refine (returnsIff_error (problemConfigError_reported message)).congr ?_
            simp [hmany]

theorem isSome_findValidatorDir {dir : Option Path}
    (hfound : findValidatorDir problemDir files = .ok dir) :
    dir.isSome = true ↔ HasValidator files := by
  rw [HasValidator]
  cases hsingular : files.outputValidator with
  | true =>
      rw [findValidatorDir, hsingular] at hfound
      rw [← Except.ok.inj hfound]
      simp
  | false =>
      cases hplural : files.outputValidators with
      | none =>
          rw [findValidatorDir, hsingular, hplural] at hfound
          rw [← Except.ok.inj hfound, candidates, hplural]
          simp
      | some entries =>
          rcases findValidatorDir_of_plural problemDir hsingular hplural with
            ⟨hnone, hfound'⟩ | ⟨hone, dir', hfound'⟩ | ⟨-, message, hraised⟩
          · rw [hnone, ← Except.ok.inj (hfound'.symm.trans hfound)]
            simp
          · rw [hone, ← Except.ok.inj (hfound'.symm.trans hfound)]
            simp
          · rw [hraised] at hfound
            cases hfound

theorem validationOf_failsOnly_iff (dir : Option Path) :
    FailsOnly Reported (validationOf rt raw dir) ↔ (validationValue raw).HasText := by
  have htext := Yaml.toStr_converts rt (validationValue raw)
  rw [← htext.failsOnly_iff fun _ => not_reported_of_unconverted, validationOf,
    ← validationValue]
  cases validationValue raw with
  | null =>
      rw [Yaml.toStr, Yaml.reprValue]
      · exact ⟨fun _ => failsOnly_ok _, fun _ => failsOnly_ok _⟩
      · simp
      · simp
  | _ =>
      dsimp only
      rw [failsOnly_bind_iff, and_iff_left_iff_imp]
      intro _ text _
      split
      · exact failsOnly_ok _
      · exact failsOnly_error (problemConfigError_reported _)

theorem chooseValidation_failsOnly_iff (dir : Option Path) :
    FailsOnly Reported (chooseValidation rt raw dir) ↔ (validationValue raw).HasText := by
  rw [chooseValidation, failsOnly_bind_iff, validationOf_failsOnly_iff, and_iff_left_iff_imp]
  intro _ mode _
  split_ifs
  · exact failsOnly_error (problemConfigError_reported _)
  · exact failsOnly_ok mode

theorem chooseValidation_returns_iff {dir : Option Path}
    (hdir : dir.isSome = true ↔ HasValidator files) :
    (∃ mode, chooseValidation rt raw dir = .ok mode) ↔ IsMode rt raw files := by
  have hbacked : ∀ mode : ValidationMode,
      ¬(mode ≠ .default ∧ dir = none) ↔ mode = .default ∨ HasValidator files := by
    intro mode
    rw [← hdir, ← Option.ne_none_iff_isSome, not_and_or, not_not]
  rw [IsMode]
  simp only [chooseValidation, bind_eq_ok_iff, ← hbacked]
  rw [validationOf, ← validationValue]
  cases validationValue raw with
  | null =>
      simp only [true_or, iff_true]
      cases dir with
      | none => exact ⟨.default, .default, rfl, rfl⟩
      | some dir => exact ⟨.custom, .custom, rfl, rfl⟩
  | _ =>
      simp only [reduceCtorEq, false_or, bind_eq_ok_iff]
      constructor
      · rintro ⟨mode, found, ⟨text, htext, hfound⟩, hchecked⟩
        split at hfound
        · next named hnamed =>
          obtain rfl := Except.ok.inj hfound
          refine ⟨text, named, htext, hnamed, fun hmissing => ?_⟩
          rw [if_pos hmissing] at hchecked
          cases hchecked
        · cases hfound
      · rintro ⟨text, mode, htext, hnamed, hmissing⟩
        refine ⟨mode, mode, ⟨text, htext, ?_⟩, if_neg hmissing⟩
        rw [hnamed]
        rfl

theorem flagsOf_failsOnly_iff (value : Yaml) :
    FailsOnly Reported (flagsOf rt value) ↔ FlagsConvert value := by
  cases value with
  | null => exact ⟨fun _ => trivial, fun _ => failsOnly_ok _⟩
  | str text =>
      exact (Shlex.split_returnsIff text).failsOnly_iff fun _ => not_reported_of_unconverted
  | list items =>
      have hitems := ReturnsIff.mapM fun item (_ : item ∈ items) => Yaml.toStr_converts rt item
      exact hitems.failsOnly_iff fun _ => not_reported_of_unconverted
  | _ => exact ⟨fun _ => trivial, fun _ => failsOnly_error (problemConfigError_reported _)⟩

theorem flagsSource_of {value : Yaml} (hsource : IsFlagsSource raw value) :
    flagsSource raw = value := by
  cases hsource with
  | legacy hvalue hnull =>
      rw [flagsSource, hvalue, Option.getD_some]
      cases value with
      | null => exact absurd rfl hnull
      | _ => rfl
  | @args outputValidator value hlegacy hgiven hvalue =>
      have hnull : (raw.get? (py "validator_flags")).getD .null = .null := by
        cases hfound : raw.get? (py "validator_flags") with
        | none => rfl
        | some found => exact hlegacy found hfound
      have hne : outputValidator ≠ [] := by
        rintro rfl
        cases hvalue
      have hempty : orEmpty (some (.dict outputValidator)) = .dict outputValidator :=
        orEmpty_eq_dict_iff.2 (.inr ⟨rfl, hne⟩)
      rw [flagsSource, hnull, hgiven, hempty]
      dsimp only
      rw [hvalue, Option.getD_some]

theorem isFlagsSource_flagsSource (hne : flagsSource raw ≠ .null) :
    IsFlagsSource raw (flagsSource raw) := by
  by_cases hlegacy : (raw.get? (py "validator_flags")).getD .null = .null
  · have hnull : ∀ value ∈ raw.get? (py "validator_flags"), value = .null := by
      intro value hvalue
      rwa [Option.mem_def.1 hvalue, Option.getD_some] at hlegacy
    rw [flagsSource, hlegacy] at hne ⊢
    dsimp only at hne ⊢
    cases hvalidator : orEmpty (raw.get? (py "output_validator")) with
    | dict outputValidator =>
        rw [hvalidator] at hne
        dsimp only at hne ⊢
        rcases orEmpty_eq_dict_iff.1 hvalidator with ⟨-, rfl⟩ | ⟨hgiven, -⟩
        · exact absurd rfl hne
        · cases hargs : Mapping.get? outputValidator (py "args") with
          | none =>
              rw [hargs] at hne
              exact absurd rfl hne
          | some value => exact .args hnull hgiven hargs
    | _ =>
        rw [hvalidator] at hne
        exact absurd rfl hne
  · obtain ⟨value, hvalue⟩ : ∃ value, raw.get? (py "validator_flags") = some value := by
      cases hfound : raw.get? (py "validator_flags") with
      | none =>
          rw [hfound] at hlegacy
          exact absurd rfl hlegacy
      | some value => exact ⟨value, rfl⟩
    rw [hvalue, Option.getD_some] at hlegacy
    have hsource : IsFlagsSource raw value := .legacy hvalue hlegacy
    rwa [flagsSource_of hsource]

theorem forall_isFlagsSource_iff {holds : Yaml → Prop} (hnull : holds .null) :
    (∀ value, IsFlagsSource raw value → holds value) ↔ holds (flagsSource raw) := by
  constructor
  · intro hall
    by_cases hsource : flagsSource raw = .null
    · rwa [hsource]
    · exact hall _ (isFlagsSource_flagsSource hsource)
  · intro hholds value hsource
    rwa [← flagsSource_of hsource]

theorem flagsOf_returns_iff {value : Yaml} (hconvert : FlagsConvert value) :
    (∃ flags, flagsOf rt value = .ok flags) ↔ GivesFlags value := by
  cases value with
  | null => exact ⟨fun _ => trivial, fun _ => ⟨[], rfl⟩⟩
  | str text => exact ⟨fun _ => trivial, fun _ => (Shlex.split_returnsIff text).returns hconvert⟩
  | list items =>
      have hitems := ReturnsIff.mapM fun item (_ : item ∈ items) => Yaml.toStr_converts rt item
      exact ⟨fun _ => trivial, fun _ => hitems.returns hconvert⟩
  | _ => simp [flagsOf, GivesFlags, throw, throwThe, MonadExceptOf.throw]

theorem getD_iff {holds : Yaml → Prop} {value : Option Yaml} {default : Yaml}
    (hdefault : holds default) : holds (value.getD default) ↔ ∀ found ∈ value, holds found := by
  cases value with
  | none => simpa using hdefault
  | some found => simp

/-- The limits are numbers when the values that are read for them are, defaults included. -/
theorem limitsConvert_iff (defaultTimeLimit : PyFloat) (defaultMemoryMib : ℤ)
    {limits : Mapping} :
    LimitsConvert rt limits ↔
      ((limits.get? (py "time_limit")).getD (.float defaultTimeLimit)).IsFloat rt ∧
        ((limits.get? (py "memory")).getD (.int defaultMemoryMib)).IsInt rt ∧
          ((limits.get? (py "time_multiplier")).getD (.int 5)).IsFloat rt := by
  have hsmall : (5 : ℤ).natAbs < Yaml.floatOverflow := by decide +kernel
  have hfive : (Yaml.int 5).IsFloat rt := hsmall
  have hlimit : (Yaml.float defaultTimeLimit).IsFloat rt := trivial
  have hmemory : (Yaml.int defaultMemoryMib).IsInt rt := trivial
  rw [getD_iff hlimit, getD_iff hmemory, getD_iff hfive]
  exact ⟨fun hconvert => ⟨hconvert.timeLimit, hconvert.memory, hconvert.timeMultiplier⟩,
    fun hvalues => ⟨hvalues.1, hvalues.2.1, hvalues.2.2⟩⟩

/-! ## The whole document -/

/-- The problem directory with the given document. -/
def documentFiles (tree : Yaml) (outputValidator : Bool)
    (outputValidators : Option (List DirEntry)) : ProblemFiles :=
  ⟨some (.ok (.ok tree)), outputValidator, outputValidators⟩

theorem loadProblemConfig_failsOnly_iff (problemDir : Path) (tree : Yaml)
    (outputValidator : Bool) (outputValidators : Option (List DirEntry))
    (defaultTimeLimit : PyFloat) (defaultMemoryMib : ℤ) :
    FailsOnly Reported (loadProblemConfig rt problemDir
        (documentFiles tree outputValidator outputValidators) defaultTimeLimit
        defaultMemoryMib) ↔
      ∀ raw, IsTop tree raw →
        Converts rt (documentFiles tree outputValidator outputValidators) raw := by
  have hforeign : ∀ exc, Unconverted exc → ¬Reported exc := fun _ => not_reported_of_unconverted
  have hread : readDocument problemDir (documentFiles tree outputValidator outputValidators) =
      .ok tree := rfl
  have hfloat : ∀ value : Yaml,
      FailsOnly Reported (value.toFloat rt) ↔ value.IsFloat rt := fun value =>
    (Yaml.toFloat_returnsIff rt value).failsOnly_iff hforeign
  have hint : ∀ value : Yaml, FailsOnly Reported (value.toInt rt) ↔ value.IsInt rt := fun value =>
    (Yaml.toInt_returnsIff rt value).failsOnly_iff hforeign
  have hname : ∀ raw : Mapping, FailsOnly Reported
      (((raw.get? (py "name")).getD (.str (problemDir.getLastD []))).toStr rt) ↔
        ∀ name ∈ raw.get? (py "name"), name.HasText := fun raw =>
    ((Yaml.toStr_converts rt _).failsOnly_iff hforeign).trans (getD_iff trivial)
  have hpure : ∀ loaded : LoadedConfig, FailsOnly Reported (pure loaded : PyM LoadedConfig) :=
    failsOnly_ok
  generalize documentFiles tree outputValidator outputValidators = files at hread ⊢
  have hdir := findValidatorDir_returnsIff problemDir files
  simp only [loadProblemConfig, failsOnly_bind_iff, hread, failsOnly_ok, Except.ok.injEq,
    forall_eq', topLevel_failsOnly, topLevel_eq_ok_iff, checkType_failsOnly_iff,
    limitsOf_failsOnly, limitsOf_eq_ok_iff, hfloat, hint, hdir.failsOnly,
    chooseValidation_failsOnly_iff, flagsOf_failsOnly_iff, hname, hpure, true_and, imp_true_iff,
    and_true]
  constructor
  · intro hall raw htop
    obtain ⟨htype, hall⟩ := hall raw htop
    refine ⟨htype, fun hsupported limits hlimits => ?_⟩
    obtain ⟨hlimit, hall⟩ := hall () (checkType_eq_ok_iff.2 hsupported) limits hlimits
    obtain ⟨timeLimit, htimeLimit⟩ := (Yaml.toFloat_returnsIff rt _).returns hlimit
    obtain ⟨hmemory, hall⟩ := hall timeLimit htimeLimit
    obtain ⟨memoryMib, hmemoryMib⟩ := (Yaml.toInt_returnsIff rt _).returns hmemory
    obtain ⟨hmultiplier, hall⟩ := hall memoryMib hmemoryMib
    obtain ⟨multiplier, htimeMultiplier⟩ := (Yaml.toFloat_returnsIff rt _).returns hmultiplier
    refine ⟨(limitsConvert_iff _ _).2 ⟨hlimit, hmemory, hmultiplier⟩, fun hclear => ?_⟩
    obtain ⟨dir, hfound⟩ := hdir.returns hclear
    obtain ⟨hvalidation, hall⟩ := hall multiplier htimeMultiplier dir hfound
    refine ⟨hvalidation, fun hmode => ?_⟩
    obtain ⟨mode, hchosen⟩ :=
      (chooseValidation_returns_iff (isSome_findValidatorDir hfound)).2 hmode
    obtain ⟨hflags, hall⟩ := hall mode hchosen
    refine ⟨(forall_isFlagsSource_iff trivial).2 hflags, fun hgiven => ?_⟩
    obtain ⟨flags, hreturned⟩ :=
      (flagsOf_returns_iff hflags).2 ((forall_isFlagsSource_iff trivial).1 hgiven)
    exact hall flags hreturned
  · intro hall raw htop
    obtain ⟨htype, hall⟩ := hall raw htop
    refine ⟨htype, fun _ hchecked limits hlimits => ?_⟩
    obtain ⟨hconvert, hall⟩ := hall (checkType_eq_ok_iff.1 hchecked) limits hlimits
    obtain ⟨hlimit, hmemory, hmultiplier⟩ := (limitsConvert_iff _ _).1 hconvert
    refine ⟨hlimit, fun _ _ => ⟨hmemory, fun _ _ => ⟨hmultiplier, fun _ _ dir hfound => ?_⟩⟩⟩
    obtain ⟨hvalidation, hall⟩ := hall (hdir.returns_iff.1 ⟨dir, hfound⟩)
    refine ⟨hvalidation, fun mode hchosen => ?_⟩
    obtain ⟨hflags, hname⟩ :=
      hall ((chooseValidation_returns_iff (isSome_findValidatorDir hfound)).1 ⟨mode, hchosen⟩)
    have hconverted := (forall_isFlagsSource_iff trivial).1 hflags
    refine ⟨hconverted, fun flags hreturned => hname ?_⟩
    exact (forall_isFlagsSource_iff trivial).2
      ((flagsOf_returns_iff hconverted).1 ⟨flags, hreturned⟩)

/-- Loading returns a configuration whose mode is backed by a validator, or it reports
why it does not. -/
structure LoadsOrReports (loading : PyM LoadedConfig) : Prop where
  reports : FailsOnly Reported loading
  backed : ∀ loaded, loading = .ok loaded →
    loaded.validation = .default ∨ loaded.validatorDir.isSome = true

/-- Over all documents and directories, loading returns or reports exactly when every
conversion that is reached succeeds. -/
theorem loadProblemConfig_reports_iff (rt : Runtime) (problemDir : Path) (tree : Yaml)
    (outputValidator : Bool) (outputValidators : Option (List DirEntry))
    (defaultTimeLimit : PyFloat) (defaultMemoryMib : ℤ) :
    LoadsOrReports (loadProblemConfig rt problemDir
        (documentFiles tree outputValidator outputValidators) defaultTimeLimit
        defaultMemoryMib) ↔
      ∀ raw, IsTop tree raw →
        Converts rt (documentFiles tree outputValidator outputValidators) raw := by
  rw [← loadProblemConfig_failsOnly_iff problemDir]
  exact ⟨fun hloading => hloading.reports,
    fun hreports => ⟨hreports, fun loaded => loadProblemConfig_backed⟩⟩

/-- A document in which the time limit is left blank. -/
def blankLimit : Yaml :=
  .dict [(.str (py "limits"), .dict [(.str (py "time_limit"), .null)])]

/-- A `TypeError` of `float` escapes. -/
theorem loadProblemConfig_blank :
    loadProblemConfig Runtime.ascii [py "problem"] (documentFiles blankLimit false none)
        (.finite 1) 2048 =
      .error ⟨.type, py "float() argument must be a string or a real number, not 'NoneType'"⟩ ∧
        ¬LoadsOrReports (loadProblemConfig Runtime.ascii [py "problem"]
          (documentFiles blankLimit false none) (.finite 1) 2048) := by
  have hraised : loadProblemConfig Runtime.ascii [py "problem"]
      (documentFiles blankLimit false none) (.finite 1) 2048 =
    .error ⟨.type, py "float() argument must be a string or a real number, not 'NoneType'"⟩ := by
    decide +kernel
  refine ⟨hraised, fun hloading => ?_⟩
  have hkind : ErrorKind.type = ErrorKind.problemConfig := hloading.reports _ hraised
  cases hkind

end IcpcVerify.Problemcfg
