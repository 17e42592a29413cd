import IcpcVerify.Problemcfg.Errors

/-!
# Which key the flags come from

`load_problem_config` takes the flags from the legacy key `validator_flags`, and from
`output_validator.args` only where that one is null.  The new key has precedence over
the legacy one exactly when the legacy one makes no difference.
-/

namespace IcpcVerify.Problemcfg

open IcpcVerify.Python
open IcpcVerify.FallibleRun

/-- What is loaded besides the name and the flags. -/
structure Settings where
  timeLimit : PyFloat
  memoryMib : ℤ
  timeMultiplier : PyFloat
  validation : ValidationMode
  validatorDir : Option Path
  formatVersion : PyStr

def Settings.config (settings : Settings) (name : PyStr) (validatorFlags : List PyStr) :
    LoadedConfig where
  name := name
  timeLimit := settings.timeLimit
  memoryMib := settings.memoryMib
  timeMultiplier := settings.timeMultiplier
  validation := settings.validation
  validatorFlags := validatorFlags
  validatorDir := settings.validatorDir
  formatVersion := settings.formatVersion

section Load

variable (rt : Runtime) (problemDir : Path) (outputValidator : Bool)
  (outputValidators : Option (List DirEntry)) (defaultTimeLimit : PyFloat)
  (defaultMemoryMib : ℤ)

/-- `load_problem_config` for a document that is a mapping. -/
def loadMapping (raw : Mapping) : PyM LoadedConfig :=
  loadProblemConfig rt problemDir (documentFiles (.dict raw) outputValidator outputValidators)
    defaultTimeLimit defaultMemoryMib

/-- What is read before the flags. -/
def settingsOf (raw : Mapping) : PyM Settings := do
  let isNew := (raw.get? (py "problem_format_version")).isSome
  checkType rt raw isNew
  let limits ← limitsOf raw
  let timeLimit ← ((limits.get? (py "time_limit")).getD (.float defaultTimeLimit)).toFloat rt
  let memoryMib ← ((limits.get? (py "memory")).getD (.int defaultMemoryMib)).toInt rt
  let timeMultiplier ← ((limits.get? (py "time_multiplier")).getD (.int 5)).toFloat rt
  let validatorDir ← findValidatorDir problemDir
    (documentFiles (.dict raw) outputValidator outputValidators)
  let validation ← chooseValidation rt raw validatorDir
  return {
    timeLimit, memoryMib, timeMultiplier, validation, validatorDir
    formatVersion := if isNew then py "2023-07" else py "legacy" }

/-- The value of `name`. -/
def nameValue (raw : Mapping) : Yaml :=
  (raw.get? (py "name")).getD (.str (problemDir.getLastD []))

/-- The outcome of loading with the given flags. -/
def loadWith (raw : Mapping) (flags : PyM (List PyStr)) : PyM LoadedConfig := do
  let settings ← settingsOf rt problemDir outputValidator outputValidators defaultTimeLimit
    defaultMemoryMib raw
  let validatorFlags ← flags
  let name ← (nameValue problemDir raw).toStr rt
  return settings.config name validatorFlags

end Load

variable {rt : Runtime} {problemDir : Path} {outputValidator : Bool}
  {outputValidators : Option (List DirEntry)} {defaultTimeLimit : PyFloat}
  {defaultMemoryMib : ℤ}

/-! ## Two mappings -/

/-- The mappings differ at most in `validator_flags`. -/
def EqualButLegacy (raw raw' : Mapping) : Prop :=
  ∀ name, name ≠ py "validator_flags" → raw.get? name = raw'.get? name

/-- The flags are given by `output_validator.args`. -/
def IsArgs (raw : Mapping) (args : Yaml) : Prop :=
  ∃ outputValidator, raw.get? (py "output_validator") = some (.dict outputValidator) ∧
    Mapping.get? outputValidator (py "args") = some args ∧ args ≠ .null

/-- The value of `validator_flags`. -/
def legacyOf (raw : Mapping) : Yaml :=
  (raw.get? (py "validator_flags")).getD .null

/-- The outcome is the same for both mappings: the one with the flags from `args`. -/
structure PrefersArgs (rt : Runtime) (problemDir : Path) (outputValidator : Bool)
    (outputValidators : Option (List DirEntry)) (defaultTimeLimit : PyFloat)
    (defaultMemoryMib : ℤ) (raw raw' : Mapping) (args : Yaml) : Prop where
  same : loadMapping rt problemDir outputValidator outputValidators defaultTimeLimit
      defaultMemoryMib raw =
    loadMapping rt problemDir outputValidator outputValidators defaultTimeLimit
      defaultMemoryMib raw'
  fromArgs : loadMapping rt problemDir outputValidator outputValidators defaultTimeLimit
      defaultMemoryMib raw =
    loadWith rt problemDir outputValidator outputValidators defaultTimeLimit
      defaultMemoryMib raw (flagsOf rt args)

/-- The flags are read: nothing raises before. -/
structure Reached (rt : Runtime) (files : ProblemFiles) (raw : Mapping) : Prop where
  supported : IsSupported rt raw
  limits : ∃ limits, IsLimits raw limits ∧ LimitsConvert rt limits
  clear : ¬Ambiguous files
  mode : IsMode rt raw files

/-- The flags are read, or it is over an integer that is too long that they are not. -/
def ReadOrTooLong (flags : PyM (List PyStr)) : Prop :=
  (∃ found, flags = .ok found) ∨ flags = .error Yaml.intDigitsError

/-- The legacy key makes no difference: it is null, or something raises before, or it
gives what `args` gives, or all that is left to happen is that the name is too long an
integer. -/
def Harmless (rt : Runtime) (problemDir : Path) (files : ProblemFiles) (raw : Mapping)
    (args : Yaml) : Prop :=
  legacyOf raw = .null ∨ ¬Reached rt files raw ∨
    flagsOf rt (legacyOf raw) = flagsOf rt args ∨
      (¬(nameValue problemDir raw).HasText ∧ ReadOrTooLong (flagsOf rt (legacyOf raw)) ∧
        ReadOrTooLong (flagsOf rt args))

/-! ## Loading with given flags -/

theorem loadMapping_eq (raw : Mapping) :
    loadMapping rt problemDir outputValidator outputValidators defaultTimeLimit
        defaultMemoryMib raw =
      loadWith rt problemDir outputValidator outputValidators defaultTimeLimit
        defaultMemoryMib raw (flagsOf rt (flagsSource raw)) := by
  have hread : readDocument problemDir (documentFiles (.dict raw) outputValidator
      outputValidators) = .ok (.dict raw) := rfl
  have htop : topLevel (.dict raw) = .ok raw := rfl
  simp only [loadMapping, loadProblemConfig, hread, htop, ok_bind, loadWith, settingsOf,
    bind_assoc, pure_bind]
  rfl

/-- Nothing but the flags can depend on the legacy key. -/
theorem loadWith_congr {raw raw' : Mapping} (hequal : EqualButLegacy raw raw')
    (flags : PyM (List PyStr)) :
    loadWith rt problemDir outputValidator outputValidators defaultTimeLimit
        defaultMemoryMib raw flags =
      loadWith rt problemDir outputValidator outputValidators defaultTimeLimit
        defaultMemoryMib raw' flags := by
  have hversion := hequal (py "problem_format_version") (by decide)
  have htype := hequal (py "type") (by decide)
  have hlimits := hequal (py "limits") (by decide)
  have hvalidation := hequal (py "validation") (by decide)
  have hname := hequal (py "name") (by decide)
  have hfiles : findValidatorDir problemDir
      (documentFiles (.dict raw) outputValidator outputValidators) =
    findValidatorDir problemDir
      (documentFiles (.dict raw') outputValidator outputValidators) := rfl
  simp only [loadWith, settingsOf, checkType, limitsOf, chooseValidation, validationOf, nameValue,
    hversion, htype, hlimits, hvalidation, hname, hfiles]

theorem settingsOf_returns_iff (raw : Mapping) :
    (∃ settings, settingsOf rt problemDir outputValidator outputValidators defaultTimeLimit
        defaultMemoryMib raw = .ok settings) ↔
      Reached rt (documentFiles (.dict raw) outputValidator outputValidators) raw := by
  generalize hfiles : documentFiles (.dict raw) outputValidator outputValidators = files
  have hdir := findValidatorDir_returnsIff problemDir files
  simp only [settingsOf, bind_eq_ok_iff, hfiles]
  constructor
  · rintro ⟨settings, _, htype, limits, hlimits, timeLimit, htimeLimit, memoryMib, hmemoryMib,
      multiplier, hmultiplier, dir, hfound, mode, hmode, -⟩
    have hconvert : LimitsConvert rt limits :=
      (limitsConvert_iff defaultTimeLimit defaultMemoryMib).2
        ⟨(Yaml.toFloat_returnsIff rt _).returns_iff.1 ⟨_, htimeLimit⟩,
          (Yaml.toInt_returnsIff rt _).returns_iff.1 ⟨_, hmemoryMib⟩,
          (Yaml.toFloat_returnsIff rt _).returns_iff.1 ⟨_, hmultiplier⟩⟩
    exact ⟨checkType_eq_ok_iff.1 htype, ⟨limits, limitsOf_eq_ok_iff.1 hlimits, hconvert⟩,
      hdir.returns_iff.1 ⟨dir, hfound⟩,
      (chooseValidation_returns_iff (isSome_findValidatorDir hfound)).1 ⟨mode, hmode⟩⟩
  · rintro ⟨htype, ⟨limits, hlimits, hconvert⟩, hclear, hmode⟩
    obtain ⟨hlimit, hmemory, hfactor⟩ :=
      (limitsConvert_iff defaultTimeLimit defaultMemoryMib).1 hconvert
    obtain ⟨timeLimit, htimeLimit⟩ := (Yaml.toFloat_returnsIff rt _).returns hlimit
    obtain ⟨memoryMib, hmemoryMib⟩ := (Yaml.toInt_returnsIff rt _).returns hmemory
    obtain ⟨multiplier, hmultiplier⟩ := (Yaml.toFloat_returnsIff rt _).returns hfactor
    obtain ⟨dir, hfound⟩ := hdir.returns hclear
    obtain ⟨mode, hchosen⟩ :=
      (chooseValidation_returns_iff (isSome_findValidatorDir hfound)).2 hmode
    exact ⟨_, (), checkType_eq_ok_iff.2 htype, limits, limitsOf_eq_ok_iff.2 hlimits, timeLimit,
      htimeLimit, memoryMib, hmemoryMib, multiplier, hmultiplier, dir, hfound, mode, hchosen, rfl⟩

/-- Where the name has no text, only the flags can raise something else. -/
theorem bind_error_eq_iff {Value Value' : Type} {action action' : PyM Value} (exc : PyError) :
    ((action >>= fun _ => .error exc : PyM Value') = action' >>= fun _ => .error exc) ↔
      action = action' ∨ (((∃ value, action = .ok value) ∨ action = .error exc) ∧
        ((∃ value, action' = .ok value) ∨ action' = .error exc)) := by
  cases action with
  | error raised =>
      cases action' with
      | error raised' =>
          simp only [error_bind, Except.error.injEq, reduceCtorEq, exists_false, false_or]
          exact ⟨.inl, fun hequal => hequal.elim id fun hboth => hboth.1.trans hboth.2.symm⟩
      | ok value => simp [error_bind, ok_bind]
  | ok value =>
      cases action' with
      | error raised' => simp [error_bind, ok_bind, eq_comm]
      | ok value' => simp [ok_bind]

/-- Two outcomes are the same when the flags are not reached, or are the same, or the
name is too long anyway. -/
theorem loadWith_eq_iff {raw : Mapping} {flags flags' : PyM (List PyStr)} :
    loadWith rt problemDir outputValidator outputValidators defaultTimeLimit
        defaultMemoryMib raw flags =
      loadWith rt problemDir outputValidator outputValidators defaultTimeLimit
        defaultMemoryMib raw flags' ↔
      ¬Reached rt (documentFiles (.dict raw) outputValidator outputValidators) raw ∨
        flags = flags' ∨
          (¬(nameValue problemDir raw).HasText ∧ ReadOrTooLong flags ∧ ReadOrTooLong flags') := by
  have hreached : (∃ settings, settingsOf rt problemDir outputValidator outputValidators
      defaultTimeLimit defaultMemoryMib raw = .ok settings) ↔
    Reached rt (documentFiles (.dict raw) outputValidator outputValidators) raw :=
      settingsOf_returns_iff raw
  rw [← hreached, loadWith, loadWith]
  cases hsettings : settingsOf rt problemDir outputValidator outputValidators defaultTimeLimit
      defaultMemoryMib raw with
  | error exc => simp [error_bind]
  | ok settings =>
      have htext := Yaml.toStr_returnsIff rt (nameValue problemDir raw)
      simp only [ok_bind, Except.ok.injEq, exists_eq', not_true, false_or]
      by_cases hname : (nameValue problemDir raw).HasText
      · obtain ⟨name, hname'⟩ := htext.returns hname
        simp only [hname', ok_bind, hname, not_true, false_and, or_false]
        have hmap : ∀ flags : PyM (List PyStr),
            (flags >>= fun found => pure (settings.config name found)).map
              LoadedConfig.validatorFlags = flags := by
          intro flags
          cases flags <;> rfl
        refine ⟨fun hequal => ?_, fun hequal => by rw [hequal]⟩
        have hflags := congrArg (Except.map LoadedConfig.validatorFlags) hequal
        rwa [hmap, hmap] at hflags
      · obtain ⟨exc, hname', rfl⟩ := htext.raises hname
        simp only [hname', error_bind, hname, not_false_iff, true_and, ReadOrTooLong]
        exact bind_error_eq_iff Yaml.intDigitsError

/-! ## Precedence -/

theorem flagsSource_of_null {raw : Mapping} {args : Yaml} (hargs : IsArgs raw args)
    (hnull : legacyOf raw = .null) : flagsSource raw = args := by
  obtain ⟨outputValidator, hgiven, hvalue, -⟩ := hargs
  refine flagsSource_of (.args (fun value hlegacy => ?_) hgiven hvalue)
  rwa [legacyOf, Option.mem_def.1 hlegacy, Option.getD_some] at hnull

theorem flagsSource_of_ne_null {raw : Mapping} (hne : legacyOf raw ≠ .null) :
    flagsSource raw = legacyOf raw := by
  rw [flagsSource, ← legacyOf]
  cases hlegacy : legacyOf raw with
  | null => exact absurd hlegacy hne
  | _ => rfl

/-- The outcome is the one with the flags from `args` exactly when the legacy key makes
no difference. -/
theorem loadMapping_eq_loadWith_iff {raw : Mapping} {args : Yaml} (hargs : IsArgs raw args) :
    loadMapping rt problemDir outputValidator outputValidators defaultTimeLimit
        defaultMemoryMib raw =
      loadWith rt problemDir outputValidator outputValidators defaultTimeLimit
        defaultMemoryMib raw (flagsOf rt args) ↔
      Harmless rt problemDir (documentFiles (.dict raw) outputValidator outputValidators) raw
        args := by
  rw [loadMapping_eq, Harmless]
  by_cases hnull : legacyOf raw = .null
  · rw [flagsSource_of_null hargs hnull]
    exact ⟨fun _ => .inl hnull, fun _ => rfl⟩
  · rw [flagsSource_of_ne_null hnull, loadWith_eq_iff, or_iff_right hnull]

theorem isArgs_of_equal {raw raw' : Mapping} {args : Yaml} (hequal : EqualButLegacy raw raw')
    (hargs : IsArgs raw args) : IsArgs raw' args := by
  obtain ⟨outputValidator, hgiven, hvalue⟩ := hargs
  exact ⟨outputValidator, (hequal _ (by decide)).symm.trans hgiven, hvalue⟩

/-- Of two mappings that differ in the legacy key alone, both get the flags of
`output_validator.args` exactly when it makes no difference in either. -/
theorem loadProblemConfig_precedence_iff (rt : Runtime) (problemDir : Path)
    (outputValidator : Bool) (outputValidators : Option (List DirEntry))
    (defaultTimeLimit : PyFloat) (defaultMemoryMib : ℤ) {raw raw' : Mapping} {args : Yaml}
    (hequal : EqualButLegacy raw raw') (hargs : IsArgs raw args) :
    PrefersArgs rt problemDir outputValidator outputValidators defaultTimeLimit defaultMemoryMib
        raw raw' args ↔
      Harmless rt problemDir (documentFiles (.dict raw) outputValidator outputValidators) raw
          args ∧
        Harmless rt problemDir (documentFiles (.dict raw') outputValidator outputValidators) raw'
          args := by
  rw [← loadMapping_eq_loadWith_iff hargs,
    ← loadMapping_eq_loadWith_iff (isArgs_of_equal hequal hargs), ← loadWith_congr hequal]
  constructor
  · rintro ⟨hsame, hfrom⟩
    exact ⟨hfrom, hsame ▸ hfrom⟩
  · rintro ⟨hfrom, hfrom'⟩
    exact ⟨hfrom.trans hfrom'.symm, hfrom⟩

/-- A mapping with `output_validator.args`, and the given legacy entries. -/
def withArgs (legacy : Mapping) : Mapping :=
  legacy ++ [(.str (py "output_validator"),
    .dict [(.str (py "args"), .str (py "float_tolerance 1e-6"))])]

theorem withArgs_equal (legacy : Yaml) :
    EqualButLegacy (withArgs [(.str (py "validator_flags"), legacy)]) (withArgs []) := by
  intro name hname
  have hkey : (Yaml.str (py "validator_flags")).isKey name = false :=
    decide_eq_false hname.symm
  rw [Mapping.get?, withArgs, List.cons_append, List.find?_cons, hkey]
  rfl

theorem withArgs_isArgs (legacy : Yaml) :
    IsArgs (withArgs [(.str (py "validator_flags"), legacy)])
      (.str (py "float_tolerance 1e-6")) := by
  refine ⟨[(.str (py "args"), .str (py "float_tolerance 1e-6"))], rfl, rfl, ?_⟩
  intro hnull
  cases hnull

/-- A null legacy key makes no difference to an absent one. -/
theorem loadProblemConfig_precedence_null :
    PrefersArgs Runtime.ascii [py "problem"] false none (.finite 1) 2048
      (withArgs [(.str (py "validator_flags"), .null)]) (withArgs [])
      (.str (py "float_tolerance 1e-6")) :=
  (loadProblemConfig_precedence_iff Runtime.ascii [py "problem"] false none (.finite 1) 2048
    (withArgs_equal .null) (withArgs_isArgs .null)).2 ⟨.inl rfl, .inl rfl⟩

/-- With both keys given, the flags are those of the legacy one. -/
theorem loadProblemConfig_legacy_first :
    EqualButLegacy (withArgs [(.str (py "validator_flags"), .str (py "case_sensitive"))])
        (withArgs []) ∧
      IsArgs (withArgs [(.str (py "validator_flags"), .str (py "case_sensitive"))])
        (.str (py "float_tolerance 1e-6")) ∧
      (loadMapping Runtime.ascii [py "problem"] false none (.finite 1) 2048
        (withArgs [(.str (py "validator_flags"), .str (py "case_sensitive"))])).map
          LoadedConfig.validatorFlags = .ok [py "case_sensitive"] ∧
      (loadMapping Runtime.ascii [py "problem"] false none (.finite 1) 2048
        (withArgs [])).map LoadedConfig.validatorFlags =
          .ok [py "float_tolerance", py "1e-6"] ∧
      ¬PrefersArgs Runtime.ascii [py "problem"] false none (.finite 1) 2048
        (withArgs [(.str (py "validator_flags"), .str (py "case_sensitive"))]) (withArgs [])
        (.str (py "float_tolerance 1e-6")) := by
  have hlegacy : (loadMapping Runtime.ascii [py "problem"] false none (.finite 1) 2048
      (withArgs [(.str (py "validator_flags"), .str (py "case_sensitive"))])).map
        LoadedConfig.validatorFlags = .ok [py "case_sensitive"] := by decide +kernel
  have hargs : (loadMapping Runtime.ascii [py "problem"] false none (.finite 1) 2048
      (withArgs [])).map LoadedConfig.validatorFlags =
        .ok [py "float_tolerance", py "1e-6"] := by decide +kernel
  refine ⟨withArgs_equal _, withArgs_isArgs _, hlegacy, hargs, fun hprefers => ?_⟩
  rw [hprefers.same, hargs] at hlegacy
  revert hlegacy
  decide

end IcpcVerify.Problemcfg
