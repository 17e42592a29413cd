import IcpcVerify.Python.Encoding
import IcpcVerify.Solutions.Units
import IcpcVerify.Validators.Build

/-!
# Texts of a described unit

The texts of a solution, of a warning and of a validator that cannot be built are made
of literals and file names.
-/

namespace IcpcVerify.Solutions

open IcpcVerify.Python
open IcpcVerify.FallibleRun

/-- No component of the path holds a surrogate. -/
def PathSurrogateFree (path : Path) : Prop :=
  ∀ part ∈ path, SurrogateFree part

/-- The texts of a solution that may reach its result. -/
structure SolutionSurrogateFree (solution : Solution) : Prop where
  name : SurrogateFree solution.name
  relPath : SurrogateFree solution.relPath
  expected : SurrogateFree solution.expected
  error : ∀ message ∈ solution.error, SurrogateFree message

@[simp]
theorem pathSurrogateFree_append (path path' : Path) :
    PathSurrogateFree (path ++ path') ↔ PathSurrogateFree path ∧ PathSurrogateFree path' :=
  List.forall_mem_append

@[simp]
theorem pathSurrogateFree_cons (part : PyStr) (path : Path) :
    PathSurrogateFree (part :: path) ↔ SurrogateFree part ∧ PathSurrogateFree path :=
  List.forall_mem_cons

@[simp]
theorem pathSurrogateFree_nil : PathSurrogateFree [] :=
  nofun

theorem surrogateFree_asPosix {parts : List PyStr} (hparts : PathSurrogateFree parts) :
    SurrogateFree (asPosix parts) :=
  (surrogateFree_py "/").intercalate hparts

theorem surrogateFree_strPath {path : Path} (hpath : PathSurrogateFree path) :
    SurrogateFree (strPath path) := by
  simp [strPath, surrogateFree_asPosix hpath]

theorem surrogateFree_getLastD {path : Path} (hpath : PathSurrogateFree path) :
    SurrogateFree (path.getLastD []) := by
  rw [List.getLastD_eq_getLast?]
  cases hlast : path.getLast? with
  | none => exact surrogateFree_nil
  | some part => exact hpath part (List.mem_of_getLast? hlast)

theorem not_isSurrogate_of_isSafe {c : CodePoint} (hsafe : isSafe c = true) : ¬IsSurrogate c := by
  have hletters : (ord 'Z').val = 0x5A ∧ (ord 'z').val = 0x7A ∧ (ord '9').val = 0x39 := by
    decide
  have hsmall : c.val ≤ 0x7A := by
    simp only [isSafe, Bool.or_eq_true, decide_eq_true_eq, Fin.le_def] at hsafe
    rcases hsafe with ((((hupper | hlower) | hdigit) | rfl) | rfl) | rfl
    · omega
    · omega
    · omega
    · decide
    · decide
    · decide
  rw [IsSurrogate]
  omega

/-- A sanitised name is plain ASCII. -/
theorem surrogateFree_sanitizeName (relPath : PyStr) : SurrogateFree (sanitizeName relPath) := by
  intro c hc
  obtain ⟨c', -, rfl⟩ := List.mem_map.1 hc
  split_ifs with hsafe
  · exact not_isSurrogate_of_isSafe hsafe
  · exact not_isSurrogate_ord '_'

theorem surrogateFree_languageValue (language : Language) : SurrogateFree language.value := by
  cases language <;> exact surrogateFree_py _

theorem surrogateFree_mixedLanguagesError (languages : List Language) :
    SurrogateFree (mixedLanguagesError languages) := by
  have hvalues : SurrogateFree (List.intercalate (py ", ")
      ((languages.map Language.value).insertionSort (· ≤ ·))) := by
    apply (surrogateFree_py ", ").intercalate
    intro value hvalue
    rw [List.mem_insertionSort, List.mem_map] at hvalue
    obtain ⟨language, -, rfl⟩ := hvalue
    exact surrogateFree_languageValue language
  simp [mixedLanguagesError, hvalues]

variable {rt : Runtime}

theorem surrogateFree_javaEntry {sources : List Source} {entry : PyStr × Option PyStr}
    (hnames : ∀ source ∈ sources, SurrogateFree source.name)
    (hentry : javaEntry rt sources = .ok entry) :
    ∀ message ∈ entry.2, SurrogateFree message := by
  obtain ⟨mains, hmains, hentry⟩ := bind_eq_ok_iff.1 hentry
  split at hentry
  · rw [← Except.ok.inj hentry]
    rintro _ ⟨⟩
    exact surrogateFree_py _
  · rw [← Except.ok.inj hentry]
    rintro _ ⟨⟩
  · rw [← Except.ok.inj hentry]
    rintro _ ⟨⟩
    have hlisted : SurrogateFree (List.intercalate (py ", ") (mains.map Source.name)) := by
      apply (surrogateFree_py ", ").intercalate
      intro name hname
      obtain ⟨main, hmain, rfl⟩ := List.mem_map.1 hname
      exact hnames main (mem_of_mem_filterM hmains hmain)
    simp [hlisted]

theorem surrogateFree_pythonEntry (sources : List Source) (root : Path) :
    ∀ message ∈ (pythonEntry sources root).2, SurrogateFree message := by
  rw [pythonEntry.eq_def]
  split
  · rintro _ ⟨⟩
  · split
    · rintro _ ⟨⟩
    · rintro _ ⟨⟩
      exact surrogateFree_py _

theorem surrogateFree_entryOf {language : Option Language} {sources : List Source}
    {sourceRoot : Path} {entry : PyStr × Option PyStr}
    (hnames : ∀ source ∈ sources, SurrogateFree source.name)
    (hentry : entryOf rt language sources sourceRoot = .ok entry) :
    ∀ message ∈ entry.2, SurrogateFree message := by
  rw [entryOf.eq_def] at hentry
  split at hentry
  · exact surrogateFree_javaEntry hnames hentry
  · rw [← Except.ok.inj hentry]
    exact surrogateFree_pythonEntry sources sourceRoot
  · rw [← Except.ok.inj hentry]
    rintro _ ⟨⟩

/-- The file names of a unit hold no surrogates. -/
def UnitEntry.NamesSurrogateFree (unit : UnitEntry) : Prop :=
  ∀ below ∈ unit.below, ∀ file ∈ below, PathSurrogateFree file.parts

theorem surrogateFree_unitSources {root : Path} {relParts : List PyStr} {unit : UnitEntry}
    (hpath : PathSurrogateFree (root ++ relParts)) (hunit : unit.NamesSurrogateFree) :
    ∀ source ∈ unitSources root relParts unit, SurrogateFree source.name := by
  intro source hsource
  apply surrogateFree_getLastD
  rw [unitSources.eq_def] at hsource
  split at hsource
  · next below hbelow =>
    obtain ⟨file, hfile, -, rfl⟩ := mem_sourcesBelow.1 hsource
    exact (pathSurrogateFree_append _ _).2 ⟨hpath, hunit below hbelow file hfile⟩
  · rwa [List.mem_singleton.1 hsource]

theorem surrogateFree_describeUnit {root : Path} {relParts : List PyStr} {unit : UnitEntry}
    {expected : PyStr} (hpath : PathSurrogateFree (root ++ relParts))
    (hunit : unit.NamesSurrogateFree) (hexpected : SurrogateFree expected)
    {solution : Solution}
    (hdescribed : describeUnit rt root relParts unit expected = .ok (.ok solution)) :
    SolutionSurrogateFree solution := by
  have hrelPath : SurrogateFree (asPosix relParts) :=
    surrogateFree_asPosix ((pathSurrogateFree_append _ _).1 hpath).2
  obtain ⟨-, hsources⟩ := describeUnit_eq_ok_iff.1 hdescribed
  rcases describeSources_eq_ok_iff.1 hsources with ⟨-, rfl⟩ | ⟨-, entry, hentry, rfl⟩
  · refine ⟨surrogateFree_sanitizeName _, hrelPath, hexpected, ?_⟩
    rintro _ ⟨⟩
    exact surrogateFree_mixedLanguagesError _
  · exact ⟨surrogateFree_sanitizeName _, hrelPath, hexpected,
      surrogateFree_entryOf (surrogateFree_unitSources hpath hunit) hentry⟩

theorem surrogateFree_unitWarning {root : Path} {relParts : List PyStr} {unit : UnitEntry}
    {expected : PyStr} (hpath : PathSurrogateFree relParts) {warning : PyStr}
    (hdescribed : describeUnit rt root relParts unit expected = .ok (.error warning)) :
    SurrogateFree warning := by
  have hrelPath := surrogateFree_asPosix hpath
  cases hsource : unit.hasSource with
  | true =>
      rw [describeUnit_of_source hsource, map_eq_ok_iff] at hdescribed
      obtain ⟨solution, -, hsolution⟩ := hdescribed
      cases hsolution
  | false =>
      rw [describeUnit] at hdescribed
      split at hdescribed
      · next below hbelow =>
        simp only [UnitEntry.hasSource, hbelow] at hsource
        simp only [isEmpty_sourcesBelow, hsource, Bool.not_false, if_true] at hdescribed
        rw [← Except.error.inj (Except.ok.inj hdescribed)]
        simp [hrelPath]
      · next hbelow =>
        simp only [UnitEntry.hasSource, hbelow, Option.isSome_eq_false_iff,
          Option.isNone_iff_eq_none] at hsource
        rw [if_pos hsource] at hdescribed
        rw [← Except.error.inj (Except.ok.inj hdescribed)]
        simp [hrelPath]

/-- The names of a verdict directory and of the units in it hold no surrogates. -/
def VerdictEntry.NamesSurrogateFree (child : VerdictEntry) : Prop :=
  SurrogateFree child.name ∧
    ∀ unit ∈ child.units.getD [], SurrogateFree unit.name ∧ unit.NamesSurrogateFree

theorem surrogateFree_discoverSolutions {problemDir : Path}
    (hproblemDir : PathSurrogateFree problemDir) {children : Option (List VerdictEntry)}
    (hnames : ∀ child ∈ children.getD [], child.NamesSurrogateFree) {filterGlob : PyStr}
    {found : List Solution} {warnings : List PyStr}
    (hdiscovered : discoverSolutions rt problemDir children filterGlob =
      .ok (found, warnings)) : ∀ solution ∈ found, SolutionSurrogateFree solution := by
  apply discoverSolutions_forall SolutionSurrogateFree _ hdiscovered
  intro child hchild _ unit hunit solution hdescribed
  obtain ⟨hchildName, hunits⟩ := hnames child hchild
  obtain ⟨hunitName, hbelow⟩ := hunits unit hunit
  have hpath : PathSurrogateFree
      (problemDir ++ [py "solutions"] ++ [child.name, unit.name]) := by
    simp [hproblemDir, hchildName, hunitName]
  exact surrogateFree_describeUnit hpath hbelow hchildName hdescribed

end IcpcVerify.Solutions

namespace IcpcVerify.Validators

open IcpcVerify.Python
open IcpcVerify.Solutions
open IcpcVerify.FallibleRun

variable {rt : Runtime}

/-- The text of a `ValidatorError`, or the solution of a plan. -/
def PlannedSurrogateFree : Except PyStr BuildPlan → Prop
  | .error exc => SurrogateFree exc
  | .ok plan => ∀ solution, plan.solution = some solution → SolutionSurrogateFree solution

theorem surrogateFree_planValidatorBuild {validatorDir : Path}
    (hdir : PathSurrogateFree validatorDir) {below : Option (List FileBelow)}
    (hbelow : ∀ entries ∈ below, ∀ file ∈ entries, PathSurrogateFree file.parts)
    {planned : Except PyStr BuildPlan}
    (hplan : planValidatorBuild rt validatorDir below = .ok planned) :
    PlannedSurrogateFree planned := by
  have hname : PathSurrogateFree [validatorDir.getLastD []] :=
    (pathSurrogateFree_cons _ _).2 ⟨surrogateFree_getLastD hdir, pathSurrogateFree_nil⟩
  have hparent : PathSurrogateFree validatorDir.dropLast :=
    fun part hpart => hdir part (List.mem_of_mem_dropLast hpart)
  have hpath := (pathSurrogateFree_append _ _).2 ⟨hparent, hname⟩
  cases below with
  | none =>
      rw [← Except.ok.inj hplan]
      simp [PlannedSurrogateFree, surrogateFree_strPath hdir]
  | some entries =>
      have hunit : (validatorUnit validatorDir entries).NamesSurrogateFree := by
        rintro _ ⟨⟩
        exact hbelow entries rfl
      simp only [planValidatorBuild] at hplan
      split_ifs at hplan
      · rw [← Except.ok.inj hplan]
        rintro _ ⟨⟩
      · rw [← Except.ok.inj hplan]
        rintro _ ⟨⟩
      · obtain ⟨described, hdescribed, hrest⟩ := bind_eq_ok_iff.1 hplan
        cases described with
        | error warning =>
            rw [← Except.ok.inj hrest]
            simp [PlannedSurrogateFree, surrogateFree_unitWarning hname hdescribed]
        | ok solution =>
            have hsolution : SolutionSurrogateFree solution :=
              surrogateFree_describeUnit hpath hunit (surrogateFree_py _) hdescribed
            dsimp only at hrest
            split at hrest
            · next c rest herror =>
              have hmessage := hsolution.error (c :: rest) herror
              rw [← Except.ok.inj hrest]
              simpa [PlannedSurrogateFree] using hmessage
            · rw [← Except.ok.inj hrest]
              rintro _ ⟨⟩
              exact hsolution

end IcpcVerify.Validators
