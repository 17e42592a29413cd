import IcpcVerify.Solutions.Paths

/-!
# What a unit is described as

`describe_unit` said by its result: the sources it finds, and the fields of the
solution it makes of them.
-/

namespace IcpcVerify.Solutions

open IcpcVerify.Python
open IcpcVerify.FallibleRun

/-- The file is one that a solution can be compiled from. -/
def FileBelow.Recognised (file : FileBelow) : Prop :=
  file.isFile = true ∧ (languageOf (file.parts.getLastD [])).isSome = true

instance (file : FileBelow) : Decidable file.Recognised :=
  inferInstanceAs (Decidable (_ ∧ _))

theorem parts_ne_nil {file : FileBelow} (hrecognised : file.Recognised) : file.parts ≠ [] := by
  intro hnil
  have hlanguage := hrecognised.2
  rw [hnil] at hlanguage
  revert hlanguage
  decide

theorem sourceName_eq {path : Path} {file : FileBelow} (hrecognised : file.Recognised) :
    (Source.mk (path ++ file.parts) file.content).name = file.parts.getLastD [] := by
  rw [Source.name]
  exact getLastD_append (parts_ne_nil hrecognised)

/-- The unit has at least one recognised source. -/
def UnitEntry.hasSource (unit : UnitEntry) : Bool :=
  match unit.below with
  | some below => below.any fun file => file.Recognised
  | none => (languageOf unit.name).isSome

/-- The sources of a unit, in the order in which `describe_unit` has them. -/
def unitSources (root : Path) (relParts : List PyStr) (unit : UnitEntry) : List Source :=
  match unit.below with
  | some below => sourcesBelow (root ++ relParts) below
  | none => [⟨root ++ relParts, unit.content⟩]

/-- `source_root` of `describe_unit`. -/
def unitSourceRoot (root : Path) (relParts : List PyStr) (unit : UnitEntry) : Path :=
  match unit.below with
  | some _ => root ++ relParts
  | none => root ++ relParts.dropLast

theorem mem_sourcesBelow {path : Path} {below : List FileBelow} {source : Source} :
    source ∈ sourcesBelow path below ↔
      ∃ file ∈ below, file.Recognised ∧ source = ⟨path ++ file.parts, file.content⟩ := by
  rw [sourcesBelow, List.mem_insertionSort, List.mem_map]
  constructor
  · rintro ⟨file, hfile, rfl⟩
    obtain ⟨hbelow, hrecognised⟩ := List.mem_filter.1 hfile
    exact ⟨file, hbelow, of_decide_eq_true hrecognised, rfl⟩
  · rintro ⟨file, hbelow, hrecognised, rfl⟩
    exact ⟨file, List.mem_filter.2 ⟨hbelow, decide_eq_true hrecognised⟩, rfl⟩

theorem isEmpty_sourcesBelow (path : Path) (below : List FileBelow) :
    (sourcesBelow path below).isEmpty = !below.any fun file => file.Recognised := by
  rw [Bool.eq_iff_iff, List.isEmpty_iff, List.eq_nil_iff_forall_not_mem, Bool.not_eq_true',
    List.any_eq_false]
  constructor
  · intro hnone file hfile hrecognised
    exact hnone _ (mem_sourcesBelow.2 ⟨file, hfile, of_decide_eq_true hrecognised, rfl⟩)
  · intro hnone source hsource
    obtain ⟨file, hfile, hrecognised, -⟩ := mem_sourcesBelow.1 hsource
    exact hnone file hfile (decide_eq_true hrecognised)

variable {rt : Runtime}

/-- A unit without a source is skipped with a warning. -/
theorem describeUnit_of_no_source {root : Path} {relParts : List PyStr} {unit : UnitEntry}
    (hsource : unit.hasSource = false) (expected : PyStr) :
    ∃ warning, describeUnit rt root relParts unit expected = .ok (.error warning) := by
  cases hbelow : unit.below with
  | some below =>
      simp only [UnitEntry.hasSource, hbelow] at hsource
      simp only [describeUnit, hbelow, isEmpty_sourcesBelow, hsource]
      exact ⟨_, rfl⟩
  | none =>
      simp only [UnitEntry.hasSource, hbelow, Option.isSome_eq_false_iff,
        Option.isNone_iff_eq_none] at hsource
      simp only [describeUnit, hbelow, hsource]
      exact ⟨_, rfl⟩

/-- A unit with a source becomes a solution, unless reading it raises. -/
theorem describeUnit_of_source {root : Path} {relParts : List PyStr} {unit : UnitEntry}
    (hsource : unit.hasSource = true) (expected : PyStr) :
    describeUnit rt root relParts unit expected =
      (describeSources rt (root ++ relParts) (asPosix relParts) expected
        (unitSources root relParts unit) (unitSourceRoot root relParts unit)).map .ok := by
  cases hbelow : unit.below with
  | some below =>
      simp only [UnitEntry.hasSource, hbelow] at hsource
      simp only [describeUnit, unitSources, unitSourceRoot, hbelow, isEmpty_sourcesBelow,
        hsource]
      rfl
  | none =>
      simp only [UnitEntry.hasSource, hbelow, Option.isSome_iff_ne_none] at hsource
      simp only [describeUnit, unitSources, unitSourceRoot, hbelow, if_neg hsource]
      rfl

/-- A unit is described as a solution exactly when it has a source and its sources are. -/
theorem describeUnit_eq_ok_iff {root : Path} {relParts : List PyStr} {unit : UnitEntry}
    {expected : PyStr} {solution : Solution} :
    describeUnit rt root relParts unit expected = .ok (.ok solution) ↔
      unit.hasSource = true ∧
        describeSources rt (root ++ relParts) (asPosix relParts) expected
            (unitSources root relParts unit) (unitSourceRoot root relParts unit) =
          .ok solution := by
  cases hsource : unit.hasSource with
  | false =>
      obtain ⟨warning, hwarning⟩ : ∃ warning, describeUnit rt root relParts unit expected =
          .ok (.error warning) := describeUnit_of_no_source hsource expected
      simp [hwarning]
  | true => simp [describeUnit_of_source hsource, map_eq_ok_iff]

/-- The fields of a solution: in one language with the entry of that language, or in
several and with an error. -/
theorem describeSources_eq_ok_iff {path : Path} {relPath expected : PyStr}
    {sources : List Source} {sourceRoot : Path} {solution : Solution} :
    describeSources rt path relPath expected sources sourceRoot = .ok solution ↔
      ((languagesOf sources).length > 1 ∧
          solution = ⟨sanitizeName relPath, relPath, path, expected, none,
            sources.map Source.path, [], some (mixedLanguagesError (languagesOf sources))⟩) ∨
        ((languagesOf sources).length ≤ 1 ∧ ∃ entry,
          entryOf rt (languagesOf sources).head? sources sourceRoot = .ok entry ∧
            solution = ⟨sanitizeName relPath, relPath, path, expected,
              (languagesOf sources).head?, sources.map Source.path, entry.1, entry.2⟩) := by
  rw [describeSources]
  split_ifs with hmixed
  · simp [hmixed, pure, Except.pure, eq_comm]
  · simp only [hmixed, false_and, false_or, not_lt.1 hmixed, true_and, bind_eq_ok_iff, pure,
      Except.pure, Except.ok.injEq]
    simp only [eq_comm]

theorem describeSources_name {path : Path} {relPath expected : PyStr} {sources : List Source}
    {sourceRoot : Path} {solution : Solution}
    (hdescribed : describeSources rt path relPath expected sources sourceRoot =
      .ok solution) : solution.name = sanitizeName relPath ∧ solution.relPath = relPath := by
  rcases describeSources_eq_ok_iff.1 hdescribed with ⟨-, rfl⟩ | ⟨-, entry, -, rfl⟩ <;>
    exact ⟨rfl, rfl⟩

theorem javaEntry_raises {sources : List Source} {exc : PyError}
    (hraised : javaEntry rt sources = .error exc) :
    ∃ source ∈ sources, source.content = .error exc := by
  rcases bind_eq_error_iff.1 hraised with hmains | ⟨mains, -, hentry⟩
  · obtain ⟨source, hsource, hread⟩ := exists_of_filterM_eq_error hmains
    rcases bind_eq_error_iff.1 hread with hcontent | ⟨content, -, hreturned⟩
    · exact ⟨source, hsource, hcontent⟩
    · cases hreturned
  · split at hentry <;> cases hentry

/-- Describing a unit raises only where reading one of its sources does. -/
theorem describeUnit_raises {root : Path} {relParts : List PyStr} {unit : UnitEntry}
    {expected : PyStr} {exc : PyError}
    (hraised : describeUnit rt root relParts unit expected = .error exc) :
    ∃ source ∈ unitSources root relParts unit, source.content = .error exc := by
  cases hsource : unit.hasSource with
  | false =>
      obtain ⟨warning, hwarning⟩ : ∃ warning, describeUnit rt root relParts unit expected =
          .ok (.error warning) := describeUnit_of_no_source hsource expected
      rw [hwarning] at hraised
      cases hraised
  | true =>
      rw [describeUnit_of_source hsource, map_eq_error_iff, describeSources] at hraised
      split_ifs at hraised
      · cases hraised
      · rcases bind_eq_error_iff.1 hraised with hentry | ⟨entry, -, hreturned⟩
        · rw [entryOf.eq_def] at hentry
          split at hentry
          · exact javaEntry_raises hentry
          · cases hentry
          · cases hentry
        · cases hreturned

theorem languagesOf_ne_nil {sources : List Source} {source : Source} (hsource : source ∈ sources)
    (hlanguage : (languageOf source.name).isSome = true) : languagesOf sources ≠ [] := by
  obtain ⟨language, hlanguage⟩ := Option.isSome_iff_exists.1 hlanguage
  apply List.ne_nil_of_mem (a := language)
  exact List.mem_dedup.2 (List.mem_filterMap.2 ⟨source, hsource, hlanguage⟩)

/-- The path ends in the name of the unit. -/
def UnitEntry.NamedBy (unit : UnitEntry) (path : Path) : Prop :=
  path.getLastD [] = unit.name

/-- Every source of a unit is in a known language, if the unit has a source at all. -/
theorem unitSources_known {root : Path} {relParts : List PyStr} {unit : UnitEntry}
    (hname : unit.below = none → unit.NamedBy (root ++ relParts))
    (hsource : unit.hasSource = true) :
    ∀ source ∈ unitSources root relParts unit, (languageOf source.name).isSome = true := by
  intro source hmem
  cases hbelow : unit.below with
  | some below =>
      simp only [unitSources, hbelow] at hmem
      obtain ⟨file, -, hrecognised, rfl⟩ := mem_sourcesBelow.1 hmem
      rw [sourceName_eq hrecognised]
      exact hrecognised.2
  | none =>
      simp only [UnitEntry.hasSource, hbelow] at hsource
      simp only [unitSources, hbelow, List.mem_singleton] at hmem
      rw [hmem, Source.name, hname hbelow]
      exact hsource

theorem unitSources_ne_nil {root : Path} {relParts : List PyStr} {unit : UnitEntry}
    (hsource : unit.hasSource = true) : unitSources root relParts unit ≠ [] := by
  cases hbelow : unit.below with
  | some below =>
      simp only [UnitEntry.hasSource, hbelow] at hsource
      have hempty := isEmpty_sourcesBelow (root ++ relParts) below
      rw [hsource] at hempty
      simp only [unitSources, hbelow]
      exact List.isEmpty_eq_false_iff.1 hempty
  | none => simp [unitSources, hbelow]

/-- A described unit has a language or an error. -/
theorem describeUnit_compilable {root : Path} {relParts : List PyStr} {unit : UnitEntry}
    {expected : PyStr} {solution : Solution}
    (hname : unit.below = none → unit.NamedBy (root ++ relParts))
    (hdescribed : describeUnit rt root relParts unit expected = .ok (.ok solution)) :
    solution.Compilable := by
  obtain ⟨hsource, hsources⟩ := describeUnit_eq_ok_iff.1 hdescribed
  rcases describeSources_eq_ok_iff.1 hsources with ⟨-, rfl⟩ | ⟨-, entry, -, rfl⟩
  · refine .inl ⟨_, rfl, ?_⟩
    rw [mixedLanguagesError]
    exact List.append_ne_nil_of_left_ne_nil (by decide) _
  · obtain ⟨source, hmem⟩ := List.exists_mem_of_ne_nil _ (unitSources_ne_nil hsource)
    have hlanguage := unitSources_known hname hsource source hmem
    refine .inr ?_
    rw [List.isSome_head?]
    simpa using languagesOf_ne_nil hmem hlanguage

/-- So has every solution that is discovered. -/
theorem discoverSolutions_compilable {problemDir : Path}
    {children : Option (List VerdictEntry)} {filterGlob : PyStr} {found : List Solution}
    {warnings : List PyStr}
    (hdiscovered : discoverSolutions rt problemDir children filterGlob =
      .ok (found, warnings)) : ∀ solution ∈ found, solution.Compilable := by
  apply discoverSolutions_forall Solution.Compilable _ hdiscovered
  intro child _ _ unit _ solution hdescribed
  apply describeUnit_compilable _ hdescribed
  intro _
  simp [UnitEntry.NamedBy]

end IcpcVerify.Solutions
