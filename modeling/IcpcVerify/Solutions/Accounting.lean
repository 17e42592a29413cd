import IcpcVerify.Core.Sorting
import IcpcVerify.Solutions.Names

/-!
# Discovery accounts for every entry

Every entry below `solutions/` comes out as a returned solution, as one that the filter
drops, or as a warning; and the returned solutions and the warnings are nothing but these,
in the order of the entries.
-/

namespace IcpcVerify.Solutions

open IcpcVerify.Python
open IcpcVerify.FallibleRun
open IcpcVerify.Sorting

/-! ## Entries and outcomes -/

/-- A direct child of `solutions/` that is no verdict directory, or a direct entry of one
that is. -/
inductive Entry where
  | child (child : VerdictEntry)
  | unit (verdict : PyStr) (unit : UnitEntry)

/-- The child is a directory named after an expected verdict. -/
def VerdictEntry.IsVerdict (child : VerdictEntry) : Prop :=
  child.units.isSome = true ∧ child.name ∈ expectedVerdicts

instance (child : VerdictEntry) : Decidable child.IsVerdict :=
  inferInstanceAs (Decidable (_ ∧ _))

/-- What is to be accounted for of a child, in the order in which it is met. -/
def entriesOfChild (child : VerdictEntry) : List Entry :=
  if child.IsVerdict then
    ((child.units.getD []).insertionSort fun first second => first.name ≤ second.name).map
      (.unit child.name)
  else [.child child]

/-- What is to be accounted for below `solutions/`. -/
def entriesOf (children : List VerdictEntry) : List Entry :=
  (children.insertionSort fun first second => first.name ≤ second.name).flatMap entriesOfChild

/-- What becomes of an entry. -/
inductive Outcome where
  | found (solution : Solution)
  | filtered (solution : Solution)
  | warned (warning : PyStr)

namespace Outcome

/-- The solution that is returned. -/
def found? : Outcome → Option Solution
  | found solution => some solution
  | _ => none

def warning? : Outcome → Option PyStr
  | warned warning => some warning
  | _ => none

/-- What has been discovered, with the outcome of one more entry. -/
def addTo (discovered : List Solution × List PyStr) (outcome : Outcome) :
    List Solution × List PyStr :=
  (discovered.1 ++ outcome.found?.toList, discovered.2 ++ outcome.warning?.toList)

@[simp]
theorem addTo_found (discovered : List Solution × List PyStr) (solution : Solution) :
    (found solution).addTo discovered = (discovered.1 ++ [solution], discovered.2) := by
  simp [addTo, found?, warning?]

@[simp]
theorem addTo_filtered (discovered : List Solution × List PyStr) (solution : Solution) :
    (filtered solution).addTo discovered = discovered := by
  simp [addTo, found?, warning?]

@[simp]
theorem addTo_warned (discovered : List Solution × List PyStr) (warning : PyStr) :
    (warned warning).addTo discovered = (discovered.1, discovered.2 ++ [warning]) := by
  simp [addTo, found?, warning?]

end Outcome

/-- All sources, of which there are some, are in the language of the solution. -/
def OneLanguage (solution : Solution) : Prop :=
  solution.sources ≠ [] ∧ ∃ language, solution.language = some language ∧
    ∀ source ∈ solution.sources, languageOf (source.getLastD []) = some language

/-- The solution is what the unit of a verdict directory stands for. -/
structure SolutionOf (verdict : PyStr) (unit : UnitEntry) (solution : Solution) : Prop where
  relPath : solution.relPath = unitPath verdict unit.name
  expected : solution.expected = verdict
  language : solution.error.isSome = true ∨ OneLanguage solution

/-- The outcomes that an entry may have; a warning ends with the entry it is about. -/
def Becomes (rt : Runtime) (filterGlob : PyStr) : Entry → Outcome → Prop
  | .child entry, .warned warning => ¬entry.IsVerdict ∧ entry.name <:+ warning
  | .unit verdict unit, .found solution =>
      SolutionOf verdict unit solution ∧
        (filterGlob = [] ∨ rt.fnmatch solution.relPath filterGlob = true)
  | .unit verdict unit, .filtered solution =>
      SolutionOf verdict unit solution ∧ filterGlob ≠ [] ∧
        rt.fnmatch solution.relPath filterGlob = false
  | .unit verdict unit, .warned warning =>
      unit.hasSource = false ∧ unitPath verdict unit.name <:+ warning
  | _, _ => False

variable {rt : Runtime} {filterGlob : PyStr}

/-! ## One unit -/

/-- With at most one language among known sources, it is the language of each. -/
theorem languageOf_eq_head {sources : List Source} (hone : (languagesOf sources).length ≤ 1)
    {source : Source} (hsource : source ∈ sources)
    (hknown : (languageOf source.name).isSome = true) :
    (languagesOf sources).head? = languageOf source.name := by
  obtain ⟨language, hlanguage⟩ := Option.isSome_iff_exists.1 hknown
  have hmem : language ∈ languagesOf sources :=
    List.mem_dedup.2 (List.mem_filterMap.2 ⟨source, hsource, hlanguage⟩)
  rw [hlanguage]
  rcases hlist : languagesOf sources with _ | ⟨head, _ | ⟨next, rest⟩⟩
  · rw [hlist] at hmem
    cases hmem
  · rw [hlist, List.mem_singleton] at hmem
    rw [hmem, List.head?_cons]
  · rw [hlist] at hone
    simp at hone

theorem describeSources_language {path : Path} {relPath expected : PyStr}
    {sources : List Source} {sourceRoot : Path} {solution : Solution} (hne : sources ≠ [])
    (hknown : ∀ source ∈ sources, (languageOf source.name).isSome = true)
    (hdescribed : describeSources rt path relPath expected sources sourceRoot =
      .ok solution) : solution.error.isSome = true ∨ OneLanguage solution := by
  rcases describeSources_eq_ok_iff.1 hdescribed with ⟨-, rfl⟩ | ⟨hone, entry, -, rfl⟩
  · exact .inl rfl
  · right
    obtain ⟨first, hfirst⟩ := List.exists_mem_of_ne_nil sources hne
    obtain ⟨language, hlanguage⟩ := Option.isSome_iff_exists.1 (hknown first hfirst)
    have hhead : (languagesOf sources).head? = some language :=
      (languageOf_eq_head hone hfirst (hknown first hfirst)).trans hlanguage
    refine ⟨by simpa using hne, language, hhead, ?_⟩
    intro source hsource
    obtain ⟨found, hfound, rfl⟩ := List.mem_map.1 hsource
    exact (languageOf_eq_head hone hfound (hknown found hfound)).symm.trans hhead

/-- A unit that is described as a solution is what this solution stands for. -/
theorem describeUnit_solutionOf {root : Path} {verdict : PyStr} {unit : UnitEntry}
    {solution : Solution}
    (hdescribed : describeUnit rt root [verdict, unit.name] unit verdict =
      .ok (.ok solution)) : SolutionOf verdict unit solution := by
  obtain ⟨hsource, hsources⟩ := describeUnit_eq_ok_iff.1 hdescribed
  have hname : unit.below = none → unit.NamedBy (root ++ [verdict, unit.name]) :=
    fun _ => by simp [UnitEntry.NamedBy]
  constructor
  · exact (describeSources_name hsources).2
  · exact describeSources_expected hsources
  · exact describeSources_language (unitSources_ne_nil hsource)
      (unitSources_known hname hsource) hsources

/-- A unit is skipped for want of a source, with a warning that names it. -/
theorem describeUnit_warning {root : Path} {relParts : List PyStr} {unit : UnitEntry}
    {expected warning : PyStr}
    (hdescribed : describeUnit rt root relParts unit expected = .ok (.error warning)) :
    unit.hasSource = false ∧ asPosix relParts <:+ warning := by
  constructor
  · by_contra hsource
    rw [describeUnit_of_source (by simpa using hsource), map_eq_ok_iff] at hdescribed
    obtain ⟨solution, -, hsolution⟩ := hdescribed
    cases hsolution
  · rw [describeUnit] at hdescribed
    split at hdescribed
    · dsimp only at hdescribed
      split_ifs at hdescribed
      · rw [← Except.error.inj (Except.ok.inj hdescribed)]
        exact List.suffix_append _ _
      · obtain ⟨solution, -, hsolution⟩ := bind_eq_ok_iff.1 hdescribed
        cases hsolution
    · split_ifs at hdescribed
      · rw [← Except.error.inj (Except.ok.inj hdescribed)]
        exact List.suffix_append _ _
      · obtain ⟨solution, -, hsolution⟩ := bind_eq_ok_iff.1 hdescribed
        cases hsolution

/-! ## The loops -/

theorem discoverUnit_becomes {root : Path} {verdict : PyStr}
    {discovered discovered' : List Solution × List PyStr} {unit : UnitEntry}
    (hround : discoverUnit rt root filterGlob verdict discovered unit = .ok discovered') :
    ∃ outcome, Becomes rt filterGlob (.unit verdict unit) outcome ∧
      discovered' = outcome.addTo discovered := by
  obtain ⟨described, hdescribed, hrest⟩ := bind_eq_ok_iff.1 hround
  cases described with
  | error warning =>
      refine ⟨.warned warning, describeUnit_warning hdescribed, ?_⟩
      rw [← Except.ok.inj hrest, Outcome.addTo_warned]
  | ok solution =>
      have hsolution := describeUnit_solutionOf hdescribed
      dsimp only at hrest
      split_ifs at hrest with hfilter
      · refine ⟨.filtered solution, ⟨hsolution, hfilter.1, by simpa using hfilter.2⟩, ?_⟩
        rw [← Except.ok.inj hrest, Outcome.addTo_filtered]
      · refine ⟨.found solution, ⟨hsolution, ?_⟩, ?_⟩
        · simpa [imp_iff_not_or] using hfilter
        · rw [← Except.ok.inj hrest, Outcome.addTo_found]

theorem discoverChild_becomes {root : Path} {discovered discovered' : List Solution × List PyStr}
    {child : VerdictEntry}
    (hround : discoverChild rt root filterGlob discovered child = .ok discovered') :
    ∃ outcomes, List.Forall₂ (Becomes rt filterGlob) (entriesOfChild child) outcomes ∧
      discovered' = outcomes.foldl (fun discovered outcome => outcome.addTo discovered)
        discovered := by
  rw [discoverChild] at hround
  by_cases hverdict : child.IsVerdict
  · obtain ⟨hunits, hname⟩ := hverdict
    obtain ⟨units, hunits⟩ := Option.isSome_iff_exists.1 hunits
    simp only [hunits, hname, not_true, if_false] at hround
    have hrounds : ∀ unit ∈ units.insertionSort fun first second => first.name ≤ second.name,
        ∀ discovered discovered', discoverUnit rt root filterGlob child.name discovered unit =
            .ok discovered' →
          ∃ outcome, Becomes rt filterGlob (.unit child.name unit) outcome ∧
            discovered' = outcome.addTo discovered :=
      fun unit _ discovered discovered' hunit => discoverUnit_becomes hunit
    obtain ⟨outcomes, hbecomes, hdiscovered⟩ := foldlM_records hrounds hround
    refine ⟨outcomes, ?_, hdiscovered⟩
    rw [entriesOfChild, if_pos ⟨by rw [hunits]; rfl, hname⟩, hunits, Option.getD_some]
    exact List.forall₂_map_left_iff.2 hbecomes
  · obtain ⟨warning, hnamed, hwarned⟩ : ∃ warning, child.name <:+ warning ∧
        discovered' = (discovered.1, discovered.2 ++ [warning]) := by
      split at hround
      · exact ⟨_, List.suffix_append _ _, (Except.ok.inj hround).symm⟩
      · next units hunits =>
        rw [if_pos] at hround
        · exact ⟨_, List.suffix_append _ _, (Except.ok.inj hround).symm⟩
        · exact fun hname => hverdict ⟨by rw [hunits]; rfl, hname⟩
    refine ⟨[.warned warning], ?_, ?_⟩
    · rw [entriesOfChild, if_neg hverdict]
      exact .cons ⟨hverdict, hnamed⟩ .nil
    · rw [hwarned, List.foldl_cons, List.foldl_nil, Outcome.addTo_warned]

theorem foldl_addTo (outcomes : List Outcome) (discovered : List Solution × List PyStr) :
    outcomes.foldl (fun discovered outcome => outcome.addTo discovered) discovered =
      (discovered.1 ++ outcomes.filterMap Outcome.found?,
        discovered.2 ++ outcomes.filterMap Outcome.warning?) := by
  induction outcomes generalizing discovered with
  | nil => simp
  | cons outcome outcomes ih =>
      rw [List.foldl_cons, ih]
      cases outcome <;> simp [Outcome.found?, Outcome.warning?, List.filterMap_cons]

/-- The returned solutions and the warnings are those of the outcomes. -/
theorem discoverSolutions_becomes {problemDir : Path} {children : List VerdictEntry}
    {found : List Solution} {warnings : List PyStr}
    (hdiscovered : discoverSolutions rt problemDir (some children) filterGlob =
      .ok (found, warnings)) :
    ∃ outcomes, List.Forall₂ (Becomes rt filterGlob) (entriesOf children) outcomes ∧
      found = outcomes.filterMap Outcome.found? ∧
        warnings = outcomes.filterMap Outcome.warning? := by
  have hrounds : ∀ child ∈ children.insertionSort fun first second =>
        first.name ≤ second.name,
      ∀ discovered discovered', discoverChild rt (problemDir ++ [py "solutions"]) filterGlob
          discovered child = .ok discovered' →
        ∃ outcomes, List.Forall₂ (Becomes rt filterGlob) (entriesOfChild child) outcomes ∧
          discovered' = outcomes.foldl (fun discovered outcome => outcome.addTo discovered)
            discovered :=
    fun child _ discovered discovered' hround => discoverChild_becomes hround
  obtain ⟨outcomes, hbecomes, hfolded⟩ := foldlM_records hrounds hdiscovered
  rw [← List.foldl_flatten, foldl_addTo] at hfolded
  obtain ⟨hfound, hwarnings⟩ := Prod.ext_iff.1 hfolded
  refine ⟨outcomes.flatten, ?_, by simpa using hfound, by simpa using hwarnings⟩
  exact List.rel_flatten (List.forall₂_map_left_iff.2 hbecomes)

/-! ## Their order -/

/-- Verdict directory and entry name of what may become a solution. -/
def Entry.path? : Entry → Option (PyStr × PyStr)
  | .child _ => none
  | .unit verdict entry => some (verdict, entry.name)

/-- By verdict directory, then by entry. -/
def Before (path path' : PyStr × PyStr) : Prop :=
  path.1 < path'.1 ∨ (path.1 = path'.1 ∧ path.2 < path'.2)

/-- The solution is that of a path `(verdict, entry)`. -/
structure IsAt (path : PyStr × PyStr) (solution : Solution) : Prop where
  verdict : path.1 ∈ expectedVerdicts
  relPath : solution.relPath = unitPath path.1 path.2
  expected : solution.expected = path.1

theorem paths_entriesOfChild (child : VerdictEntry) :
    (entriesOfChild child).filterMap Entry.path? =
      if child.IsVerdict then
        ((child.units.getD []).insertionSort fun first second =>
          first.name ≤ second.name).map fun unit => (child.name, unit.name)
      else [] := by
  rw [entriesOfChild]
  split_ifs with hverdict
  · rw [List.filterMap_map, ← List.filterMap_eq_map']
    rfl
  · rfl

/-- The paths of the entries of a child begin with its name. -/
theorem mem_paths_entriesOfChild {child : VerdictEntry} {path : PyStr × PyStr}
    (hpath : path ∈ (entriesOfChild child).filterMap Entry.path?) :
    child.IsVerdict ∧ path.1 = child.name := by
  rw [paths_entriesOfChild] at hpath
  split_ifs at hpath with hverdict
  · obtain ⟨unit, -, rfl⟩ := List.mem_map.1 hpath
    exact ⟨hverdict, rfl⟩
  · cases hpath

theorem pairwise_entriesOfChild {child : VerdictEntry}
    (hunits : ((child.units.getD []).map UnitEntry.name).Nodup) :
    ((entriesOfChild child).filterMap Entry.path?).Pairwise Before := by
  rw [paths_entriesOfChild]
  split_ifs
  · rw [List.pairwise_map]
    exact (pairwise_lt_insertionSort UnitEntry.name hunits).imp fun hlt => .inr ⟨rfl, hlt⟩
  · exact .nil

/-- The entries are met in the order of their paths. -/
theorem pairwise_entriesOf {children : List VerdictEntry} (hentries : DistinctEntries children) :
    ((entriesOf children).filterMap Entry.path?).Pairwise Before := by
  rw [entriesOf, List.filterMap_flatMap, List.pairwise_flatMap]
  constructor
  · intro child hchild
    exact pairwise_entriesOfChild (hentries.units child ((List.mem_insertionSort _).1 hchild))
  · refine (pairwise_lt_insertionSort VerdictEntry.name hentries.verdicts).imp ?_
    intro first second hlt path hpath path' hpath'
    left
    rwa [(mem_paths_entriesOfChild hpath).2, (mem_paths_entriesOfChild hpath').2]

/-- The solutions found are those of some of the paths, in their order. -/
theorem found_at {entries : List Entry} {outcomes : List Outcome}
    (hverdicts : ∀ path ∈ entries.filterMap Entry.path?, path.1 ∈ expectedVerdicts)
    (hbecomes : List.Forall₂ (Becomes rt filterGlob) entries outcomes) :
    ∃ paths, paths.Sublist (entries.filterMap Entry.path?) ∧
      List.Forall₂ IsAt paths (outcomes.filterMap Outcome.found?) := by
  induction hbecomes with
  | nil => exact ⟨[], .slnil, .nil⟩
  | @cons entry outcome entries outcomes hentry _ ih =>
      have htail : ∀ path ∈ entries.filterMap Entry.path?,
          path ∈ (entry :: entries).filterMap Entry.path? := fun path hpath =>
        ((List.sublist_cons_self entry entries).filterMap Entry.path?).subset hpath
      obtain ⟨paths, hpaths, hfound⟩ := ih fun path hpath => hverdicts path (htail path hpath)
      cases outcome with
      | found solution =>
          cases entry with
          | child child => exact hentry.elim
          | unit verdict unit =>
              refine ⟨(verdict, unit.name) :: paths, hpaths.cons_cons _, .cons ?_ hfound⟩
              exact ⟨hverdicts (verdict, unit.name) List.mem_cons_self, hentry.1.relPath,
                hentry.1.expected⟩
      | filtered solution =>
          refine ⟨paths, hpaths.trans ?_, hfound⟩
          exact (List.sublist_cons_self entry entries).filterMap Entry.path?
      | warned warning =>
          refine ⟨paths, hpaths.trans ?_, hfound⟩
          exact (List.sublist_cons_self entry entries).filterMap Entry.path?

theorem unitPath_injective {path path' : PyStr × PyStr} (hverdict : path.1 ∈ expectedVerdicts)
    (hverdict' : path'.1 ∈ expectedVerdicts)
    (heq : unitPath path.1 path.2 = unitPath path'.1 path'.2) : path = path' := by
  have hnames := congrArg sanitizeName heq
  have hsame : path.1 = path'.1 :=
    ((sanitizeName_unitPath_eq_iff hverdict hverdict' path.2 path'.2).1 hnames).1
  rw [unitPath_eq, unitPath_eq, hsame] at heq
  exact Prod.ext hsame (List.append_cancel_left heq)

theorem relPath_nodup {paths : List (PyStr × PyStr)} {found : List Solution}
    (hverdicts : ∀ path ∈ paths, path.1 ∈ expectedVerdicts) (hbefore : paths.Pairwise Before)
    (hfound : List.Forall₂ IsAt paths found) : (found.map Solution.relPath).Nodup := by
  have hpaths : paths.map (fun path => unitPath path.1 path.2) =
      found.map Solution.relPath := by
    rw [← List.forall₂_eq_eq_eq, List.forall₂_map_left_iff, List.forall₂_map_right_iff]
    exact hfound.imp fun _ _ hat => hat.relPath.symm
  have hnodup : paths.Nodup := hbefore.imp fun hlt heq => by
    rcases hlt with hlt | ⟨-, hlt⟩
    · exact lt_irrefl _ (heq ▸ hlt)
    · exact lt_irrefl _ (heq ▸ hlt)
  rw [← hpaths]
  exact hnodup.map_on fun path hpath path' hpath' =>
    unitPath_injective (hverdicts path hpath) (hverdicts path' hpath')

/-! ## Accounting -/

/-- Reading a source of a unit in one of the verdict directories raises. -/
def Unreadable (root : Path) (children : List VerdictEntry) (exc : PyError) : Prop :=
  ∃ child ∈ children, child.IsVerdict ∧ ∃ unit ∈ child.units.getD [],
    ∃ source ∈ unitSources root [child.name, unit.name] unit, source.content = .error exc

theorem discoverChild_raises {root : Path} {discovered : List Solution × List PyStr}
    {child : VerdictEntry} {exc : PyError}
    (hraised : discoverChild rt root filterGlob discovered child = .error exc) :
    child.IsVerdict ∧ ∃ unit ∈ child.units.getD [],
      ∃ source ∈ unitSources root [child.name, unit.name] unit, source.content = .error exc := by
  rw [discoverChild] at hraised
  split at hraised
  · cases hraised
  · next units hunits =>
    split_ifs at hraised with hname
    · obtain ⟨unit, hunit, discovered, hround⟩ := exists_of_foldlM_eq_error hraised
      refine ⟨⟨by rw [hunits]; rfl, hname⟩, unit, ?_, ?_⟩
      · rw [hunits]
        exact (List.mem_insertionSort _).1 hunit
      · rcases bind_eq_error_iff.1 hround with hdescribe | ⟨described, -, hrest⟩
        · exact describeUnit_raises hdescribe
        · cases described with
          | error warning => cases hrest
          | ok solution =>
              dsimp only at hrest
              split_ifs at hrest <;> cases hrest
    · cases hraised

/-- What is returned accounts for every entry, and for nothing else. -/
structure Accounted (rt : Runtime) (filterGlob : PyStr) (children : List VerdictEntry)
    (found : List Solution) (warnings : List PyStr) : Prop where
  outcomes : ∃ outcomes, List.Forall₂ (Becomes rt filterGlob) (entriesOf children) outcomes ∧
    found = outcomes.filterMap Outcome.found? ∧ warnings = outcomes.filterMap Outcome.warning?
  sorted : ∃ paths, paths.Pairwise Before ∧ List.Forall₂ IsAt paths found
  distinct : (found.map Solution.relPath).Nodup
  language : ∀ solution ∈ found, solution.error.isSome = true ∨ OneLanguage solution

theorem verdicts_of_entriesOf {children : List VerdictEntry} {path : PyStr × PyStr}
    (hpath : path ∈ (entriesOf children).filterMap Entry.path?) :
    path.1 ∈ expectedVerdicts := by
  rw [entriesOf, List.filterMap_flatMap] at hpath
  obtain ⟨child, -, hchild⟩ := List.mem_flatMap.1 hpath
  obtain ⟨hverdict, hname⟩ := mem_paths_entriesOfChild hchild
  rw [hname]
  exact hverdict.2

theorem discoverSolutions_language {problemDir : Path} {children : Option (List VerdictEntry)}
    {found : List Solution} {warnings : List PyStr}
    (hdiscovered : discoverSolutions rt problemDir children filterGlob =
      .ok (found, warnings)) :
    ∀ solution ∈ found, solution.error.isSome = true ∨ OneLanguage solution := by
  apply discoverSolutions_forall
    (fun solution => solution.error.isSome = true ∨ OneLanguage solution) _ hdiscovered
  intro child _ _ unit _ solution hdescribed
  exact (describeUnit_solutionOf hdescribed).language

/-- Discovery accounts for every entry below `solutions/`, unless a source of a solution
cannot be read. -/
theorem discoverSolutions_accounts (rt : Runtime) (problemDir : Path)
    {children : List VerdictEntry} (hentries : DistinctEntries children) (filterGlob : PyStr) :
    (∃ exc, discoverSolutions rt problemDir (some children) filterGlob = .error exc ∧
        Unreadable (problemDir ++ [py "solutions"]) children exc) ∨
      ∃ found warnings,
        discoverSolutions rt problemDir (some children) filterGlob = .ok (found, warnings) ∧
          Accounted rt filterGlob children found warnings := by
  cases hdiscovered : discoverSolutions rt problemDir (some children) filterGlob with
  | error exc =>
      left
      obtain ⟨child, hchild, discovered, hround⟩ := exists_of_foldlM_eq_error hdiscovered
      exact ⟨exc, rfl, child, (List.mem_insertionSort _).1 hchild, discoverChild_raises hround⟩
  | ok discovered =>
      right
      obtain ⟨found, warnings⟩ := discovered
      obtain ⟨outcomes, hbecomes, rfl, rfl⟩ := discoverSolutions_becomes hdiscovered
      obtain ⟨paths, hpaths, hfound⟩ := found_at (fun path => verdicts_of_entriesOf) hbecomes
      have hbefore := (pairwise_entriesOf hentries).sublist hpaths
      refine ⟨_, _, rfl, ⟨outcomes, hbecomes, rfl, rfl⟩, ⟨paths, hbefore, hfound⟩, ?_, ?_⟩
      · exact relPath_nodup (fun path hpath => verdicts_of_entriesOf (hpaths.subset hpath))
          hbefore hfound
      · exact discoverSolutions_language hdiscovered

/-- A stray file, an unknown directory, and a verdict directory with a solution and a
text. -/
def strayEntries : List VerdictEntry :=
  [⟨py "readme.txt", none⟩, ⟨py "maybe_accepted", some [⟨py "x.cpp", none, .ok []⟩]⟩,
    ⟨py "accepted", some [⟨py "notes.txt", none, .ok []⟩, ⟨py "a.py", none, .ok []⟩]⟩]

theorem discoverSolutions_accounts_stray :
    ∃ found warnings,
      discoverSolutions Runtime.ascii [py "problem"] (some strayEntries) [] =
          .ok (found, warnings) ∧
        Accounted Runtime.ascii [] strayEntries found warnings ∧
          found.map Solution.relPath = [py "accepted/a.py"] ∧ warnings.length = 3 := by
  have hentries : DistinctEntries strayEntries := ⟨by decide, by decide⟩
  have hrun : (discoverSolutions Runtime.ascii [py "problem"] (some strayEntries) []).map
      (fun discovered => (discovered.1.map Solution.relPath, discovered.2.length)) =
        .ok ([py "accepted/a.py"], 3) := by decide +kernel
  rcases discoverSolutions_accounts Runtime.ascii [py "problem"] hentries [] with
    ⟨exc, hraised, -⟩ | ⟨found, warnings, hdiscovered, haccounted⟩
  · rw [hraised] at hrun
    cases hrun
  · rw [hdiscovered] at hrun
    obtain ⟨hfound, hwarnings⟩ := Prod.ext_iff.1 (Except.ok.inj hrun)
    exact ⟨found, warnings, hdiscovered, haccounted, hfound, hwarnings⟩

end IcpcVerify.Solutions
