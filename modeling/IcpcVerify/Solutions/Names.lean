import IcpcVerify.Solutions.Units

/-!
# Names of discovered solutions

The name of a solution is its path with every character outside `[A-Za-z0-9._-]`
replaced by an underscore.  Two solutions of one verdict directory share a name
exactly when their entry names differ only in such characters and underscores.
-/

namespace IcpcVerify.Solutions

open IcpcVerify.Python
open IcpcVerify.FallibleRun

/-! ## Sanitised names -/

/-- The character shows as an underscore in a name. -/
def ShowsAsUnderscore (c : CodePoint) : Prop :=
  isSafe c = false ∨ c = ord '_'

/-- The texts differ only where both show underscores. -/
def Confusable (s t : PyStr) : Prop :=
  List.Forall₂ (fun c d => c = d ∨ (ShowsAsUnderscore c ∧ ShowsAsUnderscore d)) s t

/-- `sanitize_name` on one character. -/
def sanitizeCharacter (c : CodePoint) : CodePoint :=
  if isSafe c then c else ord '_'

theorem sanitizeCharacter_eq_iff (c d : CodePoint) :
    sanitizeCharacter c = sanitizeCharacter d ↔
      c = d ∨ (ShowsAsUnderscore c ∧ ShowsAsUnderscore d) := by
  have hunderscore : isSafe (ord '_') = true := by decide
  rw [sanitizeCharacter, sanitizeCharacter]
  cases hc : isSafe c <;> cases hd : isSafe d <;>
    simp only [ShowsAsUnderscore, hc, hd, Bool.false_eq_true, if_true, if_false] <;> grind

theorem sanitizeName_eq_iff (s t : PyStr) :
    sanitizeName s = sanitizeName t ↔ Confusable s t := by
  have hmap : ∀ s, sanitizeName s = s.map sanitizeCharacter := fun _ => rfl
  rw [hmap, hmap, ← List.forall₂_eq_eq_eq, List.forall₂_map_left_iff,
    List.forall₂_map_right_iff, Confusable]
  simp only [sanitizeCharacter_eq_iff]

theorem sanitizeName_append (s t : PyStr) :
    sanitizeName (s ++ t) = sanitizeName s ++ sanitizeName t :=
  List.map_append

/-! ## What is discovered -/

variable (rt : Runtime) (filterGlob : PyStr)

/-- The relative path of a unit of a verdict directory. -/
def unitPath (verdict name : PyStr) : PyStr :=
  asPosix [verdict, name]

/-- The unit becomes one of the returned solutions. -/
def Kept (verdict : PyStr) (unit : UnitEntry) : Prop :=
  unit.hasSource = true ∧
    (filterGlob = [] ∨ rt.fnmatch (unitPath verdict unit.name) filterGlob = true)

instance (verdict : PyStr) (unit : UnitEntry) : Decidable (Kept rt filterGlob verdict unit) :=
  inferInstanceAs (Decidable (_ ∧ _))

/-- The units of a child of `solutions/` that become solutions, in order. -/
def keptUnits (child : VerdictEntry) : List UnitEntry :=
  if child.name ∈ expectedVerdicts then
    ((child.units.getD []).insertionSort fun first second => first.name ≤ second.name).filter
      fun unit => Kept rt filterGlob child.name unit
  else []

/-- The verdict directories and entry names of all of them. -/
def keptPaths (children : List VerdictEntry) : List (PyStr × PyStr) :=
  (children.insertionSort fun first second => first.name ≤ second.name).flatMap fun child =>
    (keptUnits rt filterGlob child).map fun unit => (child.name, unit.name)

variable {rt filterGlob}

theorem discoverUnit_names {root : Path} {verdict : PyStr}
    {discovered discovered' : List Solution × List PyStr} {unit : UnitEntry}
    (hround : discoverUnit rt root filterGlob verdict discovered unit = .ok discovered') :
    discovered'.1.map Solution.name = discovered.1.map Solution.name ++
      if Kept rt filterGlob verdict unit then [sanitizeName (unitPath verdict unit.name)]
      else [] := by
  obtain ⟨described, hdescribed, hrest⟩ := bind_eq_ok_iff.1 hround
  cases hsource : unit.hasSource with
  | false =>
      obtain ⟨warning, hwarning⟩ : ∃ warning, describeUnit rt root [verdict, unit.name] unit
          verdict = .ok (.error warning) := describeUnit_of_no_source hsource verdict
      rw [hwarning] at hdescribed
      rw [← Except.ok.inj hdescribed] at hrest
      rw [← Except.ok.inj hrest]
      simp [Kept, hsource]
  | true =>
      rw [describeUnit_of_source hsource, map_eq_ok_iff] at hdescribed
      obtain ⟨solution, hsources, rfl⟩ := hdescribed
      obtain ⟨hname, hrelPath⟩ : solution.name = sanitizeName (unitPath verdict unit.name) ∧
          solution.relPath = unitPath verdict unit.name := describeSources_name hsources
      have hkept : Kept rt filterGlob verdict unit ↔
          ¬(filterGlob ≠ [] ∧ !rt.fnmatch (unitPath verdict unit.name) filterGlob) := by
        simp [Kept, hsource, imp_iff_not_or]
      rw [if_congr hkept rfl rfl, ite_not]
      dsimp only at hrest
      rw [hrelPath] at hrest
      split_ifs at hrest with hfiltered
      · rw [← Except.ok.inj hrest, if_pos hfiltered, List.append_nil]
      · rw [← Except.ok.inj hrest, if_neg hfiltered, List.map_append, List.map_singleton, hname]

theorem flatMap_ite_singleton {Item Output : Type} (p : Item → Prop) [DecidablePred p]
    (f : Item → Output) (items : List Item) :
    (items.flatMap fun item => if p item then [f item] else []) =
      (items.filter p).map f := by
  induction items with
  | nil => rfl
  | cons item items ih =>
      rw [List.flatMap_cons, List.filter_cons, ih]
      by_cases hitem : p item <;> simp [hitem]

theorem discoverChild_names {root : Path} {discovered discovered' : List Solution × List PyStr}
    {child : VerdictEntry}
    (hround : discoverChild rt root filterGlob discovered child = .ok discovered') :
    discovered'.1.map Solution.name = discovered.1.map Solution.name ++
      (keptUnits rt filterGlob child).map fun unit =>
        sanitizeName (unitPath child.name unit.name) := by
  rw [discoverChild] at hround
  cases hunits : child.units with
  | none =>
      simp only [hunits] at hround
      rw [← Except.ok.inj hround]
      simp [keptUnits, hunits]
  | some units =>
      simp only [hunits] at hround
      split_ifs at hround with hverdict
      · rw [foldlM_collects (fun discovered => discovered.1.map Solution.name)
          (fun unit => if Kept rt filterGlob child.name unit then
            [sanitizeName (unitPath child.name unit.name)] else [])
          (fun _ _ _ => discoverUnit_names) _ hround]
        rw [keptUnits, if_pos hverdict, hunits, Option.getD_some, flatMap_ite_singleton]
      · rw [← Except.ok.inj hround, keptUnits, if_neg hverdict, List.map_nil, List.append_nil]

/-- The names of the returned solutions, in order. -/
theorem discoverSolutions_names {problemDir : Path} {children : Option (List VerdictEntry)}
    {found : List Solution} {warnings : List PyStr}
    (hdiscovered : discoverSolutions rt problemDir children filterGlob =
      .ok (found, warnings)) :
    found.map Solution.name =
      (keptPaths rt filterGlob (children.getD [])).map fun path =>
        sanitizeName (unitPath path.1 path.2) := by
  cases children with
  | none =>
      obtain rfl : [] = found := congrArg Prod.fst (Except.ok.inj hdiscovered)
      rfl
  | some children =>
      have hcollected := foldlM_collects (fun discovered => discovered.1.map Solution.name) _
        (fun _ _ _ => discoverChild_names) _ hdiscovered
      rw [hcollected, keptPaths, List.map_flatMap]
      simp [Function.comp_def]

/-! ## Distinct names -/

/-- No two entries of `solutions/`, and none of one of its directories, have the same
file name. -/
structure DistinctEntries (children : List VerdictEntry) : Prop where
  verdicts : (children.map VerdictEntry.name).Nodup
  units : ∀ child ∈ children, ((child.units.getD []).map UnitEntry.name).Nodup

theorem mem_keptUnits {child : VerdictEntry} {unit : UnitEntry} :
    unit ∈ keptUnits rt filterGlob child ↔
      child.name ∈ expectedVerdicts ∧ unit ∈ child.units.getD [] ∧
        Kept rt filterGlob child.name unit := by
  rw [keptUnits]
  split_ifs with hverdict
  · simp [hverdict, List.mem_filter, List.mem_insertionSort]
  · simp [hverdict]

theorem mem_keptPaths {children : List VerdictEntry} {path : PyStr × PyStr} :
    path ∈ keptPaths rt filterGlob children ↔
      ∃ child ∈ children, ∃ unit ∈ keptUnits rt filterGlob child,
        path = (child.name, unit.name) := by
  simp only [keptPaths, List.mem_flatMap, List.mem_insertionSort, List.mem_map, eq_comm]

theorem nodup_keptPaths {children : List VerdictEntry} (hentries : DistinctEntries children) :
    (keptPaths rt filterGlob children).Nodup := by
  rw [keptPaths, List.nodup_flatMap]
  constructor
  · intro child hchild
    have hunits := hentries.units child ((List.mem_insertionSort _).1 hchild)
    have hkept : ((keptUnits rt filterGlob child).map UnitEntry.name).Nodup := by
      rw [keptUnits]
      split_ifs
      · apply List.Nodup.sublist (List.filter_sublist.map UnitEntry.name)
        exact ((List.perm_insertionSort _ _).map UnitEntry.name).nodup_iff.2 hunits
      · exact List.nodup_nil
    have hpair := hkept.map (Prod.mk_right_injective child.name)
    rwa [List.map_map] at hpair
  · have hsorted := ((List.perm_insertionSort
      (fun first second : VerdictEntry => first.name ≤ second.name) children).map
        VerdictEntry.name).nodup_iff.2 hentries.verdicts
    refine (List.pairwise_map.1 hsorted).imp fun {first second} hne => ?_
    intro path hfirst hsecond
    obtain ⟨_, _, rfl⟩ := List.mem_map.1 hfirst
    obtain ⟨_, _, heq⟩ := List.mem_map.1 hsecond
    exact hne (congrArg Prod.fst heq).symm

/-! ## Names that coincide -/

theorem unitPath_eq (verdict name : PyStr) : unitPath verdict name = verdict ++ py "/" ++ name := by
  simp [unitPath, asPosix, List.intercalate, List.intersperse]

/-- The verdict directories already differ in the first letter of their names. -/
theorem verdict_eq_of_head {verdict verdict' : PyStr} (hverdict : verdict ∈ expectedVerdicts)
    (hverdict' : verdict' ∈ expectedVerdicts)
    (hhead : (sanitizeName verdict).head? = (sanitizeName verdict').head?) :
    verdict = verdict' := by
  have hall : ∀ v ∈ expectedVerdicts, ∀ v' ∈ expectedVerdicts,
      (sanitizeName v).head? = (sanitizeName v').head? → v = v' := by decide +kernel
  exact hall verdict hverdict verdict' hverdict' hhead

/-- Two paths get one name exactly when they are confusable units of one directory. -/
theorem sanitizeName_unitPath_eq_iff {verdict verdict' : PyStr}
    (hverdict : verdict ∈ expectedVerdicts) (hverdict' : verdict' ∈ expectedVerdicts)
    (name name' : PyStr) :
    sanitizeName (unitPath verdict name) = sanitizeName (unitPath verdict' name') ↔
      verdict = verdict' ∧ Confusable name name' := by
  rw [unitPath_eq, unitPath_eq, sanitizeName_append, sanitizeName_append, sanitizeName_append,
    sanitizeName_append]
  constructor
  · intro heq
    have hhead : ∀ v ∈ expectedVerdicts, ∀ rest : PyStr,
        (sanitizeName v ++ rest).head? = (sanitizeName v).head? := by
      intro v hv rest
      rw [List.head?_append_of_ne_nil]
      revert v
      decide +kernel
    have hsame : verdict = verdict' := by
      apply verdict_eq_of_head hverdict hverdict'
      have hheads := congrArg List.head? heq
      rwa [List.append_assoc, List.append_assoc, hhead _ hverdict, hhead _ hverdict'] at hheads
    subst hsame
    exact ⟨rfl, (sanitizeName_eq_iff name name').1 (List.append_cancel_left heq)⟩
  · rintro ⟨rfl, hconfusable⟩
    rw [(sanitizeName_eq_iff name name').2 hconfusable]

/-- No two units of one verdict directory that become solutions are confusable. -/
def NoConfusableUnits (rt : Runtime) (filterGlob : PyStr) (children : List VerdictEntry) :
    Prop :=
  ∀ child ∈ children, child.name ∈ expectedVerdicts →
    ∀ unit ∈ child.units.getD [], ∀ unit' ∈ child.units.getD [],
      Kept rt filterGlob child.name unit → Kept rt filterGlob child.name unit' →
        unit.name ≠ unit'.name → ¬Confusable unit.name unit'.name

/-- The names of the returned solutions are distinct exactly when no two of their units
are confusable. -/
theorem discoverSolutions_names_nodup_iff {problemDir : Path}
    {children : Option (List VerdictEntry)} (hentries : DistinctEntries (children.getD []))
    {found : List Solution} {warnings : List PyStr}
    (hdiscovered : discoverSolutions rt problemDir children filterGlob =
      .ok (found, warnings)) :
    (found.map Solution.name).Nodup ↔
      NoConfusableUnits rt filterGlob (children.getD []) := by
  rw [discoverSolutions_names hdiscovered,
    List.nodup_map_iff_inj_on (nodup_keptPaths hentries)]
  constructor
  · intro hdistinct child hchild hverdict unit hunit unit' hunit' hkept hkept' hne hconfusable
    apply hne
    have hpath : (child.name, unit.name) = (child.name, unit'.name) := by
      apply hdistinct
      · exact mem_keptPaths.2 ⟨child, hchild, unit, mem_keptUnits.2 ⟨hverdict, hunit, hkept⟩, rfl⟩
      · exact mem_keptPaths.2
          ⟨child, hchild, unit', mem_keptUnits.2 ⟨hverdict, hunit', hkept'⟩, rfl⟩
      · exact (sanitizeName_unitPath_eq_iff hverdict hverdict _ _).2 ⟨rfl, hconfusable⟩
    exact congrArg Prod.snd hpath
  · intro hnone path hpath path' hpath' heq
    obtain ⟨child, hchild, unit, hunit, rfl⟩ := mem_keptPaths.1 hpath
    obtain ⟨child', hchild', unit', hunit', rfl⟩ := mem_keptPaths.1 hpath'
    obtain ⟨hverdict, hunit, hkept⟩ := mem_keptUnits.1 hunit
    obtain ⟨hverdict', hunit', hkept'⟩ := mem_keptUnits.1 hunit'
    obtain ⟨hname, hconfusable⟩ := (sanitizeName_unitPath_eq_iff hverdict hverdict' _ _).1 heq
    obtain rfl : child = child' := List.inj_on_of_nodup_map hentries.verdicts hchild hchild' hname
    by_contra hpaths
    have hne : unit.name ≠ unit'.name := fun hnames => hpaths (by rw [hnames])
    exact hnone child hchild hverdict unit hunit unit' hunit' hkept hkept' hne hconfusable

/-- Two Python files in `accepted/`. -/
def acceptedFiles (name name' : PyStr) : List VerdictEntry :=
  [⟨py "accepted", some [⟨name, none, .ok []⟩, ⟨name', none, .ok []⟩]⟩]

theorem acceptedFiles_distinct {name name' : PyStr} (hne : name ≠ name') :
    DistinctEntries (acceptedFiles name name') where
  verdicts := List.nodup_singleton _
  units := by
    rintro child hchild
    rw [List.mem_singleton.1 hchild]
    simpa using hne

/-- What is discovered of them, as far as names go. -/
theorem acceptedFiles_names {name name' : PyStr} {names : List PyStr}
    (hnames : (discoverSolutions Runtime.ascii [py "problem"] (some (acceptedFiles name name'))
      []).map (fun discovered => discovered.1.map Solution.name) = .ok names) :
    ∃ found warnings, discoverSolutions Runtime.ascii [py "problem"]
        (some (acceptedFiles name name')) [] = .ok (found, warnings) ∧
      found.map Solution.name = names := by
  obtain ⟨⟨found, warnings⟩, hdiscovered, hfound⟩ := map_eq_ok_iff.1 hnames
  exact ⟨found, warnings, hdiscovered, hfound⟩

/-- `a.py` and `b.py` get distinct names, so they are not confusable. -/
theorem discoverSolutions_names_plain :
    NoConfusableUnits Runtime.ascii [] (acceptedFiles (py "a.py") (py "b.py")) := by
  have hnames : (discoverSolutions Runtime.ascii [py "problem"]
      (some (acceptedFiles (py "a.py") (py "b.py"))) []).map
        (fun discovered => discovered.1.map Solution.name) =
      .ok [py "accepted_a.py", py "accepted_b.py"] := by decide +kernel
  obtain ⟨found, warnings, hdiscovered, hfound⟩ := acceptedFiles_names hnames
  have hentries : DistinctEntries
      (Option.getD (some (acceptedFiles (py "a.py") (py "b.py"))) []) :=
    acceptedFiles_distinct (by decide)
  apply (discoverSolutions_names_nodup_iff hentries hdiscovered).1
  rw [hfound]
  decide

/-- `a b.py` and `a_b.py` get the same name. -/
theorem discoverSolutions_names_collide :
    DistinctEntries (acceptedFiles (py "a b.py") (py "a_b.py")) ∧
      ∃ found warnings, discoverSolutions Runtime.ascii [py "problem"]
          (some (acceptedFiles (py "a b.py") (py "a_b.py"))) [] = .ok (found, warnings) ∧
        found.map Solution.name = [py "accepted_a_b.py", py "accepted_a_b.py"] ∧
          ¬(found.map Solution.name).Nodup := by
  have hnames : (discoverSolutions Runtime.ascii [py "problem"]
      (some (acceptedFiles (py "a b.py") (py "a_b.py"))) []).map
        (fun discovered => discovered.1.map Solution.name) =
      .ok [py "accepted_a_b.py", py "accepted_a_b.py"] := by decide +kernel
  obtain ⟨found, warnings, hdiscovered, hfound⟩ := acceptedFiles_names hnames
  refine ⟨acceptedFiles_distinct (by decide), found, warnings, hdiscovered, hfound, ?_⟩
  rw [hfound]
  decide

end IcpcVerify.Solutions
