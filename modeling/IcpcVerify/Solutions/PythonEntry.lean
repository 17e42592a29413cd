import IcpcVerify.Core.Sorting
import IcpcVerify.Compile
import IcpcVerify.Core.LazyScan
import IcpcVerify.Solutions.Units

/-!
# Entry points of Python solutions

A lone source is named by its file name, wherever it lies; of several, the entry is
the first `main.py` in path order.  Neither is what the container needs in every
tree: a lone source below a subdirectory is not found, and a `main.py` in a
subdirectory can come before the one at the root.
-/

namespace IcpcVerify.Solutions

open IcpcVerify.Python
open IcpcVerify.FallibleRun
open IcpcVerify.Sorting
open IcpcVerify.LazyScan
open IcpcVerify.Compile
open IcpcVerify.Sandbox

/-! ## What the entry is -/

/-- The recognised files below a directory. -/
def recognisedFiles (below : List FileBelow) : List FileBelow :=
  below.filter fun file => file.Recognised

theorem mem_recognisedFiles {below : List FileBelow} {file : FileBelow} :
    file ∈ recognisedFiles below ↔ file ∈ below ∧ file.Recognised := by
  rw [recognisedFiles, List.mem_filter, decide_eq_true_eq]

theorem length_sourcesBelow (path : Path) (below : List FileBelow) :
    (sourcesBelow path below).length = (recognisedFiles below).length := by
  rw [sourcesBelow, List.length_insertionSort, List.length_map]
  rfl

/-- A lone source: the entry is its name. -/
theorem pythonEntry_singleton (source : Source) (root : Path) :
    pythonEntry [source] root = (source.name, none) :=
  rfl

/-- Several sources: the entry is the first `main.py`. -/
theorem pythonEntry_of_many {sources : List Source} (hmany : 2 ≤ sources.length) (root : Path) :
    pythonEntry sources root =
      match sources.find? fun source => source.name = py "main.py" with
      | some main => (asPosix (main.path.drop root.length), none)
      | none => ([], some (py "python 소스가 여러 개면 main.py 가 있어야 합니다")) := by
  cases sources with
  | nil => simp at hmany
  | cons source sources =>
      cases sources with
      | nil => simp at hmany
      | cons source' sources => rfl

variable {rt : Runtime}

/-- A described Python solution has the sources of its unit and the entry of
`_python_entry`. -/
theorem describeUnit_python {root : Path} {relParts : List PyStr} {unit : UnitEntry}
    {expected : PyStr} {solution : Solution}
    (hdescribed : describeUnit rt root relParts unit expected = .ok (.ok solution))
    (hlanguage : solution.language = some .python) :
    solution.path = root ++ relParts ∧
      solution.sources = (unitSources root relParts unit).map Source.path ∧
        (solution.entry, solution.error) =
          pythonEntry (unitSources root relParts unit) (unitSourceRoot root relParts unit) := by
  obtain ⟨-, hsources⟩ := describeUnit_eq_ok_iff.1 hdescribed
  rcases describeSources_eq_ok_iff.1 hsources with ⟨-, rfl⟩ | ⟨-, entry, hentry, rfl⟩
  · cases hlanguage
  · have hpython : (languagesOf (unitSources root relParts unit)).head? = some .python := hlanguage
    rw [hpython] at hentry
    exact ⟨rfl, rfl, (Except.ok.inj hentry).symm⟩

/-! ## The entry among the staged files -/

/-- The unit is a directory whose only recognised source is not directly in it. -/
def LoneNested (unit : UnitEntry) : Prop :=
  ∃ below ∈ unit.below, ∃ file, recognisedFiles below = [file] ∧ file.parts.length ≠ 1

/-- Sources below the staged directory are named by their paths relative to it. -/
theorem stagedPaths_eq {solution : Solution} {isDir : Bool}
    (hbelow : ∀ source ∈ solution.sources, stageRoot solution isDir <+: source)
    (mount : PyStr) :
    stagedPaths solution isDir mount =
      .ok (solution.sources.map fun source =>
        mount ++ py "/" ++ asPosix (source.drop (stageRoot solution isDir).length)) := by
  rw [stagedPaths]
  apply mapM_of_ok
  intro source hsource
  rw [relativeTo, if_pos (hbelow source hsource)]
  rfl

theorem stageSources_eq_ok {calls : CompileCalls PyM} {solution : Solution} {isDir : Bool}
    (hisDir : calls.isDir solution.path = .ok isDir) {workDir : BindSource} {mount : PyStr}
    {paths : List PyStr} (hstaged : stageSources calls solution workDir mount = .ok paths) :
    stagedPaths solution isDir mount = .ok paths := by
  rw [stageSources] at hstaged
  obtain ⟨found, hfound, hcopied⟩ := bind_eq_ok_iff.1 hstaged
  obtain ⟨_, -, hpaths⟩ := bind_eq_ok_iff.1 hcopied
  rw [hisDir] at hfound
  rwa [ofPyM_eq, ← Except.ok.inj hfound] at hpaths

/-- A name is among the staged paths when some source has it relative to the root. -/
theorem mem_stagedPaths_iff {solution : Solution} {isDir : Bool}
    (hbelow : ∀ source ∈ solution.sources, stageRoot solution isDir <+: source)
    {mount : PyStr} {paths : List PyStr}
    (hpaths : stagedPaths solution isDir mount = .ok paths) (entry : PyStr) :
    mount ++ py "/" ++ entry ∈ paths ↔
      ∃ source ∈ solution.sources,
        asPosix (source.drop (stageRoot solution isDir).length) = entry := by
  rw [stagedPaths_eq hbelow] at hpaths
  rw [← Except.ok.inj hpaths, List.mem_map]
  simp only [List.append_cancel_left_eq]

theorem getLastD_eq_asPosix_drop (path : Path) :
    asPosix (path.drop path.dropLast.length) = path.getLastD [] := by
  cases path using List.reverseRecOn with
  | nil => rfl
  | append_singleton path part =>
      rw [List.dropLast_concat, List.drop_left, asPosix_singleton]
      simp

theorem prefix_of_mem_sourcesBelow {path : Path} {below : List FileBelow} {source : Source}
    (hsource : source ∈ sourcesBelow path below) : path <+: source.path := by
  obtain ⟨file, -, -, rfl⟩ := mem_sourcesBelow.1 hsource
  exact List.prefix_append path file.parts

theorem sourcesBelow_of_singleton {path : Path} {below : List FileBelow} {file : FileBelow}
    (hfile : recognisedFiles below = [file]) :
    sourcesBelow path below = [⟨path ++ file.parts, file.content⟩] := by
  rw [sourcesBelow]
  change ((recognisedFiles below).map _).insertionSort _ = _
  rw [hfile]
  rfl

/-- Below a directory the entry is the path of a source, unless there is only one and it
lies deeper. -/
theorem entry_of_directory_iff {path : Path} {below : List FileBelow} {entry : PyStr}
    (hentry : (entry, none) = pythonEntry (sourcesBelow path below) path) :
    (∃ source ∈ (sourcesBelow path below).map Source.path,
        asPosix (source.drop path.length) = entry) ↔
      ¬∃ file, recognisedFiles below = [file] ∧ file.parts.length ≠ 1 := by
  have hlength := length_sourcesBelow path below
  rcases hcount : recognisedFiles below with _ | ⟨file, _ | ⟨file', files⟩⟩
  · rw [hcount] at hlength
    rw [List.length_eq_zero_iff.1 hlength] at hentry
    cases (Prod.ext_iff.1 hentry).2
  · have hrecognised : file.Recognised :=
      (mem_recognisedFiles.1 (hcount ▸ List.mem_singleton_self file)).2
    rw [sourcesBelow_of_singleton hcount, pythonEntry_singleton, sourceName_eq hrecognised]
      at hentry
    have hname : entry = file.parts.getLastD [] := (Prod.ext_iff.1 hentry).1
    have hone : asPosix file.parts = entry ↔ file.parts.length = 1 := by
      rw [hname, eq_comm]
      exact getLastD_eq_asPosix_iff (parts_ne_nil hrecognised)
    rw [sourcesBelow_of_singleton hcount]
    simp [hone]
  · have hmany : 2 ≤ (sourcesBelow path below).length := by
      rw [hlength, hcount]
      simp
    rw [pythonEntry_of_many hmany] at hentry
    apply iff_of_true
    · cases hfind : (sourcesBelow path below).find? fun source => source.name = py "main.py" with
      | none =>
          rw [hfind] at hentry
          cases (Prod.ext_iff.1 hentry).2
      | some main =>
          rw [hfind] at hentry
          exact ⟨main.path, List.mem_map_of_mem (List.mem_of_find?_eq_some hfind),
            (Prod.ext_iff.1 hentry).1.symm⟩
    · rintro ⟨file, hfile, -⟩
      cases hfile

/-- The entry of a Python solution names a staged file, unless its only source lies in a
subdirectory of the unit. -/
theorem pythonEntry_staged_iff {root : Path} {relParts : List PyStr} {unit : UnitEntry}
    {expected : PyStr} {solution : Solution}
    (hdescribed : describeUnit rt root relParts unit expected = .ok (.ok solution))
    (hlanguage : solution.language = some .python) (herror : solution.error = none)
    {calls : CompileCalls PyM} (hisDir : calls.isDir solution.path = .ok unit.below.isSome)
    {workDir : BindSource} {mount : PyStr} {paths : List PyStr}
    (hstaged : stageSources calls solution workDir mount = .ok paths) :
    mount ++ py "/" ++ solution.entry ∈ paths ↔ ¬LoneNested unit := by
  obtain ⟨hpath, hsources, hentry⟩ := describeUnit_python hdescribed hlanguage
  have hpaths := stageSources_eq_ok hisDir hstaged
  rw [herror] at hentry
  cases hbelow : unit.below with
  | none =>
      rw [hbelow] at hpaths
      simp only [unitSources, unitSourceRoot, hbelow, pythonEntry_singleton] at hsources hentry
      have hname : solution.entry = (root ++ relParts).getLastD [] := (Prod.ext_iff.1 hentry).1
      have hroot : stageRoot solution (none : Option (List FileBelow)).isSome =
          (root ++ relParts).dropLast := congrArg List.dropLast hpath
      rw [mem_stagedPaths_iff _ hpaths, hsources, hroot, hname]
      · apply iff_of_true
        · exact ⟨_, List.mem_singleton_self _, getLastD_eq_asPosix_drop _⟩
        · simp [LoneNested, hbelow]
      · rw [hsources, hroot]
        intro source hsource
        rw [List.mem_singleton.1 hsource]
        exact List.dropLast_prefix _
  | some below =>
      rw [hbelow] at hpaths
      simp only [unitSources, unitSourceRoot, hbelow] at hsources hentry
      have hroot : stageRoot solution (some below).isSome = root ++ relParts := hpath
      rw [mem_stagedPaths_iff _ hpaths, hsources, hroot, entry_of_directory_iff hentry]
      · simp [LoneNested, hbelow]
      · rw [hsources, hroot]
        intro source hsource
        obtain ⟨found, hfound, rfl⟩ := List.mem_map.1 hsource
        exact prefix_of_mem_sourcesBelow hfound

/-- Files of a unit, by their paths below it. -/
def filesBelow (paths : List (List PyStr)) : List FileBelow :=
  paths.map fun parts => ⟨parts, true, .ok []⟩

/-- `accepted/greedy/` with the given files. -/
def greedyUnit (paths : List (List PyStr)) : UnitEntry :=
  ⟨py "greedy", some (filesBelow paths), .ok []⟩

/-- What it is described as. -/
def greedySolution (sources : List (List PyStr)) (entry : PyStr) : Solution where
  name := py "accepted_greedy"
  relPath := py "accepted/greedy"
  path := [py "solutions", py "accepted", py "greedy"]
  expected := py "accepted"
  language := some .python
  sources := sources.map ([py "solutions", py "accepted", py "greedy"] ++ ·)
  entry := entry
  error := none

/-- Files that can be copied, with no container in sight. -/
def copyingCalls (isDir : Bool) : CompileCalls PyM where
  isDir _ := .ok isDir
  copySources _ _ := .ok ()
  runSandbox _ := .error ⟨.sandbox, []⟩

theorem pythonEntry_staged_main :
    py "/work/main.py" ∈ [py "/work/lib/util.py", py "/work/main.py"] := by
  have hdescribed : describeUnit Runtime.ascii [py "solutions"] [py "accepted", py "greedy"]
      (greedyUnit [[py "main.py"], [py "lib", py "util.py"]]) (py "accepted") =
      .ok (.ok (greedySolution [[py "lib", py "util.py"], [py "main.py"]] (py "main.py"))) := by
    decide +kernel
  have hstaged : stageSources (copyingCalls true)
      (greedySolution [[py "lib", py "util.py"], [py "main.py"]] (py "main.py")) .work
        (py "/work") = .ok [py "/work/lib/util.py", py "/work/main.py"] := by
    decide +kernel
  apply (pythonEntry_staged_iff hdescribed rfl rfl rfl hstaged).2
  rintro ⟨below, hbelow, file, hfile, -⟩
  rw [← Option.some.inj hbelow] at hfile
  cases hfile

/-- The only source lies in `src/`: it is staged as `/work/src/sol.py`, and `/work/sol.py`
is run. -/
theorem pythonEntry_not_staged :
    describeUnit Runtime.ascii [py "solutions"] [py "accepted", py "greedy"]
        (greedyUnit [[py "src", py "sol.py"]]) (py "accepted") =
        .ok (.ok (greedySolution [[py "src", py "sol.py"]] (py "sol.py"))) ∧
      stageSources (copyingCalls true)
          (greedySolution [[py "src", py "sol.py"]] (py "sol.py")) .work (py "/work") =
          .ok [py "/work/src/sol.py"] ∧
        py "/work" ++ py "/" ++ py "sol.py" ∉ [py "/work/src/sol.py"] := by
  decide +kernel

/-! ## `main.py` at the root -/

theorem languagesOf_eq_singleton {sources : List Source} {language : Language}
    (hne : sources ≠ [])
    (hsources : ∀ source ∈ sources, languageOf source.name = some language) :
    languagesOf sources = [language] := by
  have hreplicate : sources.filterMap (fun source => languageOf source.name) =
      List.replicate sources.length language := by
    rw [List.filterMap_congr hsources, List.eq_replicate_iff]
    simp
  rw [languagesOf, hreplicate, List.replicate_dedup (by simpa using hne)]

/-- A `main.py` somewhere below comes before the one at the root in path order. -/
def ShadowedMain (below : List FileBelow) : Prop :=
  (∃ file ∈ recognisedFiles below, file.parts = [py "main.py"]) ∧
    ∃ file ∈ recognisedFiles below, ∃ directory rest, file.parts = directory :: rest ∧
      file.parts.getLastD [] = py "main.py" ∧ directory < py "main.py"

/-- No error exactly when there is a `main.py`, and the one at the root is the entry. -/
def RootMainWins (below : List FileBelow) (solution : Solution) : Prop :=
  (solution.error = none ↔
      ∃ file ∈ recognisedFiles below, file.parts.getLastD [] = py "main.py") ∧
    ((∃ file ∈ recognisedFiles below, file.parts = [py "main.py"]) →
      solution.entry = py "main.py")

/-- A directory of several Python files is described without reading them. -/
theorem describeUnit_python_directory {root : Path} {relParts : List PyStr} {unit : UnitEntry}
    {below : List FileBelow} (hbelow : unit.below = some below)
    (hpython : ∀ file ∈ recognisedFiles below,
      languageOf (file.parts.getLastD []) = some .python)
    (hmany : 2 ≤ (recognisedFiles below).length) (expected : PyStr) :
    ∃ solution, describeUnit rt root relParts unit expected = .ok (.ok solution) ∧
      (solution.entry, solution.error) =
        pythonEntry (sourcesBelow (root ++ relParts) below) (root ++ relParts) := by
  have hne : sourcesBelow (root ++ relParts) below ≠ [] := by
    rw [← List.length_pos_iff, length_sourcesBelow]
    omega
  have hlanguages : languagesOf (sourcesBelow (root ++ relParts) below) = [.python] := by
    apply languagesOf_eq_singleton hne
    intro source hsource
    obtain ⟨file, hfile, hrecognised, rfl⟩ := mem_sourcesBelow.1 hsource
    rw [sourceName_eq hrecognised]
    exact hpython file (mem_recognisedFiles.2 ⟨hfile, hrecognised⟩)
  have hsource : unit.hasSource = true := by
    simp only [UnitEntry.hasSource, hbelow]
    rw [← Bool.not_eq_false', ← isEmpty_sourcesBelow (root ++ relParts)]
    simpa using hne
  have hdescribed : describeUnit rt root relParts unit expected = _ :=
    describeUnit_of_source hsource expected
  simp only [unitSources, unitSourceRoot, hbelow, describeSources, hlanguages] at hdescribed
  exact ⟨_, hdescribed, rfl⟩

theorem sourcesBelow_sorted (path : Path) (below : List FileBelow) :
    (sourcesBelow path below).Pairwise fun first second => first.path ≤ second.path := by
  have htotal : Std.Total fun first second : Source => first.path ≤ second.path :=
    ⟨fun first second => le_total first.path second.path⟩
  have htrans : IsTrans Source fun first second => first.path ≤ second.path :=
    ⟨fun _ _ _ => le_trans⟩
  exact List.pairwise_insertionSort _ _

/-- Of several files the entry is the least `main.py`; without one there is an error. -/
theorem pythonEntry_main (path : Path) {below : List FileBelow}
    (hmany : 2 ≤ (recognisedFiles below).length) :
    (∃ main ∈ recognisedFiles below, main.parts.getLastD [] = py "main.py" ∧
        (∀ file ∈ recognisedFiles below, file.parts.getLastD [] = py "main.py" →
          main.parts ≤ file.parts) ∧
        pythonEntry (sourcesBelow path below) path = (asPosix main.parts, none)) ∨
      ((∀ file ∈ recognisedFiles below, file.parts.getLastD [] ≠ py "main.py") ∧
        ∃ message, pythonEntry (sourcesBelow path below) path = ([], some message)) := by
  have hsource : ∀ file ∈ recognisedFiles below,
      ⟨path ++ file.parts, file.content⟩ ∈ sourcesBelow path below ∧
        (Source.mk (path ++ file.parts) file.content).name = file.parts.getLastD [] := by
    intro file hfile
    obtain ⟨hmem, hrecognised⟩ := mem_recognisedFiles.1 hfile
    exact ⟨mem_sourcesBelow.2 ⟨file, hmem, hrecognised, rfl⟩, sourceName_eq hrecognised⟩
  rw [pythonEntry_of_many (by rwa [length_sourcesBelow])]
  cases hfind : (sourcesBelow path below).find? fun source => source.name = py "main.py" with
  | none =>
      refine .inr ⟨fun file hfile hmain => ?_, _, rfl⟩
      obtain ⟨hmem, hname⟩ := hsource file hfile
      have hmissed := List.find?_eq_none.1 hfind _ hmem
      rw [hname, hmain] at hmissed
      simp at hmissed
  | some found =>
      obtain ⟨main, hmain, hrecognised, rfl⟩ :=
        mem_sourcesBelow.1 (List.mem_of_find?_eq_some hfind)
      have hmem := mem_recognisedFiles.2 ⟨hmain, hrecognised⟩
      have hname := List.find?_some hfind
      rw [(hsource main hmem).2, decide_eq_true_eq] at hname
      refine .inl ⟨main, hmem, hname, fun file hfile hlast => ?_, ?_⟩
      · have hle := find?_le_of_pairwise (fun source : Source => le_refl source.path)
          (sourcesBelow_sorted path below) hfind (hsource file hfile).1
          (by rw [(hsource file hfile).2, hlast]; exact decide_eq_true rfl)
        exact (append_le_append_iff path main.parts file.parts).1 hle
      · dsimp only
        rw [List.drop_left]

/-- Paths that come before `main.py` and end in it start with a smaller directory. -/
theorem le_mainParts_iff {parts : Path} (hlast : parts.getLastD [] = py "main.py") :
    parts ≤ [py "main.py"] ↔
      parts = [py "main.py"] ∨ ∃ directory rest, parts = directory :: rest ∧
        directory < py "main.py" := by
  cases parts with
  | nil => cases hlast
  | cons directory rest =>
      rw [cons_le_cons_iff]
      constructor
      · rintro (hlt | ⟨rfl, hrest⟩)
        · exact .inr ⟨directory, rest, rfl, hlt⟩
        · left
          cases rest with
          | nil => rfl
          | cons part rest =>
              rcases hrest.lt_or_eq with hlt | heq
              · cases hlt
              · cases heq
      · rintro (heq | ⟨_, _, heq, hlt⟩)
        · rw [List.cons.injEq] at heq
          exact .inr ⟨heq.1, heq.2.le⟩
        · rw [(List.cons.inj heq).1]
          exact .inl hlt

/-- Of the paths that end in `main.py`, only the one at the root is written so. -/
theorem asPosix_eq_main_iff {file : FileBelow} (hrecognised : file.Recognised)
    (hlast : file.parts.getLastD [] = py "main.py") :
    asPosix file.parts = py "main.py" ↔ file.parts = [py "main.py"] := by
  constructor
  · intro hposix
    have hlength := (getLastD_eq_asPosix_iff (parts_ne_nil hrecognised)).1
      (hlast.trans hposix.symm)
    obtain ⟨part, hpart⟩ := List.length_eq_one_iff.1 hlength
    rw [hpart] at hlast ⊢
    rw [show part = py "main.py" from hlast]
  · intro hparts
    rw [hparts, asPosix_singleton]

/-- A `main.py` at the root is shadowed when the least one is another. -/
theorem shadowedMain_iff_of_least {below : List FileBelow} {main : FileBelow}
    (hmain : main ∈ recognisedFiles below) (hlast : main.parts.getLastD [] = py "main.py")
    (hleast : ∀ file ∈ recognisedFiles below, file.parts.getLastD [] = py "main.py" →
      main.parts ≤ file.parts) :
    ShadowedMain below ↔
      (∃ file ∈ recognisedFiles below, file.parts = [py "main.py"]) ∧
        main.parts ≠ [py "main.py"] := by
  constructor
  · rintro ⟨hrootMain, file, hfile, directory, rest, hparts, hfileLast, hlt⟩
    refine ⟨hrootMain, fun hself => ?_⟩
    have hle := hleast file hfile hfileLast
    rw [hself, hparts, cons_le_cons_iff] at hle
    rcases hle with hgt | ⟨heq, -⟩
    · exact lt_asymm hlt hgt
    · exact hlt.ne heq.symm
  · rintro ⟨⟨file, hfile, hparts⟩, hself⟩
    have hle := hleast file hfile (congrArg (·.getLastD []) hparts)
    rw [hparts, le_mainParts_iff hlast] at hle
    obtain ⟨directory, rest, hmainParts, hlt⟩ := hle.resolve_left hself
    exact ⟨⟨file, hfile, hparts⟩, main, hmain, directory, rest, hmainParts, hlast, hlt⟩

/-- The `main.py` at the root is the entry exactly when no other comes before it. -/
theorem describeUnit_rootMain_iff {root : Path} {relParts : List PyStr} {unit : UnitEntry}
    {below : List FileBelow} (hbelow : unit.below = some below)
    (hpython : ∀ file ∈ recognisedFiles below,
      languageOf (file.parts.getLastD []) = some .python)
    (hmany : 2 ≤ (recognisedFiles below).length) (expected : PyStr) :
    ∃ solution, describeUnit rt root relParts unit expected = .ok (.ok solution) ∧
      (RootMainWins below solution ↔ ¬ShadowedMain below) := by
  obtain ⟨solution, hdescribed, hentry⟩ : ∃ solution,
      describeUnit rt root relParts unit expected = .ok (.ok solution) ∧ _ :=
    describeUnit_python_directory hbelow hpython hmany expected
  refine ⟨solution, hdescribed, ?_⟩
  rcases pythonEntry_main (root ++ relParts) hmany with
    ⟨main, hmain, hlast, hleast, hpythonEntry⟩ | ⟨hnone, message, hpythonEntry⟩
  · obtain ⟨hentry, herror⟩ := Prod.ext_iff.1 (hentry.trans hpythonEntry)
    have hreported : solution.error = none ↔
        ∃ file ∈ recognisedFiles below, file.parts.getLastD [] = py "main.py" :=
      iff_of_true herror ⟨main, hmain, hlast⟩
    have hchosen : solution.entry = py "main.py" ↔ main.parts = [py "main.py"] := by
      rw [show solution.entry = asPosix main.parts from hentry]
      exact asPosix_eq_main_iff (mem_recognisedFiles.1 hmain).2 hlast
    rw [RootMainWins, hchosen, shadowedMain_iff_of_least hmain hlast hleast, not_and_not_right]
    exact and_iff_right hreported
  · obtain ⟨-, herror⟩ := Prod.ext_iff.1 (hentry.trans hpythonEntry)
    have hnoRoot : ¬∃ file ∈ recognisedFiles below, file.parts = [py "main.py"] := by
      rintro ⟨file, hfile, hparts⟩
      exact hnone file hfile (congrArg (·.getLastD []) hparts)
    apply iff_of_true
    · refine ⟨iff_of_false ?_ ?_, fun hrootMain => absurd hrootMain hnoRoot⟩
      · rw [show solution.error = some message from herror]
        exact Option.some_ne_none message
      · rintro ⟨file, hfile, hmain⟩
        exact hnone file hfile hmain
    · rintro ⟨hrootMain, -⟩
      exact hnoRoot hrootMain

/-- `zlib/main.py` comes after the `main.py` at the root. -/
theorem describeUnit_rootMain_zlib :
    ∃ solution, describeUnit Runtime.ascii [py "solutions"] [py "accepted", py "greedy"]
        (greedyUnit [[py "main.py"], [py "zlib", py "main.py"]]) (py "accepted") =
        .ok (.ok solution) ∧
      RootMainWins (filesBelow [[py "main.py"], [py "zlib", py "main.py"]]) solution := by
  have hbelow : (greedyUnit [[py "main.py"], [py "zlib", py "main.py"]]).below =
      some (filesBelow [[py "main.py"], [py "zlib", py "main.py"]]) := rfl
  obtain ⟨solution, hdescribed, hiff⟩ := describeUnit_rootMain_iff hbelow (by decide +kernel)
    (by decide +kernel) (py "accepted")
  refine ⟨solution, hdescribed, hiff.2 ?_⟩
  rintro ⟨-, file, hfile, directory, rest, hparts, -, hlt⟩
  have hfirst : ∀ file ∈ recognisedFiles (filesBelow [[py "main.py"], [py "zlib", py "main.py"]]),
      ¬file.parts.headD [] < py "main.py" := by decide +kernel
  apply hfirst file hfile
  rw [hparts]
  exact hlt

/-- `lib/main.py` comes before it and is chosen. -/
theorem describeUnit_rootMain_lib :
    describeUnit Runtime.ascii [py "solutions"] [py "accepted", py "greedy"]
        (greedyUnit [[py "main.py"], [py "lib", py "main.py"]]) (py "accepted") =
        .ok (.ok (greedySolution [[py "lib", py "main.py"], [py "main.py"]]
          (py "lib/main.py"))) ∧
      ¬RootMainWins (filesBelow [[py "main.py"], [py "lib", py "main.py"]])
        (greedySolution [[py "lib", py "main.py"], [py "main.py"]] (py "lib/main.py")) := by
  refine ⟨by decide +kernel, fun hwins => ?_⟩
  have hentry : py "lib/main.py" = py "main.py" :=
    hwins.2 ⟨⟨[py "main.py"], true, .ok []⟩,
      List.mem_filter.2 ⟨List.mem_cons_self, by decide⟩, rfl⟩
  exact absurd hentry (by decide)

end IcpcVerify.Solutions
