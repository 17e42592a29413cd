import IcpcVerify.Core.FallibleRun
import IcpcVerify.Package
import IcpcVerify.Verdicts

/-!
# Discovering solutions

A solution is a file or a directory directly below a verdict directory of
`solutions/`.  A unit that cannot be used is skipped with a warning; one whose
entry point is unclear is a solution with an error.
-/

namespace IcpcVerify.Solutions

open IcpcVerify.Python
open IcpcVerify.FallibleRun

/-! ## The tree that is read -/

/-- An entry that `rglob("*")` finds below a directory. -/
structure FileBelow where
  parts : List PyStr
  isFile : Bool
  content : PyM Bytes

/-- A unit: the entries below it if it is a directory, and what reading it gives. -/
structure UnitEntry where
  name : PyStr
  below : Option (List FileBelow)
  content : PyM Bytes

/-- A direct child of `solutions/`, with its entries if it is a directory. -/
structure VerdictEntry where
  name : PyStr
  units : Option (List UnitEntry)

/-! ## Names and suffixes -/

/-- `Path.as_posix` of a relative path. -/
def asPosix (parts : List PyStr) : PyStr :=
  List.intercalate (py "/") parts

/-- `str` of an absolute path. -/
def strPath (path : Path) : PyStr :=
  py "/" ++ asPosix path

/-- A name cut at its last dot, when something stands on both sides of it: stem,
and suffix with the dot. -/
def cutSuffix (name : PyStr) : PyStr × PyStr :=
  match name.reverse.span (· ≠ ord '.') with
  | (extension, _ :: stem) =>
      if extension ≠ [] ∧ stem ≠ [] then (stem.reverse, ord '.' :: extension.reverse)
      else (name, [])
  | (_, []) => (name, [])

def extensions : List (PyStr × Language) :=
  [(py ".cpp", .cpp), (py ".cc", .cpp), (py ".cxx", .cpp), (py ".C", .cpp),
    (py ".c", .c), (py ".java", .java), (py ".py", .python)]

/-- `_language_of`. -/
def languageOf (name : PyStr) : Option Language :=
  extensions.lookup (cutSuffix name).2

/-- The class `[A-Za-z0-9._-]`. -/
def isSafe (c : CodePoint) : Bool :=
  (ord 'A' ≤ c ∧ c ≤ ord 'Z') || (ord 'a' ≤ c ∧ c ≤ ord 'z') ||
    (ord '0' ≤ c ∧ c ≤ ord '9') || c = ord '.' || c = ord '_' || c = ord '-'

def sanitizeName (relPath : PyStr) : PyStr :=
  relPath.map fun c => if isSafe c then c else ord '_'

/-! ## Entry points -/

/-- A source file with its absolute path. -/
structure Source where
  path : Path
  content : PyM Bytes

/-- `Path.name`. -/
def Source.name (source : Source) : PyStr :=
  source.path.getLastD []

/-- `\s+`, as far as it goes. -/
def someSpace : PyStr → Option PyStr
  | [] => none
  | c :: rest => if isSpace c then some (rest.dropWhile isSpace) else none

/-- `public\s+static\s+void\s+main\s*\(\s*String` at the start of a text.  No word
of it starts with a space, so the match needs no backtracking. -/
def startsJavaMain (text : PyStr) : Bool :=
  Option.isSome do
    let text ← text.dropPrefix? (py "public")
    let text ← someSpace text
    let text ← text.dropPrefix? (py "static")
    let text ← someSpace text
    let text ← text.dropPrefix? (py "void")
    let text ← someSpace text
    let text ← text.dropPrefix? (py "main")
    let text ← (text.dropWhile isSpace).dropPrefix? (py "(")
    (text.dropWhile isSpace).dropPrefix? (py "String")

/-- `JAVA_MAIN_RE.search`. -/
def hasJavaMain (text : PyStr) : Bool :=
  text.tails.any startsJavaMain

variable (rt : Runtime)

/-- Entry of a Java solution, or an error. -/
def javaEntry (sources : List Source) : PyM (PyStr × Option PyStr) := do
  let mains ← sources.filterM fun source => do
    let content ← source.content
    return hasJavaMain (rt.decodeReplace content)
  match mains with
  | [] => return ([], some (py "java main 메서드를 가진 파일을 찾지 못했습니다"))
  | [main] => return ((cutSuffix main.name).1, none)
  | mains =>
      return ([], some (py "java main 메서드가 여러 파일에 있습니다: " ++
        List.intercalate (py ", ") (mains.map Source.name)))

/-- Entry of a Python solution below `root`, or an error. -/
def pythonEntry (sources : List Source) (root : Path) : PyStr × Option PyStr :=
  match sources with
  | [source] => (source.name, none)
  | sources =>
      match sources.find? fun source => source.name = py "main.py" with
      | some main => (asPosix (main.path.drop root.length), none)
      | none => ([], some (py "python 소스가 여러 개면 main.py 가 있어야 합니다"))

/-! ## Units -/

/-- The recognised files below a directory, in path order. -/
def sourcesBelow (path : Path) (below : List FileBelow) : List Source :=
  let recognised := below.filter fun file =>
    file.isFile ∧ (languageOf (file.parts.getLastD [])).isSome
  (recognised.map fun file => ⟨path ++ file.parts, file.content⟩).insertionSort
    fun first second => first.path ≤ second.path

/-- The languages of the sources, without repetition. -/
def languagesOf (sources : List Source) : List Language :=
  (sources.filterMap fun source => languageOf source.name).dedup

def mixedLanguagesError (languages : List Language) : PyStr :=
  py "한 solution 에 두 언어가 섞였습니다: " ++
    List.intercalate (py ", ") ((languages.map Language.value).insertionSort (· ≤ ·))

/-- Entry of a solution in one language, or an error. -/
def entryOf (language : Option Language) (sources : List Source) (sourceRoot : Path) :
    PyM (PyStr × Option PyStr) :=
  match language with
  | some .java => javaEntry rt sources
  | some .python => return pythonEntry sources sourceRoot
  | _ => return ([], none)

/-- A solution with the given sources. -/
def describeSources (path : Path) (relPath expected : PyStr) (sources : List Source)
    (sourceRoot : Path) : PyM Solution :=
  if (languagesOf sources).length > 1 then
    return {
      name := sanitizeName relPath, relPath, path, expected
      language := none
      sources := sources.map Source.path
      entry := []
      error := some (mixedLanguagesError (languagesOf sources)) }
  else do
    let language := (languagesOf sources).head?
    let entry ← entryOf rt language sources sourceRoot
    return {
      name := sanitizeName relPath, relPath, path, expected, language
      sources := sources.map Source.path
      entry := entry.1
      error := entry.2 }

/-- `describe_unit` for the unit at `root/relParts`: a solution, or a warning that
it is skipped. -/
def describeUnit (root : Path) (relParts : List PyStr) (unit : UnitEntry)
    (expected : PyStr) : PyM (Except PyStr Solution) :=
  match unit.below with
  | some below =>
      let sources := sourcesBelow (root ++ relParts) below
      if sources.isEmpty then
        return .error (py "소스 파일이 없습니다. 건너뜁니다: " ++ asPosix relParts)
      else do
        let solution ← describeSources rt (root ++ relParts) (asPosix relParts) expected
          sources (root ++ relParts)
        return .ok solution
  | none =>
      if languageOf unit.name = none then
        return .error (py "지원하지 않는 확장자입니다. 건너뜁니다: " ++ asPosix relParts)
      else do
        let solution ← describeSources rt (root ++ relParts) (asPosix relParts) expected
          [⟨root ++ relParts, unit.content⟩] (root ++ relParts.dropLast)
        return .ok solution

/-! ## The whole directory -/

/-- One round of the loop over the units of a verdict directory. -/
def discoverUnit (root : Path) (filterGlob verdict : PyStr)
    (discovered : List Solution × List PyStr) (unit : UnitEntry) :
    PyM (List Solution × List PyStr) := do
  match ← describeUnit rt root [verdict, unit.name] unit verdict with
  | .error warning => return (discovered.1, discovered.2 ++ [warning])
  | .ok solution =>
      if filterGlob ≠ [] ∧ !rt.fnmatch solution.relPath filterGlob then return discovered
      else return (discovered.1 ++ [solution], discovered.2)

/-- One round of the loop over the children of `solutions/`. -/
def discoverChild (root : Path) (filterGlob : PyStr)
    (discovered : List Solution × List PyStr) (child : VerdictEntry) :
    PyM (List Solution × List PyStr) :=
  match child.units with
  | none => return (discovered.1, discovered.2 ++
      [py "solutions/ 바로 아래의 파일은 무시합니다: " ++ child.name])
  | some units =>
      if child.name ∉ expectedVerdicts then
        return (discovered.1, discovered.2 ++
          [py "알 수 없는 verdict 디렉토리입니다. 건너뜁니다: solutions/" ++ child.name])
      else
        (units.insertionSort fun first second => first.name ≤ second.name).foldlM
          (discoverUnit rt root filterGlob child.name) discovered

/-- `discover_solutions` over the children of `solutions/`; `none` when there is no
such directory. -/
def discoverSolutions (problemDir : Path) (children : Option (List VerdictEntry))
    (filterGlob : PyStr) : PyM (List Solution × List PyStr) :=
  let root := problemDir ++ [py "solutions"]
  match children with
  | none => return ([], [py "solutions/ 디렉토리가 없습니다: " ++ strPath root])
  | some children =>
      (children.insertionSort fun first second => first.name ≤ second.name).foldlM
        (discoverChild rt root filterGlob) ([], [])

/-! ## Where a solution was found -/

variable {rt}

theorem describeSources_expected {path : Path} {relPath expected : PyStr}
    {sources : List Source} {sourceRoot : Path} {solution : Solution}
    (hdescribed : describeSources rt path relPath expected sources sourceRoot =
      .ok solution) : solution.expected = expected := by
  rw [describeSources] at hdescribed
  split_ifs at hdescribed
  · rw [← Except.ok.inj hdescribed]
  · obtain ⟨entry, -, hsolution⟩ := bind_eq_ok_iff.1 hdescribed
    rw [← Except.ok.inj hsolution]

/-- A unit keeps the verdict it was found under. -/
theorem describeUnit_expected {root : Path} {relParts : List PyStr} {unit : UnitEntry}
    {expected : PyStr} {solution : Solution}
    (hdescribed : describeUnit rt root relParts unit expected = .ok (.ok solution)) :
    solution.expected = expected := by
  rw [describeUnit] at hdescribed
  split at hdescribed
  · dsimp only at hdescribed
    split_ifs at hdescribed
    · cases hdescribed
    · obtain ⟨found, hsources, hfound⟩ := bind_eq_ok_iff.1 hdescribed
      rw [← Except.ok.inj (Except.ok.inj hfound)]
      exact describeSources_expected hsources
  · split_ifs at hdescribed
    · cases hdescribed
    · obtain ⟨found, hsources, hfound⟩ := bind_eq_ok_iff.1 hdescribed
      rw [← Except.ok.inj (Except.ok.inj hfound)]
      exact describeSources_expected hsources

/-- Every solution found so far has the property. -/
def AllFound (P : Solution → Prop) (discovered : List Solution × List PyStr) : Prop :=
  ∀ solution ∈ discovered.1, P solution

variable {P : Solution → Prop}

theorem discoverUnit_allFound {root : Path} {filterGlob verdict : PyStr}
    {discovered discovered' : List Solution × List PyStr} {unit : UnitEntry}
    (hunit : ∀ solution,
      describeUnit rt root [verdict, unit.name] unit verdict = .ok (.ok solution) → P solution)
    (hfound : AllFound P discovered)
    (hround : discoverUnit rt root filterGlob verdict discovered unit = .ok discovered') :
    AllFound P discovered' := by
  obtain ⟨described, hdescribed, hrest⟩ := bind_eq_ok_iff.1 hround
  cases described with
  | error warning =>
      rw [← Except.ok.inj hrest]
      exact hfound
  | ok solution =>
      dsimp only at hrest
      split_ifs at hrest
      · rwa [← Except.ok.inj hrest]
      · rw [← Except.ok.inj hrest]
        intro found hmem
        rcases List.mem_append.1 hmem with hbefore | hnew
        · exact hfound found hbefore
        · rw [List.mem_singleton.1 hnew]
          exact hunit solution hdescribed

theorem discoverChild_allFound {root : Path} {filterGlob : PyStr}
    {discovered discovered' : List Solution × List PyStr} {child : VerdictEntry}
    (hunits : child.name ∈ expectedVerdicts → ∀ unit ∈ child.units.getD [], ∀ solution,
      describeUnit rt root [child.name, unit.name] unit child.name = .ok (.ok solution) →
        P solution)
    (hfound : AllFound P discovered)
    (hround : discoverChild rt root filterGlob discovered child = .ok discovered') :
    AllFound P discovered' := by
  rw [discoverChild] at hround
  split at hround
  · rw [← Except.ok.inj hround]
    exact hfound
  · next units hentries =>
    rw [hentries] at hunits
    split_ifs at hround with hknown
    · apply foldlM_invariant (AllFound P) _ hfound hround
      intro unit hunit before after
      exact discoverUnit_allFound (hunits hknown unit (List.mem_insertionSort _ |>.1 hunit))
    · rw [← Except.ok.inj hround]
      exact hfound

/-- What holds of every unit of a verdict directory that is described as a solution
holds of every discovered solution. -/
theorem discoverSolutions_forall (P : Solution → Prop) {problemDir : Path}
    {children : Option (List VerdictEntry)} {filterGlob : PyStr} {found : List Solution}
    {warnings : List PyStr}
    (hunits : ∀ child ∈ children.getD [], child.name ∈ expectedVerdicts →
      ∀ unit ∈ child.units.getD [], ∀ solution,
        describeUnit rt (problemDir ++ [py "solutions"]) [child.name, unit.name] unit
          child.name = .ok (.ok solution) → P solution)
    (hdiscovered : discoverSolutions rt problemDir children filterGlob =
      .ok (found, warnings)) : ∀ solution ∈ found, P solution := by
  have hnone : AllFound P ([], []) := fun solution hsolution => by cases hsolution
  unfold discoverSolutions at hdiscovered
  cases children with
  | none =>
      obtain rfl : [] = found := congrArg Prod.fst (Except.ok.inj hdiscovered)
      exact hnone
  | some children =>
      apply foldlM_invariant (AllFound P) _ hnone hdiscovered
      intro child hchild before after
      exact discoverChild_allFound (hunits child (List.mem_insertionSort _ |>.1 hchild))

/-- Every discovered solution is expected to get one of the four verdicts. -/
theorem discoverSolutions_expected {problemDir : Path}
    {children : Option (List VerdictEntry)} {filterGlob : PyStr} {found : List Solution}
    {warnings : List PyStr}
    (hdiscovered : discoverSolutions rt problemDir children filterGlob =
      .ok (found, warnings)) : ∀ solution ∈ found, solution.expected ∈ expectedVerdicts := by
  apply discoverSolutions_forall (fun solution => solution.expected ∈ expectedVerdicts) _
    hdiscovered
  intro child _ hknown unit _ solution hdescribed
  rwa [describeUnit_expected hdescribed]

end IcpcVerify.Solutions
