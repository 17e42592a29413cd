import IcpcVerify.Core.Sorting
import IcpcVerify.Solutions.Paths

/-!
# Collecting testcases

`collect_testcases` finds every path below `data/` whose name ends in `.in`, and pairs it
with the `.ans` file next to it.  It takes directories for inputs too, and a name that is
nothing but `.in` has no suffix to replace; without these, the collection is exact.
-/

namespace IcpcVerify.Testdata

open IcpcVerify.Python
open IcpcVerify.Solutions
open IcpcVerify.FallibleRun
open IcpcVerify.Sorting

def testDataError (message : PyStr) : PyError :=
  ⟨.testData, message⟩

/-! ## The tree that is read -/

/-- An entry below `data/`, by the parts of its path from there. -/
structure DataEntry where
  parts : List PyStr
  isFile : Bool
  deriving DecidableEq

/-- `Path.name`. -/
def DataEntry.name (entry : DataEntry) : PyStr :=
  entry.parts.getLastD []

/-- The tree below `data/`: no path occurs twice, and a part of a path has no slash. -/
structure DataDir where
  entries : List DataEntry
  distinct : (entries.map DataEntry.parts).Nodup
  below : ∀ entry ∈ entries, entry.parts ≠ []
  slashless : ∀ entry ∈ entries, ∀ part ∈ entry.parts, ord '/' ∉ part

namespace DataDir

variable (data : DataDir)

/-- `rglob("*.in")`. -/
def rglobIn : List DataEntry :=
  data.entries.filter fun entry => py ".in" <:+ entry.name

/-- `Path.is_file` of a path below `data/`. -/
def isFile (parts : List PyStr) : Bool :=
  data.entries.any fun entry => entry.isFile ∧ entry.parts = parts

end DataDir

/-! ## Collecting -/

/-- `Path.with_suffix`. -/
def withSuffix (parts : List PyStr) (suffix : PyStr) : List PyStr :=
  parts.dropLast ++ [(cutSuffix (parts.getLastD [])).1 ++ suffix]

/-- One round of the loop over the inputs. -/
def collectCase (dataDir : Path) (data : DataDir) (entry : DataEntry) : PyM TestCase :=
  let rel := withSuffix entry.parts []
  let answer := withSuffix entry.parts (py ".ans")
  if data.isFile answer then
    return {
      id := asPosix rel
      group := if rel.dropLast = [] then [] else asPosix rel.dropLast
      inputPath := dataDir ++ entry.parts
      answerPath := dataDir ++ answer }
  else
    throw (testDataError
      (asPosix rel ++ py " 의 .ans 파일이 없습니다: " ++ strPath (dataDir ++ answer)))

/-- `collect_testcases`; `none` when `data/` is no directory. -/
def collectTestcases (problemDir : Path) (data : Option DataDir) : PyM (List TestCase) :=
  let dataDir := problemDir ++ [py "data"]
  match data with
  | none => throw (testDataError (py "data/ 디렉토리가 없습니다: " ++ strPath dataDir))
  | some data => do
      let inputs := data.rglobIn.insertionSort fun first second =>
        dataDir ++ first.parts ≤ dataDir ++ second.parts
      let cases ← inputs.mapM (collectCase dataDir data)
      if cases.isEmpty then
        throw (testDataError (py "testcase 를 찾지 못했습니다: " ++ strPath dataDir))
      else return cases

/-! ## What is to be collected -/

/-- A regular file whose name ends in `.in`. -/
def DataEntry.IsInput (entry : DataEntry) : Prop :=
  entry.isFile = true ∧ py ".in" <:+ entry.name

instance (entry : DataEntry) : Decidable entry.IsInput :=
  inferInstanceAs (Decidable (_ ∧ _))

/-- The name of an input without its `.in`. -/
def DataEntry.baseName (entry : DataEntry) : PyStr :=
  entry.name.rdrop 3

/-- The path of an input with `.in` replaced by `.ans`. -/
def DataEntry.answerParts (entry : DataEntry) : List PyStr :=
  entry.parts.dropLast ++ [entry.baseName ++ py ".ans"]

/-- There is no input, or one without its answer. -/
def ErrorDue (data : DataDir) : Prop :=
  (∀ entry ∈ data.entries, ¬entry.IsInput) ∨
    ∃ entry ∈ data.entries, entry.IsInput ∧ data.isFile entry.answerParts = false

instance (data : DataDir) : Decidable (ErrorDue data) :=
  inferInstanceAs (Decidable (_ ∨ _))

/-- The testcase of an input: it, its answer, and the directory of both. -/
structure IsCaseOf (dataDir : Path) (data : DataDir) (entry : DataEntry) (case : TestCase) :
    Prop where
  inputPath : case.inputPath = dataDir ++ entry.parts
  answerPath : case.answerPath = dataDir ++ entry.answerParts
  answerIsFile : data.isFile entry.answerParts = true
  group : case.group = asPosix entry.parts.dropLast

/-- The cases are those of the inputs, one for each, and in order. -/
structure Collected (dataDir : Path) (data : DataDir) (cases : List TestCase) : Prop where
  exact : ∃ inputs, inputs.Perm (data.entries.filter DataEntry.IsInput) ∧
    List.Forall₂ (IsCaseOf dataDir data) inputs cases
  ascending : (cases.map TestCase.inputPath).Pairwise (· < ·)
  ids : (cases.map TestCase.id).Nodup

/-- The collection raises exactly when an error is due, and is exact otherwise. -/
def CollectsExactly (problemDir : Path) (data : DataDir) : Prop :=
  (ErrorDue data →
      ∃ message, collectTestcases problemDir (some data) = .error (testDataError message)) ∧
    (¬ErrorDue data → ∃ cases, collectTestcases problemDir (some data) = .ok cases ∧
      Collected (problemDir ++ [py "data"]) data cases)

/-! ## What is collected -/

variable {data : DataDir} {dataDir problemDir : Path}

theorem mem_rglobIn {entry : DataEntry} :
    entry ∈ data.rglobIn ↔ entry ∈ data.entries ∧ py ".in" <:+ entry.name := by
  simp [DataDir.rglobIn, List.mem_filter]

/-- The code looks for an answer in vain. -/
def Unanswered (data : DataDir) (entry : DataEntry) : Prop :=
  data.isFile (withSuffix entry.parts (py ".ans")) = false

theorem collectCase_of_unanswered {entry : DataEntry} (hentry : Unanswered data entry) :
    ∃ message, collectCase dataDir data entry = .error (testDataError message) := by
  rw [collectCase, hentry]
  exact ⟨_, rfl⟩

theorem withSuffix_dropLast (parts : List PyStr) (suffix : PyStr) :
    (withSuffix parts suffix).dropLast = parts.dropLast :=
  List.dropLast_concat

theorem collectCase_eq_ok {entry : DataEntry} {case : TestCase}
    (hcollected : collectCase dataDir data entry = .ok case) :
    ¬Unanswered data entry ∧ case.id = asPosix (withSuffix entry.parts []) ∧
      case.group = asPosix entry.parts.dropLast ∧ case.inputPath = dataDir ++ entry.parts ∧
        case.answerPath = dataDir ++ withSuffix entry.parts (py ".ans") := by
  rw [collectCase] at hcollected
  by_cases hanswer : data.isFile (withSuffix entry.parts (py ".ans")) = true
  · rw [if_pos hanswer] at hcollected
    rw [← Except.ok.inj hcollected]
    refine ⟨?_, rfl, ?_, rfl, rfl⟩
    · rw [Unanswered, hanswer]
      decide
    · rw [withSuffix_dropLast]
      split_ifs with htop
      · rw [htop]
        rfl
      · rfl
  · rw [if_neg hanswer] at hcollected
    cases hcollected

/-- The inputs in the order in which they are paired. -/
def inputsOf (dataDir : Path) (data : DataDir) : List DataEntry :=
  data.rglobIn.insertionSort fun first second =>
    dataDir ++ first.parts ≤ dataDir ++ second.parts

theorem mem_inputsOf {entry : DataEntry} :
    entry ∈ inputsOf dataDir data ↔ entry ∈ data.rglobIn :=
  List.mem_insertionSort _

/-- The code has a reason to raise. -/
def Raises (data : DataDir) : Prop :=
  data.rglobIn = [] ∨ ∃ entry ∈ data.rglobIn, Unanswered data entry

/-- A collection that returned has made a case of every path found. -/
theorem collectTestcases_eq_ok {cases : List TestCase}
    (hcollected : collectTestcases problemDir (some data) = .ok cases) :
    ¬Raises data ∧
      List.Forall₂ (fun entry case =>
          collectCase (problemDir ++ [py "data"]) data entry = .ok case)
        (inputsOf (problemDir ++ [py "data"]) data) cases := by
  obtain ⟨found, hfound, hreturned⟩ := bind_eq_ok_iff.1 hcollected
  have hcases := forall₂_of_mapM_eq_ok hfound
  split_ifs at hreturned with hempty
  rw [← Except.ok.inj hreturned]
  refine ⟨?_, hcases⟩
  rintro (hnone | ⟨entry, hentry, hunanswered⟩)
  · rw [hnone] at hcases
    cases hcases
    exact hempty rfl
  · obtain ⟨message, hraised⟩ := collectCase_of_unanswered hunanswered
    have hmem : entry ∈ inputsOf (problemDir ++ [py "data"]) data := mem_inputsOf.2 hentry
    obtain ⟨case, -, hcase⟩ := exists_of_forall₂ hcases hmem
    rw [hraised] at hcase
    cases hcase

theorem collectTestcases_eq_error {exc : PyError}
    (hraised : collectTestcases problemDir (some data) = .error exc) :
    Raises data ∧ ∃ message, exc = testDataError message := by
  rcases bind_eq_error_iff.1 hraised with hround | ⟨cases, hcases, hrest⟩
  · obtain ⟨entry, hentry, hcase⟩ := exists_of_mapM_eq_error hround
    rw [collectCase] at hcase
    by_cases hanswer : data.isFile (withSuffix entry.parts (py ".ans")) = true
    · rw [if_pos hanswer] at hcase
      cases hcase
    · rw [if_neg hanswer] at hcase
      refine ⟨.inr ⟨entry, mem_inputsOf.1 hentry, ?_⟩, _, (Except.error.inj hcase).symm⟩
      simpa [Unanswered] using hanswer
  · split_ifs at hrest with hempty
    · refine ⟨.inl ?_, _, (Except.error.inj hrest).symm⟩
      have hlength := (forall₂_of_mapM_eq_ok hcases).length_eq
      rw [List.isEmpty_iff.1 hempty, List.length_insertionSort] at hlength
      exact List.length_eq_zero_iff.1 hlength
    · cases hrest

/-- The collection raises exactly when the code has a reason to. -/
theorem collectTestcases_raises_iff :
    (∃ message, collectTestcases problemDir (some data) = .error (testDataError message)) ↔
      Raises data := by
  constructor
  · rintro ⟨message, hraised⟩
    exact (collectTestcases_eq_error hraised).1
  · intro hreason
    cases hcollected : collectTestcases problemDir (some data) with
    | error exc =>
        obtain ⟨-, message, rfl⟩ := collectTestcases_eq_error hcollected
        exact ⟨message, rfl⟩
    | ok cases => exact absurd hreason (collectTestcases_eq_ok hcollected).1

/-! ## Plain inputs -/

/-- A regular file, with something before its `.in`. -/
def DataEntry.Plain (entry : DataEntry) : Prop :=
  entry.isFile = true ∧ entry.name ≠ py ".in"

/-- Cutting the suffix off a name that ends in `.in`. -/
theorem cutSuffix_in (stem : PyStr) :
    cutSuffix (stem ++ py ".in") = if stem = [] then (py ".in", []) else (stem, py ".in") := by
  have hreverse : (stem ++ py ".in").reverse = ord 'n' :: ord 'i' :: ord '.' :: stem.reverse := by
    rw [List.reverse_append]
    rfl
  have hspan : (ord 'n' :: ord 'i' :: ord '.' :: stem.reverse).span (· ≠ ord '.') =
      ([ord 'n', ord 'i'], ord '.' :: stem.reverse) := by
    rw [List.span_eq_takeWhile_dropWhile]
    have hn : ord 'n' ≠ ord '.' := by decide
    have hi : ord 'i' ≠ ord '.' := by decide
    simp [hn, hi]
  rw [cutSuffix, hreverse, hspan]
  by_cases hstem : stem = []
  · rw [if_pos hstem, hstem]
    rfl
  · simp only [List.reverse_eq_nil_iff, hstem, ne_eq, reduceCtorEq, not_false_iff, and_self,
      if_true, if_false, List.reverse_reverse]
    rfl

theorem name_eq {entry : DataEntry} (hentry : py ".in" <:+ entry.name) :
    entry.name = entry.baseName ++ py ".in" := by
  obtain ⟨stem, hstem⟩ := hentry
  have hlength : (py ".in").length = 3 := rfl
  rw [DataEntry.baseName, ← hstem, ← hlength, List.rdrop_append_length]

/-- The suffix of a plain input is its `.in`. -/
theorem withSuffix_of_plain {entry : DataEntry} (hsuffix : py ".in" <:+ entry.name)
    (hplain : entry.Plain) (suffix : PyStr) :
    withSuffix entry.parts suffix = entry.parts.dropLast ++ [entry.baseName ++ suffix] := by
  have hname := name_eq hsuffix
  have hbase : entry.baseName ≠ [] := by
    intro hnil
    rw [hnil] at hname
    exact hplain.2 hname
  have hcut : cutSuffix entry.name = (entry.baseName, py ".in") := by
    rw [hname, cutSuffix_in, if_neg hbase]
  rw [withSuffix, ← DataEntry.name, hcut]

/-- Every path found is a plain input. -/
def AllPlain (data : DataDir) : Prop :=
  ∀ entry ∈ data.rglobIn, entry.Plain

theorem rglobIn_eq_filter (hplain : AllPlain data) :
    data.rglobIn = data.entries.filter DataEntry.IsInput := by
  apply List.filter_congr
  intro entry hentry
  rw [decide_eq_decide]
  constructor
  · intro hsuffix
    exact ⟨(hplain entry (mem_rglobIn.2 ⟨hentry, hsuffix⟩)).1, hsuffix⟩
  · exact fun hinput => hinput.2

theorem unanswered_iff (hplain : AllPlain data) {entry : DataEntry}
    (hentry : entry ∈ data.rglobIn) :
    Unanswered data entry ↔ data.isFile entry.answerParts = false := by
  rw [Unanswered, withSuffix_of_plain (mem_rglobIn.1 hentry).2 (hplain entry hentry),
    ← DataEntry.answerParts]

/-- Among plain inputs the code raises when it should. -/
theorem raises_iff_of_plain (hplain : AllPlain data) : Raises data ↔ ErrorDue data := by
  have hmem : ∀ entry, entry ∈ data.rglobIn ↔ entry ∈ data.entries ∧ entry.IsInput := by
    intro entry
    rw [rglobIn_eq_filter hplain, List.mem_filter, decide_eq_true_iff]
  rw [Raises, ErrorDue, List.eq_nil_iff_forall_not_mem]
  constructor
  · rintro (hnone | ⟨entry, hentry, hunanswered⟩)
    · exact .inl fun entry hentry hinput => hnone entry ((hmem entry).2 ⟨hentry, hinput⟩)
    · obtain ⟨hbelow, hinput⟩ := (hmem entry).1 hentry
      exact .inr ⟨entry, hbelow, hinput, (unanswered_iff hplain hentry).1 hunanswered⟩
  · rintro (hnone | ⟨entry, hbelow, hinput, hmissing⟩)
    · exact .inl fun entry hentry => hnone entry ((hmem entry).1 hentry).1
        ((hmem entry).1 hentry).2
    · have hentry := (hmem entry).2 ⟨hbelow, hinput⟩
      exact .inr ⟨entry, hentry, (unanswered_iff hplain hentry).2 hmissing⟩

/-! ## Identifiers -/

theorem parts_eq {entry : DataEntry} (hne : entry.parts ≠ []) (hsuffix : py ".in" <:+ entry.name) :
    entry.parts = entry.parts.dropLast ++ [entry.baseName ++ py ".in"] := by
  rw [← name_eq hsuffix, DataEntry.name, List.getLastD_eq_getLast?,
    List.getLast?_eq_some_getLast hne, Option.getD_some, List.dropLast_concat_getLast]

/-- Plain inputs with the same identifier are the same. -/
theorem id_injective (hplain : AllPlain data) {entry entry' : DataEntry}
    (hentry : entry ∈ data.rglobIn) (hentry' : entry' ∈ data.rglobIn)
    (heq : asPosix (withSuffix entry.parts []) = asPosix (withSuffix entry'.parts [])) :
    entry.parts = entry'.parts := by
  have hsplit : ∀ entry ∈ data.rglobIn, (asPosix (withSuffix entry.parts [])).splitOn (ord '/') =
      entry.parts.dropLast ++ [entry.baseName] := by
    intro entry hentry
    obtain ⟨hbelow, hsuffix⟩ := mem_rglobIn.1 hentry
    rw [withSuffix_of_plain hsuffix (hplain entry hentry), List.append_nil]
    apply splitOn_asPosix (by simp)
    intro part hpart
    rcases List.mem_append.1 hpart with hdir | hbase
    · exact data.slashless entry hbelow part (List.mem_of_mem_dropLast hdir)
    · have hname : entry.baseName ++ py ".in" ∈ entry.parts := by
        rw [parts_eq (data.below entry hbelow) hsuffix]
        simp
      rw [List.mem_singleton.1 hbase]
      exact fun hslash => data.slashless entry hbelow _ hname (List.mem_append_left _ hslash)
  obtain ⟨hbelow, hsuffix⟩ := mem_rglobIn.1 hentry
  obtain ⟨hbelow', hsuffix'⟩ := mem_rglobIn.1 hentry'
  have hparts := hsplit entry hentry
  rw [heq, hsplit entry' hentry'] at hparts
  obtain ⟨hdir, hbase⟩ := List.append_inj' hparts rfl
  rw [parts_eq (data.below entry hbelow) hsuffix, parts_eq (data.below entry' hbelow') hsuffix',
    hdir, List.singleton_inj.1 hbase]

/-! ## Exactness -/

theorem rglobIn_nodup : (data.rglobIn.map DataEntry.parts).Nodup :=
  data.distinct.sublist (List.filter_sublist.map _)

theorem inputsOf_pairwise :
    (inputsOf dataDir data).Pairwise fun first second =>
      dataDir ++ first.parts < dataDir ++ second.parts := by
  apply pairwise_lt_insertionSort (fun entry : DataEntry => dataDir ++ entry.parts)
  have hparts : (data.rglobIn.map DataEntry.parts).Nodup := rglobIn_nodup
  have hpaths := hparts.map (List.append_right_injective dataDir)
  rwa [List.map_map] at hpaths

/-- A field that the rounds give to their cases. -/
theorem map_cases {Field : Type} (field : TestCase → Field) (ofEntry : DataEntry → Field)
    (hfield : ∀ entry case, collectCase dataDir data entry = .ok case →
      field case = ofEntry entry)
    {entries : List DataEntry} {cases : List TestCase}
    (hcases : List.Forall₂ (fun entry case => collectCase dataDir data entry = .ok case)
      entries cases) : cases.map field = entries.map ofEntry := by
  symm
  rw [← List.forall₂_eq_eq_eq, List.forall₂_map_left_iff, List.forall₂_map_right_iff]
  exact hcases.imp fun entry case hcase => (hfield entry case hcase).symm

/-- What is returned for plain inputs is exact. -/
theorem collected_of_plain (hplain : AllPlain data) {cases : List TestCase}
    (hcases : List.Forall₂ (fun entry case => collectCase dataDir data entry = .ok case)
      (inputsOf dataDir data) cases) : Collected dataDir data cases := by
  constructor
  · refine ⟨inputsOf dataDir data, ?_, ?_⟩
    · rw [← rglobIn_eq_filter hplain]
      exact List.perm_insertionSort _ _
    · refine List.forall₂_iff_get.2 ⟨hcases.length_eq, fun i hi hi' => ?_⟩
      have hentry := mem_inputsOf.1 (List.get_mem (inputsOf dataDir data) ⟨i, hi⟩)
      obtain ⟨hanswered, -, hgroup, hinput, hanswer⟩ :=
        collectCase_eq_ok ((List.forall₂_iff_get.1 hcases).2 i hi hi')
      rw [withSuffix_of_plain (mem_rglobIn.1 hentry).2 (hplain _ hentry),
        ← DataEntry.answerParts] at hanswer
      rw [unanswered_iff hplain hentry, Bool.not_eq_false] at hanswered
      exact ⟨hinput, hanswer, hanswered, hgroup⟩
  · rw [map_cases TestCase.inputPath (fun entry => dataDir ++ entry.parts)
      (fun entry case hcase => (collectCase_eq_ok hcase).2.2.2.1) hcases, List.pairwise_map]
    exact inputsOf_pairwise
  · rw [map_cases TestCase.id (fun entry => asPosix (withSuffix entry.parts []))
      (fun entry case hcase => (collectCase_eq_ok hcase).2.1) hcases]
    have hpaths : ((inputsOf dataDir data).map DataEntry.parts).Nodup :=
      ((List.perm_insertionSort _ _).map _).nodup_iff.2 rglobIn_nodup
    apply List.Nodup.map_on _ (List.Nodup.of_map _ hpaths)
    intro entry hentry entry' hentry' heq
    exact List.inj_on_of_nodup_map hpaths hentry hentry'
      (id_injective hplain (mem_inputsOf.1 hentry) (mem_inputsOf.1 hentry') heq)

/-- What is exact was collected from plain inputs. -/
theorem plain_of_collected {cases : List TestCase}
    (hcases : List.Forall₂ (fun entry case => collectCase dataDir data entry = .ok case)
      (inputsOf dataDir data) cases) (hcollected : Collected dataDir data cases) :
    AllPlain data := by
  intro entry hentry
  obtain ⟨hbelow, hsuffix⟩ := mem_rglobIn.1 hentry
  obtain ⟨case, hcase, hround⟩ := exists_of_forall₂ hcases (mem_inputsOf.2 hentry)
  obtain ⟨-, -, -, hinput, hanswer⟩ := collectCase_eq_ok hround
  obtain ⟨inputs, hinputs, hpaired⟩ := hcollected.exact
  obtain ⟨input, hmem, hcaseOf⟩ := exists_of_forall₂ hpaired.flip hcase
  obtain ⟨hinputBelow, hisInput⟩ := List.mem_filter.1 (hinputs.mem_iff.1 hmem)
  -- the case of the path found is that of an input, which is then at the same path
  have hparts : input.parts = entry.parts :=
    List.append_cancel_left (hcaseOf.inputPath.symm.trans hinput)
  obtain rfl : input = entry := List.inj_on_of_nodup_map data.distinct hinputBelow hbelow hparts
  refine ⟨(of_decide_eq_true hisInput).1, fun hname => ?_⟩
  have hpaths := List.append_cancel_left (hcaseOf.answerPath.symm.trans hanswer)
  rw [DataEntry.answerParts, withSuffix, ← DataEntry.name] at hpaths
  have hlast := List.singleton_inj.1 (List.append_cancel_left hpaths)
  rw [DataEntry.baseName, hname] at hlast
  revert hlast
  decide

/-- Every path found is a plain input, or an error is due and one of them would not be
answered anyway. -/
def CollectsPlainly (data : DataDir) : Prop :=
  AllPlain data ∨ (ErrorDue data ∧ ∃ entry ∈ data.rglobIn, Unanswered data entry)

/-- The collection is exact in these cases and in no others. -/
theorem collectTestcases_exact_iff (problemDir : Path) (data : DataDir) :
    CollectsExactly problemDir data ↔ CollectsPlainly data := by
  constructor
  · rintro ⟨hdue, hcases⟩
    by_cases herror : ErrorDue data
    · rcases collectTestcases_raises_iff.1 (hdue herror) with hnone | hunanswered
      · left
        intro entry hentry
        rw [hnone] at hentry
        cases hentry
      · exact .inr ⟨herror, hunanswered⟩
    · obtain ⟨cases, hreturned, hcollected⟩ := hcases herror
      exact .inl (plain_of_collected (collectTestcases_eq_ok hreturned).2 hcollected)
  · rintro (hplain | ⟨herror, hunanswered⟩)
    · refine ⟨fun herror => ?_, fun hnone => ?_⟩
      · exact collectTestcases_raises_iff.2 ((raises_iff_of_plain hplain).2 herror)
      · cases hreturned : collectTestcases problemDir (some data) with
        | error exc =>
            have hraises := (collectTestcases_eq_error hreturned).1
            exact absurd ((raises_iff_of_plain hplain).1 hraises) hnone
        | ok cases =>
            exact ⟨cases, rfl, collected_of_plain hplain (collectTestcases_eq_ok hreturned).2⟩
    · exact ⟨fun _ => collectTestcases_raises_iff.2 (.inr hunanswered),
        fun hnone => absurd herror hnone⟩

/-- A testcase, and a directory whose name ends in `.in`. -/
def withOldDirectory : DataDir where
  entries := [⟨[py "01.in"], true⟩, ⟨[py "01.ans"], true⟩, ⟨[py "old.in"], false⟩]
  distinct := by decide
  below := by decide
  slashless := by decide +kernel

/-- The directory is taken for an input and its answer is missed, though no error is due. -/
theorem collectTestcases_directory :
    ¬ErrorDue withOldDirectory ∧
      collectTestcases [py "problem"] (some withOldDirectory) =
          .error (testDataError (py "old 의 .ans 파일이 없습니다: /problem/data/old.ans")) ∧
        ¬CollectsExactly [py "problem"] withOldDirectory := by
  have hdue : ¬ErrorDue withOldDirectory := by decide +kernel
  have hraised : collectTestcases [py "problem"] (some withOldDirectory) =
      .error (testDataError (py "old 의 .ans 파일이 없습니다: /problem/data/old.ans")) := by
    apply (@map_eq_error_iff _ _ Unit _ (fun _ => ()) _).1
    decide +kernel
  refine ⟨hdue, hraised, fun hexact => ?_⟩
  obtain ⟨cases, hreturned, -⟩ := hexact.2 hdue
  rw [hraised] at hreturned
  cases hreturned

end IcpcVerify.Testdata
