import IcpcVerify.Core.Runs
import IcpcVerify.Core.Sorting
import IcpcVerify.Cpu.Topology
import IcpcVerify.Python.Strip

/-!
# The kernel's lists of CPUs

A set of CPUs can be written in many ways.  All of them are decoded to the same tuple,
so that CPUs whose directories list the same set count as one core.
-/

namespace IcpcVerify.Cpu

open IcpcVerify.Python
open IcpcVerify.FallibleRun
open IcpcVerify.Runs

/-! ## Ways of writing a set -/

/-- What stands between two commas. -/
inductive CpuPart where
  | nothing
  | number (cpu : ℕ)
  | range (run : Run)

namespace CpuPart

def members : CpuPart → Finset ℕ
  | nothing => ∅
  | number cpu => {cpu}
  | range run => run.members

def written : CpuPart → PyStr
  | nothing => []
  | number cpu => formatNat cpu
  | range run => formatNat run.first ++ py "-" ++ formatNat run.last

/-- The kernel writes a run of one number without its end. -/
def ofRun (run : Run) : CpuPart :=
  if run.first = run.last then number run.first else range run

end CpuPart

def listText (parts : List CpuPart) : PyStr :=
  List.intercalate (py ",") (parts.map CpuPart.written)

/-- The parts are disjoint and make up the set. -/
structure MakeUp (parts : List CpuPart) (cpus : Finset ℕ) : Prop where
  disjoint : parts.Pairwise fun part other => Disjoint part.members other.members
  covers : ∀ cpu, cpu ∈ cpus ↔ ∃ part ∈ parts, cpu ∈ part.members

/-- The text lists the set, in any order of the parts and with any white space around. -/
def IsListOf (text : PyStr) (cpus : Finset ℕ) : Prop :=
  ∃ parts before after, MakeUp parts cpus ∧ Blank before ∧ Blank after ∧
    text = before ++ listText parts ++ after

/-- The runs of the set in the kernel's format. -/
def kernelParts (cpus : Finset ℕ) : List CpuPart :=
  (runs cpus.sort).map CpuPart.ofRun

/-- The set as the kernel writes it. -/
def kernelList (cpus : Finset ℕ) : PyStr :=
  listText (kernelParts cpus) ++ py "\n"

/-- Numbers that `int` reads; those of CPUs are far below the limit. -/
def Readable (cpus : Finset ℕ) : Prop :=
  ∀ cpu ∈ cpus, cpu < 10 ^ Yaml.intMaxStrDigits

theorem members_ofRun (run : Run) : (CpuPart.ofRun run).members = run.members := by
  rw [CpuPart.ofRun]
  split_ifs with hsingle
  · rw [CpuPart.members, Run.members, ← hsingle, Finset.Icc_self]
  · rfl

theorem kernelParts_makeUp (cpus : Finset ℕ) : MakeUp (kernelParts cpus) cpus where
  disjoint := by
    have hseparated := runs_separated cpus.sortedLT_sort.pairwise
    refine List.pairwise_map.2 (hseparated.imp fun hbefore => ?_)
    rw [members_ofRun, members_ofRun]
    exact hbefore.disjoint
  covers := by
    intro cpu
    have hcovers := mem_iff_mem_runs cpus.sort cpu
    rw [Finset.mem_sort] at hcovers
    simp [hcovers, kernelParts, members_ofRun]

theorem blank_newline : Blank (py "\n") := by
  intro c hc
  obtain rfl := List.mem_singleton.1 hc
  rfl

/-- A list on a line of its own. -/
theorem MakeUp.isListOf_line {parts : List CpuPart} {cpus : Finset ℕ}
    (hparts : MakeUp parts cpus) : IsListOf (listText parts ++ py "\n") cpus :=
  ⟨parts, [], py "\n", hparts, by simp [Blank], blank_newline, rfl⟩

theorem kernelList_isListOf (cpus : Finset ℕ) : IsListOf (kernelList cpus) cpus :=
  (kernelParts_makeUp cpus).isListOf_line

example : listText ((runs [0, 1, 2, 5, 7, 8]).map CpuPart.ofRun) = py "0-2,5,7-8" := by
  decide

/-! ## Characters of a list -/

/-- What a printed number is made of. -/
theorem exists_digit_of_mem {n : ℕ} {c : CodePoint} (hc : c ∈ formatNat n) :
    ∃ d < 10, c = digitChar d := by
  obtain ⟨d, hd, rfl⟩ := List.mem_map.1 hc
  exact ⟨d, Decimal.lt_ten_of_mem_digits hd, rfl⟩

theorem digitChar_ne_separators {d : ℕ} (hd : d < 10) :
    digitChar d ≠ ord '-' ∧ digitChar d ≠ ord ',' ∧ isSpace (digitChar d) = false := by
  interval_cases d <;> decide

theorem dash_not_mem_formatNat (n : ℕ) : ord '-' ∉ formatNat n := by
  intro hdash
  obtain ⟨d, hd, heq⟩ := exists_digit_of_mem hdash
  exact (digitChar_ne_separators hd).1 heq.symm

theorem formatNat_ne_nil (n : ℕ) : formatNat n ≠ [] :=
  fun hnil => Decimal.digits_ne_nil n (List.map_eq_nil_iff.1 hnil)

/-- No part has a comma or white space in it. -/
theorem CpuPart.plain_of_mem_written (part : CpuPart) {c : CodePoint} (hc : c ∈ part.written) :
    c ≠ ord ',' ∧ isSpace c = false := by
  have hdigits : ∀ n, c ∈ formatNat n → c ≠ ord ',' ∧ isSpace c = false := by
    intro n hmem
    obtain ⟨d, hd, rfl⟩ := exists_digit_of_mem hmem
    exact (digitChar_ne_separators hd).2
  cases part with
  | nothing => cases hc
  | number cpu => exact hdigits cpu hc
  | range run =>
      rcases List.mem_append.1 hc with hc | hlast
      · rcases List.mem_append.1 hc with hfirst | hdash
        · exact hdigits run.first hfirst
        · obtain rfl : c = ord '-' := List.mem_singleton.1 hdash
          decide
      · exact hdigits run.last hlast

theorem listText_spaceless (parts : List CpuPart) : Spaceless (listText parts) := by
  have hcomma : Spaceless (py ",") := by decide
  refine forall_mem_intercalate hcomma fun text htext c hc => ?_
  obtain ⟨part, -, rfl⟩ := List.mem_map.1 htext
  exact (part.plain_of_mem_written hc).2

/-- The parts are read back from the list; a list without parts has an empty one. -/
theorem splitOn_listText {parts : List CpuPart} (hne : parts ≠ []) :
    splitOn (ord ',') (listText parts) = parts.map CpuPart.written := by
  refine List.splitOn_intercalate (ord ',') (fun text htext hcomma => ?_) (by simpa using hne)
  obtain ⟨part, -, rfl⟩ := List.mem_map.1 htext
  exact (part.plain_of_mem_written hcomma).1 rfl

/-! ## Decoding -/

namespace CpuPart

/-- The numbers of a part, in the order in which they are decoded. -/
def values : CpuPart → List ℤ
  | nothing => []
  | number cpu => [(cpu : ℤ)]
  | range run => Int.range run.first (run.last + 1)

theorem mem_values {part : CpuPart} {value : ℤ} :
    value ∈ part.values ↔ ∃ cpu ∈ part.members, (cpu : ℤ) = value := by
  cases part with
  | nothing => simp [values, members]
  | number cpu => simp [values, members, eq_comm]
  | range run =>
      simp only [values, members, Int.mem_range_iff, Run.mem_members]
      constructor
      · rintro ⟨hfirst, hlast⟩
        exact ⟨value.toNat, by omega, by omega⟩
      · rintro ⟨cpu, hcpu, rfl⟩
        omega

theorem values_nodup (part : CpuPart) : part.values.Nodup := by
  cases part with
  | nothing => exact List.nodup_nil
  | number cpu => exact List.nodup_singleton _
  | range run =>
      refine List.Nodup.map (fun first second heq => ?_) List.nodup_range
      simpa using heq

theorem values_of_written_eq_nil {part : CpuPart} (hnil : part.written = []) :
    part.values = [] := by
  cases part with
  | nothing => rfl
  | number cpu => exact absurd hnil (formatNat_ne_nil cpu)
  | range run => simp [written, formatNat_ne_nil] at hnil

end CpuPart

variable (rt : Runtime)

theorem parsePart_number {cpu : ℕ} (hcpu : cpu < 10 ^ Yaml.intMaxStrDigits) :
    parsePart rt (formatNat cpu) = .ok [(cpu : ℤ)] := by
  rw [parsePart, if_neg (dash_not_mem_formatNat cpu), readInt_formatNat rt hcpu]
  rfl

/-- A range is cut at its dash. -/
theorem parsePart_range {run : Run} (hlast : run.last < 10 ^ Yaml.intMaxStrDigits) :
    parsePart rt (CpuPart.range run).written = .ok (Int.range run.first (run.last + 1)) := by
  have hdigits : ∀ c ∈ formatNat run.first, decide (c ≠ ord '-') = true := fun c hc =>
    decide_eq_true fun heq => dash_not_mem_formatNat run.first (heq ▸ hc)
  have hcut : (CpuPart.range run).written =
      formatNat run.first ++ (ord '-' :: formatNat run.last) :=
    List.append_assoc _ _ _
  have hlow : (CpuPart.range run).written.takeWhile (· ≠ ord '-') = formatNat run.first := by
    rw [hcut, List.takeWhile_append_of_pos hdigits]
    simp
  have hhigh : ((CpuPart.range run).written.dropWhile (· ≠ ord '-')).tail =
      formatNat run.last := by
    rw [hcut, List.dropWhile_append_of_pos hdigits]
    simp
  rw [parsePart, if_pos (by simp [hcut]), hlow, hhigh,
    readInt_formatNat rt (lt_of_le_of_lt run.first_le_last hlast), readInt_formatNat rt hlast]
  rfl

/-- A part that is not empty adds its numbers. -/
theorem parsePart_written {part : CpuPart} (hreadable : Readable part.members)
    (hne : part.written ≠ []) : parsePart rt part.written = .ok part.values := by
  cases part with
  | nothing => exact absurd rfl hne
  | number cpu => exact parsePart_number rt (hreadable cpu (Finset.mem_singleton_self cpu))
  | range run =>
      exact parsePart_range rt
        (hreadable run.last (Run.mem_members.2 ⟨run.first_le_last, le_rfl⟩))

/-- The values of a tuple: the numbers of a set, each once and in ascending order. -/
structure TupleOf (cpus : Finset ℕ) (values : List ℤ) : Prop where
  ascending : values.Pairwise (· < ·)
  members : ∀ value, value ∈ values ↔ ∃ cpu ∈ cpus, (cpu : ℤ) = value

/-- A set has one tuple. -/
theorem TupleOf.unique {cpus : Finset ℕ} {values values' : List ℤ} (hvalues : TupleOf cpus values)
    (hvalues' : TupleOf cpus values') : values = values' := by
  have hsame : ∀ value, value ∈ values ↔ value ∈ values' := fun value =>
    (hvalues.members value).trans (hvalues'.members value).symm
  have hperm : values.Perm values' :=
    (List.perm_ext_iff_of_nodup hvalues.ascending.nodup hvalues'.ascending.nodup).2 hsame
  exact hperm.eq_of_pairwise (fun _ _ _ _ hlt hgt => absurd hgt hlt.not_gt)
    hvalues.ascending hvalues'.ascending

theorem MakeUp.mem_values {parts : List CpuPart} {cpus : Finset ℕ} (hparts : MakeUp parts cpus)
    (value : ℤ) :
    value ∈ parts.flatMap CpuPart.values ↔ ∃ cpu ∈ cpus, (cpu : ℤ) = value := by
  simp only [List.mem_flatMap, CpuPart.mem_values, hparts.covers]
  constructor
  · rintro ⟨part, hpart, cpu, hcpu, rfl⟩
    exact ⟨cpu, ⟨part, hpart, hcpu⟩, rfl⟩
  · rintro ⟨cpu, ⟨part, hpart, hcpu⟩, rfl⟩
    exact ⟨part, hpart, cpu, hcpu, rfl⟩

theorem MakeUp.values_nodup {parts : List CpuPart} {cpus : Finset ℕ}
    (hparts : MakeUp parts cpus) : (parts.flatMap CpuPart.values).Nodup := by
  refine List.nodup_flatMap.2 ⟨fun part _ => part.values_nodup, ?_⟩
  refine hparts.disjoint.imp fun hdisjoint value hvalue hvalue' => ?_
  obtain ⟨cpu, hcpu, rfl⟩ := CpuPart.mem_values.1 hvalue
  obtain ⟨cpu', hcpu', heq⟩ := CpuPart.mem_values.1 hvalue'
  obtain rfl : cpu' = cpu := by exact_mod_cast heq
  exact Finset.disjoint_left.1 hdisjoint hcpu hcpu'

/-- Sorting makes the decoded numbers the tuple of the set. -/
theorem MakeUp.tupleOf_sort {parts : List CpuPart} {cpus : Finset ℕ}
    (hparts : MakeUp parts cpus) :
    TupleOf cpus ((parts.flatMap CpuPart.values).insertionSort (· ≤ ·)) where
  ascending := Sorting.pairwise_lt_insertionSort id (by simpa using hparts.values_nodup)
  members value := (List.mem_insertionSort _).trans (hparts.mem_values value)

/-- The round of a part adds its numbers. -/
theorem addPart_written {part : CpuPart} (hreadable : Readable part.members) (values : List ℤ) :
    addPart rt values part.written = .ok (values ++ part.values) := by
  by_cases hnil : part.written = []
  · rw [addPart, if_pos hnil, CpuPart.values_of_written_eq_nil hnil, List.append_nil]
  · rw [addPart, if_neg hnil, parsePart_written rt hreadable hnil]
    rfl

theorem parseCpuList_listText {parts : List CpuPart}
    (hreadable : ∀ part ∈ parts, Readable part.members) {before after : PyStr}
    (hbefore : Blank before) (hafter : Blank after) :
    parseCpuList rt (before ++ listText parts ++ after) =
      .ok ((parts.flatMap CpuPart.values).insertionSort (· ≤ ·)) := by
  have hstrip := strip_padded hbefore hafter (listText_spaceless parts).tight
  by_cases hnil : parts = []
  · rw [parseCpuList, hstrip, hnil]
    rfl
  · have hloop := foldlM_appends (fun part hpart => addPart_written rt (hreadable part hpart)) []
    rw [parseCpuList, hstrip, splitOn_listText hnil, List.foldlM_map, hloop]
    rfl

/-- Every way of writing a set is decoded to its tuple. -/
theorem parseCpuList_of_isListOf {cpus : Finset ℕ} (hreadable : Readable cpus) {text : PyStr}
    (htext : IsListOf text cpus) :
    ∃ values, parseCpuList rt text = .ok values ∧ TupleOf cpus values := by
  obtain ⟨parts, before, after, hparts, hbefore, hafter, rfl⟩ := htext
  have hmembers : ∀ part ∈ parts, Readable part.members := fun part hpart cpu hcpu =>
    hreadable cpu ((hparts.covers cpu).2 ⟨part, hpart, hcpu⟩)
  exact ⟨_, parseCpuList_listText rt hmembers hbefore hafter, hparts.tupleOf_sort⟩

/-! ## One core -/

/-- The CPU has a directory with a list, and whatever its directories list is this set. -/
structure Lists (sysfs : List CpuDirectory) (cpu : ℤ) (cpus : Finset ℕ) : Prop where
  known : ∃ directory ∈ cpuDirectories sysfs,
    cpuNumber rt directory.name = .ok cpu ∧ directory.siblingsList ≠ none
  written : ∀ directory ∈ cpuDirectories sysfs, cpuNumber rt directory.name = .ok cpu →
    ∀ text, directory.siblingsList = some (.ok text) → IsListOf text cpus

/-- The siblings of a CPU are the tuple of the set that is listed for it. -/
theorem lookup_of_lists {cpus : Finset ℕ} (hreadable : Readable cpus)
    {sysfs : List CpuDirectory} {topology : Topology}
    (hread : readTopology rt sysfs = .ok topology) {cpu : ℤ}
    (hlists : Lists rt sysfs cpu cpus) :
    ∃ siblings, topology.lookup cpu = some siblings ∧ TupleOf cpus siblings := by
  obtain ⟨directory, hmem, hnumber, hlist⟩ := hlists.known
  obtain ⟨siblings, hlookup, source, hsource, hnumber', text, htext, hparsed⟩ :=
    exists_of_readTopology hread hmem hnumber hlist
  obtain ⟨values, hvalues, htuple⟩ :=
    parseCpuList_of_isListOf rt hreadable (hlists.written source hsource hnumber' text htext)
  obtain rfl := Except.ok.inj (hparsed.symm.trans hvalues)
  exact ⟨siblings, hlookup, htuple⟩

theorem count_coresOf {topology : Topology} {cpu : ℤ} {siblings : List ℤ}
    (hlookup : topology.lookup cpu = some siblings) : (coresOf topology).count siblings = 1 :=
  List.count_eq_one_of_mem coresOf_nodup
    (mem_coresOf.2 ⟨(cpu, siblings), Dictionary.mem_of_lookup hlookup, rfl⟩)

/-- Decoding takes the kernel's text of a set, and every other way of writing it, to the
tuple of the set, so that CPUs for which the same set is listed are one core. -/
theorem parseCpuList_canonical {cpus : Finset ℕ} (hreadable : Readable cpus) :
    (∃ values, parseCpuList rt (kernelList cpus) = .ok values ∧ TupleOf cpus values) ∧
      (∀ text, IsListOf text cpus →
        ∃ values, parseCpuList rt text = .ok values ∧ TupleOf cpus values) ∧
      ∀ sysfs topology, readTopology rt sysfs = .ok topology →
        ∀ cpu other, Lists rt sysfs cpu cpus → Lists rt sysfs other cpus →
          ∃ siblings, topology.lookup cpu = some siblings ∧
            topology.lookup other = some siblings ∧ TupleOf cpus siblings ∧
              (coresOf topology).count siblings = 1 := by
  refine ⟨parseCpuList_of_isListOf rt hreadable (kernelList_isListOf cpus),
    fun text htext => parseCpuList_of_isListOf rt hreadable htext, ?_⟩
  intro sysfs topology hread cpu other hcpu hother
  obtain ⟨siblings, hlookup, htuple⟩ := lookup_of_lists rt hreadable hread hcpu
  obtain ⟨siblings', hlookup', htuple'⟩ := lookup_of_lists rt hreadable hread hother
  obtain rfl := htuple.unique htuple'
  exact ⟨siblings, hlookup, hlookup', htuple, count_coresOf hlookup⟩

/-- Two cores whose threads list them differently. -/
def mixedLists : List CpuDirectory :=
  [⟨py "cpu0", some (.ok (py "0-1\n"))⟩, ⟨py "cpu1", some (.ok (py "1,0\n"))⟩,
    ⟨py "cpu2", some (.ok (py "2-3\n"))⟩, ⟨py "cpu3", some (.ok (py "2,3\n"))⟩,
    ⟨py "cpufreq", none⟩]

theorem readable_two_three : Readable {2, 3} := by
  intro cpu hcpu
  have hpow : 10 ^ 1 ≤ 10 ^ Yaml.intMaxStrDigits := Nat.pow_le_pow_right (by decide) (by decide)
  have hsmall : cpu < 10 ^ 1 := by
    rcases Finset.mem_insert.1 hcpu with rfl | hthree
    · decide
    · rw [Finset.mem_singleton.1 hthree]
      decide
  exact lt_of_lt_of_le hsmall hpow

theorem range_isListOf : IsListOf (py "2-3\n") {2, 3} := by
  have hparts : MakeUp [.range ⟨2, 3, by decide⟩] {2, 3} :=
    ⟨List.pairwise_singleton _ _, fun cpu => by
      simp [CpuPart.members, Run.mem_members]
      omega⟩
  exact hparts.isListOf_line

theorem numbers_isListOf : IsListOf (py "2,3\n") {2, 3} := by
  have hparts : MakeUp [.number 2, .number 3] {2, 3} :=
    ⟨by simp [CpuPart.members], by simp [CpuPart.members]⟩
  exact hparts.isListOf_line

theorem lists_mixedLists (directory : CpuDirectory) {cpu : ℤ} {text : PyStr}
    (hmem : directory ∈ cpuDirectories mixedLists)
    (hnumber : cpuNumber Runtime.ascii directory.name = .ok cpu)
    (hlist : directory.siblingsList = some (.ok text)) (htext : IsListOf text {2, 3})
    (honly : ∀ other ∈ mixedLists, cpuNumber Runtime.ascii other.name = .ok cpu →
      other.siblingsList = some (.ok text)) : Lists Runtime.ascii mixedLists cpu {2, 3} where
  known := ⟨directory, hmem, hnumber, by simp [hlist]⟩
  written := by
    intro other hother hother_number text' htext'
    have hsame := honly other (mem_cpuDirectories.1 hother).1 hother_number
    obtain rfl : text = text' := by simpa [hsame] using htext'
    exact htext

theorem parseCpuList_canonical_mixed :
    readTopology Runtime.ascii mixedLists = .ok fourThreads ∧
      ∃ siblings, fourThreads.lookup 2 = some siblings ∧ fourThreads.lookup 3 = some siblings ∧
        TupleOf {2, 3} siblings ∧ (coresOf fourThreads).count siblings = 1 := by
  have hread : readTopology Runtime.ascii mixedLists = .ok fourThreads := by decide +kernel
  have htwo : Lists Runtime.ascii mixedLists 2 {2, 3} :=
    lists_mixedLists ⟨py "cpu2", some (.ok (py "2-3\n"))⟩
      (mem_cpuDirectories.2 ⟨by simp [mixedLists], by decide⟩) (by decide +kernel) rfl
      range_isListOf (by decide +kernel)
  have hthree : Lists Runtime.ascii mixedLists 3 {2, 3} :=
    lists_mixedLists ⟨py "cpu3", some (.ok (py "2,3\n"))⟩
      (mem_cpuDirectories.2 ⟨by simp [mixedLists], by decide⟩) (by decide +kernel) rfl
      numbers_isListOf (by decide +kernel)
  have hcanonical := parseCpuList_canonical Runtime.ascii readable_two_three
  exact ⟨hread, hcanonical.2.2 mixedLists fourThreads hread 2 3 htwo hthree⟩

end IcpcVerify.Cpu
