import IcpcVerify.Cpu.Plan
import IcpcVerify.Python.Integer
import IcpcVerify.Core.Dictionary
import IcpcVerify.Core.FallibleRun
import IcpcVerify.Core.ItemGrammar

/-!
# Reading the CPU topology

Each CPU's directory lists the threads of its core, as numbers and ranges with commas
between them.  The topology takes the last directory of every number.
-/

namespace IcpcVerify.Cpu

open IcpcVerify.Python
open IcpcVerify.FallibleRun
open IcpcVerify.ItemGrammar

/-- An entry of `/sys/devices/system/cpu`. -/
structure CpuDirectory where
  name : PyStr
  /-- The outcome of reading `topology/thread_siblings_list`, where it is a file. -/
  siblingsList : Option (PyM PyStr)

variable (rt : Runtime)

/-- The numbers of one part of a list. -/
def parsePart (part : PyStr) : PyM (List ℤ) :=
  if ord '-' ∈ part then do
    let lo ← readInt rt (part.takeWhile (· ≠ ord '-'))
    let hi ← readInt rt (part.dropWhile (· ≠ ord '-')).tail
    return Int.range lo (hi + 1)
  else do
    let value ← readInt rt part
    return [value]

/-- One round of the loop of `_parse_cpu_list`. -/
def addPart (values : List ℤ) (part : PyStr) : PyM (List ℤ) :=
  if part = [] then .ok values
  else do
    let more ← parsePart rt part
    return values ++ more

/-- `_parse_cpu_list`. -/
def parseCpuList (text : PyStr) : PyM (List ℤ) := do
  let values ← (splitOn (ord ',') (strip text)).foldlM (addPart rt) []
  return values.insertionSort (· ≤ ·)

/-- The glob `cpu[0-9]*`. -/
def isCpuName (name : PyStr) : Bool :=
  (py "cpu").isPrefixOf name &&
    (name.drop 3).head?.any fun c => ord '0' ≤ c ∧ c ≤ ord '9'

/-- The number in a directory's name, which starts with `cpu`. -/
def cpuNumber (name : PyStr) : PyM ℤ :=
  readInt rt (name.drop 3)

/-- One round of the loop of `read_topology`. -/
def readDirectory (topology : Topology) (directory : CpuDirectory) : PyM Topology :=
  match directory.siblingsList with
  | none => .ok topology
  | some read => do
      let cpu ← cpuNumber rt directory.name
      let text ← read
      let siblings ← parseCpuList rt text
      return Dictionary.set cpu siblings topology

/-- The directories in the order of the loop. -/
def cpuDirectories (sysfs : List CpuDirectory) : List CpuDirectory :=
  (sysfs.filter fun directory => isCpuName directory.name).insertionSort
    fun directory other => directory.name ≤ other.name

def readTopology (sysfs : List CpuDirectory) : PyM Topology :=
  (cpuDirectories sysfs).foldlM (readDirectory rt) []

theorem mem_cpuDirectories {sysfs : List CpuDirectory} {directory : CpuDirectory} :
    directory ∈ cpuDirectories sysfs ↔
      directory ∈ sysfs ∧ isCpuName directory.name = true := by
  rw [cpuDirectories, List.mem_insertionSort, List.mem_filter]

/-! ## The topology as a dictionary -/

/-- What a directory adds to the topology: its number with the siblings it lists, or
nothing where it has no list. -/
inductive Adds (directory : CpuDirectory) : Option (ℤ × List ℤ) → Prop
  | nothing (hlist : directory.siblingsList = none) : Adds directory none
  | siblings {cpu : ℤ} {text : PyStr} {siblings : List ℤ}
      (hnumber : cpuNumber rt directory.name = .ok cpu)
      (hlist : directory.siblingsList = some (.ok text))
      (hsiblings : parseCpuList rt text = .ok siblings) :
      Adds directory (some (cpu, siblings))

def addSiblings (topology : Topology) : Option (ℤ × List ℤ) → Topology
  | none => topology
  | some (cpu, siblings) => Dictionary.set cpu siblings topology

variable {rt}

theorem readDirectory_adds {directory : CpuDirectory} {topology topology' : Topology}
    (hread : readDirectory rt topology directory = .ok topology') :
    ∃ added, Adds rt directory added ∧ topology' = addSiblings topology added := by
  cases hlist : directory.siblingsList with
  | none =>
      rw [readDirectory, hlist] at hread
      exact ⟨none, .nothing hlist, (Except.ok.inj hread).symm⟩
  | some read =>
      rw [readDirectory, hlist] at hread
      obtain ⟨cpu, hnumber, hread⟩ := bind_eq_ok_iff.1 hread
      obtain ⟨text, htext, hread⟩ := bind_eq_ok_iff.1 hread
      obtain ⟨siblings, hsiblings, hread⟩ := bind_eq_ok_iff.1 hread
      exact ⟨some (cpu, siblings), .siblings hnumber (htext ▸ hlist) hsiblings,
        (Except.ok.inj hread).symm⟩

/-- The siblings that are added under a number. -/
def addedTo (cpu : ℤ) (added : Option (ℤ × List ℤ)) : Option (List ℤ) :=
  added.bind fun entry => if cpu = entry.1 then some entry.2 else none

theorem lookup_addSiblings (cpu : ℤ) (topology : Topology) (added : Option (ℤ × List ℤ)) :
    (addSiblings topology added).lookup cpu = (addedTo cpu added).or (topology.lookup cpu) := by
  cases added with
  | none => rfl
  | some entry =>
      rw [addSiblings, Dictionary.lookup_set, addedTo, Option.bind_some]
      split_ifs <;> rfl

/-- The topology has every number with a list, with the siblings one of its directories
lists. -/
theorem exists_of_readTopology {sysfs : List CpuDirectory} {topology : Topology}
    (hread : readTopology rt sysfs = .ok topology) {directory : CpuDirectory}
    (hmem : directory ∈ cpuDirectories sysfs) {cpu : ℤ}
    (hnumber : cpuNumber rt directory.name = .ok cpu)
    (hlist : directory.siblingsList ≠ none) :
    ∃ siblings, topology.lookup cpu = some siblings ∧
      ∃ source ∈ cpuDirectories sysfs, cpuNumber rt source.name = .ok cpu ∧
        ∃ text, source.siblingsList = some (.ok text) ∧
          parseCpuList rt text = .ok siblings := by
  obtain ⟨added, hadded, htopology⟩ :=
    foldlM_records (fun source _ _ _ hround => readDirectory_adds hround) hread
  have hlookup := view_foldl_setting (lookup_addSiblings cpu) added []
  rw [← htopology, List.lookup_nil, Option.or_none] at hlookup
  have hown : ∃ siblings, siblings ∈ added.filterMap (addedTo cpu) := by
    obtain ⟨record, hrecord, hadds⟩ := exists_of_forall₂ hadded hmem
    cases hadds with
    | nothing hnone => exact absurd hnone hlist
    | @siblings cpu' text siblings hnumber' hlist' hparsed =>
        obtain rfl := Except.ok.inj (hnumber'.symm.trans hnumber)
        exact ⟨siblings, List.mem_filterMap.2 ⟨_, hrecord, by simp [addedTo]⟩⟩
  obtain ⟨siblings, hlast⟩ : ∃ siblings,
      (added.filterMap (addedTo cpu)).getLast? = some siblings := by
    obtain ⟨siblings, hsiblings⟩ := hown
    exact ⟨_, List.getLast?_eq_some_getLast (List.ne_nil_of_mem hsiblings)⟩
  refine ⟨siblings, hlookup.trans hlast, ?_⟩
  obtain ⟨record, hrecord, hsiblings⟩ := List.mem_filterMap.1 (List.mem_of_getLast? hlast)
  obtain ⟨source, hsource, hadds⟩ := exists_of_forall₂ hadded.flip hrecord
  cases hadds with
  | nothing => simp [addedTo] at hsiblings
  | @siblings cpu' text siblings' hnumber' hlist' hparsed =>
      obtain ⟨rfl, rfl⟩ : cpu = cpu' ∧ siblings' = siblings := by
        simpa [addedTo] using hsiblings
      exact ⟨source, hsource, hnumber', text, hlist', hparsed⟩

end IcpcVerify.Cpu
