import IcpcVerify.Core.Transition
import IcpcVerify.Cpu.CpuList
import IcpcVerify.Python.Digits

/-!
# A machine whose CPUs go on and off

The kernel lists for every CPU that is online the online threads of its core, and gives
an offline one no list.  Read from such a directory the topology is well formed.  Over any
number of runs, each of which takes offline what it likes of its plan, and with CPUs brought
back in between, every core keeps its lowest thread and the judge keeps its CPU.
-/

namespace IcpcVerify.Cpu

open IcpcVerify.Python
open IcpcVerify.FallibleRun
open IcpcVerify.Transition

/-- The CPUs of a machine, and the physical core that each is a thread of. -/
structure Machine where
  cpus : Finset ℕ
  core : ℕ → ℕ

namespace Machine

variable (machine : Machine) (online : Finset ℕ)

/-- The online threads of a CPU's core. -/
def siblings (cpu : ℕ) : Finset ℕ :=
  online.filter fun other => machine.core other = machine.core cpu

/-- The directory of a CPU; it has no topology while the CPU is offline. -/
def directory (cpu : ℕ) : CpuDirectory where
  name := py "cpu" ++ formatNat cpu
  siblingsList :=
    if cpu ∈ online then some (.ok (kernelList (machine.siblings online cpu))) else none

/-- The directories named after CPUs are the machine's. -/
structure Reports (sysfs : List CpuDirectory) : Prop where
  known : ∀ directory ∈ sysfs, isCpuName directory.name = true →
    ∃ cpu ∈ machine.cpus, directory = machine.directory online cpu
  all : ∀ cpu ∈ machine.cpus, machine.directory online cpu ∈ sysfs

end Machine

/-! ## The topology of a machine -/

/-- The numbers of a set in ascending order. -/
def tuple (cpus : Finset ℕ) : List ℤ :=
  cpus.sort.map Nat.cast

theorem mem_tuple {cpus : Finset ℕ} {value : ℤ} :
    value ∈ tuple cpus ↔ ∃ cpu ∈ cpus, (cpu : ℤ) = value := by
  simp [tuple]

theorem natCast_mem_tuple {cpus : Finset ℕ} {cpu : ℕ} : (cpu : ℤ) ∈ tuple cpus ↔ cpu ∈ cpus := by
  simp [tuple]

theorem tuple_ascending (cpus : Finset ℕ) : (tuple cpus).Pairwise (· < ·) :=
  List.pairwise_map.2 (cpus.sortedLT_sort.pairwise.imp fun hlt => Int.ofNat_lt.2 hlt)

theorem tupleOf_tuple (cpus : Finset ℕ) : TupleOf cpus (tuple cpus) :=
  ⟨tuple_ascending cpus, fun _ => mem_tuple⟩

theorem parseCpuList_kernelList (rt : Runtime) {cpus : Finset ℕ} (hreadable : Readable cpus) :
    parseCpuList rt (kernelList cpus) = .ok (tuple cpus) := by
  obtain ⟨values, hvalues, htuple⟩ :=
    parseCpuList_of_isListOf rt hreadable (kernelList_isListOf cpus)
  rw [hvalues, htuple.unique (tupleOf_tuple cpus)]

section Reading

variable (rt : Runtime) {machine : Machine} {online : Finset ℕ}

/-- The entry of an online CPU. -/
def Machine.entry (machine : Machine) (online : Finset ℕ) (cpu : ℕ) : ℤ × List ℤ :=
  ((cpu : ℤ), tuple (machine.siblings online cpu))

theorem isCpuName_directory (cpu : ℕ) :
    isCpuName (machine.directory online cpu).name = true := by
  have hhead : (formatNat cpu).head?.any (fun c => decide (ord '0' ≤ c ∧ c ≤ ord '9')) = true := by
    obtain ⟨d, ds, hdigits⟩ := List.exists_cons_of_ne_nil (Decimal.digits_ne_nil cpu)
    have hmem : d ∈ Decimal.digits cpu := by rw [hdigits]; exact List.mem_cons_self
    have hd := Decimal.lt_ten_of_mem_digits hmem
    rw [formatNat, hdigits, List.map_cons, List.head?_cons, Option.any_some]
    interval_cases d <;> decide
  have hdrop : (machine.directory online cpu).name.drop 3 = formatNat cpu := rfl
  have hprefix : (py "cpu").isPrefixOf (machine.directory online cpu).name = true :=
    List.isPrefixOf_iff_prefix.2 (List.prefix_append _ _)
  rw [isCpuName, hprefix, hdrop, hhead, Bool.and_self]

theorem cpuNumber_directory {cpu : ℕ} (hcpu : cpu < 10 ^ Yaml.intMaxStrDigits) :
    cpuNumber rt (machine.directory online cpu).name = .ok (cpu : ℤ) := by
  have hdrop : (machine.directory online cpu).name.drop 3 = formatNat cpu := rfl
  rw [cpuNumber, hdrop, readInt_formatNat rt hcpu]

/-- The round of a directory adds the entry of an online CPU. -/
theorem readDirectory_machine (hreadable : Readable online) {cpu : ℕ}
    (hcpu : cpu < 10 ^ Yaml.intMaxStrDigits) (topology : Topology) :
    readDirectory rt topology (machine.directory online cpu) =
      .ok (if cpu ∈ online then
        Dictionary.set (cpu : ℤ) (tuple (machine.siblings online cpu)) topology
      else topology) := by
  have hsiblings : Readable (machine.siblings online cpu) :=
    fun other hother => hreadable other (Finset.mem_of_mem_filter other hother)
  rw [readDirectory.eq_def]
  by_cases honline : cpu ∈ online
  · have hlist : (machine.directory online cpu).siblingsList =
        some (.ok (kernelList (machine.siblings online cpu))) := if_pos honline
    simp only [hlist, cpuNumber_directory rt hcpu, ok_bind,
      parseCpuList_kernelList rt hsiblings, if_pos honline]
    rfl
  · have hlist : (machine.directory online cpu).siblingsList = none := if_neg honline
    simp only [hlist, if_neg honline]

/-- The topology has the entries of the online CPUs and no others. -/
structure Describes (machine : Machine) (online : Finset ℕ) (topology : Topology) : Prop where
  distinct : (cpusOf topology).Nodup
  entries : ∀ entry, entry ∈ topology ↔ ∃ cpu ∈ online, entry = machine.entry online cpu

/-- What a loop over directories of the machine makes of an earlier topology. -/
structure Extends (machine : Machine) (online : Finset ℕ) (directories : List CpuDirectory)
    (before after : Topology) : Prop where
  distinct : (cpusOf after).Nodup
  known : ∀ entry ∈ after, ∃ cpu ∈ online, entry = machine.entry online cpu
  kept : ∀ entry ∈ before, entry ∈ after
  added : ∀ cpu ∈ online, machine.directory online cpu ∈ directories →
    machine.entry online cpu ∈ after

theorem formatNat_injective : Function.Injective formatNat := by
  intro n n' heq
  have hdigits : Decimal.digits n = Decimal.digits n' := by
    have hspan := congrArg spanDigits heq
    rw [spanDigits_formatNat, spanDigits_formatNat] at hspan
    exact congrArg Prod.fst hspan
  rw [← Decimal.value_digits n, hdigits, Decimal.value_digits]

theorem directory_injective : Function.Injective (machine.directory online) := by
  intro cpu cpu' heq
  exact formatNat_injective (List.append_cancel_left (congrArg CpuDirectory.name heq))

theorem readDirectories (hreadable : Readable machine.cpus) (honline : online ⊆ machine.cpus)
    {directories : List CpuDirectory}
    (hknown : ∀ directory ∈ directories,
      ∃ cpu ∈ machine.cpus, directory = machine.directory online cpu)
    {before : Topology} (hdistinct : (cpusOf before).Nodup)
    (hbefore : ∀ entry ∈ before, ∃ cpu ∈ online, entry = machine.entry online cpu) :
    ∃ after, directories.foldlM (readDirectory rt) before = .ok after ∧
      Extends machine online directories before after := by
  have honlineReadable : Readable online := fun cpu hcpu => hreadable cpu (honline hcpu)
  induction directories generalizing before with
  | nil => exact ⟨before, rfl, hdistinct, hbefore, fun _ hentry => hentry, nofun⟩
  | cons directory directories ih =>
      obtain ⟨⟨cpu, hcpu, rfl⟩, hrest⟩ := List.forall_mem_cons.1 hknown
      have hround := @readDirectory_machine rt machine online honlineReadable cpu
        (hreadable cpu hcpu) before
      rw [List.foldlM_cons, hround, ok_bind]
      by_cases hmem : cpu ∈ online
      · rw [if_pos hmem]
        have hset : ∀ entry ∈ Dictionary.set (cpu : ℤ) (tuple (machine.siblings online cpu)) before,
            ∃ cpu ∈ online, entry = machine.entry online cpu := by
          intro entry hentry
          rcases Dictionary.mem_set hentry with rfl | hold
          · exact ⟨cpu, hmem, rfl⟩
          · exact hbefore entry hold
        obtain ⟨after, hafter, hextends⟩ := ih hrest (Dictionary.nodup_keys_set _ _ hdistinct) hset
        refine ⟨after, hafter, hextends.distinct, hextends.known, ?_, ?_⟩
        · intro entry hentry
          apply hextends.kept
          by_cases hkey : entry.1 = cpu
          · -- an entry under the same key is the same entry
            obtain ⟨other, -, rfl⟩ := hbefore entry hentry
            obtain rfl : other = cpu := Int.ofNat_inj.1 hkey
            exact Dictionary.mem_set_self _ _ _
          · exact Dictionary.mem_set_of_ne hentry hkey
        · intro other hother hdirectory
          rcases List.mem_cons.1 hdirectory with heq | hlater
          · rw [directory_injective heq]
            exact hextends.kept _ (Dictionary.mem_set_self _ _ _)
          · exact hextends.added other hother hlater
      · rw [if_neg hmem]
        obtain ⟨after, hafter, hextends⟩ := ih hrest hdistinct hbefore
        refine ⟨after, hafter, hextends.distinct, hextends.known, hextends.kept, ?_⟩
        intro other hother hdirectory
        rcases List.mem_cons.1 hdirectory with heq | hlater
        · rw [directory_injective heq] at hother
          exact absurd hother hmem
        · exact hextends.added other hother hlater

/-- The topology of the machine is read from its directories. -/
theorem readTopology_machine (hreadable : Readable machine.cpus)
    (honline : online ⊆ machine.cpus) {sysfs : List CpuDirectory}
    (hreports : machine.Reports online sysfs) :
    ∃ topology, readTopology rt sysfs = .ok topology ∧ Describes machine online topology := by
  have hknown : ∀ directory ∈ cpuDirectories sysfs,
      ∃ cpu ∈ machine.cpus, directory = machine.directory online cpu := by
    intro directory hdirectory
    obtain ⟨hmem, hname⟩ := mem_cpuDirectories.1 hdirectory
    exact hreports.known directory hmem hname
  obtain ⟨topology, hread, hextends⟩ :=
    @readDirectories rt machine online hreadable honline _ hknown [] List.nodup_nil nofun
  refine ⟨topology, hread, hextends.distinct, fun entry => ⟨hextends.known entry, ?_⟩⟩
  rintro ⟨cpu, hcpu, rfl⟩
  exact hextends.added cpu hcpu (mem_cpuDirectories.2
    ⟨hreports.all cpu (honline hcpu), isCpuName_directory cpu⟩)

end Reading

section Describes

variable {machine : Machine} {online : Finset ℕ} {topology : Topology}

theorem Machine.mem_siblings {cpu other : ℕ} :
    other ∈ machine.siblings online cpu ↔
      other ∈ online ∧ machine.core other = machine.core cpu :=
  Finset.mem_filter

/-- The online threads of one core have the same siblings. -/
theorem Machine.siblings_congr {cpu other : ℕ} (hcore : machine.core other = machine.core cpu) :
    machine.siblings online other = machine.siblings online cpu := by
  ext thread
  rw [machine.mem_siblings, machine.mem_siblings, hcore]

variable (hdescribes : Describes machine online topology)
include hdescribes

theorem Describes.mem_cpusOf {cpu : ℤ} :
    cpu ∈ cpusOf topology ↔ ∃ number ∈ online, (number : ℤ) = cpu := by
  rw [cpusOf, List.mem_map]
  constructor
  · rintro ⟨entry, hentry, rfl⟩
    obtain ⟨number, hnumber, rfl⟩ := (hdescribes.entries entry).1 hentry
    exact ⟨number, hnumber, rfl⟩
  · rintro ⟨number, hnumber, rfl⟩
    exact ⟨_, (hdescribes.entries _).2 ⟨number, hnumber, rfl⟩, rfl⟩

/-- What the kernel reports is well formed. -/
theorem Describes.wellFormed : WellFormed topology where
  distinct := hdescribes.distinct
  ascending := by
    intro entry hentry
    obtain ⟨cpu, -, rfl⟩ := (hdescribes.entries entry).1 hentry
    exact tuple_ascending _
  own := by
    intro entry hentry
    obtain ⟨cpu, hcpu, rfl⟩ := (hdescribes.entries entry).1 hentry
    exact natCast_mem_tuple.2 (machine.mem_siblings.2 ⟨hcpu, rfl⟩)
  known := by
    intro entry hentry value hvalue
    obtain ⟨cpu, -, rfl⟩ := (hdescribes.entries entry).1 hentry
    obtain ⟨other, hother, rfl⟩ := mem_tuple.1 hvalue
    exact hdescribes.mem_cpusOf.2 ⟨other, (machine.mem_siblings.1 hother).1, rfl⟩
  disjoint := by
    intro entry hentry entry' hentry'
    obtain ⟨cpu, -, rfl⟩ := (hdescribes.entries entry).1 hentry
    obtain ⟨cpu', -, rfl⟩ := (hdescribes.entries entry').1 hentry'
    by_cases hcore : machine.core cpu = machine.core cpu'
    · left
      exact congrArg tuple (machine.siblings_congr hcore)
    · right
      intro value hvalue hvalue'
      obtain ⟨other, hother, rfl⟩ := mem_tuple.1 hvalue
      have hother' := natCast_mem_tuple.1 hvalue'
      exact hcore ((machine.mem_siblings.1 hother).2.symm.trans (machine.mem_siblings.1 hother').2)

theorem Describes.ne_nil (hne : online.Nonempty) : topology ≠ [] := by
  obtain ⟨cpu, hcpu⟩ := hne
  exact List.ne_nil_of_mem ((hdescribes.entries _).2 ⟨cpu, hcpu, rfl⟩)

theorem Describes.mem_coresOf {core : List ℤ} :
    core ∈ coresOf topology ↔ ∃ cpu ∈ online, tuple (machine.siblings online cpu) = core := by
  rw [Cpu.mem_coresOf]
  constructor
  · rintro ⟨entry, hentry, rfl⟩
    obtain ⟨cpu, hcpu, rfl⟩ := (hdescribes.entries entry).1 hentry
    exact ⟨cpu, hcpu, rfl⟩
  · rintro ⟨cpu, hcpu, rfl⟩
    exact ⟨_, (hdescribes.entries _).2 ⟨cpu, hcpu, rfl⟩, rfl⟩

end Describes

end IcpcVerify.Cpu
