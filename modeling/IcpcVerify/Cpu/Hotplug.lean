import IcpcVerify.Core.Transition
import IcpcVerify.Cpu.Machine
import IcpcVerify.Cpu.Plan

/-!
# Any number of runs on one machine

A run reads the topology, plans, and takes some of the planned CPUs offline; in between
CPUs may be brought back.  Whatever succeeds and fails, only threads of the judge's own core
are ever offline, and never the judge, so that all runs without a requested CPU agree on it.
-/

namespace IcpcVerify.Cpu

open IcpcVerify.Python
open IcpcVerify.FallibleRun
open IcpcVerify.Transition

/-! ## The judge's thread -/

section Threads

variable (machine : Machine)

/-- The lowest of the CPUs on its core. -/
def IsLowestThread (cpus : Finset ℕ) (cpu : ℕ) : Prop :=
  cpu ∈ cpus ∧ ∀ other ∈ cpus, machine.core other = machine.core cpu → cpu ≤ other

/-- The greatest of the lowest threads. -/
def IsJudgeThread (cpus : Finset ℕ) (judge : ℕ) : Prop :=
  IsLowestThread machine cpus judge ∧ ∀ low, IsLowestThread machine cpus low → low ≤ judge

variable {machine} {cpus : Finset ℕ}

theorem exists_lowestThread {cpu : ℕ} (hcpu : cpu ∈ cpus) :
    ∃ low, IsLowestThread machine cpus low ∧ machine.core low = machine.core cpu := by
  have hown : cpu ∈ machine.siblings cpus cpu := machine.mem_siblings.2 ⟨hcpu, rfl⟩
  obtain ⟨low, hlow, hleast⟩ :=
    Finset.exists_min_image (machine.siblings cpus cpu) id ⟨cpu, hown⟩
  obtain ⟨hmem, hcore⟩ := machine.mem_siblings.1 hlow
  refine ⟨low, ⟨hmem, fun other hother hsame => ?_⟩, hcore⟩
  exact hleast other (machine.mem_siblings.2 ⟨hother, hsame.trans hcore⟩)

theorem exists_judgeThread (hne : cpus.Nonempty) : ∃ judge, IsJudgeThread machine cpus judge := by
  classical
  obtain ⟨cpu, hcpu⟩ := hne
  obtain ⟨low, hlow, -⟩ := exists_lowestThread hcpu
  obtain ⟨judge, hjudge, hgreatest⟩ := Finset.exists_max_image
    (cpus.filter (IsLowestThread machine cpus)) id ⟨low, Finset.mem_filter.2 ⟨hlow.1, hlow⟩⟩
  exact ⟨judge, (Finset.mem_filter.1 hjudge).2,
    fun other hother => hgreatest other (Finset.mem_filter.2 ⟨hother.1, hother⟩)⟩

end Threads

/-! ## The plan for the online CPUs -/

section Plans

variable {machine : Machine} {online : Finset ℕ} {topology : Topology}

theorem isLowest_tuple {low : ℕ} (hlow : IsLowestThread machine online low) :
    IsLowest (tuple (machine.siblings online low)) low := by
  refine ⟨natCast_mem_tuple.2 (machine.mem_siblings.2 ⟨hlow.1, rfl⟩), fun value hvalue => ?_⟩
  obtain ⟨other, hother, rfl⟩ := mem_tuple.1 hvalue
  obtain ⟨hmem, hcore⟩ := machine.mem_siblings.1 hother
  exact Int.ofNat_le.2 (hlow.2 other hmem hcore)

/-- An ascending tuple starts with its lowest number. -/
theorem exists_cons_of_isLowest {values : List ℤ} {low : ℤ} (hlow : IsLowest values low)
    (hascending : values.Pairwise (· < ·)) : ∃ rest, values = low :: rest := by
  cases values with
  | nil => cases hlow.1
  | cons first rest =>
      have hle : low ≤ first := hlow.2 first List.mem_cons_self
      rcases List.mem_cons.1 hlow.1 with rfl | hrest
      · exact ⟨rest, rfl⟩
      · exact absurd ((List.pairwise_cons.1 hascending).1 low hrest) (not_lt.2 hle)

/-- An ascending tuple ends with its greatest number. -/
theorem getLast?_of_greatest {values : List ℤ} {greatest : ℤ} (hmem : greatest ∈ values)
    (hgreatest : ∀ value ∈ values, value ≤ greatest) (hascending : values.Pairwise (· < ·)) :
    values.getLast? = some greatest := by
  obtain ⟨before, after, rfl⟩ := List.append_of_mem hmem
  have hafter : after = [] := by
    apply List.eq_nil_iff_forall_not_mem.2
    intro value hvalue
    have hlt := (List.pairwise_cons.1 (List.pairwise_append.1 hascending).2.1).1 value hvalue
    exact absurd (hgreatest value (by simp [hvalue])) (not_le.2 hlt)
  rw [hafter]
  exact List.getLast?_concat

variable (hdescribes : Describes machine online topology)
include hdescribes

/-- The last core is that of the judge's thread. -/
theorem Describes.lastCore_eq {judge : ℕ} (hjudge : IsJudgeThread machine online judge) :
    lastCore topology = tuple (machine.siblings online judge) := by
  have hne := hdescribes.ne_nil ⟨judge, hjudge.1.1⟩
  obtain ⟨cpu, hcpu, hlast⟩ := hdescribes.mem_coresOf.1 (lastCore_spec hne).1
  obtain ⟨low, hlow, hcore⟩ := @exists_lowestThread machine _ _ hcpu
  rw [← machine.siblings_congr hcore] at hlast
  obtain ⟨rest, hcons⟩ := exists_cons_of_isLowest (isLowest_tuple hlow) (tuple_ascending _)
  have hle : judge ≤ low := Int.ofNat_le.1 <|
    hdescribes.wellFormed.lowest_le hne (hlast.symm.trans hcons)
      (hdescribes.mem_coresOf.2 ⟨judge, hjudge.1.1, rfl⟩) (isLowest_tuple hjudge.1)
  rw [← hlast, le_antisymm (hjudge.2 low hlow) hle]

/-- There is one core only when all threads are on the judge's. -/
theorem Describes.one_core_iff {judge : ℕ} (hjudge : judge ∈ online) :
    (coresOf topology).length = 1 ↔ ∀ cpu ∈ online, machine.core cpu = machine.core judge := by
  have hne := hdescribes.ne_nil ⟨judge, hjudge⟩
  have hown := hdescribes.mem_coresOf.2 ⟨judge, hjudge, rfl⟩
  constructor
  · intro hone cpu hcpu
    obtain ⟨core, hcores⟩ := List.length_eq_one_iff.1 hone
    have hother := hdescribes.mem_coresOf.2 ⟨cpu, hcpu, rfl⟩
    rw [hcores, List.mem_singleton] at hown hother
    have hmem : (cpu : ℤ) ∈ tuple (machine.siblings online judge) := by
      rw [hown, ← hother]
      exact natCast_mem_tuple.2 (machine.mem_siblings.2 ⟨hcpu, rfl⟩)
    exact (machine.mem_siblings.1 (natCast_mem_tuple.1 hmem)).2
  · intro hsame
    by_contra hseveral
    obtain ⟨core, hcore, hdiffers⟩ := exists_other_core hne hseveral
    obtain ⟨cpu, hcpu, rfl⟩ := hdescribes.mem_coresOf.1 hcore
    obtain ⟨cpu', hcpu', hlast⟩ := hdescribes.mem_coresOf.1 (lastCore_spec hne).1
    apply hdiffers
    rw [← hlast, machine.siblings_congr ((hsame cpu hcpu).trans (hsame cpu' hcpu').symm)]

/-- What the plan of a run does with the cores of a machine that has several. -/
structure UsesThread (machine : Machine) (online : Finset ℕ) (judge : ℕ)
    (offlineSibling : Bool) (plan : CpuPlan) : Prop where
  judgeCpu : plan.judgeCpu = judge
  offline : ∀ cpu ∈ plan.offline, ∃ thread ∈ online,
    machine.core thread = machine.core judge ∧ thread ≠ judge ∧ (thread : ℤ) = cpu
  isolated : plan.isolated = true → ∀ thread ∈ online,
    machine.core thread = machine.core judge → thread ≠ judge → (thread : ℤ) ∈ plan.offline
  announced : offlineSibling = true → plan.isolated = true

theorem Describes.planCpu_several {judge : ℕ} (hjudge : IsJudgeThread machine online judge)
    (hother : ∃ other ∈ online, machine.core other ≠ machine.core judge)
    (offlineSibling : Bool) :
    ∃ plan, planCpu topology none offlineSibling = .ok plan ∧
      UsesThread machine online judge offlineSibling plan := by
  have hseveral : (coresOf topology).length ≠ 1 := by
    intro hone
    obtain ⟨other, hmem, hdiffers⟩ := hother
    exact hdiffers ((hdescribes.one_core_iff hjudge.1.1).1 hone other hmem)
  have hascending := tuple_ascending (machine.siblings online judge)
  obtain ⟨threads, hthreads⟩ :=
    exists_cons_of_isLowest (isLowest_tuple hjudge.1) hascending
  have hlast : lastCore topology = (judge : ℤ) :: threads :=
    (hdescribes.lastCore_eq hjudge).trans hthreads
  rw [hthreads] at hascending
  have hmem : ∀ {thread : ℕ}, (thread : ℤ) ∈ (judge : ℤ) :: threads ↔
      thread ∈ online ∧ machine.core thread = machine.core judge := by
    intro thread
    rw [← hthreads, natCast_mem_tuple, machine.mem_siblings]
  obtain ⟨plan, hplan, hcpu, hfirst⟩ :=
    planLastCore_several hseveral hlast (filter_ne_first hascending) offlineSibling
  refine ⟨plan, (planCpu_none (hdescribes.ne_nil ⟨judge, hjudge.1.1⟩) _).trans hplan, hcpu, ?_, ?_,
    fun hflag => hfirst.isolated.2 (.inr hflag)⟩
  · intro cpu hoffline
    have hthread : cpu ∈ threads := by
      rw [hfirst.offline] at hoffline
      split_ifs at hoffline
      · exact hoffline
      · cases hoffline
    have hlater : (judge : ℤ) < cpu := (List.pairwise_cons.1 hascending).1 cpu hthread
    have htuple : cpu ∈ tuple (machine.siblings online judge) := by
      rw [hthreads]
      exact List.mem_cons_of_mem _ hthread
    obtain ⟨thread, hsibling, rfl⟩ := mem_tuple.1 htuple
    obtain ⟨honline, hcore⟩ := machine.mem_siblings.1 hsibling
    exact ⟨thread, honline, hcore, (Int.ofNat_lt.1 hlater).ne', rfl⟩
  · intro hisolated thread honline hcore hdistinct
    have hthread : (thread : ℤ) ∈ threads :=
      (List.mem_cons.1 (hmem.2 ⟨honline, hcore⟩)).resolve_left fun heq =>
        hdistinct (Int.ofNat_inj.1 heq)
    rcases hfirst.isolated.1 hisolated with hnone | hflag
    · rw [hnone] at hthread
      cases hthread
    · rwa [hfirst.offline, if_pos hflag]

/-- With one core nothing goes offline, and the judge gets the greatest CPU. -/
theorem Describes.planCpu_one {greatest : ℕ} (hmem : greatest ∈ online)
    (hgreatest : ∀ cpu ∈ online, cpu ≤ greatest)
    (hsame : ∀ cpu ∈ online, machine.core cpu = machine.core greatest) (offlineSibling : Bool) :
    ∃ plan, planCpu topology none offlineSibling = .ok plan ∧ plan.judgeCpu = greatest ∧
      plan.offline = [] ∧ plan.isolated = false := by
  obtain ⟨judge, hjudge⟩ := @exists_judgeThread machine _ ⟨greatest, hmem⟩
  have hone := (hdescribes.one_core_iff hmem).2 hsame
  have hlast : (coresOf topology).getLastD [] = tuple (machine.siblings online greatest) := by
    rw [← lastCore, hdescribes.lastCore_eq hjudge,
      machine.siblings_congr (hsame judge hjudge.1.1)]
  have hend : (tuple (machine.siblings online greatest)).getLast? = some (greatest : ℤ) := by
    apply getLast?_of_greatest
    · exact natCast_mem_tuple.2 (machine.mem_siblings.2 ⟨hmem, rfl⟩)
    · intro value hvalue
      obtain ⟨cpu, hcpu, rfl⟩ := mem_tuple.1 hvalue
      exact Int.ofNat_le.2 (hgreatest cpu (machine.mem_siblings.1 hcpu).1)
    · exact tuple_ascending _
  rw [planCpu_none (hdescribes.ne_nil ⟨greatest, hmem⟩), planLastCore, if_pos hone, hlast, hend]
  exact ⟨_, rfl, rfl, rfl, rfl⟩

end Plans

/-! ## Runs one after another -/

section Runs

variable (rt : Runtime) (machine : Machine) (start : Finset ℕ)

/-- The planning of `run_judge`. -/
def readAndPlan (sysfs : List CpuDirectory) (requested : Option ℤ) (offlineSibling : Bool) :
    PyM CpuPlan := do
  let topology ← readTopology rt sysfs
  planCpu topology requested offlineSibling

/-- A run of the command.  Of the planned CPUs any may go offline, as writing to their
files succeeds or fails. -/
inductive RunStep (online : Finset ℕ) : Finset ℕ → Prop
  | run {sysfs : List CpuDirectory} {requested : Option ℤ} {offlineSibling : Bool}
      {plan : CpuPlan} {went : Finset ℕ} (hreports : machine.Reports online sysfs)
      (hplan : readAndPlan rt sysfs requested offlineSibling = .ok plan)
      (hwent : ∀ cpu ∈ went, (cpu : ℤ) ∈ plan.offline) : RunStep online (online \ went)

/-- A run, or somebody brings CPUs back. -/
inductive Step (online : Finset ℕ) : Finset ℕ → Prop
  | run {online' : Finset ℕ} (hrun : RunStep rt machine online online') : Step online online'
  | restore {back : Finset ℕ} (hback : back ⊆ start) : Step online (online ∪ back)

variable {rt machine start} {online : Finset ℕ} {judge : ℕ}

/-- What is offline of the CPUs there were: other threads of the judge's core, if there is
another core. -/
structure Kept (machine : Machine) (start : Finset ℕ) (judge : ℕ) (online : Finset ℕ) :
    Prop where
  within : online ⊆ start
  away : ∀ cpu ∈ start, cpu ∉ online → machine.core cpu = machine.core judge ∧ cpu ≠ judge ∧
    ∃ other ∈ start, machine.core other ≠ machine.core judge

namespace Kept

variable (hkept : Kept machine start judge online) (hjudge : IsJudgeThread machine start judge)
include hkept

/-- The other cores are online as a whole. -/
theorem mem_of_core_ne {cpu : ℕ} (hcpu : cpu ∈ start)
    (hcore : machine.core cpu ≠ machine.core judge) : cpu ∈ online := by
  by_contra hoffline
  exact hcore (hkept.away cpu hcpu hoffline).1

/-- With one core everything is online. -/
theorem mem_of_one_core
    (hsame : ∀ other ∈ start, machine.core other = machine.core judge) {cpu : ℕ}
    (hcpu : cpu ∈ start) : cpu ∈ online := by
  by_contra hoffline
  obtain ⟨other, hother, hdiffers⟩ := (hkept.away cpu hcpu hoffline).2.2
  exact hdiffers (hsame other hother)

include hjudge

theorem lowest_mem {low : ℕ} (hlow : IsLowestThread machine start low) : low ∈ online := by
  by_contra hoffline
  obtain ⟨hcore, hdistinct, -⟩ := hkept.away low hlow.1 hoffline
  exact hdistinct (le_antisymm (hlow.2 judge hjudge.1.1 hcore.symm)
    (hjudge.1.2 low hlow.1 hcore))

/-- The judge's thread is the same as at the start. -/
theorem judgeThread : IsJudgeThread machine online judge := by
  have honline := hkept.lowest_mem hjudge hjudge.1
  have hleast : ∀ other ∈ online, machine.core other = machine.core judge → judge ≤ other :=
    fun other hother => hjudge.1.2 other (hkept.within hother)
  refine ⟨⟨honline, hleast⟩, fun low hlow => ?_⟩
  by_cases hcore : machine.core judge = machine.core low
  · exact hlow.2 judge honline hcore
  · apply hjudge.2 low
    refine ⟨hkept.within hlow.1, fun other hother hsame => ?_⟩
    have hdiffers : machine.core other ≠ machine.core judge := fun heq =>
      hcore (heq.symm.trans hsame)
    exact hlow.2 other (hkept.mem_of_core_ne hother hdiffers) hsame

end Kept

variable (rt) in
/-- From a reporting directory there is a topology, and it is that of the machine. -/
theorem readAndPlan_machine (hreadable : Readable machine.cpus) (honline : online ⊆ machine.cpus)
    {sysfs : List CpuDirectory} (hreports : machine.Reports online sysfs) :
    ∃ topology, Describes machine online topology ∧ ∀ requested offlineSibling,
      readAndPlan rt sysfs requested offlineSibling =
        planCpu topology requested offlineSibling := by
  obtain ⟨topology, hread, hdescribes⟩ := readTopology_machine rt hreadable honline hreports
  refine ⟨topology, hdescribes, fun requested offlineSibling => ?_⟩
  rw [readAndPlan, hread, ok_bind]

/-- What any plan takes offline: other threads of the judge's core, and only if there is
another core. -/
theorem Describes.planned_offline {topology : Topology}
    (hdescribes : Describes machine online topology) (hjudge : IsJudgeThread machine online judge)
    {requested : Option ℤ} {offlineSibling : Bool} {plan : CpuPlan}
    (hplan : planCpu topology requested offlineSibling = .ok plan) {cpu : ℕ}
    (hcpu : (cpu : ℤ) ∈ plan.offline) :
    machine.core cpu = machine.core judge ∧ cpu ≠ judge ∧
      ∃ other ∈ online, machine.core other ≠ machine.core judge := by
  cases requested with
  | some requested =>
      by_cases hknown : requested ∈ cpusOf topology
      · obtain ⟨pinned, hpinned, -, hnone, -⟩ := planCpu_known hknown offlineSibling
        obtain rfl : pinned = plan := Except.ok.inj (hpinned.symm.trans hplan)
        rw [hnone] at hcpu
        cases hcpu
      · obtain ⟨exc, hraised⟩ := planCpu_unknown hknown offlineSibling
        rw [hraised] at hplan
        cases hplan
  | none =>
      by_cases hother : ∃ other ∈ online, machine.core other ≠ machine.core judge
      · obtain ⟨several, hseveral, huses⟩ :=
          hdescribes.planCpu_several hjudge hother offlineSibling
        obtain rfl : several = plan := Except.ok.inj (hseveral.symm.trans hplan)
        obtain ⟨thread, -, hcore, hdistinct, heq⟩ := huses.offline cpu hcpu
        obtain rfl : thread = cpu := Int.ofNat_inj.1 heq
        exact ⟨hcore, hdistinct, hother⟩
      · push Not at hother
        obtain ⟨greatest, hmem, hgreatest⟩ :=
          Finset.exists_max_image online id ⟨judge, hjudge.1.1⟩
        obtain ⟨only, honly, -, hnone, -⟩ := hdescribes.planCpu_one hmem hgreatest
          (fun other hmem' => (hother other hmem').trans (hother greatest hmem).symm)
          offlineSibling
        obtain rfl : only = plan := Except.ok.inj (honly.symm.trans hplan)
        rw [hnone] at hcpu
        cases hcpu

section Reachability

variable (hreadable : Readable machine.cpus) (hstart : start ⊆ machine.cpus)
  (hjudge : IsJudgeThread machine start judge)
include hreadable hstart hjudge

theorem Kept.run (hkept : Kept machine start judge online) {online' : Finset ℕ}
    (hrun : RunStep rt machine online online') : Kept machine start judge online' := by
  cases hrun with
  | @run sysfs requested offlineSibling plan went hreports hplan hwent =>
      obtain ⟨topology, hdescribes, hplanned⟩ :=
        readAndPlan_machine rt hreadable (hkept.within.trans hstart) hreports
      rw [hplanned] at hplan
      refine ⟨Finset.sdiff_subset.trans hkept.within, fun cpu hcpu hoffline => ?_⟩
      by_cases honline : cpu ∈ online
      · have hgone : cpu ∈ went := by
          by_contra hstays
          exact hoffline (Finset.mem_sdiff.2 ⟨honline, hstays⟩)
        obtain ⟨hcore, hdistinct, other, hother, hdiffers⟩ :=
          hdescribes.planned_offline (hkept.judgeThread hjudge) hplan (hwent cpu hgone)
        exact ⟨hcore, hdistinct, other, hkept.within hother, hdiffers⟩
      · exact hkept.away cpu hcpu honline

theorem kept_of_reachable (hreach : Reachable (Step rt machine start) start online) :
    Kept machine start judge online := by
  apply hreach.invariant (Kept machine start judge)
  · exact ⟨subset_rfl, fun cpu hcpu hoffline => absurd hcpu hoffline⟩
  · intro online online' hkept hstep
    cases hstep with
    | run hrun => exact hkept.run hreadable hstart hjudge hrun
    | restore hback =>
        refine ⟨Finset.union_subset hkept.within hback, fun cpu hcpu hoffline => ?_⟩
        exact hkept.away cpu hcpu fun honline => hoffline (Finset.mem_union_left _ honline)

variable (rt) in
/-- What the later runs find: the judge's CPU is online, and each of them gets it. -/
theorem Kept.planned_several (hkept : Kept machine start judge online)
    (hother : ∃ other ∈ start, machine.core other ≠ machine.core judge)
    {sysfs : List CpuDirectory} (hreports : machine.Reports online sysfs)
    (offlineSibling : Bool) :
    ∃ plan, readAndPlan rt sysfs none offlineSibling = .ok plan ∧
      UsesThread machine online judge offlineSibling plan := by
  obtain ⟨topology, hdescribes, hplanned⟩ :=
    readAndPlan_machine rt hreadable (hkept.within.trans hstart) hreports
  obtain ⟨other, hmem, hdiffers⟩ := hother
  rw [hplanned]
  exact hdescribes.planCpu_several (hkept.judgeThread hjudge)
    ⟨other, hkept.mem_of_core_ne hmem hdiffers, hdiffers⟩ offlineSibling

variable (rt) in
omit hjudge in
/-- With one core everything stays online, and the greatest CPU is the judge's. -/
theorem Kept.planned_one (hkept : Kept machine start judge online) {greatest : ℕ}
    (hmem : greatest ∈ start) (hgreatest : ∀ cpu ∈ start, cpu ≤ greatest)
    (hsame : ∀ other ∈ start, machine.core other = machine.core judge)
    {sysfs : List CpuDirectory} (hreports : machine.Reports online sysfs)
    (offlineSibling : Bool) :
    ∃ plan, readAndPlan rt sysfs none offlineSibling = .ok plan ∧ plan.judgeCpu = greatest ∧
      plan.isolated = false := by
  obtain ⟨topology, hdescribes, hplanned⟩ :=
    readAndPlan_machine rt hreadable (hkept.within.trans hstart) hreports
  rw [hplanned]
  obtain ⟨plan, hplan, hcpu, -, hisolated⟩ := hdescribes.planCpu_one
    (hkept.mem_of_one_core hsame hmem)
    (fun cpu hcpu => hgreatest cpu (hkept.within hcpu))
    (fun cpu hcpu => (hsame cpu (hkept.within hcpu)).trans (hsame greatest hmem).symm)
    offlineSibling
  exact ⟨plan, hplan, hcpu, hisolated⟩

end Reachability

/-- Whatever runs and restorations come in whatever order, every core keeps its lowest
thread, only siblings of the judge's CPU are offline, and every run without a requested CPU
finds a plan and gives the judge the same CPU. -/
theorem runs_agree (rt : Runtime) (hreadable : Readable machine.cpus)
    (hstart : start ⊆ machine.cpus) (hne : start.Nonempty) :
    ∃ judge ∈ start, ∀ online, Reachable (Step rt machine start) start online →
      judge ∈ online ∧
      (∀ low, IsLowestThread machine start low → low ∈ online) ∧
      (∀ cpu ∈ start, cpu ∉ online → machine.core cpu = machine.core judge) ∧
      ∀ sysfs, machine.Reports online sysfs → ∀ offlineSibling, ∃ plan,
        readAndPlan rt sysfs none offlineSibling = .ok plan ∧ plan.judgeCpu = judge := by
  obtain ⟨judge, hjudge⟩ := @exists_judgeThread machine _ hne
  by_cases hother : ∃ other ∈ start, machine.core other ≠ machine.core judge
  · refine ⟨judge, hjudge.1.1, fun online hreach => ?_⟩
    have hkept := kept_of_reachable hreadable hstart hjudge hreach
    refine ⟨hkept.lowest_mem hjudge hjudge.1, fun low => hkept.lowest_mem hjudge,
      fun cpu hcpu hoffline => (hkept.away cpu hcpu hoffline).1, ?_⟩
    intro sysfs hreports offlineSibling
    obtain ⟨plan, hplan, huses⟩ :=
      hkept.planned_several rt hreadable hstart hjudge hother hreports offlineSibling
    exact ⟨plan, hplan, huses.judgeCpu⟩
  · push Not at hother
    obtain ⟨greatest, hmem, hgreatest⟩ := Finset.exists_max_image start id hne
    refine ⟨greatest, hmem, fun online hreach => ?_⟩
    have hkept := kept_of_reachable hreadable hstart hjudge hreach
    -- with one core nothing is ever offline
    have hall : ∀ cpu ∈ start, cpu ∈ online := fun _ => hkept.mem_of_one_core hother
    refine ⟨hall greatest hmem, fun low hlow => hall low hlow.1,
      fun cpu hcpu hoffline => absurd (hall cpu hcpu) hoffline, ?_⟩
    intro sysfs hreports offlineSibling
    obtain ⟨plan, hplan, hcpu, -⟩ := hkept.planned_one rt hreadable hstart hmem hgreatest
      hother hreports offlineSibling
    exact ⟨plan, hplan, hcpu⟩

/-- Two cores with two threads each. -/
def fourThreadMachine : Machine where
  cpus := Finset.range 4
  core := fun cpu => cpu / 2

theorem fourThreadMachine_readable : Readable fourThreadMachine.cpus := by
  intro cpu hcpu
  have hsmall : cpu < 10 ^ 1 := (Finset.mem_range.1 hcpu).trans (by decide)
  exact hsmall.trans_le (Nat.pow_le_pow_right (by decide) (by decide))

theorem fourThreadMachine_nonempty : fourThreadMachine.cpus.Nonempty :=
  ⟨0, Finset.mem_range.2 (by decide)⟩

/-- The directory of the CPUs in ascending order. -/
def Machine.sysfs (machine : Machine) (online : Finset ℕ) : List CpuDirectory :=
  machine.cpus.sort.map (machine.directory online)

theorem Machine.reports_sysfs : machine.Reports online (machine.sysfs online) where
  known := by
    intro directory hdirectory _
    obtain ⟨cpu, hcpu, rfl⟩ := List.mem_map.1 hdirectory
    exact ⟨cpu, (Finset.mem_sort _).1 hcpu, rfl⟩
  all := fun cpu hcpu => List.mem_map_of_mem ((Finset.mem_sort _).2 hcpu)

theorem runs_agree_fourThreads :
    ∃ judge ∈ fourThreadMachine.cpus, ∀ online,
      Reachable (Step Runtime.ascii fourThreadMachine fourThreadMachine.cpus)
        fourThreadMachine.cpus online →
      judge ∈ online ∧
      (∀ low, IsLowestThread fourThreadMachine fourThreadMachine.cpus low → low ∈ online) ∧
      (∀ cpu ∈ fourThreadMachine.cpus, cpu ∉ online → cpu / 2 = judge / 2) ∧
      ∀ sysfs, fourThreadMachine.Reports online sysfs → ∀ offlineSibling, ∃ plan,
        readAndPlan Runtime.ascii sysfs none offlineSibling = .ok plan ∧ plan.judgeCpu = judge :=
  runs_agree Runtime.ascii fourThreadMachine_readable subset_rfl fourThreadMachine_nonempty

/-- The warnings of the loop are added to, and none is added only where every CPU was taken
offline. -/
theorem foldlM_takeOffline {takeOffline : ℤ → PyM (Option PyStr)} {cpus : List ℤ}
    {before after : List PyStr}
    (hrun : cpus.foldlM (fun warnings cpu => do
      match ← takeOffline cpu with
      | none => return warnings
      | some exc => return warnings ++
          [py "cpu" ++ formatInt cpu ++ py " offline 에 실패했습니다: " ++ exc]) before =
        .ok after) :
    before.length ≤ after.length ∧
      (after.length = before.length → ∀ cpu ∈ cpus, takeOffline cpu = .ok none) := by
  induction cpus generalizing before with
  | nil =>
      obtain rfl : before = after := Except.ok.inj hrun
      exact ⟨le_rfl, fun _ _ hcpu => by cases hcpu⟩
  | cons cpu cpus ih =>
      rw [List.foldlM_cons] at hrun
      obtain ⟨next, hround, hrest⟩ := bind_eq_ok_iff.1 hrun
      obtain ⟨tried, htried, hnext⟩ := bind_eq_ok_iff.1 hround
      obtain ⟨hle, hnone⟩ := ih hrest
      cases tried with
      | none =>
          obtain rfl : before = next := Except.ok.inj hnext
          exact ⟨hle, fun heq => List.forall_mem_cons.2 ⟨htried, hnone heq⟩⟩
      | some exc =>
          obtain rfl := Except.ok.inj hnext
          rw [List.length_append, List.length_singleton] at hle
          exact ⟨by omega, fun heq => by omega⟩

/-- Applying a plan gives no warning exactly when every planned CPU was taken offline. -/
theorem applyCpuPlan_eq_nil_iff {takeOffline : ℤ → PyM (Option PyStr)} {plan : CpuPlan} :
    applyCpuPlan takeOffline plan = .ok [] ↔
      ∀ cpu ∈ plan.offline, takeOffline cpu = .ok none := by
  constructor
  · exact fun happlied => (foldlM_takeOffline happlied).2 rfl
  · intro htaken
    rw [applyCpuPlan]
    generalize plan.offline = cpus at htaken ⊢
    induction cpus with
    | nil => rfl
    | cons cpu cpus ih =>
        obtain ⟨hfirst, hrest⟩ := List.forall_mem_cons.1 htaken
        rw [List.foldlM_cons, hfirst]
        exact ih hrest

/-- A run that announces isolation and warns of nothing leaves the judge alone on its core,
and so do all runs after it until CPUs are brought back. -/
theorem isolated_alone (rt : Runtime) (hreadable : Readable machine.cpus)
    (hstart : start ⊆ machine.cpus) (hne : start.Nonempty)
    (hreach : Reachable (Step rt machine start) start online) {sysfs : List CpuDirectory}
    (hreports : machine.Reports online sysfs) {offlineSibling : Bool} {plan : CpuPlan}
    (hplan : readAndPlan rt sysfs none offlineSibling = .ok plan)
    (hisolated : plan.isolated = true) {takeOffline : ℤ → PyM (Option PyStr)}
    (happlied : applyCpuPlan takeOffline plan = .ok []) {went later : Finset ℕ}
    (hwent : ∀ cpu ∈ went, (cpu : ℤ) ∈ plan.offline)
    (htaken : ∀ cpu : ℕ, (cpu : ℤ) ∈ plan.offline → takeOffline cpu = .ok none → cpu ∈ went)
    (hlater : Reachable (RunStep rt machine) (online \ went) later) :
    ∃ judge ∈ later, plan.judgeCpu = judge ∧
      ∀ cpu ∈ later, machine.core cpu = machine.core judge → cpu = judge := by
  obtain ⟨judge, hjudge⟩ := @exists_judgeThread machine _ hne
  have hkept := kept_of_reachable hreadable hstart hjudge hreach
  have hother : ∃ other ∈ start, machine.core other ≠ machine.core judge := by
    by_contra hone
    push Not at hone
    obtain ⟨greatest, hmem, hgreatest⟩ := Finset.exists_max_image start id hne
    obtain ⟨only, honly, -, hpinned⟩ := hkept.planned_one rt hreadable hstart hmem
      hgreatest hone hreports offlineSibling
    obtain rfl : only = plan := Except.ok.inj (honly.symm.trans hplan)
    rw [hpinned] at hisolated
    cases hisolated
  obtain ⟨several, hseveral, huses⟩ :=
    hkept.planned_several rt hreadable hstart hjudge hother hreports offlineSibling
  obtain rfl : several = plan := Except.ok.inj (hseveral.symm.trans hplan)
  have halone : ∀ cpu ∈ online \ went, machine.core cpu = machine.core judge → cpu = judge := by
    intro cpu hcpu hcore
    obtain ⟨honline, hstays⟩ := Finset.mem_sdiff.1 hcpu
    by_contra hdistinct
    have hplanned := huses.isolated hisolated cpu honline hcore hdistinct
    exact hstays (htaken cpu hplanned (applyCpuPlan_eq_nil_iff.1 happlied cpu hplanned))
  -- a run takes CPUs away only, and never the judge's
  have hinv := hlater.invariant
    (fun later => Kept machine start judge later ∧
      ∀ cpu ∈ later, machine.core cpu = machine.core judge → cpu = judge)
    ⟨hkept.run hreadable hstart hjudge (.run hreports hplan hwent), halone⟩ (by
      intro later later' hinv hrun
      refine ⟨hinv.1.run hreadable hstart hjudge hrun, fun cpu hcpu => ?_⟩
      cases hrun with
      | run => exact hinv.2 cpu (Finset.mem_sdiff.1 hcpu).1)
  exact ⟨judge, hinv.1.lowest_mem hjudge hjudge.1, huses.judgeCpu, hinv.2⟩

theorem fourThreadMachine_judge :
    IsJudgeThread fourThreadMachine fourThreadMachine.cpus 2 := by
  refine ⟨⟨by decide, by decide⟩, fun low hlow => ?_⟩
  by_contra hgreater
  have hlt : low < 4 := Finset.mem_range.1 hlow.1
  obtain rfl : low = 3 := by omega
  exact absurd (hlow.2 2 (by decide) (by decide)) (by decide)

/-- The four threads: the run takes 3 offline, and leaves 2 alone on its core. -/
theorem isolated_alone_fourThreads :
    ∃ plan, readAndPlan Runtime.ascii (fourThreadMachine.sysfs fourThreadMachine.cpus) none true =
        .ok plan ∧
      plan.isolated = true ∧
      ∃ judge ∈ fourThreadMachine.cpus \ {3}, plan.judgeCpu = judge ∧
        ∀ cpu ∈ fourThreadMachine.cpus \ {3},
          fourThreadMachine.core cpu = fourThreadMachine.core judge → cpu = judge := by
  have hkept : Kept fourThreadMachine fourThreadMachine.cpus 2 fourThreadMachine.cpus :=
    ⟨subset_rfl, fun cpu hcpu hoffline => absurd hcpu hoffline⟩
  obtain ⟨plan, hplan, huses⟩ := hkept.planned_several Runtime.ascii
    fourThreadMachine_readable subset_rfl fourThreadMachine_judge (by decide)
    Machine.reports_sysfs true
  have hisolated := huses.announced rfl
  have hwent : ∀ cpu ∈ ({3} : Finset ℕ), (cpu : ℤ) ∈ plan.offline := by
    intro cpu hcpu
    obtain rfl := Finset.mem_singleton.1 hcpu
    exact huses.isolated hisolated 3 (by decide) (by decide) (by decide)
  have htaken : ∀ cpu ∈ plan.offline, cpu = 3 := by
    intro cpu hcpu
    obtain ⟨thread, hmem, hcore, hdistinct, rfl⟩ := huses.offline cpu hcpu
    have hlt : thread < 4 := Finset.mem_range.1 hmem
    have hhalf : thread / 2 = 2 / 2 := hcore
    omega
  have happlied : applyCpuPlan (fun _ => pure none) plan = .ok [] :=
    applyCpuPlan_eq_nil_iff.2 fun _ _ => rfl
  refine ⟨plan, hplan, hisolated, ?_⟩
  exact isolated_alone Runtime.ascii fourThreadMachine_readable subset_rfl
    fourThreadMachine_nonempty .here Machine.reports_sysfs hplan hisolated happlied
    hwent (fun cpu hcpu _ => Finset.mem_singleton.2 (Int.ofNat_inj.1 (htaken cpu hcpu))) .here

end Runs

end IcpcVerify.Cpu
