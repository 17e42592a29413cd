import IcpcVerify.Core.Sorting
import IcpcVerify.Cpu

/-!
# Safety of the CPU plan

On a well formed topology the cores are disjoint, so the last of them in the order of
tuples is the one whose first thread is the greatest.  The judge runs on that thread and
at most the other threads of this core go offline; planning once more on what is left
changes nothing.
-/

namespace IcpcVerify.Cpu

open IcpcVerify.Python
open IcpcVerify.Sorting

/-! ## Topologies -/

def cpusOf (topology : Topology) : List ℤ :=
  topology.map Prod.fst

/-- Every CPU has one tuple of siblings: ascending, with the CPU in it, and made of CPUs
of the topology.  Two tuples are equal or disjoint. -/
structure WellFormed (topology : Topology) : Prop where
  distinct : (cpusOf topology).Nodup
  ascending : ∀ entry ∈ topology, entry.2.Pairwise (· < ·)
  own : ∀ entry ∈ topology, entry.1 ∈ entry.2
  known : ∀ entry ∈ topology, ∀ cpu ∈ entry.2, cpu ∈ cpusOf topology
  disjoint : ∀ entry ∈ topology, ∀ entry' ∈ topology,
    entry.2 = entry'.2 ∨ List.Disjoint entry.2 entry'.2

/-- The CPUs are siblings. -/
def AreSiblings (topology : Topology) (cpu other : ℤ) : Prop :=
  ∃ siblings, (cpu, siblings) ∈ topology ∧ other ∈ siblings

/-- The CPU is the lowest of them. -/
def IsLowest (cpus : List ℤ) (cpu : ℤ) : Prop :=
  cpu ∈ cpus ∧ ∀ other ∈ cpus, cpu ≤ other

variable {topology : Topology}

theorem mem_coresOf {core : List ℤ} :
    core ∈ coresOf topology ↔ ∃ entry ∈ topology, entry.2 = core := by
  rw [coresOf, List.mem_insertionSort, List.mem_dedup, List.mem_map]

namespace WellFormed

variable (hwell : WellFormed topology)
include hwell

theorem core_ne_nil {core : List ℤ} (hcore : core ∈ coresOf topology) : core ≠ [] := by
  obtain ⟨entry, hentry, rfl⟩ := mem_coresOf.1 hcore
  exact List.ne_nil_of_mem (hwell.own entry hentry)

theorem core_ascending {core : List ℤ} (hcore : core ∈ coresOf topology) :
    core.Pairwise (· < ·) := by
  obtain ⟨entry, hentry, rfl⟩ := mem_coresOf.1 hcore
  exact hwell.ascending entry hentry

/-- Two cores with a common thread are the same. -/
theorem core_unique {core core' : List ℤ} (hcore : core ∈ coresOf topology)
    (hcore' : core' ∈ coresOf topology) {cpu : ℤ} (hcpu : cpu ∈ core) (hcpu' : cpu ∈ core') :
    core = core' := by
  obtain ⟨entry, hentry, rfl⟩ := mem_coresOf.1 hcore
  obtain ⟨entry', hentry', rfl⟩ := mem_coresOf.1 hcore'
  exact (hwell.disjoint entry hentry entry' hentry').resolve_right fun hdisjoint =>
    hdisjoint hcpu hcpu'

/-- Every thread of a core has this core for its siblings. -/
theorem entry_of_mem {core : List ℤ} (hcore : core ∈ coresOf topology) {cpu : ℤ}
    (hcpu : cpu ∈ core) : (cpu, core) ∈ topology := by
  obtain ⟨entry, hentry, rfl⟩ := mem_coresOf.1 hcore
  obtain ⟨own, hown, rfl⟩ := List.mem_map.1 (hwell.known entry hentry cpu hcpu)
  have hsame : own.2 = entry.2 := hwell.core_unique (mem_coresOf.2 ⟨own, hown, rfl⟩) hcore
    (hwell.own own hown) hcpu
  rwa [← hsame]

end WellFormed

/-! ## The last core -/

/-- The last in the order of tuples. -/
def lastCore (topology : Topology) : List ℤ :=
  (coresOf topology).getLastD []

theorem coresOf_nodup : (coresOf topology).Nodup :=
  (List.perm_insertionSort _ _).nodup_iff.2 (List.nodup_dedup _)

theorem lastCore_spec (hne : topology ≠ []) :
    lastCore topology ∈ coresOf topology ∧ ∀ core ∈ coresOf topology, core ≤ lastCore topology := by
  have hcores : (topology.map Prod.snd).dedup ≠ [] := by
    obtain ⟨entry, hentry⟩ := List.exists_mem_of_ne_nil topology hne
    exact List.ne_nil_of_mem (List.mem_dedup.2 (List.mem_map_of_mem hentry))
  obtain ⟨hmem, hgreatest⟩ := getLastD_insertionSort_spec hcores []
  exact ⟨(List.mem_insertionSort _).2 hmem, fun core hcore =>
    hgreatest core ((List.mem_insertionSort _).1 hcore)⟩

/-- If there is not one core only, there is another than the last. -/
theorem exists_other_core (hne : topology ≠ []) (hlength : (coresOf topology).length ≠ 1) :
    ∃ core ∈ coresOf topology, core ≠ lastCore topology := by
  by_contra hnone
  push Not at hnone
  have hreplicate := List.eq_replicate_of_mem hnone
  have hnodup : (coresOf topology).Nodup := coresOf_nodup
  rw [hreplicate, List.nodup_replicate] at hnodup
  have hpos := List.length_pos_of_mem (lastCore_spec hne).1
  omega

namespace WellFormed

variable (hwell : WellFormed topology)
include hwell

/-- The first thread of a core is the lowest, and none follows a greater one in the order
of tuples. -/
theorem lowest_le (hne : topology ≠ []) {low : ℤ} {threads : List ℤ}
    (hlast : lastCore topology = low :: threads) {core : List ℤ} (hcore : core ∈ coresOf topology)
    {other : ℤ} (hother : IsLowest core other) : other ≤ low := by
  obtain ⟨hmem, hgreatest⟩ := lastCore_spec hne
  have hle := hgreatest core hcore
  cases core with
  | nil => exact absurd rfl (hwell.core_ne_nil hcore)
  | cons first rest =>
      have hfirst : other ≤ first := hother.2 first List.mem_cons_self
      rw [hlast, cons_le_cons_iff] at hle
      rcases hle with hlt | ⟨rfl, -⟩
      · exact hfirst.trans hlt.le
      · exact hfirst

/-- The siblings of a thread of the last core are its threads. -/
theorem areSiblings_iff (hne : topology ≠ []) {cpu other : ℤ} (hcpu : cpu ∈ lastCore topology) :
    AreSiblings topology cpu other ↔ other ∈ lastCore topology := by
  have hlast := (lastCore_spec hne).1
  constructor
  · rintro ⟨siblings, hentry, hother⟩
    have hsame : siblings = lastCore topology := hwell.core_unique
      (mem_coresOf.2 ⟨(cpu, siblings), hentry, rfl⟩) hlast (hwell.own _ hentry) hcpu
    rwa [← hsame]
  · exact fun hother => ⟨lastCore topology, hwell.entry_of_mem hlast hcpu, hother⟩

end WellFormed

/-! ## The plan -/

/-- The plan for several cores: the judge gets the first thread of the last one. -/
structure OnFirstThread (offlineSibling : Bool) (threads : List ℤ) (plan : CpuPlan) : Prop where
  offline : plan.offline = if offlineSibling then threads else []
  isolated : plan.isolated = true ↔ threads = [] ∨ offlineSibling = true

theorem planLastCore_nil {cores : List (List ℤ)} (hlast : cores.getLastD [] = [])
    (offlineSibling : Bool) : planLastCore cores offlineSibling = .error indexError := by
  rw [planLastCore, hlast]
  split_ifs <;> rfl

theorem planLastCore_one {cores : List (List ℤ)} {core : List ℤ} (hone : cores.length = 1)
    (hlast : cores.getLastD [] = core) (hne : core ≠ []) (offlineSibling : Bool) :
    ∃ plan, planLastCore cores offlineSibling = .ok plan ∧ plan.judgeCpu ∈ core ∧
      plan.offline = [] ∧ plan.isolated = false := by
  rw [planLastCore, if_pos hone, hlast, List.getLast?_eq_some_getLast hne]
  exact ⟨_, rfl, List.getLast_mem hne, rfl, rfl⟩

theorem planLastCore_several {cores : List (List ℤ)} {judgeCpu : ℤ} {threads siblings : List ℤ}
    (hseveral : cores.length ≠ 1) (hlast : cores.getLastD [] = judgeCpu :: threads)
    (hsiblings : (judgeCpu :: threads).filter (· ≠ judgeCpu) = siblings)
    (offlineSibling : Bool) :
    ∃ plan, planLastCore cores offlineSibling = .ok plan ∧ plan.judgeCpu = judgeCpu ∧
      OnFirstThread offlineSibling siblings plan := by
  rw [planLastCore, if_neg hseveral, hlast]
  simp only [hsiblings]
  cases siblings with
  | nil => exact ⟨_, rfl, rfl, by simp, by simp⟩
  | cons thread siblings =>
      cases offlineSibling with
      | true => exact ⟨_, rfl, rfl, by simp, by simp⟩
      | false => exact ⟨_, rfl, rfl, by simp, by simp⟩

/-- In ascending order only the first thread is the first thread. -/
theorem filter_ne_first {judgeCpu : ℤ} {threads : List ℤ}
    (hascending : (judgeCpu :: threads).Pairwise (· < ·)) :
    (judgeCpu :: threads).filter (· ≠ judgeCpu) = threads := by
  have hne : ∀ cpu ∈ threads, cpu ≠ judgeCpu := fun cpu hcpu =>
    ((List.pairwise_cons.1 hascending).1 cpu hcpu).ne'
  simpa using hne

theorem planCpu_none (hne : topology ≠ []) (offlineSibling : Bool) :
    planCpu topology none offlineSibling = planLastCore (coresOf topology) offlineSibling := by
  rw [planCpu, List.isEmpty_eq_false_iff.2 hne]
  rfl

/-- A requested CPU that is there is only pinned to. -/
theorem planCpu_known {cpu : ℤ} (hknown : cpu ∈ cpusOf topology) (offlineSibling : Bool) :
    ∃ plan, planCpu topology (some cpu) offlineSibling = .ok plan ∧ plan.judgeCpu = cpu ∧
      plan.offline = [] ∧ plan.isolated = false := by
  have hne : topology ≠ [] := by
    rintro rfl
    cases hknown
  rw [cpusOf] at hknown
  simp only [planCpu, List.isEmpty_eq_false_iff.2 hne, Bool.false_eq_true, hknown, not_true,
    if_false]
  exact ⟨_, rfl, rfl, rfl, rfl⟩

theorem planCpu_unknown {cpu : ℤ} (hunknown : cpu ∉ cpusOf topology) (offlineSibling : Bool) :
    ∃ exc, planCpu topology (some cpu) offlineSibling = .error exc := by
  rw [cpusOf] at hunknown
  by_cases hempty : topology.isEmpty
  · rw [planCpu, if_pos hempty]
    exact ⟨_, rfl⟩
  · simp only [planCpu, hempty, Bool.false_eq_true, hunknown, not_false_iff, if_true, if_false]
    exact ⟨_, rfl⟩

/-- What planning promises about the machine. -/
structure Safe (topology : Topology) (requested : Option ℤ) (plan : CpuPlan) : Prop where
  known : plan.judgeCpu ∈ cpusOf topology
  online : plan.judgeCpu ∉ plan.offline
  siblings : ∀ cpu ∈ plan.offline, AreSiblings topology plan.judgeCpu cpu
  lowest : ∀ cpu, IsLowest (cpusOf topology) cpu → cpu ∉ plan.offline
  outside : plan.offline ≠ [] → ∃ cpu ∈ cpusOf topology,
    ¬AreSiblings topology plan.judgeCpu cpu ∧ cpu ∉ plan.offline
  isolated : plan.isolated = true → 2 ≤ (coresOf topology).length ∧
    ∀ cpu, AreSiblings topology plan.judgeCpu cpu → cpu ≠ plan.judgeCpu → cpu ∈ plan.offline
  lastCore : requested = none → ∃ siblings low, (plan.judgeCpu, siblings) ∈ topology ∧
    IsLowest siblings low ∧ ∀ entry ∈ topology, ∀ other, IsLowest entry.2 other → other ≤ low

/-- A plan that takes nothing offline and claims no isolation is safe on any core. -/
theorem safe_of_pinned {requested : Option ℤ} {plan : CpuPlan}
    (hknown : plan.judgeCpu ∈ cpusOf topology) (hoffline : plan.offline = [])
    (hisolated : plan.isolated = false)
    (hlast : requested = none → ∃ siblings low, (plan.judgeCpu, siblings) ∈ topology ∧
      IsLowest siblings low ∧
        ∀ entry ∈ topology, ∀ other, IsLowest entry.2 other → other ≤ low) :
    Safe topology requested plan where
  known := hknown
  online := by simp [hoffline]
  siblings := by simp [hoffline]
  lowest := by simp [hoffline]
  outside := fun hne => absurd hoffline hne
  isolated := by simp [hisolated]
  lastCore := hlast

namespace WellFormed

variable (hwell : WellFormed topology)
include hwell

/-- Any thread of the last core is in the core whose lowest thread is the greatest. -/
theorem in_last_core (hne : topology ≠ []) {cpu : ℤ} (hcpu : cpu ∈ lastCore topology) :
    ∃ siblings low, (cpu, siblings) ∈ topology ∧ IsLowest siblings low ∧
      ∀ entry ∈ topology, ∀ other, IsLowest entry.2 other → other ≤ low := by
  have hlast := (lastCore_spec hne).1
  have hascending := hwell.core_ascending hlast
  refine ⟨lastCore topology, (lastCore topology).headI, hwell.entry_of_mem hlast hcpu, ?_, ?_⟩
  · cases hcore : lastCore topology with
    | nil => exact absurd hcore (hwell.core_ne_nil hlast)
    | cons low threads =>
        rw [hcore] at hascending
        refine ⟨List.mem_cons_self, fun other hother => ?_⟩
        rcases List.mem_cons.1 hother with rfl | hthread
        · exact le_rfl
        · exact ((List.pairwise_cons.1 hascending).1 other hthread).le
  · intro entry hentry other hother
    cases hcore : lastCore topology with
    | nil => exact absurd hcore (hwell.core_ne_nil hlast)
    | cons low threads => exact hwell.lowest_le hne hcore (mem_coresOf.2 ⟨entry, hentry, rfl⟩) hother

/-- The plan for several cores is safe. -/
theorem safe_of_several (hne : topology ≠ []) (hseveral : (coresOf topology).length ≠ 1)
    {judgeCpu : ℤ} {threads : List ℤ} (hlast : lastCore topology = judgeCpu :: threads)
    {requested : Option ℤ} {offlineSibling : Bool} {plan : CpuPlan}
    (hjudge : plan.judgeCpu = judgeCpu) (hplan : OnFirstThread offlineSibling threads plan) :
    Safe topology requested plan := by
  have hcore := (lastCore_spec hne).1
  have hfirst : judgeCpu ∈ lastCore topology := by simp [hlast]
  have hbelow : ∀ cpu ∈ threads, judgeCpu < cpu := by
    have hascending := hwell.core_ascending hcore
    rw [hlast] at hascending
    exact (List.pairwise_cons.1 hascending).1
  have hthreads : ∀ cpu ∈ plan.offline, cpu ∈ threads := by
    intro cpu hcpu
    rw [hplan.offline] at hcpu
    split_ifs at hcpu
    · exact hcpu
    · cases hcpu
  have hsiblings : ∀ cpu, AreSiblings topology judgeCpu cpu ↔ cpu ∈ judgeCpu :: threads := by
    intro cpu
    rw [hwell.areSiblings_iff hne hfirst, hlast]
  have hknown : judgeCpu ∈ cpusOf topology :=
    List.mem_map_of_mem (hwell.entry_of_mem hcore hfirst)
  obtain ⟨other, hother, hdiffers⟩ := exists_other_core hne hseveral
  obtain ⟨entry, hentry, rfl⟩ := mem_coresOf.1 hother
  have houtside : entry.1 ∉ judgeCpu :: threads := fun hmem =>
    hdiffers (hwell.core_unique hother hcore (hwell.own entry hentry) (hlast ▸ hmem))
  subst hjudge
  exact
    { known := hknown
      online := fun hcpu => lt_irrefl _ (hbelow _ (hthreads _ hcpu))
      siblings := fun cpu hcpu => (hsiblings cpu).2 (List.mem_cons_of_mem _ (hthreads cpu hcpu))
      lowest := fun cpu hlowest hcpu =>
        absurd (hlowest.2 _ hknown) (not_le.2 (hbelow cpu (hthreads cpu hcpu)))
      outside := fun _ => ⟨entry.1, List.mem_map_of_mem hentry,
        fun hsibling => houtside ((hsiblings entry.1).1 hsibling),
        fun hcpu => houtside (List.mem_cons_of_mem _ (hthreads _ hcpu))⟩
      isolated := by
        intro hisolated
        have hpos := List.length_pos_of_mem hcore
        refine ⟨by omega, fun cpu hcpu hdistinct => ?_⟩
        have hthread := (List.mem_cons.1 ((hsiblings cpu).1 hcpu)).resolve_left hdistinct
        rcases hplan.isolated.1 hisolated with hnil | hoff
        · rw [hnil] at hthread
          cases hthread
        · rwa [hplan.offline, if_pos hoff]
      lastCore := fun _ => hwell.in_last_core hne hfirst }

/-- Without a requested CPU there is a plan, and it is safe. -/
theorem planCpu_none_safe (hne : topology ≠ []) (offlineSibling : Bool) :
    ∃ plan, planCpu topology none offlineSibling = .ok plan ∧ Safe topology none plan := by
  have hcore := (lastCore_spec hne).1
  rw [planCpu_none hne]
  by_cases hone : (coresOf topology).length = 1
  · obtain ⟨plan, hplan, hjudge, hoffline, hisolated⟩ :=
      planLastCore_one hone rfl (hwell.core_ne_nil hcore) offlineSibling
    have hknown := List.mem_map_of_mem (f := Prod.fst) (hwell.entry_of_mem hcore hjudge)
    exact ⟨plan, hplan, safe_of_pinned hknown hoffline hisolated fun _ =>
      hwell.in_last_core hne hjudge⟩
  · cases hlast : lastCore topology with
    | nil => exact absurd hlast (hwell.core_ne_nil hcore)
    | cons judgeCpu threads =>
        have hascending := hwell.core_ascending hcore
        rw [hlast] at hascending
        obtain ⟨plan, hplan, hjudge, honFirst⟩ :=
          planLastCore_several hone hlast (filter_ne_first hascending) offlineSibling
        exact ⟨plan, hplan, hwell.safe_of_several hne hone hlast hjudge honFirst⟩

/-- There is a safe plan unless a CPU is requested that is not there. -/
theorem planCpu_safe_of_known (hne : topology ≠ []) {requested : Option ℤ}
    (hknown : ∀ cpu ∈ requested, cpu ∈ cpusOf topology) (offlineSibling : Bool) :
    ∃ plan, planCpu topology requested offlineSibling = .ok plan ∧
      Safe topology requested plan := by
  cases requested with
  | none => exact hwell.planCpu_none_safe hne offlineSibling
  | some cpu =>
      obtain ⟨plan, hplan, rfl, hoffline, hisolated⟩ :=
        planCpu_known (hknown cpu rfl) offlineSibling
      exact ⟨plan, hplan, safe_of_pinned (hknown _ rfl) hoffline hisolated fun hnone => by
        cases hnone⟩

end WellFormed

/-- On a well formed topology every plan is safe, and there is none exactly when a CPU is
requested that is not there. -/
theorem planCpu_safe (hne : topology ≠ []) (hwell : WellFormed topology)
    (requested : Option ℤ) (offlineSibling : Bool) :
    (∀ plan, planCpu topology requested offlineSibling = .ok plan →
        Safe topology requested plan) ∧
      ((∃ exc, planCpu topology requested offlineSibling = .error exc) ↔
        ∃ cpu ∈ requested, cpu ∉ cpusOf topology) := by
  by_cases hunknown : ∃ cpu ∈ requested, cpu ∉ cpusOf topology
  · obtain ⟨cpu, rfl, hcpu⟩ := hunknown
    obtain ⟨exc, hraised⟩ := planCpu_unknown hcpu offlineSibling
    rw [hraised]
    constructor
    · intro plan hplan
      cases hplan
    · exact iff_of_true ⟨exc, rfl⟩ ⟨cpu, rfl, hcpu⟩
  · have hknown : ∀ cpu ∈ requested, cpu ∈ cpusOf topology := by
      simpa using hunknown
    obtain ⟨plan, hplan, hsafe⟩ := hwell.planCpu_safe_of_known hne hknown offlineSibling
    rw [hplan]
    constructor
    · intro plan' hplan'
      rwa [← Except.ok.inj hplan']
    · simpa using hunknown

/-- Two cores with two threads each. -/
def fourThreads : Topology :=
  [(0, [0, 1]), (1, [0, 1]), (2, [2, 3]), (3, [2, 3])]

theorem fourThreads_ne_nil : fourThreads ≠ [] :=
  List.cons_ne_nil _ _

theorem fourThreads_wellFormed : WellFormed fourThreads where
  distinct := by decide
  ascending := by decide
  own := by decide
  known := by decide
  disjoint := by simp [fourThreads]

theorem planCpu_safe_fourThreads :
    planCpu fourThreads none true = .ok ⟨2, [3], true, []⟩ ∧
      Safe fourThreads none ⟨2, [3], true, []⟩ := by
  have hplan : planCpu fourThreads none true = .ok ⟨2, [3], true, []⟩ := by decide
  have hsafe := planCpu_safe fourThreads_ne_nil fourThreads_wellFormed none true
  exact ⟨hplan, hsafe.1 _ hplan⟩

/-! ## Planning once more -/

/-- What the kernel reports when CPUs have gone offline. -/
def afterOffline (topology : Topology) (offline : List ℤ) : Topology :=
  (topology.filter fun entry => entry.1 ∉ offline).map fun entry =>
    (entry.1, entry.2.filter (· ∉ offline))

theorem afterOffline_nil (topology : Topology) : afterOffline topology [] = topology := by
  simp [afterOffline]

namespace WellFormed

variable (hwell : WellFormed topology)
include hwell

/-- Without its other threads the last core is its first one, and the other cores are
as before. -/
theorem mem_coresOf_after (hne : topology ≠ []) {judgeCpu : ℤ} {threads : List ℤ}
    (hlast : lastCore topology = judgeCpu :: threads) {core : List ℤ} :
    core ∈ coresOf (afterOffline topology threads) ↔
      core = [judgeCpu] ∨ (core ∈ coresOf topology ∧ core ≠ lastCore topology) := by
  have hcore := (lastCore_spec hne).1
  have hfirst : judgeCpu ∈ lastCore topology := by simp [hlast]
  have hjudge : judgeCpu ∉ threads := by
    have hascending := hwell.core_ascending hcore
    rw [hlast] at hascending
    exact fun hmem => lt_irrefl _ ((List.pairwise_cons.1 hascending).1 _ hmem)
  have hleft : (lastCore topology).filter (· ∉ threads) = [judgeCpu] := by
    simp [hlast, hjudge]
  -- another core has no thread of the last one
  have hother : ∀ entry ∈ topology, entry.2 ≠ lastCore topology →
      ∀ cpu ∈ entry.2, cpu ∉ threads := by
    intro entry hentry hdiffers cpu hcpu hthread
    exact hdiffers (hwell.core_unique (mem_coresOf.2 ⟨entry, hentry, rfl⟩) hcore hcpu
      (by simp [hlast, hthread]))
  have hkept : ∀ entry ∈ topology, entry.2 ≠ lastCore topology →
      entry.2.filter (· ∉ threads) = entry.2 := by
    intro entry hentry hdiffers
    simpa [List.filter_eq_self] using hother entry hentry hdiffers
  rw [mem_coresOf, afterOffline]
  constructor
  · rintro ⟨shrunk, hshrunk, rfl⟩
    obtain ⟨entry, hentry, rfl⟩ := List.mem_map.1 hshrunk
    have hmem := List.mem_of_mem_filter hentry
    by_cases hsame : entry.2 = lastCore topology
    · left
      rw [hsame, hleft]
    · right
      rw [hkept entry hmem hsame]
      exact ⟨mem_coresOf.2 ⟨entry, hmem, rfl⟩, hsame⟩
  · rintro (rfl | ⟨hbefore, hdiffers⟩)
    · have hentry := hwell.entry_of_mem hcore hfirst
      refine ⟨(judgeCpu, [judgeCpu]), List.mem_map.2 ⟨(judgeCpu, lastCore topology), ?_, ?_⟩, rfl⟩
      · simp [hentry, hjudge]
      · simp only [hleft]
    · obtain ⟨entry, hentry, rfl⟩ := mem_coresOf.1 hbefore
      have hown := hother entry hentry hdiffers entry.1 (hwell.own entry hentry)
      refine ⟨entry, List.mem_map.2 ⟨entry, ?_, ?_⟩, rfl⟩
      · simp [hentry, hown]
      · rw [hkept entry hentry hdiffers]

theorem lastCore_after (hne : topology ≠ []) {judgeCpu : ℤ} {threads : List ℤ}
    (hlast : lastCore topology = judgeCpu :: threads) :
    lastCore (afterOffline topology threads) = [judgeCpu] := by
  obtain ⟨hcore, hgreatest⟩ := lastCore_spec hne
  have hmem : ∀ core, core ∈ ((afterOffline topology threads).map Prod.snd).dedup ↔
      core = [judgeCpu] ∨ (core ∈ coresOf topology ∧ core ≠ lastCore topology) := by
    intro core
    rw [← hwell.mem_coresOf_after hne hlast, coresOf, List.mem_insertionSort]
  apply getLastD_insertionSort ((hmem _).2 (.inl rfl))
  intro core hmember
  rcases (hmem core).1 hmember with rfl | ⟨hbefore, hdiffers⟩
  · exact le_rfl
  · cases core with
    | nil => exact absurd rfl (hwell.core_ne_nil hbefore)
    | cons first rest =>
        have hle := hgreatest _ hbefore
        rw [hlast, cons_le_cons_iff] at hle
        rw [cons_le_cons_iff]
        rcases hle with hlt | ⟨rfl, -⟩
        · exact .inl hlt
        · refine absurd (hwell.core_unique hbefore hcore List.mem_cons_self ?_) hdiffers
          rw [hlast]
          exact List.mem_cons_self

theorem several_after (hne : topology ≠ []) (hseveral : (coresOf topology).length ≠ 1)
    {judgeCpu : ℤ} {threads : List ℤ} (hlast : lastCore topology = judgeCpu :: threads) :
    (coresOf (afterOffline topology threads)).length ≠ 1 := by
  obtain ⟨other, hother, hdiffers⟩ := exists_other_core hne hseveral
  have hfirst := (hwell.mem_coresOf_after hne hlast).2 (.inl rfl)
  have hkept := (hwell.mem_coresOf_after hne hlast).2 (.inr ⟨hother, hdiffers⟩)
  intro hone
  obtain ⟨core, hcores⟩ := List.length_eq_one_iff.1 hone
  rw [hcores, List.mem_singleton] at hfirst hkept
  have hcore := (lastCore_spec hne).1
  have hsame : judgeCpu ∈ other := by
    rw [hkept, ← hfirst]
    exact List.mem_singleton_self _
  exact hdiffers (hwell.core_unique hother hcore hsame (by simp [hlast]))

/-- Planning on what the first plan leaves gives the judge the same CPU, and nothing more
to take offline. -/
theorem replan (hne : topology ≠ []) :
    ∃ plan later, planCpu topology none true = .ok plan ∧
      planCpu (afterOffline topology plan.offline) none true = .ok later ∧
        later.judgeCpu = plan.judgeCpu ∧ later.isolated = plan.isolated ∧ later.offline = [] := by
  have hcore := (lastCore_spec hne).1
  by_cases hone : (coresOf topology).length = 1
  · obtain ⟨plan, hplan, -, hoffline, -⟩ :=
      planLastCore_one hone rfl (hwell.core_ne_nil hcore) true
    refine ⟨plan, plan, by rw [planCpu_none hne, hplan], ?_, rfl, rfl, hoffline⟩
    rw [hoffline, afterOffline_nil, planCpu_none hne, hplan]
  · cases hlast : lastCore topology with
    | nil => exact absurd hlast (hwell.core_ne_nil hcore)
    | cons judgeCpu threads =>
        have hascending := hwell.core_ascending hcore
        rw [hlast] at hascending
        obtain ⟨plan, hplan, hjudge, honFirst⟩ :=
          planLastCore_several hone hlast (filter_ne_first hascending) true
        have hoffline : plan.offline = threads := by rw [honFirst.offline, if_pos rfl]
        have hafter : afterOffline topology threads ≠ [] := by
          intro hnil
          have hfirst := (hwell.mem_coresOf_after hne hlast).2 (.inl rfl)
          rw [hnil] at hfirst
          cases hfirst
        obtain ⟨later, hlater, hjudge', hlaterFirst⟩ :=
          planLastCore_several (hwell.several_after hne hone hlast)
            (hwell.lastCore_after hne hlast) (filter_ne_first (List.pairwise_singleton _ _)) true
        refine ⟨plan, later, by rw [planCpu_none hne, hplan], ?_, ?_, ?_, ?_⟩
        · rw [hoffline, planCpu_none hafter, hlater]
        · rw [hjudge', hjudge]
        · rw [Bool.eq_iff_iff, hlaterFirst.isolated, honFirst.isolated]
          simp
        · rw [hlaterFirst.offline, if_pos rfl]

end WellFormed

/-- The topology after some judge runs, each of which takes offline what it plans. -/
def topologyAfter (topology : Topology) : ℕ → Topology
  | 0 => topology
  | runs + 1 =>
      match planCpu (topologyAfter topology runs) none true with
      | .ok plan => afterOffline (topologyAfter topology runs) plan.offline
      | .error _ => topologyAfter topology runs

/-- A run whose plan takes nothing offline leaves the topology to the next one. -/
theorem topologyAfter_fixed {after : Topology} {later : CpuPlan}
    (hlater : planCpu after none true = .ok later) (hoffline : later.offline = [])
    (hfirst : topologyAfter topology 1 = after) (runs : ℕ) :
    topologyAfter topology (runs + 1) = after := by
  induction runs with
  | zero => exact hfirst
  | succ runs ih =>
      rw [topologyAfter, ih, hlater]
      dsimp only
      rw [hoffline, afterOffline_nil]

/-- The plan of the first run stays: each later run gives the judge the same CPU, and
takes nothing more offline. -/
theorem planCpu_stable (hne : topology ≠ []) (hwell : WellFormed topology) :
    ∃ plan, planCpu topology none true = .ok plan ∧
      (∃ later, planCpu (afterOffline topology plan.offline) none true = .ok later ∧
        later.judgeCpu = plan.judgeCpu ∧ later.isolated = plan.isolated ∧ later.offline = []) ∧
      ∀ runs, ∃ later, planCpu (topologyAfter topology (runs + 1)) none true = .ok later ∧
        later.judgeCpu = plan.judgeCpu ∧ later.isolated = plan.isolated ∧
          later.offline = [] := by
  obtain ⟨plan, later, hplan, hlater, hsame⟩ := hwell.replan hne
  have hfirst : topologyAfter topology 1 = afterOffline topology plan.offline := by
    rw [topologyAfter, topologyAfter, hplan]
  refine ⟨plan, hplan, ⟨later, hlater, hsame⟩, fun runs => ⟨later, ?_, hsame⟩⟩
  rw [topologyAfter_fixed hlater hsame.2.2 hfirst, hlater]

theorem planCpu_stable_fourThreads :
    planCpu (afterOffline fourThreads [3]) none true = .ok ⟨2, [], true, []⟩ ∧
      ∀ runs, ∃ later, planCpu (topologyAfter fourThreads (runs + 1)) none true = .ok later ∧
        later.judgeCpu = 2 ∧ later.isolated = true ∧ later.offline = [] := by
  have hplan : planCpu fourThreads none true = .ok ⟨2, [3], true, []⟩ := by decide
  obtain ⟨plan, hplan', -, hruns⟩ := planCpu_stable fourThreads_ne_nil fourThreads_wellFormed
  rw [hplan] at hplan'
  rw [← Except.ok.inj hplan'] at hruns
  exact ⟨by decide, hruns⟩

/-- A tuple that names a CPU which is not there. -/
def danglingSibling : Topology :=
  [(0, [0]), (2, [1, 2])]

/-- The judge gets the CPU that is not there, and has to move once its sibling is
offline. -/
theorem planCpu_dangling :
    (cpusOf danglingSibling).Nodup ∧
      (∀ entry ∈ danglingSibling, entry.2.Pairwise (· < ·) ∧ entry.1 ∈ entry.2) ∧
      (∀ entry ∈ danglingSibling, ∀ entry' ∈ danglingSibling,
        entry.2 = entry'.2 ∨ List.Disjoint entry.2 entry'.2) ∧
      (planCpu danglingSibling none true).map CpuPlan.judgeCpu = .ok 1 ∧
      (planCpu danglingSibling none true).map CpuPlan.offline = .ok [2] ∧
      (planCpu (afterOffline danglingSibling [2]) none true).map CpuPlan.judgeCpu = .ok 0 := by
  refine ⟨by decide, by decide, by simp [danglingSibling], ?_, ?_, ?_⟩
  · decide
  · decide
  · decide

end IcpcVerify.Cpu
