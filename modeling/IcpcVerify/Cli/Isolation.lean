import IcpcVerify.Cli
import IcpcVerify.Cpu.Plan

/-!
# Reported isolation

The flag `cpu_isolated` of the result is the plan's, and the plan is made before any
sibling has been taken offline.  A sibling that stays online only leaves a warning,
so the flag is right when there is nothing to take offline or every attempt succeeds.
-/

namespace IcpcVerify.Cli

open IcpcVerify.Python
open IcpcVerify.Cpu
open IcpcVerify.Judge
open IcpcVerify.FallibleRun

/-! ## Planning -/

/-- The other threads of the last core. -/
def lastCoreSiblings (cores : List (List ℤ)) : List ℤ :=
  (cores.getLastD []).filter fun cpu => some cpu ≠ (cores.getLastD []).head?

/-- The threads that are to go offline: none on a single core, with a requested CPU, or
with the option turned off. -/
def siblingsToOffline (topology : Topology) (requested : Option ℤ) (offlineSibling : Bool) :
    List ℤ :=
  if requested = none ∧ offlineSibling ∧ (coresOf topology).length ≠ 1 then
    lastCoreSiblings (coresOf topology)
  else []

theorem planLastCore_spec {cores : List (List ℤ)} {offlineSibling : Bool} {plan : CpuPlan}
    (hplan : planLastCore cores offlineSibling = .ok plan) :
    plan.offline = (if offlineSibling ∧ cores.length ≠ 1 then lastCoreSiblings cores else []) ∧
      (plan.offline ≠ [] → plan.isolated = true) := by
  cases hlast : cores.getLastD [] with
  | nil =>
      rw [planLastCore_nil hlast] at hplan
      cases hplan
  | cons judgeCpu threads =>
      by_cases hone : cores.length = 1
      · obtain ⟨plan', hplan', -, hoffline, -⟩ :=
          planLastCore_one hone hlast (List.cons_ne_nil _ _) offlineSibling
        obtain rfl := Except.ok.inj (hplan.symm.trans hplan')
        simp [hoffline, hone]
      · have hsiblings : (judgeCpu :: threads).filter (· ≠ judgeCpu) =
            lastCoreSiblings cores := by
          rw [lastCoreSiblings, hlast]
          simp
        obtain ⟨plan', hplan', -, honFirst⟩ :=
          planLastCore_several hone hlast hsiblings offlineSibling
        obtain rfl := Except.ok.inj (hplan.symm.trans hplan')
        rw [honFirst.isolated, honFirst.offline]
        cases offlineSibling <;> simp [hone]

/-- Whatever is planned to go offline is planned for the sake of isolation. -/
theorem planCpu_spec {topology : Topology} {requested : Option ℤ} {offlineSibling : Bool}
    {plan : CpuPlan} (hplan : planCpu topology requested offlineSibling = .ok plan) :
    plan.offline = siblingsToOffline topology requested offlineSibling ∧
      (plan.offline ≠ [] → plan.isolated = true) := by
  cases requested with
  | none =>
      have hne : topology ≠ [] := by
        rintro rfl
        cases hplan
      rw [planCpu_none hne] at hplan
      simpa [siblingsToOffline] using planLastCore_spec hplan
  | some cpu =>
      by_cases hknown : cpu ∈ cpusOf topology
      · obtain ⟨plan', hplan', -, hoffline, -⟩ := planCpu_known hknown offlineSibling
        obtain rfl := Except.ok.inj (hplan.symm.trans hplan')
        simp [siblingsToOffline, hoffline]
      · obtain ⟨exc, hraised⟩ := planCpu_unknown hknown offlineSibling
        rw [hraised] at hplan
        cases hplan

/-! ## From the plan to the result file -/

variable {rt : Runtime} {Case : Type} {args : JudgeArgs} {env : Environment Case}

/-- A result file is that of a judged solution. -/
theorem judged_of_written {payload : Payload}
    (hwritten : (main rt args env).2 = some payload) :
    ∃ judged, judgeSelected rt args env = .ok judged ∧
      payloadOf rt args judged = .ok payload := by
  cases hjudged : judgeSelected rt args env with
  | error exc =>
      simp only [main, runJudge, hjudged, lift_error_bind] at hwritten
      cases hwritten
  | ok judged =>
      refine ⟨judged, rfl, ?_⟩
      cases hpayload : payloadOf rt args judged with
      | error exc =>
          cases hremove : env.removeWorkDir <;>
            simp only [main, runJudge, hjudged, hpayload, hremove, lift_ok_bind,
              lift_error_bind] at hwritten <;>
            cases hwritten
      | ok found =>
          by_cases hrecorded : Recorded env found
          · have hfound := (main_of_recorded hjudged hpayload hrecorded).1
            rw [hwritten] at hfound
            rw [Option.some.inj hfound]
          · rw [main_of_not_recorded hjudged hpayload hrecorded] at hwritten
            cases hwritten

/-- The flag of a result file is that of the plan. -/
theorem cpuIsolated_of_written {topology : Topology} {plan : CpuPlan} {payload : Payload}
    (htopology : env.readTopology = .ok topology)
    (hplan : planCpu topology args.judgeCpu (!args.noOfflineSibling) = .ok plan)
    (hwritten : (main rt args env).2 = some payload) :
    payload.result.cpuIsolated = plan.isolated := by
  obtain ⟨judged, hjudged, hpayload⟩ := judged_of_written hwritten
  obtain ⟨expectationMet, -, hpayload⟩ := bind_eq_ok_iff.1 hpayload
  rw [← Except.ok.inj hpayload]
  simp only [judgeSelected, bind_eq_ok_iff, htopology] at hjudged
  obtain ⟨config, -, limits, -, testcases, -, selected, -, cpuFlags, -, -, -, _, heq, plan', hplan',
    failures, -, image, -, machineFactor, -, -, -, result, hresult, hjudged⟩ := hjudged
  rw [← Except.ok.inj heq, hplan, Except.ok.injEq] at hplan'
  obtain ⟨verdict, entries, compileLog, rfl⟩ := judgeSolution_frame hresult
  rw [← Except.ok.inj hjudged, hplan']
  rfl

/-- The reported isolation is true exactly when every sibling that is to go offline
did. -/
theorem main_isolation_honest_iff {topology : Topology} {plan : CpuPlan} {payload : Payload}
    (htopology : env.readTopology = .ok topology)
    (hplan : planCpu topology args.judgeCpu (!args.noOfflineSibling) = .ok plan)
    (hwritten : (main rt args env).2 = some payload) :
    (payload.result.cpuIsolated = true →
        plan.isolated = true ∧ ∀ cpu ∈ plan.offline, env.takeOffline cpu = .ok none) ↔
      ∀ cpu ∈ siblingsToOffline topology args.judgeCpu (!args.noOfflineSibling),
        env.takeOffline cpu = .ok none := by
  obtain ⟨hoffline, hisolated⟩ := planCpu_spec hplan
  rw [cpuIsolated_of_written htopology hplan hwritten, ← hoffline]
  constructor
  · intro hhonest cpu hcpu
    have hplanned : plan.isolated = true := hisolated (List.ne_nil_of_mem hcpu)
    exact (hhonest hplanned).2 cpu hcpu
  · intro hattempts hplanned
    exact ⟨hplanned, hattempts⟩

/-! ## Two cores with two threads each -/

/-- The environment above on two cores of two threads; the last thread is CPU 3. -/
def hyperthreadedEnvironment (attempt : Option PyStr) : Environment (TestCase × CaseOutcome) :=
  { crashEnvironment with
    readTopology := .ok [(0, [0, 1]), (1, [0, 1]), (2, [2, 3]), (3, [2, 3])]
    takeOffline := fun _ => .ok attempt }

theorem hyperthreaded_plan :
    planCpu [(0, [0, 1]), (1, [0, 1]), (2, [2, 3]), (3, [2, 3])] none true =
      .ok ⟨2, [3], true, []⟩ := by
  decide +kernel

/-- With every attempt successful the reported isolation is true. -/
theorem hyperthreaded_isolated :
    (⟨2, [3], true, []⟩ : CpuPlan).isolated = true ∧
      ∀ cpu ∈ (⟨2, [3], true, []⟩ : CpuPlan).offline,
        (hyperthreadedEnvironment none).takeOffline cpu = .ok none := by
  have hreported : (main Runtime.ascii (crashArgs .exact) (hyperthreadedEnvironment none)).2.map
      (fun payload => payload.result.cpuIsolated) = some true := by
    decide +kernel
  obtain ⟨payload, hwritten, hisolated⟩ := Option.map_eq_some_iff.1 hreported
  exact (main_isolation_honest_iff rfl hyperthreaded_plan hwritten).2 (fun _ _ => rfl) hisolated

/-- When `sudo tee` fails the result is reported as isolated all the same. -/
theorem hyperthreaded_not_isolated :
    let env := hyperthreadedEnvironment (some (py "[Errno 2] No such file or directory: 'sudo'"))
    (main Runtime.ascii (crashArgs .exact) env).2.map
        (fun payload => payload.result.cpuIsolated) = some true ∧
      planCpu [(0, [0, 1]), (1, [0, 1]), (2, [2, 3]), (3, [2, 3])] none true =
          .ok ⟨2, [3], true, []⟩ ∧
        env.takeOffline 3 ≠ .ok none := by
  refine ⟨by decide +kernel, hyperthreaded_plan, ?_⟩
  intro hoffline
  cases hoffline

end IcpcVerify.Cli
