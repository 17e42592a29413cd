import IcpcVerify.Cli
import IcpcVerify.Python.Strip

/-!
# Required CPU flags

`run_judge` drops the blank items of `--required-cpu-flags` but hands the others over
with the white space around them, and with it no flag of a CPU is found.
-/

namespace IcpcVerify.Cli

open IcpcVerify.Python
open IcpcVerify.Cpu

/-- The items of the option. -/
def itemsOf (requiredCpuFlags : PyStr) : List PyStr :=
  splitOn (ord ',') requiredCpuFlags

/-- Some item, without the white space around it, is given and is no flag of the CPU. -/
def FlagMissing (cpuFlags : List PyStr) (requiredCpuFlags : PyStr) : Prop :=
  ∃ item ∈ itemsOf requiredCpuFlags, strip item ≠ [] ∧ strip item ∉ cpuFlags

/-- On the right machine the check raises exactly when a flag is missing. -/
def RaisesIfMissing (cpuFlags : List PyStr) (requiredCpuFlags : PyStr) : Prop :=
  (∃ message, checkArchAndFlags (py "x86_64") cpuFlags (requiredFlags requiredCpuFlags) =
      .error (cpuError message)) ↔ FlagMissing cpuFlags requiredCpuFlags

/-- Every item that is given stands without white space around it. -/
def Trimmed (requiredCpuFlags : PyStr) : Prop :=
  ∀ item ∈ itemsOf requiredCpuFlags, strip item ≠ [] → strip item = item

instance (cpuFlags : List PyStr) (requiredCpuFlags : PyStr) :
    Decidable (FlagMissing cpuFlags requiredCpuFlags) :=
  inferInstanceAs (Decidable (∃ item ∈ itemsOf requiredCpuFlags, _))

instance (requiredCpuFlags : PyStr) : Decidable (Trimmed requiredCpuFlags) :=
  inferInstanceAs (Decidable (∀ item ∈ itemsOf requiredCpuFlags, _))

/-- The items are looked up as they stand. -/
theorem checkArchAndFlags_raises_iff (cpuFlags : List PyStr) (requiredCpuFlags : PyStr) :
    (∃ message, checkArchAndFlags (py "x86_64") cpuFlags (requiredFlags requiredCpuFlags) =
        .error (cpuError message)) ↔
      ∃ item ∈ itemsOf requiredCpuFlags, strip item ≠ [] ∧ item ∉ cpuFlags := by
  have hmissing : ∀ item, item ∈ (requiredFlags requiredCpuFlags).filter
      (fun flag => flag ≠ [] ∧ flag ∉ cpuFlags) ↔
        item ∈ itemsOf requiredCpuFlags ∧ strip item ≠ [] ∧ item ∉ cpuFlags := by
    intro item
    have hne : strip item ≠ [] → item ≠ [] := by
      rintro hstrip rfl
      exact hstrip rfl
    simp only [requiredFlags, itemsOf, List.mem_filter, decide_eq_true_eq]
    tauto
  rw [checkArchAndFlags, if_neg (fun h => h rfl)]
  by_cases hnone : (requiredFlags requiredCpuFlags).filter
      (fun flag => flag ≠ [] ∧ flag ∉ cpuFlags) = []
  · rw [if_neg (fun h => h hnone)]
    constructor
    · rintro ⟨message, hraised⟩
      cases hraised
    · rintro ⟨item, hitem⟩
      have hmem := (hmissing item).2 hitem
      rw [hnone] at hmem
      cases hmem
  · rw [if_pos hnone]
    obtain ⟨item, hitem⟩ := List.exists_mem_of_ne_nil _ hnone
    exact ⟨fun _ => ⟨item, (hmissing item).1 hitem⟩, fun _ => ⟨_, rfl⟩⟩

/-- The check raises as it should exactly when no item given has white space around it,
or a flag is missing anyway. -/
theorem checkArchAndFlags_trimmed_iff {cpuFlags : List PyStr}
    (hflags : ∀ flag ∈ cpuFlags, Spaceless flag) (requiredCpuFlags : PyStr) :
    RaisesIfMissing cpuFlags requiredCpuFlags ↔
      Trimmed requiredCpuFlags ∨ FlagMissing cpuFlags requiredCpuFlags := by
  rw [RaisesIfMissing, checkArchAndFlags_raises_iff]
  constructor
  · intro hraises
    by_cases htrimmed : Trimmed requiredCpuFlags
    · exact .inl htrimmed
    · right
      simp only [Trimmed, not_forall, exists_prop] at htrimmed
      obtain ⟨item, hitem, hgiven, hspace⟩ := htrimmed
      -- no flag of the CPU has white space around it
      refine hraises.1 ⟨item, hitem, hgiven, fun hmem => hspace ?_⟩
      exact strip_of_tight (hflags item hmem).tight
  · rintro (htrimmed | hmissing)
    · refine exists_congr fun item => and_congr_right fun hitem => and_congr_right fun hgiven => ?_
      rw [htrimmed item hitem hgiven]
    · refine ⟨fun _ => hmissing, fun _ => ?_⟩
      obtain ⟨item, hitem, hgiven, habsent⟩ := hmissing
      refine ⟨item, hitem, hgiven, fun hmem => habsent ?_⟩
      rwa [strip_of_tight (hflags item hmem).tight]

theorem checkArchAndFlags_trimmed_plain :
    RaisesIfMissing [py "avx2", py "bmi2"] (py "avx2,bmi2") := by
  have hflags : ∀ flag ∈ [py "avx2", py "bmi2"], Spaceless flag := by decide
  have htrimmed : Trimmed (py "avx2,bmi2") := by decide
  exact (checkArchAndFlags_trimmed_iff hflags (py "avx2,bmi2")).2 (.inl htrimmed)

/-- With a space after the comma a CPU that has both flags is refused. -/
theorem checkArchAndFlags_space :
    checkArchAndFlags (py "x86_64") [py "avx2", py "bmi2"] (requiredFlags (py "avx2, bmi2")) =
        .error (cpuError (py "CPU 에 다음 flag 가 없습니다:  bmi2")) ∧
      ¬FlagMissing [py "avx2", py "bmi2"] (py "avx2, bmi2") ∧
        ¬RaisesIfMissing [py "avx2", py "bmi2"] (py "avx2, bmi2") := by
  have hraised : checkArchAndFlags (py "x86_64") [py "avx2", py "bmi2"]
      (requiredFlags (py "avx2, bmi2")) =
    .error (cpuError (py "CPU 에 다음 flag 가 없습니다:  bmi2")) := by decide +kernel
  have hpresent : ¬FlagMissing [py "avx2", py "bmi2"] (py "avx2, bmi2") := by decide
  exact ⟨hraised, hpresent, fun hraises => hpresent (hraises.1 ⟨_, hraised⟩)⟩

end IcpcVerify.Cli
