import Mathlib

/-!
# Maximal runs

The numbers of an ascending list, taken together to intervals with a gap between any
two of them.
-/

namespace IcpcVerify.Runs

/-- An interval of numbers that is not empty. -/
structure Run where
  first : ℕ
  last : ℕ
  first_le_last : first ≤ last

namespace Run

def single (number : ℕ) : Run :=
  ⟨number, number, le_rfl⟩

/-- The run together with the number right before it. -/
def extend (run : Run) (number : ℕ) (hnext : number + 1 = run.first) : Run :=
  ⟨number, run.last, by have := run.first_le_last; omega⟩

def members (run : Run) : Finset ℕ :=
  Finset.Icc run.first run.last

theorem mem_members {run : Run} {number : ℕ} :
    number ∈ run.members ↔ run.first ≤ number ∧ number ≤ run.last :=
  Finset.mem_Icc

theorem mem_single {number other : ℕ} : other ∈ (single number).members ↔ other = number := by
  rw [mem_members]
  exact le_antisymm_iff.symm.trans eq_comm

theorem mem_extend {run : Run} {number : ℕ} (hnext : number + 1 = run.first) {other : ℕ} :
    other ∈ (run.extend number hnext).members ↔ other = number ∨ other ∈ run.members := by
  have hle := run.first_le_last
  simp only [mem_members, extend]
  omega

/-- At least one number is missing between the runs. -/
def Before (run later : Run) : Prop :=
  run.last + 1 < later.first

theorem Before.disjoint {run later : Run} (hbefore : run.Before later) :
    Disjoint run.members later.members := by
  rw [Finset.disjoint_left]
  intro number hnumber hlater
  have hlast := (mem_members.1 hnumber).2
  have hfirst := (mem_members.1 hlater).1
  rw [Before] at hbefore
  omega

end Run

/-- The runs of an ascending list. -/
def runs : List ℕ → List Run
  | [] => []
  | number :: numbers =>
      match runs numbers with
      | [] => [.single number]
      | run :: later =>
          if hnext : number + 1 = run.first then run.extend number hnext :: later
          else .single number :: run :: later

/-- The runs cover the list. -/
theorem mem_iff_mem_runs (numbers : List ℕ) (number : ℕ) :
    number ∈ numbers ↔ ∃ run ∈ runs numbers, number ∈ run.members := by
  induction numbers with
  | nil => simp [runs]
  | cons head numbers ih =>
      rw [List.mem_cons, ih, runs]
      cases runs numbers with
      | nil => simp [Run.mem_single]
      | cons run later =>
          dsimp only
          split_ifs with hnext
          · simp only [List.exists_mem_cons_iff, Run.mem_extend, or_assoc]
          · simp only [List.exists_mem_cons_iff, Run.mem_single]

/-- Between two runs there is a gap. -/
theorem runs_separated {numbers : List ℕ} (hascending : numbers.Pairwise (· < ·)) :
    (runs numbers).Pairwise Run.Before := by
  induction numbers with
  | nil => exact .nil
  | cons head numbers ih =>
      obtain ⟨hhead, htail⟩ := List.pairwise_cons.1 hascending
      have hseparated := ih htail
      have hafter : ∀ run ∈ runs numbers, head < run.first := fun run hrun =>
        hhead run.first ((mem_iff_mem_runs numbers run.first).2
          ⟨run, hrun, Run.mem_members.2 ⟨le_rfl, run.first_le_last⟩⟩)
      rw [runs]
      cases hruns : runs numbers with
      | nil => exact List.pairwise_singleton _ _
      | cons run later =>
          rw [hruns] at hseparated hafter
          obtain ⟨hrun, hlater⟩ := List.pairwise_cons.1 hseparated
          dsimp only
          split_ifs with hnext
          · exact List.pairwise_cons.2 ⟨hrun, hlater⟩
          · refine List.pairwise_cons.2 ⟨fun other hother => ?_, hseparated⟩
            have hfirst := hafter run List.mem_cons_self
            have hle := run.first_le_last
            change head + 1 < other.first
            rcases List.mem_cons.1 hother with rfl | hmem
            · omega
            · have hgap : run.last + 1 < other.first := hrun other hmem
              omega

end IcpcVerify.Runs
