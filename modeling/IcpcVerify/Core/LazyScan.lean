import Mathlib

/-!
# Scanning a list with an early stop

A loop goes through its items, records one outcome for each of them, and may
stop evaluating at the first bad outcome: from there on it only records a
placeholder.  This file compares the stopping loop with the one that evaluates
everything: same labels, same outcomes up to and including the first bad one, and
the same answer to a search for the first bad one.
-/

namespace IcpcVerify.LazyScan

variable {Item Outcome : Type*}

/-- What the loop carries from item to item. -/
structure Progress (Outcome : Type*) where
  results : List Outcome
  stopped : Bool

/-- One round: a placeholder once the loop has stopped, else the item's outcome,
stopping after a bad one unless everything is to be evaluated. -/
def scanStep (run skip : Item → Outcome) (good : Outcome → Bool) (all : Bool)
    (progress : Progress Outcome) (item : Item) : Progress Outcome :=
  if progress.stopped then ⟨progress.results ++ [skip item], true⟩
  else ⟨progress.results ++ [run item], !good (run item) && !all⟩

/-- Outcomes recorded by the stopping loop. -/
def lazyResults (run skip : Item → Outcome) (good : Outcome → Bool) :
    List Item → List Outcome
  | [] => []
  | item :: items =>
      run item ::
        if good (run item) then lazyResults run skip good items
        else items.map skip

variable {run skip : Item → Outcome} {good : Outcome → Bool}

theorem foldl_scanStep_stopped (all : Bool) (items : List Item)
    (results : List Outcome) :
    (items.foldl (scanStep run skip good all) ⟨results, true⟩).results =
      results ++ items.map skip := by
  induction items generalizing results with
  | nil => simp
  | cons item items ih => simp [scanStep, ih]

/-- Without stopping, every item is evaluated. -/
theorem foldl_scanStep_all (items : List Item) (results : List Outcome) :
    (items.foldl (scanStep run skip good true) ⟨results, false⟩).results =
      results ++ items.map run := by
  induction items generalizing results with
  | nil => simp
  | cons item items ih => simp [scanStep, ih]

/-- With stopping, the loop records `lazyResults`. -/
theorem foldl_scanStep_lazy (items : List Item) (results : List Outcome) :
    (items.foldl (scanStep run skip good false) ⟨results, false⟩).results =
      results ++ lazyResults run skip good items := by
  induction items generalizing results with
  | nil => simp [lazyResults]
  | cons item items ih =>
      cases hgood : good (run item) with
      | true => simp [scanStep, lazyResults, hgood, ih]
      | false => simp [scanStep, lazyResults, hgood, foldl_scanStep_stopped]

/-- Good outcomes do not stop the loop. -/
theorem stopped_foldl_scanStep (all : Bool) {items : List Item}
    (hgood : ∀ item ∈ items, good (run item) = true) (results : List Outcome) :
    (items.foldl (scanStep run skip good all) ⟨results, false⟩).stopped = false := by
  induction items generalizing results with
  | nil => rfl
  | cons item items ih =>
      obtain ⟨hitem, hrest⟩ := List.forall_mem_cons.1 hgood
      have hstep : scanStep run skip good all ⟨results, false⟩ item =
          ⟨results ++ [run item], false⟩ := by
        simp [scanStep, hitem]
      rw [List.foldl_cons, hstep]
      exact ih hrest _

/-- A label that an outcome and its placeholder share is listed alike by both
loops. -/
theorem map_lazyResults {Label : Type*} (label : Outcome → Label)
    (hlabel : ∀ item, label (skip item) = label (run item)) (items : List Item) :
    (lazyResults run skip good items).map label =
      (items.map run).map label := by
  induction items with
  | nil => rfl
  | cons item items ih =>
      rw [lazyResults]
      split
      · simpa using ih
      · simp [hlabel]

/-- The recorded outcome is the evaluated one as long as everything before it is
good, and the placeholder from then on. -/
theorem getElem?_lazyResults (items : List Item) (i : ℕ) :
    (lazyResults run skip good items)[i]? =
      items[i]?.map fun item =>
        if ∀ earlier ∈ items.take i, good (run earlier) = true then run item
        else skip item := by
  induction items generalizing i with
  | nil => simp [lazyResults]
  | cons item items ih =>
      cases i with
      | zero => simp [lazyResults]
      | succ i =>
          cases hgood : good (run item) with
          | true => simp [lazyResults, hgood, ih]
          | false => simp [lazyResults, hgood]

/-- As long as nothing bad is recorded, every item was good. -/
theorem good_of_lazyResults_take (items : List Item) (i : ℕ)
    (hgood : ∀ outcome ∈ (lazyResults run skip good items).take i, good outcome = true) :
    ∀ item ∈ items.take i, good (run item) = true := by
  induction items generalizing i with
  | nil => simp
  | cons item items ih =>
      cases i with
      | zero => simp
      | succ i =>
          rw [lazyResults, List.take_succ_cons] at hgood
          have hfirst : good (run item) = true := hgood _ List.mem_cons_self
          rw [if_pos hfirst] at hgood
          intro item' hitem'
          rw [List.take_succ_cons] at hitem'
          rcases List.mem_cons.1 hitem' with rfl | hrest
          · exact hfirst
          · exact ih i (fun outcome houtcome =>
              hgood outcome (List.mem_cons_of_mem _ houtcome)) item' hrest

/-- A search for the bad outcomes gives the same answer on both loops: what it
finds comes before the first placeholder. -/
theorem find?_lazyResults {found : Outcome → Bool}
    (hrun : ∀ item, found (run item) = !good (run item)) (items : List Item) :
    (lazyResults run skip good items).find? found =
      (items.map run).find? found := by
  induction items with
  | nil => rfl
  | cons item items ih =>
      cases hgood : good (run item) with
      | true => simp [lazyResults, hgood, hrun, ih]
      | false => simp [lazyResults, hgood, hrun]

/-- Each recorded outcome is its own item's, evaluated or skipped. -/
theorem forall₂_lazyResults (items : List Item) :
    List.Forall₂ (fun item outcome => outcome = skip item ∨ outcome = run item) items
      (lazyResults run skip good items) := by
  induction items with
  | nil => exact List.Forall₂.nil
  | cons item items ih =>
      rw [lazyResults]
      apply List.Forall₂.cons
      · exact Or.inr rfl
      · split
        · exact ih
        · rw [List.forall₂_map_right_iff]
          exact List.forall₂_same.2 fun _ _ => Or.inl rfl

/-- The first hit in a sorted list comes before every other hit. -/
theorem find?_le_of_pairwise {r : Item → Item → Prop} (hrefl : ∀ item, r item item)
    {p : Item → Bool} {items : List Item} (hsorted : items.Pairwise r) {hit : Item}
    (hfound : items.find? p = some hit) {item : Item} (hitem : item ∈ items)
    (hp : p item = true) : r hit item := by
  obtain ⟨-, before, after, rfl, hbefore⟩ := List.find?_eq_some_iff_append.1 hfound
  obtain ⟨-, hhit, -⟩ := List.pairwise_append.1 hsorted
  rcases List.mem_append.1 hitem with hmem | hmem
  · have hmissed := hbefore item hmem
    rw [hp] at hmissed
    cases hmissed
  · rcases List.mem_cons.1 hmem with rfl | hafter
    · exact hrefl item
    · exact (List.pairwise_cons.1 hhit).1 item hafter

end IcpcVerify.LazyScan
