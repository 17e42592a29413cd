import Mathlib

/-!
# Lists in ascending order

Sorting by a key, when no key occurs twice; the order of lists by their first elements;
and the last element of a sorted list.
-/

namespace IcpcVerify.Sorting

variable {Item Key : Type} [LinearOrder Key]

theorem pairwise_insertionSort_key (key : Item → Key) (items : List Item) :
    (items.insertionSort fun first second => key first ≤ key second).Pairwise
      fun first second => key first ≤ key second := by
  have htotal : Std.Total fun first second : Item => key first ≤ key second :=
    ⟨fun first second => le_total (key first) (key second)⟩
  have htrans : IsTrans Item fun first second => key first ≤ key second :=
    ⟨fun _ _ _ => le_trans⟩
  exact List.pairwise_insertionSort _ items

/-- Items with distinct keys are sorted strictly. -/
theorem pairwise_lt_insertionSort (key : Item → Key) {items : List Item}
    (hkeys : (items.map key).Nodup) :
    (items.insertionSort fun first second => key first ≤ key second).Pairwise
      fun first second => key first < key second := by
  have hperm : (items.insertionSort fun first second => key first ≤ key second).Perm items :=
    List.perm_insertionSort _ items
  have hdistinct := List.pairwise_map.1 ((hperm.map key).nodup_iff.2 hkeys)
  exact ((pairwise_insertionSort_key key items).and hdistinct).imp fun hboth =>
    lt_of_le_of_ne hboth.1 hboth.2

/-! ## Lexicographic order -/

theorem cons_le_cons_iff (key key' : Key) (keys keys' : List Key) :
    key :: keys ≤ key' :: keys' ↔ key < key' ∨ (key = key' ∧ keys ≤ keys') := by
  have hlt : key :: keys < key' :: keys' ↔ key < key' ∨ (key = key' ∧ keys < keys') :=
    List.cons_lt_cons_iff
  rw [le_iff_lt_or_eq, hlt, le_iff_lt_or_eq, List.cons.injEq, or_assoc, ← and_or_left]

theorem append_le_append_iff (first keys keys' : List Key) :
    first ++ keys ≤ first ++ keys' ↔ keys ≤ keys' := by
  induction first with
  | nil => rfl
  | cons key first ih =>
      rw [List.cons_append, List.cons_append, cons_le_cons_iff, ih]
      simp

/-! ## The greatest element -/

/-- The last element after sorting is the greatest. -/
theorem getLastD_insertionSort {keys : List Key} {key : Key} (hmem : key ∈ keys)
    (hgreatest : ∀ other ∈ keys, other ≤ key) (default : Key) :
    (keys.insertionSort (· ≤ ·)).getLastD default = key := by
  have hsorted := pairwise_insertionSort_key id keys
  obtain ⟨before, after, hsplit⟩ :=
    List.append_of_mem ((List.mem_insertionSort (· ≤ ·)).2 hmem)
  change (keys.insertionSort (· ≤ ·)).Pairwise (· ≤ ·) at hsorted
  have hall : ∀ other ∈ keys.insertionSort (· ≤ ·), other ≤ key := fun other hother =>
    hgreatest other ((List.mem_insertionSort _).1 hother)
  rw [hsplit] at hsorted hall ⊢
  obtain ⟨-, hafter, -⟩ := List.pairwise_append.1 hsorted
  -- what comes after it is no less and no greater
  have hequal : ∀ other ∈ after, other = key := fun other hother =>
    le_antisymm (hall other (by simp [hother])) ((List.pairwise_cons.1 hafter).1 other hother)
  rw [List.getLastD_eq_getLast?, List.getLast?_append_of_ne_nil _ (List.cons_ne_nil _ _),
    List.getLast?_eq_some_getLast (List.cons_ne_nil _ _), Option.getD_some]
  rcases List.mem_cons.1 (List.getLast_mem (List.cons_ne_nil key after)) with hlast | hlast
  · exact hlast
  · exact hequal _ hlast

/-- So is the last of any list that is not empty. -/
theorem getLastD_insertionSort_spec {keys : List Key} (hne : keys ≠ []) (default : Key) :
    (keys.insertionSort (· ≤ ·)).getLastD default ∈ keys ∧
      ∀ other ∈ keys, other ≤ (keys.insertionSort (· ≤ ·)).getLastD default := by
  obtain ⟨key, hmem, hgreatest⟩ :=
    Finset.exists_max_image keys.toFinset id (List.toFinset_nonempty_iff keys |>.2 hne)
  have hall : ∀ other ∈ keys, other ≤ key := fun other hother =>
    hgreatest other (List.mem_toFinset.2 hother)
  rw [getLastD_insertionSort (List.mem_toFinset.1 hmem) hall]
  exact ⟨List.mem_toFinset.1 hmem, hall⟩

end IcpcVerify.Sorting
