import Mathlib

/-!
# Dictionaries that keep their order

Entries with their keys, in the order in which the keys came first.  Setting a key
replaces its value in place.
-/

namespace IcpcVerify.Dictionary

variable {Key Value : Type} [DecidableEq Key]

def set (key : Key) (value : Value) : List (Key × Value) → List (Key × Value)
  | [] => [(key, value)]
  | entry :: entries =>
      if entry.1 = key then (key, value) :: entries else entry :: set key value entries

theorem lookup_cons (entry : Key × Value) (entries : List (Key × Value)) (other : Key) :
    (entry :: entries).lookup other =
      if other = entry.1 then some entry.2 else entries.lookup other := by
  rw [List.lookup_cons]
  by_cases hother : other = entry.1
  · rw [beq_iff_eq.2 hother, if_pos hother]
  · rw [beq_eq_false_iff_ne.2 hother, if_neg hother]

/-- Setting a key changes what is found under it, and nothing else. -/
theorem lookup_set (key other : Key) (value : Value) (entries : List (Key × Value)) :
    (set key value entries).lookup other =
      if other = key then some value else entries.lookup other := by
  induction entries with
  | nil => rw [set, lookup_cons]
  | cons entry entries ih =>
      by_cases hentry : entry.1 = key
      · rw [set, if_pos hentry, lookup_cons, lookup_cons, hentry]
        split_ifs <;> rfl
      · rw [set, if_neg hentry, lookup_cons, lookup_cons, ih]
        by_cases hother : other = entry.1
        · rw [if_pos hother, if_pos hother, if_neg (hother ▸ hentry)]
        · rw [if_neg hother, if_neg hother]

/-- What is found is an entry. -/
theorem mem_of_lookup {key : Key} {value : Value} {entries : List (Key × Value)}
    (hfound : entries.lookup key = some value) : (key, value) ∈ entries := by
  obtain ⟨before, after, rfl, -⟩ := List.lookup_eq_some_iff.1 hfound
  simp

/-! ## Entries -/

theorem mem_set {key : Key} {value : Value} {entries : List (Key × Value)}
    {entry : Key × Value} (hentry : entry ∈ set key value entries) :
    entry = (key, value) ∨ entry ∈ entries := by
  induction entries with
  | nil => exact .inl (List.mem_singleton.1 hentry)
  | cons head entries ih =>
      rw [set] at hentry
      split_ifs at hentry
      · exact (List.mem_cons.1 hentry).imp_right (List.mem_cons_of_mem _)
      · rcases List.mem_cons.1 hentry with rfl | hmem
        · exact .inr List.mem_cons_self
        · exact (ih hmem).imp_right (List.mem_cons_of_mem _)

theorem mem_set_self (key : Key) (value : Value) (entries : List (Key × Value)) :
    (key, value) ∈ set key value entries :=
  mem_of_lookup (by rw [lookup_set, if_pos rfl])

/-- An entry with another key stays. -/
theorem mem_set_of_ne {key : Key} {value : Value} {entries : List (Key × Value)}
    {entry : Key × Value} (hentry : entry ∈ entries) (hne : entry.1 ≠ key) :
    entry ∈ set key value entries := by
  induction entries with
  | nil => cases hentry
  | cons head entries ih =>
      rw [set]
      split_ifs with hhead
      · rcases List.mem_cons.1 hentry with rfl | hmem
        · exact absurd hhead hne
        · exact List.mem_cons_of_mem _ hmem
      · rcases List.mem_cons.1 hentry with rfl | hmem
        · exact List.mem_cons_self
        · exact List.mem_cons_of_mem _ (ih hmem)

/-- Keys stay distinct. -/
theorem nodup_keys_set (key : Key) (value : Value) {entries : List (Key × Value)}
    (hdistinct : (entries.map Prod.fst).Nodup) :
    ((set key value entries).map Prod.fst).Nodup := by
  induction entries with
  | nil => exact List.nodup_singleton key
  | cons head entries ih =>
      rw [List.map_cons, List.nodup_cons] at hdistinct
      rw [set]
      split_ifs with hhead
      · rw [List.map_cons, List.nodup_cons, ← hhead]
        exact hdistinct
      · rw [List.map_cons, List.nodup_cons]
        refine ⟨fun hmem => ?_, ih hdistinct.2⟩
        obtain ⟨entry, hentry, heq⟩ := List.mem_map.1 hmem
        rcases mem_set hentry with rfl | hold
        · exact hhead heq.symm
        · exact hdistinct.1 (List.mem_map.2 ⟨entry, hold, heq⟩)

/-- A new key comes last. -/
theorem set_of_notMem {key : Key} {value : Value} {entries : List (Key × Value)}
    (hfresh : key ∉ entries.map Prod.fst) : set key value entries = entries ++ [(key, value)] := by
  induction entries with
  | nil => rfl
  | cons entry entries ih =>
      rw [List.map_cons, List.mem_cons, not_or] at hfresh
      rw [set, if_neg fun heq => hfresh.1 heq.symm, ih hfresh.2, List.cons_append]

/-- Entries with distinct keys are set one behind the other. -/
theorem foldl_set_of_nodup {entries before : List (Key × Value)}
    (hdistinct : ((before ++ entries).map Prod.fst).Nodup) :
    entries.foldl (fun dict entry => set entry.1 entry.2 dict) before = before ++ entries := by
  induction entries generalizing before with
  | nil => rw [List.foldl_nil, List.append_nil]
  | cons entry entries ih =>
      have hfresh : entry.1 ∉ before.map Prod.fst := by
        rw [List.map_append, List.map_cons] at hdistinct
        exact fun hmem => (List.nodup_append.1 hdistinct).2.2 _ hmem _ List.mem_cons_self rfl
      have hcons : before ++ entry :: entries = (before ++ [(entry.1, entry.2)]) ++ entries := by
        simp
      rw [List.foldl_cons, set_of_notMem hfresh, hcons]
      exact ih (hcons ▸ hdistinct)

end IcpcVerify.Dictionary
