import IcpcVerify.Solutions

/-!
# Paths

The parts of a path, and the path written with a slash between them.
-/

namespace IcpcVerify.Solutions

open IcpcVerify.Python

theorem asPosix_singleton (part : PyStr) : asPosix [part] = part := by
  simp [asPosix]

theorem asPosix_cons_cons (part part' : PyStr) (parts : List PyStr) :
    asPosix (part :: part' :: parts) = part ++ py "/" ++ asPosix (part' :: parts) := by
  simp [asPosix, List.intercalate_cons_cons]

/-- The parts of a path can be read back from it. -/
theorem splitOn_asPosix {parts : List PyStr} (hne : parts ≠ [])
    (hslash : ∀ part ∈ parts, ord '/' ∉ part) : (asPosix parts).splitOn (ord '/') = parts :=
  List.splitOn_intercalate (ord '/') hslash hne

/-- A path of several parts is longer than its last part. -/
theorem length_getLastD_lt {parts : List PyStr} (hparts : 2 ≤ parts.length) :
    (parts.getLastD []).length < (asPosix parts).length := by
  induction parts with
  | nil => simp at hparts
  | cons part parts ih =>
      cases parts with
      | nil => simp at hparts
      | cons part' parts =>
          have hsep : (py "/").length = 1 := rfl
          rw [asPosix_cons_cons, List.getLastD_cons, List.length_append, List.length_append, hsep]
          cases parts with
          | nil =>
              rw [asPosix_singleton]
              simp
          | cons part'' parts =>
              have hlast := ih (by simp)
              rw [List.getLastD_cons] at hlast
              simp only [List.getLastD_cons] at hlast ⊢
              omega

/-- The last part is the whole path exactly when it is the only part. -/
theorem getLastD_eq_asPosix_iff {parts : List PyStr} (hne : parts ≠ []) :
    parts.getLastD [] = asPosix parts ↔ parts.length = 1 := by
  constructor
  · intro heq
    by_contra hlength
    have hpos := List.length_pos_iff.2 hne
    have hlt : (parts.getLastD []).length < (asPosix parts).length :=
      length_getLastD_lt (by omega)
    rw [heq] at hlt
    exact lt_irrefl _ hlt
  · intro hlength
    obtain ⟨part, rfl⟩ := List.length_eq_one_iff.1 hlength
    rw [asPosix_singleton]
    rfl

theorem getLastD_append {root parts : Path} (hparts : parts ≠ []) :
    (root ++ parts).getLastD [] = parts.getLastD [] := by
  rw [List.getLastD_eq_getLast?, List.getLastD_eq_getLast?, List.getLast?_append_of_ne_nil _ hparts]

end IcpcVerify.Solutions
