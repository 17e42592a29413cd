import IcpcVerify.Python.Text

/-!
# White space around a text

`str.strip` takes away the white space around a text and nothing else: what it leaves is
tight, and a tight text with white space around it is left as it was.
-/

namespace IcpcVerify.Python

/-- Nothing but white space. -/
def Blank (s : PyStr) : Prop :=
  ∀ c ∈ s, isSpace c = true

/-- No white space at all. -/
def Spaceless (s : PyStr) : Prop :=
  ∀ c ∈ s, isSpace c = false

instance (s : PyStr) : Decidable (Spaceless s) :=
  List.decidableBAll (fun c => isSpace c = false) s

/-- The text neither starts nor ends with white space. -/
structure Tight (s : PyStr) : Prop where
  head : ∀ c ∈ s.head?, isSpace c = false
  last : ∀ c ∈ s.getLast?, isSpace c = false

theorem dropWhile_of_head {s : PyStr} (hs : ∀ c ∈ s.head?, isSpace c = false) :
    s.dropWhile isSpace = s := by
  cases s with
  | nil => rfl
  | cons c s => rw [List.dropWhile_cons, hs c rfl, if_neg Bool.false_ne_true]

/-- White space around a tight text is taken away. -/
theorem strip_padded {before s after : PyStr} (hbefore : Blank before) (hafter : Blank after)
    (hs : Tight s) : strip (before ++ s ++ after) = s := by
  have hfront : (before ++ s ++ after).dropWhile isSpace = (s ++ after).dropWhile isSpace := by
    rw [List.append_assoc, List.dropWhile_append_of_pos hbefore]
  have hback : (after.reverse ++ s.reverse).dropWhile isSpace = s.reverse := by
    rw [List.dropWhile_append_of_pos fun c hc => hafter c (List.mem_reverse.1 hc)]
    exact dropWhile_of_head (by simpa using hs.last)
  rw [strip, hfront]
  cases s with
  | nil =>
      have hnil : after.dropWhile isSpace = [] := List.dropWhile_eq_nil_iff.2 hafter
      rw [List.nil_append, hnil, List.rdropWhile_nil]
  | cons c s =>
      rw [dropWhile_of_head (by simpa using hs.head), List.rdropWhile, List.reverse_append, hback,
        List.reverse_reverse]

theorem strip_of_tight {s : PyStr} (hs : Tight s) : strip s = s := by
  have hnone : Blank [] := fun c hc => by cases hc
  simpa using strip_padded hnone hnone hs

/-- What is left of a text is tight. -/
theorem strip_tight (s : PyStr) : Tight (strip s) where
  head := by
    intro c hc
    have hprefix : strip s <+: s.dropWhile isSpace := List.rdropWhile_prefix isSpace _
    obtain ⟨rest, hrest⟩ := hprefix
    have hhead : (s.dropWhile isSpace).head? = some c := by
      rw [← hrest, List.head?_append, Option.mem_def.1 hc]
      rfl
    have hnot := List.head?_dropWhile_not isSpace s
    rw [hhead] at hnot
    simpa using hnot
  last := by
    intro c hc
    have hne : strip s ≠ [] := by
      intro hnil
      rw [hnil] at hc
      cases hc
    have hlast := List.rdropWhile_last_not isSpace _ hne
    rw [List.getLast?_eq_some_getLast hne, Option.mem_def, Option.some.injEq] at hc
    rw [← hc]
    exact Bool.eq_false_iff.2 hlast

/-- What is taken away is white space on both sides. -/
theorem exists_padding (s : PyStr) :
    ∃ before after, Blank before ∧ Blank after ∧ s = before ++ strip s ++ after := by
  refine ⟨s.takeWhile isSpace, (s.dropWhile isSpace).rtakeWhile isSpace, ?_, ?_, ?_⟩
  · exact fun c hc => List.mem_takeWhile_imp hc
  · exact fun c hc => List.mem_rtakeWhile_imp hc
  · rw [List.append_assoc, strip, List.rdropWhile_append_rtakeWhile,
      List.takeWhile_append_dropWhile]

/-- A text is a tight one with white space around it exactly when this is left of it. -/
theorem strip_eq_iff {s t : PyStr} :
    strip s = t ↔ Tight t ∧
      ∃ before after, Blank before ∧ Blank after ∧ s = before ++ t ++ after := by
  constructor
  · rintro rfl
    exact ⟨strip_tight s, exists_padding s⟩
  · rintro ⟨ht, before, after, hbefore, hafter, rfl⟩
    exact strip_padded hbefore hafter ht

theorem Spaceless.tight {s : PyStr} (hs : Spaceless s) : Tight s :=
  ⟨fun c hc => hs c (List.mem_of_head? hc), fun c hc => hs c (List.mem_of_getLast? hc)⟩

theorem strip_blank_append {before : PyStr} (hbefore : Blank before) (s : PyStr) :
    strip (before ++ s) = strip s := by
  obtain ⟨first, last, hfirst, hlast, hs⟩ := exists_padding s
  have hpadded : before ++ s = (before ++ first) ++ strip s ++ last := by
    conv_lhs => rw [hs]
    simp
  rw [hpadded]
  exact strip_padded (List.forall_mem_append.2 ⟨hbefore, hfirst⟩) hlast (strip_tight s)

theorem strip_append_blank (s : PyStr) {after : PyStr} (hafter : Blank after) :
    strip (s ++ after) = strip s := by
  obtain ⟨first, last, hfirst, hlast, hs⟩ := exists_padding s
  have hpadded : s ++ after = first ++ strip s ++ (last ++ after) := by
    conv_lhs => rw [hs]
    simp
  rw [hpadded]
  exact strip_padded hfirst (List.forall_mem_append.2 ⟨hlast, hafter⟩) (strip_tight s)

/-- What is no white space is not taken away. -/
theorem mem_strip {s : PyStr} {c : CodePoint} (hc : c ∈ s) (hspace : isSpace c = false) :
    c ∈ strip s := by
  obtain ⟨before, after, hbefore, hafter, hs⟩ := exists_padding s
  rw [hs, List.mem_append, List.mem_append] at hc
  rcases hc with (hmem | hmem) | hmem
  · rw [hbefore c hmem] at hspace
    cases hspace
  · exact hmem
  · rw [hafter c hmem] at hspace
    cases hspace

theorem strip_dropWhile (s : PyStr) : strip (s.dropWhile isSpace) = strip s := by
  have hblank : Blank (s.takeWhile isSpace) := fun c hc => List.mem_takeWhile_imp hc
  have hstrip := strip_blank_append hblank (s.dropWhile isSpace)
  rw [List.takeWhile_append_dropWhile] at hstrip
  exact hstrip.symm

theorem strip_rdropWhile (s : PyStr) : strip (s.rdropWhile isSpace) = strip s := by
  have hblank : Blank (s.rtakeWhile isSpace) := fun c hc => List.mem_rtakeWhile_imp hc
  have hstrip := strip_append_blank (s.rdropWhile isSpace) hblank
  rw [List.rdropWhile_append_rtakeWhile] at hstrip
  exact hstrip.symm

/-- Around a character that is kept, each side is stripped by itself. -/
theorem strip_around (left right : PyStr) {c : CodePoint} (hc : isSpace c = false) :
    strip (left ++ c :: right) = left.dropWhile isSpace ++ c :: right.rdropWhile isSpace := by
  rw [strip_eq_iff]
  refine ⟨⟨?_, ?_⟩, left.takeWhile isSpace, right.rtakeWhile isSpace, ?_, ?_, ?_⟩
  · intro d hd
    cases hleft : left.dropWhile isSpace with
    | nil =>
        rw [hleft] at hd
        obtain rfl : c = d := by simpa using hd
        exact hc
    | cons first rest =>
        have hnot := List.head?_dropWhile_not isSpace left
        rw [hleft] at hd hnot
        obtain rfl : first = d := by simpa using hd
        simpa using hnot
  · intro d hd
    by_cases hright : right.rdropWhile isSpace = []
    · rw [hright] at hd
      obtain rfl : c = d := by simpa using hd
      exact hc
    · have hnot := List.rdropWhile_last_not isSpace right hright
      rw [List.getLast?_append_of_ne_nil _ (List.cons_ne_nil _ _), List.getLast?_cons_of_ne_nil hright,
        List.getLast?_eq_some_getLast hright, Option.mem_def, Option.some.injEq] at hd
      rw [← hd]
      exact Bool.eq_false_iff.2 hnot
  · exact fun d hd => List.mem_takeWhile_imp hd
  · exact fun d hd => List.mem_rtakeWhile_imp hd
  · calc left ++ c :: right
        = (left.takeWhile isSpace ++ left.dropWhile isSpace) ++
            c :: (right.rdropWhile isSpace ++ right.rtakeWhile isSpace) := by
          rw [List.takeWhile_append_dropWhile, List.rdropWhile_append_rtakeWhile]
      _ = left.takeWhile isSpace ++ (left.dropWhile isSpace ++ c :: right.rdropWhile isSpace) ++
            right.rtakeWhile isSpace := by simp only [List.append_assoc, List.cons_append]

end IcpcVerify.Python
