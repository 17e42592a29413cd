import Mathlib

/-!
# Tokens and layouts

A text is cut at its separators into tokens.  Its layout is what remains when every
token is replaced by a mark; a text is determined by its layout and its tokens.  A
transformation that treats tokens and separators apart acts on the tokens alone.
-/

namespace IcpcVerify.Tokens

variable {Letter : Type*} (p : Letter → Bool)

/-- The maximal runs without a separator. -/
def tokens (s : List Letter) : List (List Letter) :=
  (s.splitOnP p).filter fun token => !token.isEmpty

/-- The text with every separator kept and every token replaced by one mark. -/
def layout : List Letter → List (Option Letter)
  | [] => []
  | c :: rest =>
      if p c then some c :: layout rest
      else none :: (layout rest).dropWhile Option.isNone

/-- No letter is a separator. -/
def Free (s : List Letter) : Prop :=
  ∀ c ∈ s, p c = false

variable {p}

/-! ## Cutting at a separator -/

/-- A text has no separator, or a first one. -/
theorem free_or_split (s : List Letter) :
    Free p s ∨ ∃ w c rest, s = w ++ c :: rest ∧ Free p w ∧ p c = true := by
  induction s with
  | nil => exact .inl fun c hc => (List.not_mem_nil hc).elim
  | cons d s ih =>
      cases hd : p d with
      | true => exact .inr ⟨[], d, s, rfl, fun c hc => (List.not_mem_nil hc).elim, hd⟩
      | false =>
          rcases ih with hfree | ⟨w, c, rest, rfl, hw, hc⟩
          · exact .inl (List.forall_mem_cons.2 ⟨hd, hfree⟩)
          · exact .inr ⟨d :: w, c, rest, rfl, List.forall_mem_cons.2 ⟨hd, hw⟩, hc⟩

/-- Induction from separator to separator. -/
theorem text_induction {motive : List Letter → Prop} (hfree : ∀ w, Free p w → motive w)
    (hsplit : ∀ w c rest, Free p w → p c = true → motive rest → motive (w ++ c :: rest))
    (s : List Letter) : motive s := by
  induction hn : s.length using Nat.strong_induction_on generalizing s with
  | _ n ih =>
      rcases free_or_split (p := p) s with hs | ⟨w, c, rest, rfl, hw, hc⟩
      · exact hfree s hs
      · refine hsplit w c rest hw hc (ih rest.length ?_ rest rfl)
        rw [← hn, List.length_append, List.length_cons]
        omega

@[simp]
theorem tokens_nil : tokens p [] = [] :=
  rfl

theorem tokens_of_free {w : List Letter} (hw : Free p w) (hne : w ≠ []) :
    tokens p w = [w] := by
  rw [tokens, List.splitOnP_eq_singleton hw]
  simp [hne]

theorem tokens_append_cons (s rest : List Letter) {c : Letter} (hc : p c = true) :
    tokens p (s ++ c :: rest) = tokens p s ++ tokens p rest := by
  rw [tokens, List.splitOnP_append_cons s rest hc, List.filter_append, tokens, tokens]

theorem tokens_append_separators (s rest : List Letter) (hrest : ∀ c ∈ rest, p c = true) :
    tokens p (s ++ rest) = tokens p s := by
  induction rest generalizing s with
  | nil => rw [List.append_nil]
  | cons c rest ih =>
      have hrest' := List.forall_mem_cons.1 hrest
      rw [tokens_append_cons s rest hrest'.1, ← List.nil_append rest, ih [] hrest'.2,
        tokens_nil, List.append_nil]

/-- Tokens are not empty, and hold no separator. -/
theorem free_of_mem_tokens {s token : List Letter} (htoken : token ∈ tokens p s) :
    token ≠ [] ∧ Free p token := by
  induction s using text_induction (p := p) with
  | hfree w hw =>
      by_cases hne : w = []
      · rw [hne, tokens_nil] at htoken
        cases htoken
      · rw [tokens_of_free hw hne, List.mem_singleton] at htoken
        exact htoken ▸ ⟨hne, hw⟩
  | hsplit w c rest hw hc ih =>
      rw [tokens_append_cons w rest hc, List.mem_append] at htoken
      rcases htoken with hfirst | hrest
      · by_cases hne : w = []
        · rw [hne, tokens_nil] at hfirst
          cases hfirst
        · rw [tokens_of_free hw hne, List.mem_singleton] at hfirst
          exact hfirst ▸ ⟨hne, hw⟩
      · exact ih hrest

/-- Texts with a separator behind each are the tokens exactly if they could be tokens. -/
theorem tokens_terminated_iff {c : Letter} (hc : p c = true) (items : List (List Letter)) :
    tokens p (items.flatMap (· ++ [c])) = items ↔ ∀ item ∈ items, item ≠ [] ∧ Free p item := by
  constructor
  · intro hitems item hitem
    rw [← hitems] at hitem
    exact free_of_mem_tokens hitem
  · intro hitems
    induction items with
    | nil => rfl
    | cons item items ih =>
        obtain ⟨⟨hne, hfree⟩, hrest⟩ := List.forall_mem_cons.1 hitems
        rw [List.flatMap_cons, List.append_assoc, List.singleton_append,
          tokens_append_cons item _ hc, tokens_of_free hfree hne, ih hrest, List.singleton_append]

theorem layout_append_cons (s rest : List Letter) {c : Letter} (hc : p c = true) :
    layout p (s ++ c :: rest) = layout p s ++ some c :: layout p rest := by
  induction s with
  | nil => simp [layout, hc]
  | cons d s ih =>
      cases hd : p d with
      | true => simp [layout, hd, ih]
      | false =>
          have hdrop : ∀ l : List (Option Letter),
              (l ++ some c :: layout p rest).dropWhile Option.isNone =
                l.dropWhile Option.isNone ++ some c :: layout p rest := by
            intro l
            induction l with
            | nil => rfl
            | cons o l ihl => cases o <;> simp [ihl]
          simp [layout, hd, ih, hdrop]

theorem layout_of_free {w : List Letter} (hw : Free p w) :
    layout p w = if w = [] then [] else [none] := by
  induction w with
  | nil => rfl
  | cons d w ih =>
      have hw' := List.forall_mem_cons.1 hw
      rw [layout, hw'.1, ih hw'.2]
      split_ifs <;> simp_all

/-- A layout without a separator is that of a text without one. -/
theorem free_of_layout {s w : List Letter} (hw : Free p w) (hlayout : layout p s = layout p w) :
    Free p s := by
  rcases free_or_split (p := p) s with hs | ⟨w', c, rest, rfl, -, hc⟩
  · exact hs
  · rw [layout_append_cons w' rest hc, layout_of_free hw] at hlayout
    have hmem : some c ∈ layout p w' ++ some c :: layout p rest := by simp
    rw [hlayout] at hmem
    split_ifs at hmem <;> simp at hmem

/-- Texts of the same layout have their first separator in common. -/
theorem split_of_layout {s w rest : List Letter} {c : Letter} (hw : Free p w)
    (hc : p c = true) (hlayout : layout p s = layout p (w ++ c :: rest)) :
    ∃ w' rest', s = w' ++ c :: rest' ∧ Free p w' ∧ layout p w' = layout p w ∧
      layout p rest' = layout p rest := by
  rcases free_or_split (p := p) s with hs | ⟨w', c', rest', rfl, hw', hc'⟩
  · exact absurd (free_of_layout hs hlayout.symm) fun hfree => by
      rw [hfree c (by simp)] at hc
      cases hc
  · rw [layout_append_cons w' rest' hc', layout_append_cons w rest hc, layout_of_free hw',
      layout_of_free hw] at hlayout
    obtain ⟨hhead, rfl, hrest⟩ : (w' = [] ↔ w = []) ∧ c' = c ∧ layout p rest' = layout p rest := by
      split_ifs at hlayout <;> simp_all
    refine ⟨w', rest', rfl, hw', ?_, hrest⟩
    rw [layout_of_free hw', layout_of_free hw]
    simp only [hhead]

theorem length_tokens_of_free {w : List Letter} (hw : Free p w) :
    (tokens p w).length = (layout p w).countP Option.isNone := by
  rw [layout_of_free hw]
  split_ifs with hne
  · rw [hne]
    rfl
  · rw [tokens_of_free hw hne]
    rfl

/-- A text has as many tokens as its layout has marks. -/
theorem length_tokens (s : List Letter) :
    (tokens p s).length = (layout p s).countP Option.isNone := by
  induction s using text_induction (p := p) with
  | hfree w hw => exact length_tokens_of_free hw
  | hsplit w c rest hw hc ih =>
      rw [tokens_append_cons w rest hc, layout_append_cons w rest hc, List.length_append,
        List.countP_append, List.countP_cons, length_tokens_of_free hw, ih]
      rfl

/-! ## Removing separators at the end -/

theorem layout_concat_of_not (s : List Letter) {c : Letter} (hc : p c = false) :
    ∃ before, layout p (s ++ [c]) = before ++ [none] := by
  induction s with
  | nil => exact ⟨[], by simp [layout, hc]⟩
  | cons d s ih =>
      obtain ⟨before, hbefore⟩ := ih
      cases hd : p d with
      | true => exact ⟨some d :: before, by simp [layout, hd, hbefore]⟩
      | false =>
          rw [List.cons_append, layout, if_neg (by simp [hd]), hbefore, List.dropWhile_append]
          split
          · exact ⟨[], rfl⟩
          · exact ⟨none :: before.dropWhile Option.isNone, rfl⟩

/-- Texts of the same layout have a separator at their end in common. -/
theorem concat_of_layout {s t : List Letter} {c : Letter} (hc : p c = true)
    (hlayout : layout p t = layout p (s ++ [c])) :
    ∃ t', t = t' ++ [c] ∧ layout p t' = layout p s := by
  rw [layout_append_cons s [] hc] at hlayout
  rcases List.eq_nil_or_concat t with rfl | ⟨t', d, rfl⟩
  · simp [layout] at hlayout
  · cases hd : p d with
    | true =>
        rw [List.concat_eq_append, layout_append_cons t' [] hd] at hlayout
        obtain ⟨hbefore, hlast⟩ := List.append_inj' hlayout rfl
        obtain rfl : d = c := by simpa using hlast
        exact ⟨t', by simp, hbefore⟩
    | false =>
        obtain ⟨before, hbefore⟩ := layout_concat_of_not (p := p) t' hd
        rw [List.concat_eq_append, hbefore] at hlayout
        have hlast := (List.append_inj' hlayout rfl).2
        simp at hlast

section Trailing

variable {q : Letter → Bool} (hq : ∀ c, q c = true → p c = true)
include hq

theorem tokens_rdropWhile (s : List Letter) : tokens p (s.rdropWhile q) = tokens p s := by
  have htrailing : ∀ c ∈ s.rtakeWhile q, p c = true := fun c hc =>
    hq c (List.mem_rtakeWhile_imp hc)
  calc tokens p (s.rdropWhile q)
      = tokens p (s.rdropWhile q ++ s.rtakeWhile q) :=
        (tokens_append_separators _ _ htrailing).symm
    _ = tokens p s := by rw [List.rdropWhile_append_rtakeWhile]

/-- The same separators are removed from texts of the same layout. -/
theorem layout_rdropWhile {s t : List Letter} (hlayout : layout p s = layout p t) :
    layout p (s.rdropWhile q) = layout p (t.rdropWhile q) := by
  induction s using List.reverseRecOn generalizing t with
  | nil =>
      obtain rfl : t = [] := by
        cases t with
        | nil => rfl
        | cons d t =>
            rw [layout, layout] at hlayout
            split at hlayout <;> cases hlayout
      rfl
  | append_singleton s c ih =>
      by_cases hqc : q c = true
      · obtain ⟨t', rfl, hbefore⟩ := concat_of_layout (hq c hqc) hlayout.symm
        rw [List.rdropWhile_concat_pos q s c hqc, List.rdropWhile_concat_pos q t' c hqc]
        exact ih hbefore.symm
      · have hkept : t.rdropWhile q = t := by
          rw [List.rdropWhile_eq_self_iff]
          intro hne hlast
          rw [← List.dropLast_append_getLast hne] at hlayout
          obtain ⟨s', hs', -⟩ := concat_of_layout (hq _ hlast) hlayout
          obtain rfl : c = t.getLast hne := by simpa using (List.append_inj' hs' rfl).2
          exact hqc hlast
        rwa [List.rdropWhile_concat_neg q s c hqc, hkept]

end Trailing

/-! ## Transformations of the tokens -/

/-- The transformation acts on each token and on each separator alone, and neither
creates nor destroys separators. -/
structure ActsOnTokens (p : Letter → Bool) (f : List Letter → List Letter) : Prop where
  nil : f [] = []
  append_cons : ∀ s c rest, p c = true → f (s ++ c :: rest) = f s ++ (f [c] ++ f rest)
  separator : ∀ c, p c = true → f [c] ≠ [] ∧ ∀ d ∈ f [c], p d = true
  token : ∀ w, Free p w → w ≠ [] → f w ≠ [] ∧ Free p (f w)

theorem actsOnTokens_id : ActsOnTokens p id where
  nil := rfl
  append_cons _ _ _ _ := rfl
  separator c hc := ⟨List.cons_ne_nil c [], fun d hd => by rwa [List.mem_singleton.1 hd]⟩
  token _ hw hne := ⟨hne, hw⟩

/-- A map from letter to letters that keeps the separators apart from the rest. -/
theorem actsOnTokens_flatMap {f : Letter → List Letter} (hne : ∀ c, f c ≠ [])
    (hkeeps : ∀ c, ∀ d ∈ f c, p d = p c) : ActsOnTokens p (List.flatMap f) where
  nil := rfl
  append_cons s c rest _ := by simp
  separator c hc := by
    rw [List.flatMap_singleton]
    exact ⟨hne c, fun d hd => by rw [hkeeps c d hd, hc]⟩
  token w hw hwne := by
    constructor
    · obtain ⟨c, rest, rfl⟩ := List.exists_cons_of_ne_nil hwne
      rw [List.flatMap_cons]
      exact List.append_ne_nil_of_left_ne_nil (hne c) _
    · intro d hd
      obtain ⟨c, hc, hdc⟩ := List.mem_flatMap.1 hd
      rw [hkeeps c d hdc, hw c hc]

namespace ActsOnTokens

variable {f : List Letter → List Letter} (hf : ActsOnTokens p f)
include hf

theorem tokens_of_free {w : List Letter} (hw : Free p w) :
    tokens p (f w) = (tokens p w).map f := by
  by_cases hne : w = []
  · rw [hne, hf.nil, tokens_nil, List.map_nil]
  · rw [Tokens.tokens_of_free (hf.token w hw hne).2 (hf.token w hw hne).1,
      Tokens.tokens_of_free hw hne, List.map_singleton]

/-- The tokens of the transformed text are the transformed tokens. -/
theorem tokens_map (s : List Letter) : tokens p (f s) = (tokens p s).map f := by
  induction s using text_induction (p := p) with
  | hfree w hw => exact hf.tokens_of_free hw
  | hsplit w c rest hw hc ih =>
      obtain ⟨hne, hseparators⟩ := hf.separator c hc
      obtain ⟨d, ds, hd⟩ := List.exists_cons_of_ne_nil hne
      rw [hd] at hseparators
      have hds := List.forall_mem_cons.1 hseparators
      have hskip : tokens p (ds ++ f rest) = tokens p (f rest) := by
        clear hd hseparators
        induction ds with
        | nil => rfl
        | cons e ds ihds =>
            have hes := List.forall_mem_cons.1 hds.2
            rw [List.cons_append, ← List.nil_append (e :: _), tokens_append_cons [] _ hes.1,
              tokens_nil, List.nil_append, ihds ⟨hds.1, hes.2⟩]
      rw [hf.append_cons w c rest hc, hd, List.cons_append, tokens_append_cons _ _ hds.1, hskip,
        hf.tokens_of_free hw, ih, tokens_append_cons w rest hc, List.map_append]

omit hf in
/-- Texts without a separator have at most one token. -/
theorem eq_of_free {s t : List Letter} (hs : Free p s) (ht : Free p t)
    (htokens : (tokens p s).map f = (tokens p t).map f) : f s = f t := by
  by_cases hsne : s = []
  · by_cases htne : t = []
    · rw [hsne, htne]
    · simp [hsne, Tokens.tokens_of_free ht htne] at htokens
  · by_cases htne : t = []
    · simp [htne, Tokens.tokens_of_free hs hsne] at htokens
    · simpa [Tokens.tokens_of_free hs hsne, Tokens.tokens_of_free ht htne] using htokens

/-- Texts of the same layout are transformed alike exactly when their tokens are. -/
theorem eq_iff_of_layout {s t : List Letter} (hlayout : layout p s = layout p t) :
    f s = f t ↔ (tokens p s).map f = (tokens p t).map f := by
  constructor
  · intro heq
    rw [← hf.tokens_map, ← hf.tokens_map, heq]
  · intro heq
    induction t using text_induction (p := p) generalizing s with
    | hfree w hw => exact eq_of_free (free_of_layout hw hlayout) hw heq
    | hsplit w c rest hw hc ih =>
        obtain ⟨w', rest', rfl, hw', hlayout_w, hlayout_rest⟩ := split_of_layout hw hc hlayout
        rw [tokens_append_cons w' rest' hc, tokens_append_cons w rest hc, List.map_append,
          List.map_append] at heq
        have hlength : ((tokens p w').map f).length = ((tokens p w).map f).length := by
          rw [List.length_map, List.length_map, length_tokens, length_tokens, hlayout_w]
        obtain ⟨hword, hrest⟩ := List.append_inj heq hlength
        rw [hf.append_cons w' c rest' hc, hf.append_cons w c rest hc, ih hlayout_rest hrest,
          eq_of_free hw' hw hword]

end ActsOnTokens

end IcpcVerify.Tokens
