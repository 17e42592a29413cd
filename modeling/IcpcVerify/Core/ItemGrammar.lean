import Mathlib

/-!
# Loops over written items

A loop that takes one item after the other off the front of a list, each written with
one or more tokens, and changes its state by it.  It accepts the lists that are items
one after the other, and ends in the state the items leave.
-/

namespace IcpcVerify.ItemGrammar

variable {Token Item State Error : Type}

/-- What one round of the loop does. -/
structure ReadsItems (written : Item → List Token) (apply : State → Item → State)
    (read : List Token → State → Except Error State) : Prop where
  written_ne_nil : ∀ item, written item ≠ []
  done : ∀ state, read [] state = .ok state
  round : ∀ item rest state, read (written item ++ rest) state = read rest (apply state item)
  starts : ∀ tokens state state', tokens ≠ [] → read tokens state = .ok state' →
    ∃ item rest, tokens = written item ++ rest

variable {written : Item → List Token} {apply : State → Item → State}
  {read : List Token → State → Except Error State}

/-- Items at the front are all taken off. -/
theorem ReadsItems.read_append (hread : ReadsItems written apply read) (items : List Item)
    (rest : List Token) (state : State) :
    read (items.flatMap written ++ rest) state = read rest (items.foldl apply state) := by
  induction items generalizing state with
  | nil => rfl
  | cons item items ih =>
      rw [List.flatMap_cons, List.append_assoc, hread.round, ih, List.foldl_cons]

/-- The accepted lists are those written with items. -/
theorem ReadsItems.read_eq_ok_iff (hread : ReadsItems written apply read)
    (tokens : List Token) (state state' : State) :
    read tokens state = .ok state' ↔
      ∃ items : List Item, items.flatMap written = tokens ∧ items.foldl apply state = state' := by
  constructor
  · intro haccepted
    induction hlength : tokens.length using Nat.strong_induction_on
      generalizing tokens state with
    | h length ih =>
        by_cases htokens : tokens = []
        · rw [htokens, hread.done] at haccepted
          exact ⟨[], htokens.symm, Except.ok.inj haccepted⟩
        · obtain ⟨item, rest, rfl⟩ := hread.starts tokens state state' htokens haccepted
          rw [hread.round] at haccepted
          have hpositive := List.length_pos_of_ne_nil (hread.written_ne_nil item)
          rw [List.length_append] at hlength
          obtain ⟨items, hitems, hstate⟩ :=
            ih rest.length (by omega) rest (apply state item) haccepted rfl
          exact ⟨item :: items, by rw [List.flatMap_cons, hitems], hstate⟩
  · rintro ⟨items, rfl, rfl⟩
    rw [← List.append_nil (items.flatMap written), hread.read_append, hread.done]

/-! ## What the items leave -/

/-- The last item that sets a field decides it. -/
theorem view_foldl_setting {Value : Type} {view : State → Option Value}
    {setting : Item → Option Value}
    (hview : ∀ state item, view (apply state item) = (setting item).or (view state))
    (items : List Item) (state : State) :
    view (items.foldl apply state) = (items.filterMap setting).getLast?.or (view state) := by
  induction items generalizing state with
  | nil => rfl
  | cons item items ih =>
      rw [List.foldl_cons, ih, hview]
      cases hsetting : setting item with
      | none => rw [List.filterMap_cons_none hsetting, Option.none_or]
      | some value =>
          rw [List.filterMap_cons_some hsetting, List.getLast?_cons, Option.some_or]
          cases (items.filterMap setting).getLast? <;> rfl

/-- A switch that no item turns off. -/
theorem view_foldl_switch {view : State → Bool} {switches : Item → Bool}
    (hview : ∀ state item, view (apply state item) = (switches item || view state))
    (items : List Item) (state : State) :
    view (items.foldl apply state) = (items.any switches || view state) := by
  induction items generalizing state with
  | nil => rfl
  | cons item items ih =>
      rw [List.foldl_cons, ih, hview, List.any_cons, ← Bool.or_assoc,
        Bool.or_comm (items.any switches)]

end IcpcVerify.ItemGrammar
