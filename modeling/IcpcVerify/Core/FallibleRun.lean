import Mathlib

/-!
# Runs that may raise

The stateless counterpart of stateful runs: a run that returned is taken apart into
the runs of its parts, and what every round of a loop keeps holds when the loop has
returned.
-/

namespace IcpcVerify.FallibleRun

variable {Error Value Value' Item : Type}

theorem ok_bind (value : Value) (next : Value → Except Error Value') :
    (Except.ok value : Except Error Value) >>= next = next value :=
  rfl

theorem error_bind (error : Error) (next : Value → Except Error Value') :
    (Except.error error : Except Error Value) >>= next = .error error :=
  rfl

/-- The first part of a run that returns has returned, and the second went on with
its value. -/
theorem bind_eq_ok_iff {action : Except Error Value} {next : Value → Except Error Value'}
    {result : Value'} :
    action >>= next = .ok result ↔ ∃ value, action = .ok value ∧ next value = .ok result := by
  cases action with
  | error error => simp [bind, Except.bind]
  | ok value => simp [bind, Except.bind]

/-- A run that raises does so in its first part, or in its second after the first has
returned. -/
theorem bind_eq_error_iff {action : Except Error Value} {next : Value → Except Error Value'}
    {error : Error} :
    action >>= next = .error error ↔
      action = .error error ∨ ∃ value, action = .ok value ∧ next value = .error error := by
  cases action with
  | error error' => simp [bind, Except.bind]
  | ok value => simp [bind, Except.bind]

theorem map_eq_ok_iff {action : Except Error Value} {view : Value → Value'}
    {result : Value'} :
    action.map view = .ok result ↔ ∃ value, action = .ok value ∧ view value = result := by
  cases action with
  | error error => simp [Except.map]
  | ok value => simp [Except.map]

theorem map_eq_error_iff {action : Except Error Value} {view : Value → Value'}
    {error : Error} : action.map view = .error error ↔ action = .error error := by
  cases action <;> simp [Except.map]

section Lift

variable {m : Type → Type} [Monad m] [LawfulMonad m]

/-- A lifted part that returned is passed over. -/
theorem lift_ok_bind (value : Value) (next : Value → ExceptT Error m Value') :
    (liftM (Except.ok value : Except Error Value) : ExceptT Error m Value) >>= next =
      next value := by
  apply ExceptT.ext
  simp [liftM, monadLift, MonadLift.monadLift, ExceptT.run_bind]

/-- A lifted part that raised ends the program. -/
theorem lift_error_bind (error : Error) (next : Value → ExceptT Error m Value') :
    (liftM (Except.error error : Except Error Value) : ExceptT Error m Value) >>= next =
      throw error := by
  apply ExceptT.ext
  simp [liftM, monadLift, MonadLift.monadLift, ExceptT.run_bind]

end Lift

/-- An invariant of the rounds is an invariant of the loop. -/
theorem foldlM_invariant {body : Value → Item → Except Error Value} (inv : Value → Prop)
    {items : List Item}
    (hbody : ∀ item ∈ items, ∀ value value', inv value → body value item = .ok value' →
      inv value')
    {value value' : Value} (hvalue : inv value)
    (hreturned : items.foldlM body value = .ok value') : inv value' := by
  induction items generalizing value with
  | nil =>
      rw [List.foldlM_nil] at hreturned
      rwa [← Except.ok.inj hreturned]
  | cons item items ih =>
      rw [List.foldlM_cons, bind_eq_ok_iff] at hreturned
      obtain ⟨middle, hround, hrest⟩ := hreturned
      have hmiddle := hbody item List.mem_cons_self value middle hvalue hround
      exact ih (fun item hitem => hbody item (List.mem_cons_of_mem _ hitem)) hmiddle hrest

/-- A loop that adds its items' outputs one after the other has added them all. -/
theorem foldlM_collects {Output : Type} {body : Value → Item → Except Error Value}
    (view : Value → List Output) (output : Item → List Output)
    (hbody : ∀ value item value', body value item = .ok value' →
      view value' = view value ++ output item)
    (items : List Item) {value value' : Value}
    (hreturned : items.foldlM body value = .ok value') :
    view value' = view value ++ items.flatMap output := by
  induction items generalizing value with
  | nil =>
      rw [List.foldlM_nil] at hreturned
      rw [← Except.ok.inj hreturned, List.flatMap_nil, List.append_nil]
  | cons item items ih =>
      rw [List.foldlM_cons, bind_eq_ok_iff] at hreturned
      obtain ⟨middle, hround, hrest⟩ := hreturned
      rw [ih hrest, hbody value item middle hround, List.flatMap_cons, List.append_assoc]

/-- A loop none of whose rounds raises adds its items' outputs one after the other. -/
theorem foldlM_appends {Output : Type}
    {body : List Output → Item → Except Error (List Output)} {output : Item → List Output}
    {items : List Item}
    (hbody : ∀ item ∈ items, ∀ added, body added item = .ok (added ++ output item))
    (added : List Output) : items.foldlM body added = .ok (added ++ items.flatMap output) := by
  induction items generalizing added with
  | nil => exact congrArg Except.ok (List.append_nil added).symm
  | cons item items ih =>
      obtain ⟨hitem, hitems⟩ := List.forall_mem_cons.1 hbody
      rw [List.foldlM_cons, hitem added, List.flatMap_cons, ← List.append_assoc]
      exact ih hitems (added ++ output item)

/-- A loop each of whose rounds adds a record of its item has added one for every item. -/
theorem foldlM_records {Record : Type} {body : Value → Item → Except Error Value}
    {records : Item → Record → Prop} {add : Value → Record → Value} {items : List Item}
    (hbody : ∀ item ∈ items, ∀ value value', body value item = .ok value' →
      ∃ record, records item record ∧ value' = add value record)
    {value value' : Value} (hreturned : items.foldlM body value = .ok value') :
    ∃ added, List.Forall₂ records items added ∧ value' = added.foldl add value := by
  induction items generalizing value with
  | nil => exact ⟨[], .nil, (Except.ok.inj hreturned).symm⟩
  | cons item items ih =>
      rw [List.foldlM_cons, bind_eq_ok_iff] at hreturned
      obtain ⟨middle, hround, hrest⟩ := hreturned
      obtain ⟨record, hrecord, rfl⟩ := hbody item List.mem_cons_self value middle hround
      obtain ⟨added, hadded, hvalue⟩ :=
        ih (fun item hitem => hbody item (List.mem_cons_of_mem _ hitem)) hrest
      exact ⟨record :: added, .cons hrecord hadded, hvalue⟩

/-- A loop that raises does so in the round of one of its items. -/
theorem exists_of_foldlM_eq_error {body : Value → Item → Except Error Value}
    {items : List Item} {value : Value} {error : Error}
    (hraised : items.foldlM body value = .error error) :
    ∃ item ∈ items, ∃ value, body value item = .error error := by
  induction items generalizing value with
  | nil => cases hraised
  | cons item items ih =>
      rw [List.foldlM_cons, bind_eq_error_iff] at hraised
      rcases hraised with hround | ⟨middle, -, hrest⟩
      · exact ⟨item, List.mem_cons_self, value, hround⟩
      · obtain ⟨item', hmem, hround⟩ := ih hrest
        exact ⟨item', List.mem_cons_of_mem _ hmem, hround⟩

/-- A map none of whose rounds raises. -/
theorem mapM_of_ok {action : Item → Except Error Value} {value : Item → Value}
    {items : List Item} (haction : ∀ item ∈ items, action item = .ok (value item)) :
    items.mapM action = .ok (items.map value) := by
  induction items with
  | nil => rfl
  | cons item items ih =>
      have hitems := List.forall_mem_cons.1 haction
      rw [List.mapM_cons, hitems.1, ih hitems.2]
      rfl

/-- The values of a map that returned are those of its items, in order. -/
theorem forall₂_of_mapM_eq_ok {action : Item → Except Error Value} {items : List Item}
    {values : List Value} (hreturned : items.mapM action = .ok values) :
    List.Forall₂ (fun item value => action item = .ok value) items values := by
  induction items generalizing values with
  | nil =>
      rw [List.mapM_nil] at hreturned
      rw [← Except.ok.inj hreturned]
      exact .nil
  | cons item items ih =>
      rw [List.mapM_cons, bind_eq_ok_iff] at hreturned
      obtain ⟨value, hitem, hrest⟩ := hreturned
      obtain ⟨tail, hitems, hvalues⟩ := bind_eq_ok_iff.1 hrest
      rw [← Except.ok.inj hvalues]
      exact .cons hitem (ih hitems)

/-- A related list has a partner for every item. -/
theorem exists_of_forall₂ {related : Item → Value → Prop} {items : List Item}
    {values : List Value} (hrelated : List.Forall₂ related items values) {item : Item}
    (hitem : item ∈ items) : ∃ value ∈ values, related item value := by
  induction hrelated with
  | nil => cases hitem
  | @cons head value items values hhead _ ih =>
      rcases List.mem_cons.1 hitem with rfl | htail
      · exact ⟨value, List.mem_cons_self, hhead⟩
      · obtain ⟨partner, hpartner, hvalue⟩ := ih htail
        exact ⟨partner, List.mem_cons_of_mem _ hpartner, hvalue⟩

/-- A map that raises does so at one of its items. -/
theorem exists_of_mapM_eq_error {action : Item → Except Error Value} {items : List Item}
    {error : Error} (hraised : items.mapM action = .error error) :
    ∃ item ∈ items, action item = .error error := by
  induction items with
  | nil => cases hraised
  | cons item items ih =>
      rw [List.mapM_cons, bind_eq_error_iff] at hraised
      rcases hraised with hitem | ⟨value, -, hraised⟩
      · exact ⟨item, List.mem_cons_self, hitem⟩
      · rcases bind_eq_error_iff.1 hraised with hitems | ⟨values, -, hraised⟩
        · obtain ⟨item', hmem, hitem'⟩ := ih hitems
          exact ⟨item', List.mem_cons_of_mem _ hmem, hitem'⟩
        · cases hraised

/-! ## When a run returns -/

/-- Whatever the run raises is allowed. -/
def FailsOnly (allowed : Error → Prop) (action : Except Error Value) : Prop :=
  ∀ error, action = .error error → allowed error

/-- The run returns under the condition, and raises such an error otherwise. -/
structure ReturnsIff (condition : Prop) (raised : Error → Prop) (action : Except Error Value) :
    Prop where
  returns : condition → ∃ value, action = .ok value
  raises : ¬condition → ∃ error, action = .error error ∧ raised error

section ReturnsIff

variable {allowed raised : Error → Prop} {condition condition' : Prop}

theorem failsOnly_ok (value : Value) : FailsOnly allowed (.ok value) := by
  intro error hraised
  cases hraised

theorem failsOnly_error {error : Error} (herror : allowed error) :
    FailsOnly allowed (.error error : Except Error Value) := by
  intro error' hraised
  rwa [← Except.error.inj hraised]

/-- A program raises only what is allowed if its first part does, and its second after
the first has returned. -/
theorem failsOnly_bind_iff {action : Except Error Value}
    {next : Value → Except Error Value'} :
    FailsOnly allowed (action >>= next) ↔
      FailsOnly allowed action ∧ ∀ value, action = .ok value → FailsOnly allowed (next value) := by
  simp only [FailsOnly, bind_eq_error_iff]
  constructor
  · intro hall
    exact ⟨fun error hraised => hall error (.inl hraised),
      fun value hvalue error hraised => hall error (.inr ⟨value, hvalue, hraised⟩)⟩
  · rintro ⟨hfirst, hnext⟩ error (hraised | ⟨value, hvalue, hraised⟩)
    · exact hfirst error hraised
    · exact hnext value hvalue error hraised

theorem returnsIff_ok (value : Value) : ReturnsIff True raised (.ok value) :=
  ⟨fun _ => ⟨value, rfl⟩, fun hfalse => absurd trivial hfalse⟩

theorem returnsIff_error {error : Error} (herror : raised error) :
    ReturnsIff False raised (.error error : Except Error Value) :=
  ⟨False.elim, fun _ => ⟨error, rfl, herror⟩⟩

namespace ReturnsIff

theorem congr {action : Except Error Value} (haction : ReturnsIff condition raised action)
    (hiff : condition ↔ condition') : ReturnsIff condition' raised action :=
  ⟨fun hcondition => haction.returns (hiff.2 hcondition),
    fun hcondition => haction.raises fun hfirst => hcondition (hiff.1 hfirst)⟩

theorem mono {raised' : Error → Prop} {action : Except Error Value}
    (haction : ReturnsIff condition raised action) (hmono : ∀ error, raised error → raised' error) :
    ReturnsIff condition raised' action := by
  refine ⟨haction.returns, fun hcondition => ?_⟩
  obtain ⟨error, herror, hraised⟩ := haction.raises hcondition
  exact ⟨error, herror, hmono error hraised⟩

theorem bind {action : Except Error Value} {next : Value → Except Error Value'}
    (haction : ReturnsIff condition raised action)
    (hnext : ∀ value, action = .ok value → ReturnsIff condition' raised (next value)) :
    ReturnsIff (condition ∧ condition') raised (action >>= next) := by
  by_cases hcondition : condition
  · obtain ⟨value, hvalue⟩ := haction.returns hcondition
    rw [hvalue]
    exact (hnext value hvalue).congr (by simp [hcondition])
  · obtain ⟨error, herror, hraised⟩ := haction.raises hcondition
    rw [herror]
    exact (returnsIff_error hraised).congr (by simp [hcondition])

/-- What follows a run and always returns does not matter. -/
theorem bind_ok {action : Except Error Value} {view : Value → Value'}
    (haction : ReturnsIff condition raised action) :
    ReturnsIff condition raised (action >>= fun value => .ok (view value)) :=
  (haction.bind fun value _ => returnsIff_ok (view value)).congr (iff_of_eq (and_true _))

theorem mapM {action : Item → Except Error Value} {holds : Item → Prop} {items : List Item}
    (haction : ∀ item ∈ items, ReturnsIff (holds item) raised (action item)) :
    ReturnsIff (∀ item ∈ items, holds item) raised (items.mapM action) := by
  induction items with
  | nil => exact (returnsIff_ok []).congr (by simp)
  | cons item items ih =>
      obtain ⟨hitem, hitems⟩ := List.forall_mem_cons.1 haction
      rw [List.mapM_cons]
      exact (hitem.bind fun value _ => (ih hitems).bind_ok).congr List.forall_mem_cons.symm

theorem returns_iff {action : Except Error Value} (haction : ReturnsIff condition raised action) :
    (∃ value, action = .ok value) ↔ condition := by
  refine ⟨fun ⟨value, hvalue⟩ => ?_, haction.returns⟩
  by_contra hcondition
  obtain ⟨error, herror, -⟩ := haction.raises hcondition
  rw [hvalue] at herror
  cases herror

theorem failsOnly {action : Except Error Value} (haction : ReturnsIff condition raised action) :
    FailsOnly raised action := by
  intro error herror
  obtain ⟨error', herror', hraised⟩ := haction.raises fun hcondition => by
    obtain ⟨value, hvalue⟩ := haction.returns hcondition
    rw [hvalue] at herror
    cases herror
  rwa [← Except.error.inj (herror'.symm.trans herror)]

/-- A run whose errors are not allowed must return. -/
theorem failsOnly_iff {action : Except Error Value} (haction : ReturnsIff condition raised action)
    (hforeign : ∀ error, raised error → ¬allowed error) :
    FailsOnly allowed action ↔ condition := by
  constructor
  · intro hallowed
    by_contra hcondition
    obtain ⟨error, herror, hraised⟩ := haction.raises hcondition
    exact hforeign error hraised (hallowed error herror)
  · intro hcondition error herror
    obtain ⟨value, hvalue⟩ := haction.returns hcondition
    rw [hvalue] at herror
    cases herror

end ReturnsIff

end ReturnsIff

/-! ## Filters that may raise -/

theorem filterAuxM_spec (keep : Item → Except Error Bool) (items acc : List Item) :
    match items.filterAuxM keep acc with
    | .ok kept => ∀ item ∈ kept, item ∈ items ∨ item ∈ acc
    | .error error => ∃ item ∈ items, keep item = .error error := by
  induction items generalizing acc with
  | nil => exact fun item hitem => .inr hitem
  | cons head items ih =>
      rw [List.filterAuxM]
      cases hhead : keep head with
      | error error => exact ⟨head, List.mem_cons_self, hhead⟩
      | ok kept =>
          have hrest := ih (cond kept (head :: acc) acc)
          change match items.filterAuxM keep (cond kept (head :: acc) acc) with
            | .ok kept => ∀ item ∈ kept, item ∈ head :: items ∨ item ∈ acc
            | .error error => ∃ item ∈ head :: items, keep item = .error error
          split <;> rename_i heq <;> rw [heq] at hrest
          · intro item hitem
            rcases hrest item hitem with hmem | hmem
            · exact .inl (List.mem_cons_of_mem _ hmem)
            · cases kept with
              | true =>
                  rcases List.mem_cons.1 hmem with rfl | hacc
                  · exact .inl List.mem_cons_self
                  · exact .inr hacc
              | false => exact .inr hmem
          · obtain ⟨item, hitem, hraised⟩ := hrest
            exact ⟨item, List.mem_cons_of_mem _ hitem, hraised⟩

/-- A filter that raises does so at one of its items. -/
theorem exists_of_filterM_eq_error {keep : Item → Except Error Bool} {items : List Item}
    {error : Error} (hraised : items.filterM keep = .error error) :
    ∃ item ∈ items, keep item = .error error := by
  have hspec := filterAuxM_spec keep items []
  rcases bind_eq_error_iff.1 hraised with hfilter | ⟨kept, -, hreverse⟩
  · rwa [hfilter] at hspec
  · cases hreverse

/-- What a filter keeps is among its items. -/
theorem mem_of_mem_filterM {keep : Item → Except Error Bool} {items kept : List Item}
    (hreturned : items.filterM keep = .ok kept) {item : Item} (hitem : item ∈ kept) :
    item ∈ items := by
  have hspec := filterAuxM_spec keep items []
  obtain ⟨reversed, hfilter, hreverse⟩ := bind_eq_ok_iff.1 hreturned
  rw [hfilter] at hspec
  rw [← Except.ok.inj hreverse, List.mem_reverse] at hitem
  exact (hspec item hitem).resolve_right (List.not_mem_nil)

end IcpcVerify.FallibleRun
