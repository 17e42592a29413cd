import Mathlib

/-!
# Runs whose state survives exceptions

The state of a program here keeps what was done before an exception, as a log does.
`Keeps` is the judgement for such programs: from every state of an invariant the program
ends in a state of the invariant, and the value it returns or the exception it raises
satisfies the condition given for it.
-/

namespace IcpcVerify.TracedRun

variable {State Error Value Value' Item : Type}

abbrev Program (State Error : Type) := ExceptT Error (StateM State)

/-- How the program ends from a state, and the state it leaves. -/
def runFrom (program : Program State Error Value) (before : State) :
    Except Error Value × State :=
  Id.run ((ExceptT.run program).run before)

@[simp]
theorem runFrom_pure (value : Value) (before : State) :
    runFrom (pure value : Program State Error Value) before = (.ok value, before) :=
  rfl

theorem runFrom_get (before : State) :
    runFrom (get : Program State Error State) before = (.ok before, before) :=
  rfl

theorem runFrom_set (state before : State) :
    runFrom (set state : Program State Error PUnit) before = (.ok ⟨⟩, state) :=
  rfl

/-- The second part of a program goes on from where the first has returned. -/
theorem runFrom_bind (program : Program State Error Value)
    (next : Value → Program State Error Value') (before : State) :
    runFrom (program >>= next) before =
      match runFrom program before with
      | (.ok value, after) => runFrom (next value) after
      | (.error error, after) => (.error error, after) := by
  simp only [runFrom, ExceptT.run_bind, StateT.run_bind, Id.run_bind]
  rcases hrun : (StateT.run (ExceptT.run program) before).run with ⟨_ | _, _⟩ <;> rfl

/-- Programs that end alike from every state are the same. -/
theorem program_ext {program program' : Program State Error Value}
    (hruns : ∀ before, runFrom program before = runFrom program' before) : program = program' :=
  funext hruns

/-- Two programs with the same first part are the same if they go on alike with what it may
return. -/
theorem bind_congr_of_returned {program : Program State Error Value}
    {next next' : Value → Program State Error Value'}
    (hnext : ∀ before value after, runFrom program before = (.ok value, after) →
      next value = next' value) : program >>= next = program >>= next' := by
  apply program_ext
  intro before
  rw [runFrom_bind, runFrom_bind]
  rcases hrun : runFrom program before with ⟨error | value, after⟩
  · rfl
  · simp only [hnext before value after hrun]

/-- Loops whose rounds are the same are the same. -/
theorem foldlM_congr {body body' : Value → Item → Program State Error Value}
    {items : List Item} (hbody : ∀ item ∈ items, ∀ value, body value item = body' value item)
    (value : Value) : items.foldlM body value = items.foldlM body' value := by
  induction items generalizing value with
  | nil => rfl
  | cons item items ih =>
      obtain ⟨hitem, hitems⟩ := List.forall_mem_cons.1 hbody
      rw [List.foldlM_cons, List.foldlM_cons, hitem value]
      exact bind_congr fun value' => ih hitems value'

/-- What holds of the end of a run, whether it has returned or raised. -/
def Ended (inv : State → Prop) (returned : Value → Prop) (raised : Error → Prop) :
    Except Error Value × State → Prop
  | (.ok value, after) => returned value ∧ inv after
  | (.error error, after) => raised error ∧ inv after

/-- The program keeps the invariant, and returns and raises as the conditions say. -/
def Keeps (inv : State → Prop) (program : Program State Error Value)
    (returned : Value → Prop) (raised : Error → Prop) : Prop :=
  ∀ before, inv before → Ended inv returned raised (runFrom program before)

variable {inv : State → Prop} {returned : Value → Prop} {raised : Error → Prop}

theorem keeps_pure {value : Value} (hvalue : returned value) :
    Keeps inv (pure value) returned raised :=
  fun _ hbefore => ⟨hvalue, hbefore⟩

theorem keeps_throw {error : Error} (herror : raised error) :
    Keeps inv (throw error : Program State Error Value) returned raised :=
  fun _ hbefore => ⟨herror, hbefore⟩

/-- Two programs in a row, the second of which relies on what the first returns. -/
theorem Keeps.bind {program : Program State Error Value}
    {next : Value → Program State Error Value'} {returned' : Value' → Prop}
    (hfirst : Keeps inv program returned raised)
    (hnext : ∀ value, returned value → Keeps inv (next value) returned' raised) :
    Keeps inv (program >>= next) returned' raised := by
  intro before hbefore
  have hended := hfirst before hbefore
  rw [runFrom_bind]
  rcases hrun : runFrom program before with ⟨error | value, after⟩ <;> rw [hrun] at hended
  · exact hended
  · exact hnext value hended.1 after hended.2

/-- What the rounds of a loop keep, the loop keeps. -/
theorem keeps_foldlM {body : Value → Item → Program State Error Value} {items : List Item}
    (hbody : ∀ item ∈ items, ∀ value, returned value →
      Keeps inv (body value item) returned raised)
    {value : Value} (hvalue : returned value) :
    Keeps inv (items.foldlM body value) returned raised := by
  induction items generalizing value with
  | nil => exact keeps_pure hvalue
  | cons item items ih =>
      rw [List.foldlM_cons]
      apply (hbody item List.mem_cons_self value hvalue).bind
      intro value' hvalue'
      exact ih (fun item hitem => hbody item (List.mem_cons_of_mem _ hitem)) hvalue'

/-- A run that has returned. -/
theorem Keeps.of_returned {program : Program State Error Value}
    (hkeeps : Keeps inv program returned raised) {before after : State} (hbefore : inv before)
    {value : Value} (hrun : runFrom program before = (.ok value, after)) :
    returned value ∧ inv after := by
  have hended := hkeeps before hbefore
  rwa [hrun] at hended

/-- A run that has raised. -/
theorem Keeps.of_raised {program : Program State Error Value}
    (hkeeps : Keeps inv program returned raised) {before after : State} (hbefore : inv before)
    {error : Error} (hrun : runFrom program before = (.error error, after)) :
    raised error ∧ inv after := by
  have hended := hkeeps before hbefore
  rwa [hrun] at hended

/-! ## Exceptions that are handled -/

/-- A handler goes on from where the exception was raised. -/
theorem runFrom_tryCatch (program : Program State Error Value)
    (handler : Error → Program State Error Value) (before : State) :
    runFrom (tryCatch program handler) before =
      match runFrom program before with
      | (.ok value, after) => (.ok value, after)
      | (.error error, after) => runFrom (handler error) after := by
  change Id.run ((ExceptT.run (ExceptT.tryCatch program handler)).run before) = _
  simp only [runFrom, ExceptT.tryCatch, ExceptT.run_mk, StateT.run_bind, Id.run_bind]
  rcases hrun : (StateT.run (ExceptT.run program) before).run with ⟨_ | _, _⟩ <;>
    (change (StateT.run program before).run = _ at hrun; rw [hrun]; rfl)

/-- A cleanup runs whether the program has returned or raised; an exception of its own
replaces how the program ended. -/
theorem runFrom_tryFinally (program : Program State Error Value)
    (cleanup : Program State Error Value') (before : State) :
    runFrom (tryFinally program cleanup) before =
      match runFrom program before with
      | (outcome, middle) =>
        match runFrom cleanup middle with
        | (.ok _, after) => (outcome, after)
        | (.error error, after) => (.error error, after) := by
  rcases hrun : runFrom program before with ⟨_ | _, middle⟩ <;>
    rcases hcleanup : runFrom cleanup middle with ⟨_ | _, _⟩ <;>
    change program before = _ at hrun <;>
    change cleanup middle = _ at hcleanup <;>
    simp [runFrom, tryFinally, tryFinally', StateT.run, ExceptT.run, ExceptT.mk, Functor.map,
      ExceptT.map, bind, StateT.bind, pure, StateT.pure, hrun, hcleanup, Id.run]

/-- The parts of a program that has returned have returned. -/
theorem runFrom_bind_eq_ok_iff {program : Program State Error Value}
    {next : Value → Program State Error Value'} {before after : State} {value' : Value'} :
    runFrom (program >>= next) before = (.ok value', after) ↔
      ∃ value between, runFrom program before = (.ok value, between) ∧
        runFrom (next value) between = (.ok value', after) := by
  rw [runFrom_bind]
  rcases runFrom program before with ⟨error | value, between⟩
  · simp
  · simp [and_assoc]

/-- A program that has returned in spite of an exception has returned from its handler. -/
theorem runFrom_tryCatch_eq_ok_iff {program : Program State Error Value}
    {handler : Error → Program State Error Value} {before after : State} {value : Value} :
    runFrom (tryCatch program handler) before = (.ok value, after) ↔
      runFrom program before = (.ok value, after) ∨
        ∃ error between, runFrom program before = (.error error, between) ∧
          runFrom (handler error) between = (.ok value, after) := by
  rw [runFrom_tryCatch]
  rcases runFrom program before with ⟨error | value, between⟩ <;> simp [and_assoc]

/-- A program with a cleanup has returned if both have. -/
theorem runFrom_tryFinally_eq_ok_iff {program : Program State Error Value}
    {cleanup : Program State Error Value'} {before after : State} {value : Value} :
    runFrom (tryFinally program cleanup) before = (.ok value, after) ↔
      ∃ between value', runFrom program before = (.ok value, between) ∧
        runFrom cleanup between = (.ok value', after) := by
  rw [runFrom_tryFinally]
  rcases runFrom program before with ⟨outcome, between⟩
  rcases hcleanup : runFrom cleanup between with ⟨error | value', after'⟩
  · simp [hcleanup]
  · simp [hcleanup, and_assoc]

/-! ## Conditions before and after -/

/-- From a state of the first condition the program ends in one of the second, however it
ends. -/
def Leads (pre : State → Prop) (program : Program State Error Value) (post : State → Prop) :
    Prop :=
  ∀ before, pre before → post (runFrom program before).2

variable {pre middle post : State → Prop}

theorem leads_pure (value : Value) : Leads pre (pure value : Program State Error Value) pre :=
  fun _ hbefore => hbefore

theorem leads_throw (error : Error) : Leads pre (throw error : Program State Error Value) pre :=
  fun _ hbefore => hbefore

/-- Two programs in a row; the first may raise, so its condition has to do as the last one. -/
theorem Leads.bind {program : Program State Error Value}
    {next : Value → Program State Error Value'} (hfirst : Leads pre program post)
    (hnext : ∀ value, Leads post (next value) post) : Leads pre (program >>= next) post := by
  intro before hbefore
  have hended := hfirst before hbefore
  rw [runFrom_bind]
  rcases hrun : runFrom program before with ⟨error | value, after⟩ <;> rw [hrun] at hended
  · exact hended
  · exact hnext value after hended

theorem Leads.tryCatch {program : Program State Error Value}
    {handler : Error → Program State Error Value} (hprogram : Leads pre program post)
    (hhandler : ∀ error, Leads post (handler error) post) :
    Leads pre (tryCatch program handler) post := by
  intro before hbefore
  have hended := hprogram before hbefore
  rw [runFrom_tryCatch]
  rcases hrun : runFrom program before with ⟨error | value, after⟩ <;> rw [hrun] at hended
  · exact hhandler error after hended
  · exact hended

/-- The cleanup has the last word. -/
theorem Leads.tryFinally {program : Program State Error Value}
    {cleanup : Program State Error Value'} (hprogram : Leads pre program middle)
    (hcleanup : Leads middle cleanup post) : Leads pre (tryFinally program cleanup) post := by
  intro before hbefore
  have hended := hcleanup _ (hprogram before hbefore)
  rw [runFrom_tryFinally]
  rcases hrun : runFrom program before with ⟨outcome, between⟩
  rw [hrun] at hended
  rcases hclean : runFrom cleanup between with ⟨error | value, after⟩ <;>
    simpa only [hclean] using hended

end IcpcVerify.TracedRun
