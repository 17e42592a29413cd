import IcpcVerify.Sandbox.Docker

/-!
# Containers left behind

Whatever a program does with the outcomes of `run_sandbox`, and whatever docker answers:
every command it gives is about the container of the call it belongs to, at most that one
container is there, nothing is left of a call whose removal has succeeded, and containers
under other names are as they were.
-/

namespace IcpcVerify.Sandbox

open IcpcVerify.Python
open IcpcVerify.TracedRun

/-! ## Programs that run containers -/

/-- A program, as far as `run_sandbox` can tell: it goes on as it likes from how a call has
ended. -/
inductive Client (Value : Type) where
  | ends (outcome : Except SandboxException Value)
  | call (spec : SandboxSpec) (next : Except SandboxException SandboxResult → Client Value)

/-- How a program has ended, as a value. -/
def attempt {State Error Value : Type} (program : Program State Error Value) :
    Program State Error (Except Error Value) :=
  tryCatch (do return .ok (← program)) fun error => pure (.error error)

section

variable {State Value : Type} (engine : Engine State) (rt : Runtime)
  (resolve : BindSource → PyM PyStr) (uuids : ℕ → PyStr)

def Client.run : Client Value → DockM State Value
  | .ends (.ok value) => pure value
  | .ends (.error exc) => throw exc
  | .call spec next => do
      let outcome ← attempt (runSandbox engine rt resolve uuids spec)
      (next outcome).run

end

/-! ## What docker is relied on for -/

/-- The container a command is about. -/
inductive About (name : PyStr) : List PyStr → Prop
  | run (rest : List PyStr) : About name ([py "run", py "--name", name] ++ rest)
  | kill : About name (killArgs name)
  | inspect : About name (inspectArgs name)
  | remove : About name (removeArgs name)

variable {State Value : Type}

structure Engine.Documented (engine : Engine State) : Prop where
  /-- A command about one container neither makes nor removes another. -/
  frame : ∀ {name args}, About name args → ∀ timeout state, ∀ other ≠ name,
    (engine.present other (engine.answer args timeout state).2 ↔ engine.present other state)
  /-- `docker rm -f` with status zero has removed the container. -/
  removes : ∀ name timeout state, (engine.answer (removeArgs name) timeout state).1.Succeeded →
    ¬engine.present name (engine.answer (removeArgs name) timeout state).2

/-- The removal of the container has been tried and has not succeeded. -/
def Leaked (log : List (Exchange State)) (name : PyStr) : Prop :=
  ∃ exchange ∈ log, exchange.args = removeArgs name ∧ ¬exchange.reply.Succeeded

theorem Leaked.append {log : List (Exchange State)} {name : PyStr} (hleaked : Leaked log name)
    (exchange : Exchange State) : Leaked (log ++ [exchange]) name := by
  obtain ⟨exchange', hmem, hexchange⟩ := hleaked
  exact ⟨exchange', List.mem_append_left _ hmem, hexchange⟩

/-! ## The invariant -/

section Invariant

variable (engine : Engine State) (uuids : ℕ → PyStr) (start : Dock State)

/-- The name is that of one of the calls between two numbers of names drawn. -/
def DrawnBetween (first last : ℕ) (name : PyStr) : Prop :=
  ∃ number, first ≤ number ∧ number < last ∧ name = containerName (uuids number)

/-- When the command was given there was no container but its own, those there from the
start, and those leaked before. -/
def GivenAlone (earlier : List (Exchange State)) (exchange : Exchange State) (last : ℕ) : Prop :=
  ∃ name, DrawnBetween uuids start.drawn last name ∧ About name exchange.args ∧
    ∀ other, engine.present other exchange.before →
      other = name ∨ engine.present other start.engine ∨ Leaked earlier other

/-- The containers of other names than those drawn are the ones of the start. -/
def Untouched (last : ℕ) (state : State) : Prop :=
  ∀ other, ¬DrawnBetween uuids start.drawn last other →
    (engine.present other state ↔ engine.present other start.engine)

/-- Every command so far was given alone, there is no container but those in `running`,
those there from the start, and those leaked, and no container of another name has come or
gone. -/
structure Tidy (running : PyStr → Prop) (dock : Dock State) : Prop where
  drawn : start.drawn ≤ dock.drawn
  untouched : Untouched engine uuids start dock.drawn dock.engine
  given : ∀ earlier exchange later, dock.log = earlier ++ exchange :: later →
    GivenAlone engine uuids start earlier exchange dock.drawn
  left : ∀ other, engine.present other dock.engine →
    running other ∨ engine.present other start.engine ∨ Leaked dock.log other

end Invariant

variable {engine : Engine State} {uuids : ℕ → PyStr} {start : Dock State}

theorem Tidy.mono {running running' : PyStr → Prop} {dock : Dock State}
    (htidy : Tidy engine uuids start running dock)
    (hrunning : ∀ other, running other → running' other) :
    Tidy engine uuids start running' dock :=
  ⟨htidy.drawn, htidy.untouched, htidy.given, fun other hother => (htidy.left other hother).imp_left
    (hrunning other)⟩

theorem DrawnBetween.mono {first last last' : ℕ} {name : PyStr}
    (hname : DrawnBetween uuids first last name) (hlast : last ≤ last') :
    DrawnBetween uuids first last' name := by
  obtain ⟨number, hfirst, hnumber, rfl⟩ := hname
  exact ⟨number, hfirst, hnumber.trans_le hlast, rfl⟩

theorem GivenAlone.mono {earlier : List (Exchange State)} {exchange : Exchange State}
    {last last' : ℕ} (hgiven : GivenAlone engine uuids start earlier exchange last)
    (hlast : last ≤ last') : GivenAlone engine uuids start earlier exchange last' := by
  obtain ⟨name, hname, habout, halone⟩ := hgiven
  exact ⟨name, hname.mono hlast, habout, halone⟩

/-- A prefix of a list with one more item is that list, or a prefix of it. -/
theorem append_singleton_eq {Item : Type} {items earlier later : List Item} {item new : Item}
    (heq : items ++ [new] = earlier ++ item :: later) :
    (items = earlier ∧ new = item) ∨ ∃ later', items = earlier ++ item :: later' := by
  rcases List.eq_nil_or_concat later with rfl | ⟨later, last, rfl⟩
  · exact .inl (by simpa using heq)
  · right
    rw [List.concat_eq_append, ← List.cons_append, ← List.append_assoc] at heq
    exact ⟨later, (List.append_inj' heq rfl).1⟩

/-- In the call that drew the name. -/
def Running (engine : Engine State) (uuids : ℕ → PyStr) (start : Dock State) (name : PyStr)
    (dock : Dock State) : Prop :=
  Tidy engine uuids start (· = name) dock ∧ DrawnBetween uuids start.drawn dock.drawn name

section Steps

variable {name : PyStr} {args : List PyStr} {dock : Dock State}

/-- Whatever is there after a command was there before, or is its container. -/
theorem given_of_running (hrunning : Running engine uuids start name dock)
    (habout : About name args) (timeout : ℚ) (reply : DockerReply) :
    ∀ earlier exchange later,
      dock.log ++ [⟨args, timeout, dock.engine, reply⟩] = earlier ++ exchange :: later →
      GivenAlone engine uuids start earlier exchange dock.drawn := by
  obtain ⟨htidy, hname⟩ := hrunning
  intro earlier exchange later heq
  rcases append_singleton_eq heq with ⟨rfl, rfl⟩ | ⟨later', hlog⟩
  · exact ⟨name, hname, habout, htidy.left⟩
  · exact htidy.given earlier exchange later' hlog

/-- A command about the container of the call keeps those of other names. -/
theorem untouched_of_running (hengine : engine.Documented)
    (hrunning : Running engine uuids start name dock) (habout : About name args) (timeout : ℚ) :
    Untouched engine uuids start dock.drawn (engine.answer args timeout dock.engine).2 := by
  intro other hother
  have hown : other ≠ name := fun heq => hother (heq ▸ hrunning.2)
  rw [hengine.frame habout timeout dock.engine other hown]
  exact hrunning.1.untouched other hother

theorem leads_docker (hengine : engine.Documented) (habout : About name args) (timeout : ℚ) :
    Leads (Running engine uuids start name) (docker engine args timeout)
      (Running engine uuids start name) := by
  intro dock hrunning
  rw [runFrom_docker]
  refine ⟨⟨hrunning.1.drawn, untouched_of_running hengine hrunning habout timeout,
    given_of_running hrunning habout timeout _, ?_⟩, hrunning.2⟩
  intro other hother
  by_cases hown : other = name
  · exact .inl hown
  · have hbefore := (hengine.frame habout timeout dock.engine other hown).1 hother
    exact (hrunning.1.left other hbefore).imp_right (.imp_right fun hleaked => hleaked.append _)

/-- A removal that has not succeeded leaks the container. -/
theorem leads_remove (hengine : engine.Documented) (timeout : ℚ) :
    Leads (Running engine uuids start name) (docker engine (removeArgs name) timeout)
      (Tidy engine uuids start fun _ => False) := by
  intro dock hrunning
  have hremoves := hengine.removes name timeout dock.engine
  rw [runFrom_docker]
  refine ⟨hrunning.1.drawn, untouched_of_running hengine hrunning .remove timeout,
    given_of_running hrunning .remove timeout _, ?_⟩
  intro other hother
  by_cases hown : other = name
  · subst hown
    have hfailed := fun hsucceeded => hremoves hsucceeded hother
    exact .inr (.inr ⟨_, List.mem_append_right _ (List.mem_singleton_self _), rfl, hfailed⟩)
  · have hbefore := (hengine.frame .remove timeout dock.engine other hown).1 hother
    rcases hrunning.1.left other hbefore with hname | hstart | hleaked
    · exact absurd hname hown
    · exact .inr (.inl hstart)
    · exact .inr (.inr (hleaked.append _))

end Steps

theorem about_buildRunArgv {resolve : BindSource → PyM PyStr} {spec : SandboxSpec}
    {name : PyStr} {argv : List PyStr} (hargv : buildRunArgv resolve spec name = .ok argv) :
    About name argv := by
  cases hbinds : spec.binds.mapM (bindArgs resolve) with
  | error exc =>
      rw [buildRunArgv, hbinds] at hargv
      cases hargv
  | ok binds =>
      rw [buildRunArgv, hbinds] at hargv
      rw [← Except.ok.inj hargv]
      exact .run _

theorem leads_runAndInspect (hengine : engine.Documented) (rt : Runtime) {name : PyStr}
    {argv : List PyStr} (habout : About name argv) (timeout : ℚ) :
    Leads (Running engine uuids start name) (runAndInspect engine rt argv name timeout)
      (Running engine uuids start name) := by
  have hkept : ∀ result : SandboxResult, Leads (Running engine uuids start name)
      (pure result : DockM State SandboxResult) (Running engine uuids start name) := leads_pure
  have hrun : Leads (Running engine uuids start name) (runOrKill engine argv name timeout)
      (Running engine uuids start name) := by
    apply Leads.tryCatch
    · exact (leads_docker hengine habout timeout).bind fun proc => hkept _
    · intro exc
      cases exc with
      | timeoutExpired stdout stderr =>
          exact (leads_docker hengine .kill 30).bind fun _ => hkept _
      | raised exc => exact leads_throw _
  exact hrun.bind fun ended => (leads_docker hengine .inspect 30).bind fun inspect => hkept _

/-- A call leaves no container running. -/
theorem leads_runSandbox (hengine : engine.Documented) (rt : Runtime)
    (resolve : BindSource → PyM PyStr) (spec : SandboxSpec) :
    Leads (Tidy engine uuids start fun _ => False) (runSandbox engine rt resolve uuids spec)
      (Tidy engine uuids start fun _ => False) := by
  intro dock htidy
  have hdrawn : Tidy engine uuids start (fun _ => False) { dock with drawn := dock.drawn + 1 } :=
    ⟨htidy.drawn.trans (Nat.le_succ _),
      fun other hother => htidy.untouched other fun hname => hother (hname.mono (Nat.le_succ _)),
      fun earlier exchange later hlog =>
        (htidy.given earlier exchange later hlog).mono (Nat.le_succ _), htidy.left⟩
  rw [runSandbox, runFrom_bind, runFrom_drawName]
  dsimp only
  cases hargv : buildRunArgv resolve spec (containerName (uuids dock.drawn)) with
  | error exc => exact hdrawn
  | ok argv =>
      have hrunning : Running engine uuids start (containerName (uuids dock.drawn))
          { dock with drawn := dock.drawn + 1 } :=
        ⟨hdrawn.mono fun _ => False.elim, dock.drawn, htidy.drawn, Nat.lt_succ_self _, rfl⟩
      exact (leads_runAndInspect hengine rt (about_buildRunArgv hargv) spec.timeout).tryFinally
        (leads_remove hengine 30) _ hrunning

theorem leads_client (hengine : engine.Documented) (rt : Runtime)
    (resolve : BindSource → PyM PyStr) (client : Client Value) :
    Leads (Tidy engine uuids start fun _ => False) (client.run engine rt resolve uuids)
      (Tidy engine uuids start fun _ => False) := by
  induction client with
  | ends outcome =>
      cases outcome with
      | error exc => exact leads_throw exc
      | ok value => exact leads_pure value
  | call spec next ih =>
      have hcall : Leads (Tidy engine uuids start fun _ => False)
          (runSandbox engine rt resolve uuids spec) (Tidy engine uuids start fun _ => False) :=
        leads_runSandbox hengine rt resolve spec
      have hattempt := Leads.tryCatch (hcall.bind fun result => leads_pure (Except.ok result))
        fun error => leads_pure (Except.error error)
      exact hattempt.bind ih

/-- Whatever a program does with its sandboxes and whatever docker answers: when a command
is given there is no container but the one of its call, those of before and those whose
removal has failed by then; in the end there is none of its own but the latter; and what was
there before under a name that was not drawn is there still. -/
theorem client_containers (hengine : engine.Documented) (rt : Runtime)
    (resolve : BindSource → PyM PyStr) (client : Client Value) (hlog : start.log = []) :
    (∀ earlier exchange later,
      (runFrom (client.run engine rt resolve uuids) start).2.log = earlier ++ exchange :: later →
        GivenAlone engine uuids start earlier exchange
          (runFrom (client.run engine rt resolve uuids) start).2.drawn) ∧
      (∀ name, engine.present name (runFrom (client.run engine rt resolve uuids) start).2.engine →
        engine.present name start.engine ∨
          Leaked (runFrom (client.run engine rt resolve uuids) start).2.log name) ∧
      Untouched engine uuids start (runFrom (client.run engine rt resolve uuids) start).2.drawn
        (runFrom (client.run engine rt resolve uuids) start).2.engine := by
  have hstart : Tidy engine uuids start (fun _ => False) start := by
    refine ⟨le_rfl, fun _ _ => Iff.rfl, ?_, fun other hother => .inr (.inl hother)⟩
    intro earlier exchange later heq
    rw [hlog] at heq
    simp at heq
  have hended := leads_client hengine rt resolve client start hstart
  exact ⟨hended.given, fun name hname => (hended.left name hname).resolve_left id,
    hended.untouched⟩

/-! ## Two calls, the first of which is killed -/

/-- Docker with the list of its containers; an image called `slow` does not come back. -/
def shelf : Engine (List PyStr) where
  answer args _ names :=
    if args.head? = some (py "run") then
      (if py "slow" ∈ args then .timeoutExpired none none else .completed ⟨0, [], []⟩,
        args.getD 2 [] :: names)
    else if args.head? = some (py "rm") then
      (.completed ⟨0, [], []⟩, names.filter (· ≠ args.getD 2 []))
    else (.completed ⟨0, [], []⟩, names)
  present name names := name ∈ names

theorem shelf_documented : shelf.Documented where
  frame := by
    intro name args habout timeout names other hother
    cases habout with
    | run rest => exact List.mem_cons.trans (or_iff_right hother)
    | kill => exact Iff.rfl
    | inspect => exact Iff.rfl
    | remove =>
        change other ∈ names.filter (· ≠ name) ↔ other ∈ names
        simp [hother]
  removes := by
    intro name timeout names _ hpresent
    have hkept : name ∈ names.filter (· ≠ name) := hpresent
    simp at hkept

def twoCalls : Client Unit :=
  .call (imageSpec (py "slow")) fun _ =>
    .call (imageSpec (py "judge")) fun outcome => .ends (outcome.map fun _ => ())

/-- A container of before, and the two calls: only it is there in the end. -/
theorem client_containers_shelf :
    let ended := runFrom (twoCalls.run shelf Runtime.ascii (fun _ => .ok []) formatNat)
      ⟨[py "db"], [], 0⟩
    ended.2.log.length = 7 ∧
      (∀ name, name ∈ ended.2.engine → name ∈ [py "db"] ∨ Leaked ended.2.log name) ∧
      py "db" ∈ ended.2.engine := by
  obtain ⟨-, hleft, huntouched⟩ := @client_containers _ _ shelf formatNat ⟨[py "db"], [], 0⟩
    shelf_documented Runtime.ascii (fun _ => .ok []) twoCalls rfl
  have hdb : ∀ number, py "db" ≠ containerName (formatNat number) := by
    intro number heq
    have hhead : some (ord 'd') = some (ord 'i') := congrArg List.head? heq
    exact absurd hhead (by decide)
  refine ⟨by decide +kernel, hleft, (huntouched (py "db") ?_).2 (List.mem_singleton_self _)⟩
  rintro ⟨number, -, -, heq⟩
  exact hdb number heq

end IcpcVerify.Sandbox
