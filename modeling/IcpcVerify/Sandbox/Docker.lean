import IcpcVerify.Core.TracedRun
import IcpcVerify.Python.JsonBytes
import IcpcVerify.Sandbox

/-!
# Docker commands

`run_sandbox` as the docker commands it gives: it runs a container under a name of its
own, kills it when the client has not come back in time, asks for its state, and in the end
removes it, whatever has been raised in between.  Docker answers as it likes; what is relied
on is that a command is about one container and that a removal that succeeds removes.
-/

namespace IcpcVerify.Sandbox

open IcpcVerify.Python
open IcpcVerify.TracedRun

/-! ## Commands and their replies -/

structure CompletedProcess where
  returncode : ℤ
  stdout : Bytes
  stderr : Bytes
  deriving DecidableEq

/-- What becomes of `subprocess.run`. -/
inductive DockerReply where
  | completed (process : CompletedProcess)
  | timeoutExpired (stdout stderr : Option Bytes)
  /-- `FileNotFoundError`. -/
  | notFound
  | raised (exc : PyError)
  deriving DecidableEq

/-- What the docker functions raise. -/
inductive SandboxException where
  | timeoutExpired (stdout stderr : Option Bytes)
  | raised (exc : PyError)
  deriving DecidableEq

/-- `SandboxError` of `_docker`. -/
def dockerNotFound : SandboxException :=
  .raised ⟨.sandbox, py "docker 명령을 찾지 못했습니다"⟩

/-- How `_docker` ends with a reply. -/
def DockerReply.outcome : DockerReply → Except SandboxException CompletedProcess
  | completed process => .ok process
  | timeoutExpired stdout stderr => .error (.timeoutExpired stdout stderr)
  | notFound => .error dockerNotFound
  | raised exc => .error (.raised exc)

/-- The command has ended with status zero. -/
def DockerReply.Succeeded (reply : DockerReply) : Prop :=
  ∃ process, reply = .completed process ∧ process.returncode = 0

/-- Docker, with the containers that are there in each of its states. -/
structure Engine (State : Type) where
  answer : List PyStr → ℚ → State → DockerReply × State
  present : PyStr → State → Prop

/-- A command that has been given, and the state it was given in. -/
structure Exchange (State : Type) where
  args : List PyStr
  timeout : ℚ
  before : State
  reply : DockerReply

/-- The state of docker, the commands so far, and the number of names drawn. -/
structure Dock (State : Type) where
  engine : State
  log : List (Exchange State)
  drawn : ℕ

abbrev DockM (State : Type) := Program (Dock State) SandboxException

/-! ## Building the commands -/

def modeText : BindMode → PyStr
  | .ro => py "ro"
  | .rw => py "rw"

/-- An option that is given if its value is there and not empty. -/
def optionArgs (option : PyStr) : Option PyStr → List PyStr
  | none => []
  | some value => if value = [] then [] else [option, value]

def bindArgs (resolve : BindSource → PyM PyStr) (bind : Bind) : PyM (List PyStr) := do
  let host ← resolve bind.source
  return [py "-v", host ++ py ":" ++ bind.target ++ py ":" ++ modeText bind.mode]

/-- `_build_run_argv`, where `resolve` is `host.resolve()` of a bind. -/
def buildRunArgv (resolve : BindSource → PyM PyStr) (spec : SandboxSpec) (name : PyStr) :
    PyM (List PyStr) := do
  let memory := formatInt spec.memoryMib ++ py "m"
  let binds ← spec.binds.mapM (bindArgs resolve)
  return [py "run", py "--name", name] ++
    ([py "--cpuset-cpus", formatInt spec.cpuset, py "--cpuset-mems", py "0",
      py "--memory", memory, py "--memory-swap", memory, py "--pids-limit", py "256",
      py "--network", py "none", py "--cap-drop", py "ALL",
      py "--security-opt", py "no-new-privileges", py "--read-only",
      py "--tmpfs", py "/tmp:rw,size=64m"] ++
      optionArgs (py "--user") spec.user ++ optionArgs (py "-w") spec.workdir ++
      binds.flatten ++ spec.image :: spec.argv)

def killArgs (name : PyStr) : List PyStr :=
  [py "kill", name]

def inspectArgs (name : PyStr) : List PyStr :=
  [py "inspect", py "--format", py "\x7b\x7bjson .State\x7d\x7d", name]

def removeArgs (name : PyStr) : List PyStr :=
  [py "rm", py "-f", name]

/-- `f"icpc-{uuid4().hex[:12]}"`. -/
def containerName (hex : PyStr) : PyStr :=
  py "icpc-" ++ hex.take 12

/-! ## The state of a container -/

/-- `bytes.isspace` on one byte. -/
def isSpaceByte (byte : UInt8) : Bool :=
  byte = 0x20 ∨ (0x09 ≤ byte ∧ byte ≤ 0x0D)

/-- `_parse_oom_killed`. -/
def parseOomKilled (rt : Runtime) (raw : Bytes) : Bool :=
  if raw.all isSpaceByte then false
  else
    match loadsBytes rt raw with
    | some (.dict state) => ((state.lookup (py "OOMKilled")).getD (.bool false)).truthy
    | _ => false

/-- Blanks are ASCII, and no brace. -/
theorem isSpaceByte_bounds {byte : UInt8} (hspace : isSpaceByte byte = true) :
    0 < byte.toNat ∧ byte.toNat < 0x80 ∧ byte.toNat ≠ openBrace.val := by
  have hcases : byte = 0x20 ∨ (0x09 ≤ byte ∧ byte ≤ 0x0D) := of_decide_eq_true hspace
  rcases hcases with rfl | ⟨hlow, hhigh⟩
  · decide
  · have hlow' : 9 ≤ byte.toNat := hlow
    have hhigh' : byte.toNat ≤ 13 := hhigh
    have hbrace : openBrace.val = 123 := by decide
    omega

/-- Blank output is no object. -/
theorem loadsBytes_blank {rt : Runtime} {raw : Bytes} (hblank : raw.all isSpaceByte = true)
    (state : List (PyStr × JsonValue)) : loadsBytes rt raw ≠ some (.dict state) := by
  have hbounds := fun byte hbyte => isSpaceByte_bounds (List.all_eq_true.1 hblank byte hbyte)
  have hdecoded := decodeDetected_ascii fun byte hbyte =>
    ⟨(hbounds byte hbyte).1, (hbounds byte hbyte).2.1⟩
  rw [loadsBytes, hdecoded, Option.bind_some]
  intro hread
  obtain ⟨byte, hbyte, hbrace⟩ := List.mem_map.1 (openBrace_mem_of_loads hread)
  apply (hbounds byte hbyte).2.2
  rw [← hbrace, chr_val_of_ascii (hbounds byte hbyte).2.1]

/-- What docker prints is a state whose flag is truthy, in whatever encoding `json.loads`
finds it to be. -/
theorem parseOomKilled_iff (rt : Runtime) (raw : Bytes) :
    parseOomKilled rt raw = true ↔
      ∃ state flag, loadsBytes rt raw = some (.dict state) ∧
        state.lookup (py "OOMKilled") = some flag ∧ flag.truthy = true := by
  rw [parseOomKilled]
  by_cases hblank : raw.all isSpaceByte = true
  · rw [if_pos hblank]
    apply iff_of_false Bool.false_ne_true
    rintro ⟨state, flag, hread, -⟩
    exact loadsBytes_blank hblank state hread
  · rw [if_neg hblank]
    split
    · next state hread =>
      rw [hread]
      constructor
      · intro hflag
        cases hlookup : state.lookup (py "OOMKilled") with
        | none =>
            rw [hlookup] at hflag
            cases hflag
        | some flag =>
            rw [hlookup] at hflag
            exact ⟨state, flag, rfl, hlookup, hflag⟩
      · rintro ⟨state', flag, heq, hlookup, hflag⟩
        obtain rfl := JsonValue.dict.inj (Option.some.inj heq)
        rw [hlookup]
        exact hflag
    · next hother =>
      apply iff_of_false Bool.false_ne_true
      rintro ⟨state, flag, hread, -⟩
      exact hother state hread

/-! ## `run_sandbox` -/

section Calls

variable {State : Type} (engine : Engine State) (rt : Runtime)

/-- `_docker`. -/
def docker (args : List PyStr) (timeout : ℚ) : DockM State CompletedProcess := do
  let dock ← get
  let (reply, after) := engine.answer args timeout dock.engine
  set (Dock.mk after (dock.log ++ [⟨args, timeout, dock.engine, reply⟩]) dock.drawn)
  match reply.outcome with
  | .ok process => return process
  | .error exc => throw exc

variable (resolve : BindSource → PyM PyStr) (uuids : ℕ → PyStr)

/-- A name with a fresh `uuid4`. -/
def drawName : DockM State PyStr := do
  let dock ← get
  set (Dock.mk dock.engine dock.log (dock.drawn + 1))
  return containerName (uuids dock.drawn)

/-- A container run to its end, or killed when its client does not come back. -/
def runOrKill (argv : List PyStr) (name : PyStr) (timeout : ℚ) : DockM State SandboxResult :=
  tryCatch
    (do
      let proc ← docker engine argv timeout
      return ⟨proc.returncode, false, proc.stdout, proc.stderr, false⟩)
    fun exc =>
      match exc with
      | .timeoutExpired stdout stderr => do
          let _ ← docker engine (killArgs name) 30
          return ⟨-1, false, stdout.getD [], stderr.getD [], true⟩
      | .raised exc => throw (.raised exc)

/-- A container run and asked for its state. -/
def runAndInspect (argv : List PyStr) (name : PyStr) (timeout : ℚ) :
    DockM State SandboxResult := do
  let ended ← runOrKill engine argv name timeout
  let inspect ← docker engine (inspectArgs name) 30
  return { ended with
    oomKilled := if inspect.returncode = 0 then parseOomKilled rt inspect.stdout else false }

/-- `run_sandbox`. -/
def runSandbox (spec : SandboxSpec) : DockM State SandboxResult := do
  let name ← drawName uuids
  match buildRunArgv resolve spec name with
  | .error exc => throw (.raised exc)
  | .ok argv =>
      tryFinally (runAndInspect engine rt argv name spec.timeout)
        (docker engine (removeArgs name) 30)

end Calls

/-! ## Calls that return -/

variable {State : Type} {engine : Engine State} {rt : Runtime}
  {resolve : BindSource → PyM PyStr} {uuids : ℕ → PyStr}

theorem runFrom_docker (args : List PyStr) (timeout : ℚ) (dock : Dock State) :
    runFrom (docker engine args timeout) dock =
      ((engine.answer args timeout dock.engine).1.outcome,
        ⟨(engine.answer args timeout dock.engine).2,
          dock.log ++ [⟨args, timeout, dock.engine, (engine.answer args timeout dock.engine).1⟩],
          dock.drawn⟩) := by
  simp only [docker, runFrom_bind, runFrom_get, runFrom_set]
  cases (engine.answer args timeout dock.engine).1.outcome <;> rfl

theorem runFrom_drawName (dock : Dock State) :
    runFrom (drawName uuids) dock =
      (.ok (containerName (uuids dock.drawn)), { dock with drawn := dock.drawn + 1 }) :=
  rfl

theorem docker_eq_ok_iff {args : List PyStr} {timeout : ℚ} {dock after : Dock State}
    {process : CompletedProcess} :
    runFrom (docker engine args timeout) dock = (.ok process, after) ↔
      ∃ state, engine.answer args timeout dock.engine = (.completed process, state) ∧
        after = ⟨state, dock.log ++ [⟨args, timeout, dock.engine, .completed process⟩],
          dock.drawn⟩ := by
  rw [runFrom_docker]
  rcases engine.answer args timeout dock.engine with ⟨reply, state⟩
  constructor
  · intro hended
    obtain ⟨houtcome, rfl⟩ := Prod.ext_iff.1 hended
    cases reply with
    | completed ended =>
        obtain rfl := Except.ok.inj houtcome
        exact ⟨state, rfl, rfl⟩
    | timeoutExpired stdout stderr => cases houtcome
    | notFound => cases houtcome
    | raised exc => cases houtcome
  · rintro ⟨state', hanswer, rfl⟩
    obtain ⟨rfl, rfl⟩ := Prod.mk.inj hanswer
    rfl

theorem docker_eq_timeoutExpired_iff {args : List PyStr} {timeout : ℚ} {dock after : Dock State}
    {stdout stderr : Option Bytes} :
    runFrom (docker engine args timeout) dock = (.error (.timeoutExpired stdout stderr), after) ↔
      ∃ state, engine.answer args timeout dock.engine = (.timeoutExpired stdout stderr, state) ∧
        after = ⟨state,
          dock.log ++ [⟨args, timeout, dock.engine, .timeoutExpired stdout stderr⟩],
          dock.drawn⟩ := by
  rw [runFrom_docker]
  rcases engine.answer args timeout dock.engine with ⟨reply, state⟩
  constructor
  · intro hended
    obtain ⟨houtcome, rfl⟩ := Prod.ext_iff.1 hended
    cases reply with
    | completed ended => cases houtcome
    | timeoutExpired stdout' stderr' =>
        obtain ⟨rfl, rfl⟩ := SandboxException.timeoutExpired.inj (Except.error.inj houtcome)
        exact ⟨state, rfl, rfl⟩
    | notFound => cases houtcome
    | raised exc => cases houtcome
  · rintro ⟨state', hanswer, rfl⟩
    obtain ⟨rfl, rfl⟩ := Prod.mk.inj hanswer
    rfl

/-- A command and its reply. -/
def Exchange.view (exchange : Exchange State) : List PyStr × DockerReply :=
  (exchange.args, exchange.reply)

/-- How a container has ended, by the commands given for it. -/
inductive Ran (argv : List PyStr) (name : PyStr) :
    List (List PyStr × DockerReply) → SandboxResult → Prop
  | completed (process : CompletedProcess) :
      Ran argv name [(argv, .completed process)]
        ⟨process.returncode, false, process.stdout, process.stderr, false⟩
  | killed (stdout stderr : Option Bytes) (process : CompletedProcess) :
      Ran argv name
        [(argv, .timeoutExpired stdout stderr), (killArgs name, .completed process)]
        ⟨-1, false, stdout.getD [], stderr.getD [], true⟩

theorem runOrKill_returned {argv : List PyStr} {name : PyStr} {timeout : ℚ}
    {dock after : Dock State} {ended : SandboxResult}
    (hreturned : runFrom (runOrKill engine argv name timeout) dock = (.ok ended, after)) :
    ∃ commands, Ran argv name commands ended ∧
      after.log.map Exchange.view = dock.log.map Exchange.view ++ commands := by
  rw [runOrKill, runFrom_tryCatch_eq_ok_iff] at hreturned
  rcases hreturned with hran | ⟨exc, between, hraised, hhandled⟩
  · obtain ⟨process, between, hrun, hpure⟩ := runFrom_bind_eq_ok_iff.1 hran
    obtain ⟨state, -, rfl⟩ := docker_eq_ok_iff.1 hrun
    obtain ⟨hended, rfl⟩ := Prod.ext_iff.1 hpure
    obtain rfl := Except.ok.inj hended
    exact ⟨_, .completed process, by simp [Exchange.view]⟩
  · rw [runFrom_bind] at hraised
    rcases hrun : runFrom (docker engine argv timeout) dock with ⟨exc' | process, between'⟩ <;>
      rw [hrun] at hraised
    · obtain ⟨hexc, rfl⟩ := Prod.ext_iff.1 hraised
      obtain rfl := Except.error.inj hexc
      cases exc' with
      | raised exc => cases hhandled
      | timeoutExpired stdout stderr =>
          obtain ⟨state, -, rfl⟩ := docker_eq_timeoutExpired_iff.1 hrun
          obtain ⟨process, between, hkill, hpure⟩ := runFrom_bind_eq_ok_iff.1 hhandled
          obtain ⟨state', -, rfl⟩ := docker_eq_ok_iff.1 hkill
          obtain ⟨hended, rfl⟩ := Prod.ext_iff.1 hpure
          obtain rfl := Except.ok.inj hended
          exact ⟨_, .killed stdout stderr process, by simp [Exchange.view]⟩
    · cases hraised

/-- A call that returns has run its container, killing it if it had to, has asked for its
state, and has had docker answer the removal. -/
theorem runSandbox_returned {spec : SandboxSpec} {dock after : Dock State}
    {result : SandboxResult}
    (hreturned : runFrom (runSandbox engine rt resolve uuids spec) dock = (.ok result, after)) :
    let name := containerName (uuids dock.drawn)
    ∃ (argv : List PyStr) (commands : List (List PyStr × DockerReply)) (ended : SandboxResult)
      (inspected removed : CompletedProcess),
      buildRunArgv resolve spec name = .ok argv ∧ Ran argv name commands ended ∧
        after.log.map Exchange.view = dock.log.map Exchange.view ++ commands ++
          [(inspectArgs name, .completed inspected), (removeArgs name, .completed removed)] ∧
        result = { ended with
          oomKilled :=
            if inspected.returncode = 0 then parseOomKilled rt inspected.stdout else false } := by
  rw [runSandbox, runFrom_bind, runFrom_drawName] at hreturned
  dsimp only at hreturned
  cases hargv : buildRunArgv resolve spec (containerName (uuids dock.drawn)) with
  | error exc =>
      rw [hargv] at hreturned
      cases hreturned
  | ok argv =>
      rw [hargv] at hreturned
      obtain ⟨between, removed, hbody, hremove⟩ := runFrom_tryFinally_eq_ok_iff.1 hreturned
      obtain ⟨ended, ran, hran, hbody⟩ := runFrom_bind_eq_ok_iff.1 hbody
      obtain ⟨inspected, asked, hinspect, hpure⟩ := runFrom_bind_eq_ok_iff.1 hbody
      obtain ⟨commands, hcommands, hlog⟩ := runOrKill_returned hran
      obtain ⟨state, -, rfl⟩ := docker_eq_ok_iff.1 hinspect
      obtain ⟨hresult, rfl⟩ := Prod.ext_iff.1 hpure
      obtain ⟨state', -, rfl⟩ := docker_eq_ok_iff.1 hremove
      refine ⟨argv, commands, ended, inspected, removed, hargv, hcommands, ?_,
        (Except.ok.inj hresult).symm⟩
      simp [hlog, Exchange.view]

/-- The flag of a result is set exactly when docker's answer is an object with a truthy
flag; and an object, however it is written in UTF-8, is read from the answer. -/
theorem runSandbox_oomKilled_iff {spec : SandboxSpec} {dock after : Dock State}
    {result : SandboxResult}
    (hreturned : runFrom (runSandbox engine rt resolve uuids spec) dock = (.ok result, after)) :
    let name := containerName (uuids dock.drawn)
    ∃ (earlier : List (List PyStr × DockerReply)) (inspected removed : CompletedProcess),
      after.log.map Exchange.view = earlier ++
          [(inspectArgs name, .completed inspected), (removeArgs name, .completed removed)] ∧
        (result.oomKilled = true ↔ inspected.returncode = 0 ∧
          ∃ state flag, loadsBytes rt inspected.stdout = some (.dict state) ∧
            state.lookup (py "OOMKilled") = some flag ∧ flag.truthy = true) ∧
        ∀ state text before behind, Renders rt (.dict state) text → JsonBlank before →
          JsonBlank behind → encodeUtf8 (before ++ (text ++ behind)) = some inspected.stdout →
            loadsBytes rt inspected.stdout = some (.dict state) := by
  obtain ⟨argv, commands, ended, inspected, removed, -, -, hlog, rfl⟩ :=
    runSandbox_returned hreturned
  refine ⟨_, inspected, removed, hlog, ?_, ?_⟩
  · rw [← parseOomKilled_iff]
    simp
  · intro state text before behind hrenders hbefore hbehind hstdout
    exact hrenders.loadsBytes_dict hbefore hbehind hstdout

/-- Docker that reports a container killed for its memory. -/
def outOfMemory : Engine Unit where
  answer args _ state :=
    (.completed ⟨if args.head? = some (py "run") then 137 else 0,
      if args.head? = some (py "inspect") then
        (encodeUtf8 (py "\x7b\"Status\":\"exited\",\"OOMKilled\":true\x7d\n")).getD []
      else [], []⟩, state)
  present _ _ := False

def imageSpec (image : PyStr) : SandboxSpec :=
  ⟨image, 2, 512, [], [py "true"], 10, none, none⟩

def outOfMemoryCall : Except SandboxException SandboxResult × Dock Unit :=
  runFrom (runSandbox outOfMemory Runtime.ascii (fun _ => .ok []) formatNat
    (imageSpec (py "judge"))) ⟨(), [], 0⟩

/-- The flag is set, and docker has answered with an object that says so. -/
theorem runSandbox_oomKilled_outOfMemory :
    outOfMemoryCall.1 = .ok ⟨137, true, [], [], false⟩ ∧
      ∃ earlier inspected removed state flag,
        outOfMemoryCall.2.log.map Exchange.view = earlier ++
          [(inspectArgs (containerName (formatNat 0)), .completed inspected),
            (removeArgs (containerName (formatNat 0)), .completed removed)] ∧
        loadsBytes Runtime.ascii inspected.stdout = some (.dict state) ∧
          state.lookup (py "OOMKilled") = some flag ∧ flag.truthy = true := by
  have hresult : outOfMemoryCall.1 = .ok ⟨137, true, [], [], false⟩ := by
    decide +kernel
  have hreturned : outOfMemoryCall = (.ok ⟨137, true, [], [], false⟩, outOfMemoryCall.2) := by
    rw [← hresult]
  obtain ⟨earlier, inspected, removed, hlog, hflag, -⟩ := runSandbox_oomKilled_iff hreturned
  obtain ⟨-, state, flag, hread, hlookup, htruthy⟩ := hflag.1 rfl
  exact ⟨hresult, earlier, inspected, removed, state, flag, hlog, hread, hlookup, htruthy⟩

end IcpcVerify.Sandbox
