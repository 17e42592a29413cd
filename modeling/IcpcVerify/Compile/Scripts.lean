import IcpcVerify.Compile
import IcpcVerify.Core.FallibleRun
import IcpcVerify.Core.Tokens
import IcpcVerify.Python.Digits
import IcpcVerify.Python.Utf8
import IcpcVerify.Solutions.PythonEntry
import IcpcVerify.Validators

/-!
# The scripts of the image

`compile.sh` and `run.sh` hand over to the script of the language.  The compiler gets every
source as one argument, whatever its name; only the flags are split.  In the other mode the
script prints the command of the solution, one item on a line, and the judge splits what was
printed: the command comes back whole unless the entry has a line end in it.  The heap of a
Java solution is computed by the shell, in 64 bits.
-/

namespace IcpcVerify.Compile

open IcpcVerify.Python
open IcpcVerify.Solutions
open IcpcVerify.Sandbox
open IcpcVerify.Validators
open IcpcVerify.Tokens
open IcpcVerify.FallibleRun

/-! ## Scripts -/

/-- How a script ends: it exits and has printed a text, or it becomes another program. -/
inductive ScriptEnd where
  | exits (status : ℤ) (printed : PyStr)
  | execs (argv : List PyStr)
  deriving DecidableEq

/-- A parameter that is not set, which `set -u` takes for an error. -/
def parameterNotSet : ScriptEnd :=
  .exits 2 []

/-- `printf '%s\n'` of the items. -/
def printLines (items : List PyStr) : PyStr :=
  items.flatMap (· ++ [newline])

/-- `IFS`. -/
def isFieldSeparator (c : CodePoint) : Bool :=
  c = ord ' ' ∨ c = ord '\t' ∨ c = newline

section Scripts

-- pathname expansion of a field
variable (expand : PyStr → List PyStr)

/-- A parameter without quotes: fields, each expanded. -/
def unquoted (text : PyStr) : List PyStr :=
  (tokens isFieldSeparator text).flatMap expand

/-- `if [ "${1-}" = "--" ]; then shift; fi`. -/
def shiftDashes : List PyStr → List PyStr
  | [] => []
  | first :: rest => if first = py "--" then rest else first :: rest

/-- `if [ -z "$flags" ]; then flags=…; fi`. -/
def flagsOr (defaultFlags flags : PyStr) : PyStr :=
  if flags = [] then defaultFlags else flags

/-- `c.sh` and `cpp.sh`.  The `echo` of the shell is plain on mounts, which have no
backslash. -/
def gccScript (compiler defaultFlags : PyStr) : List PyStr → ScriptEnd
  | mode :: workdir :: _ :: rest =>
      if mode = py "compile" then
        match rest with
        | [] => parameterNotSet
        | flags :: rest =>
            .execs (compiler :: unquoted expand (flagsOr defaultFlags flags) ++
              [py "-o", workdir ++ py "/bin"] ++ shiftDashes rest ++ [py "-lm"])
      else .exits 0 (printLines [workdir ++ py "/bin"])
  | _ => parameterNotSet

/-- The numbers of the shell have 64 bits; others are illegal. -/
def InShellRange (n : ℤ) : Prop :=
  -2 ^ 63 ≤ n ∧ n < 2 ^ 63

instance (n : ℤ) : Decidable (InShellRange n) :=
  inferInstanceAs (Decidable (-2 ^ 63 ≤ n ∧ n < 2 ^ 63))

/-- `heap=$((memory_mib - 256))`, which may wrap around, and at least 256. -/
def heapMib (memoryMib : ℤ) : ℤ :=
  let heap := Int.bmod (memoryMib - 256) (2 ^ 64)
  if heap < 256 then 256 else heap

/-- The command of a Java solution. -/
def javaCommand (workdir entry : PyStr) (memoryMib : ℤ) : List PyStr :=
  [py "java", py "-Xrs", py "-XX:+UseSerialGC", py "-Xss64m",
    py "-Xmx" ++ formatInt (heapMib memoryMib) ++ py "m", py "-cp", workdir, entry]

/-- `java.sh`; the arithmetic of the shell reads the number that the judge has written. -/
def javaScript : List PyStr → ScriptEnd
  | mode :: workdir :: entry :: rest =>
      if mode = py "compile" then
        match rest with
        | [] => parameterNotSet
        | flags :: rest =>
            .execs (py "javac" :: unquoted expand (flagsOr (py "-encoding UTF-8") flags) ++
              [py "-sourcepath", workdir, py "-d", workdir] ++ shiftDashes rest)
      else
        match rest with
        | [] => parameterNotSet
        | memory :: _ =>
            match integerValue memory with
            | none => .exits 2 []
            | some memoryMib =>
                if InShellRange memoryMib then
                  .exits 0 (printLines (javaCommand workdir entry memoryMib))
                else .exits 2 []
  | _ => parameterNotSet

/-- `python.sh`. -/
def pythonScript : List PyStr → ScriptEnd
  | mode :: workdir :: entry :: _ =>
      if mode = py "compile" then
        .execs [py "python3.9", py "-m", py "py_compile", workdir ++ py "/" ++ entry]
      else .exits 0 (printLines [py "python3.9", workdir ++ py "/" ++ entry])
  | _ => parameterNotSet

def languageScript : Language → List PyStr → ScriptEnd
  | .cpp => gccScript expand (py "g++") (py "-x c++ -Wall -O2 -static -pipe -std=gnu++20")
  | .c => gccScript expand (py "gcc") (py "-x c -Wall -O2 -static -pipe -std=gnu11")
  | .java => javaScript expand
  | .python => pythonScript

/-- `exec "/usr/local/lib/icpc/languages/${lang}.sh"`, with a mode in front of the rest.  The
scripts `compile.sh` and `run.sh` are in that directory too, but no language of the judge is
called so. -/
def handOver (mode : PyStr) : List PyStr → ScriptEnd
  | [] => parameterNotSet
  | lang :: rest =>
      match [Language.cpp, .c, .java, .python].find? fun language => language.value = lang with
      | none => .exits 127 []
      | some language => languageScript expand language (mode :: rest)

/-- `compile.sh`. -/
def compileScript : List PyStr → ScriptEnd :=
  handOver expand (py "compile")

/-- `run.sh`. -/
def runScript : List PyStr → ScriptEnd :=
  handOver expand (py "run")

theorem handOver_language (mode : PyStr) (language : Language) (rest : List PyStr) :
    handOver expand mode (language.value :: rest) =
      languageScript expand language (mode :: rest) := by
  cases language <;> rfl

end Scripts

theorem naturalValue_formatNat (n : ℕ) : integerValue.naturalValue (formatNat n) = some n := by
  obtain ⟨d, ds, hdigits⟩ := List.exists_cons_of_ne_nil (Decimal.digits_ne_nil n)
  rw [integerValue.naturalValue, spanDigits_formatNat, hdigits]
  simp only
  rw [← hdigits, Decimal.value_digits]

/-- The shell reads the number that the judge has printed. -/
theorem integerValue_formatInt (n : ℤ) : integerValue (formatInt n) = some n := by
  rw [formatInt]
  split_ifs with hneg
  · have hminus : py "-" ++ formatNat n.natAbs = ord '-' :: formatNat n.natAbs := rfl
    have hvalue : -((n.natAbs : ℕ) : ℤ) = n := by omega
    rw [hminus, integerValue, if_pos rfl, naturalValue_formatNat]
    exact congrArg some hvalue
  · obtain ⟨d, ds, hdigits⟩ := List.exists_cons_of_ne_nil (Decimal.digits_ne_nil n.natAbs)
    have hd : d < 10 := Decimal.lt_ten_of_mem_digits (by rw [hdigits]; exact List.mem_cons_self)
    have hhead : digitChar d ≠ ord '-' := by interval_cases d <;> decide
    have hvalue : ((n.natAbs : ℕ) : ℤ) = n := by omega
    have hnatural := naturalValue_formatNat n.natAbs
    rw [formatNat, hdigits, List.map_cons] at hnatural ⊢
    rw [List.nil_append, integerValue, if_neg hhead, hnatural]
    exact congrArg some hvalue

/-! ## Compiling -/

section Compiling

variable (expand : PyStr → List PyStr)

def compilerName : Language → PyStr
  | .cpp => py "g++"
  | .c => py "gcc"
  | .java => py "javac"
  | .python => py "python3.9"

def defaultFlags : Language → PyStr
  | .cpp => py "-x c++ -Wall -O2 -static -pipe -std=gnu++20"
  | .c => py "-x c -Wall -O2 -static -pipe -std=gnu11"
  | .java => py "-encoding UTF-8"
  | .python => []

/-- What stands between the flags and the sources. -/
def outputArguments (mount : PyStr) : Language → List PyStr
  | .cpp | .c => [py "-o", mount ++ py "/bin"]
  | .java => [py "-sourcepath", mount, py "-d", mount]
  | .python => [py "-m", py "py_compile"]

/-- What stands behind the sources. -/
def libraryArguments : Language → List PyStr
  | .cpp | .c => [py "-lm"]
  | .java | .python => []

theorem languageScript_compile {language : Language} (hlanguage : language ≠ .python)
    (mount entry flags : PyStr) (sources : List PyStr) :
    languageScript expand language (py "compile" :: mount :: entry :: flags :: py "--" :: sources) =
      .execs (compilerName language :: unquoted expand (flagsOr (defaultFlags language) flags) ++
        outputArguments mount language ++ sources ++ libraryArguments language) := by
  cases language with
  | cpp => rfl
  | c => rfl
  | java =>
      rw [libraryArguments, List.append_nil]
      rfl
  | python => exact absurd rfl hlanguage

/-- A staged path starts like the mount. -/
theorem mount_isPrefix_of_staged {solution : Solution} {isDir : Bool} {mount : PyStr}
    {sources : List PyStr} (hstaged : stagedPaths solution isDir mount = .ok sources) :
    ∀ source ∈ sources, mount ++ py "/" <+: source := by
  intro source hsource
  have hpaths : List.Forall₂ (fun staged path => (do
      let parts ← relativeTo path (stageRoot solution isDir)
      return mount ++ py "/" ++ asPosix parts) = .ok staged) sources solution.sources :=
    (forall₂_of_mapM_eq_ok hstaged).flip
  obtain ⟨path, -, hpath⟩ := exists_of_forall₂ hpaths hsource
  obtain ⟨parts, -, hparts⟩ := bind_eq_ok_iff.1 hpath
  obtain rfl := Except.ok.inj hparts
  exact List.prefix_append _ _

/-- Whatever their names, the staged sources are arguments of the compiler one by one and in
order, and none of them looks like an option; all others are fixed or fields of the flags. -/
theorem compileScript_sources (rt : Runtime) {solution : Solution} {language : Language}
    {isDir : Bool} {mount : PyStr} {sources : List PyStr}
    (hstaged : stagedPaths solution isDir mount = .ok sources)
    (hmount : mount.head? = some (ord '/')) (hlanguage : language ≠ .python)
    (workDir : BindSource) (options : CompileOptions) :
    ∃ before after, compileScript expand
        (compileSpec rt solution language workDir options mount sources).argv.tail =
          .execs (before ++ sources ++ after) ∧
      (∀ argument ∈ before ++ after, argument = compilerName language ∨
        argument ∈ outputArguments mount language ∨ argument ∈ libraryArguments language ∨
        argument ∈ unquoted expand
          (flagsOr (defaultFlags language) ((options.flags.lookup language).getD []))) ∧
      ∀ source ∈ sources, source.head? = some (ord '/') := by
  have hargv : (compileSpec rt solution language workDir options mount sources).argv.tail =
      language.value :: mount :: solution.entry :: (options.flags.lookup language).getD [] ::
        py "--" :: sources := rfl
  have hscript := languageScript_compile expand hlanguage mount solution.entry
    ((options.flags.lookup language).getD []) sources
  rw [hargv, compileScript, handOver_language]
  refine ⟨_, _, hscript, fun argument hargument => ?_, fun source hsource => ?_⟩
  · simp only [List.mem_append, List.mem_cons] at hargument
    tauto
  · obtain ⟨rest, rfl⟩ := mount_isPrefix_of_staged hstaged source hsource
    obtain ⟨tail, rfl⟩ := List.head?_eq_some_iff.1 hmount
    rfl

/-- A file name with a blank and a dash in front. -/
theorem compileScript_sources_blank :
    ∃ before after, compileScript (fun field => [field])
        (compileSpec Runtime.ascii
          { greedySolution [[py "-o my.cpp"]] [] with language := some .cpp } .cpp .work
          ⟨[], 0, []⟩ workMount [py "/work/-o my.cpp"]).argv.tail =
          .execs (before ++ [py "/work/-o my.cpp"] ++ after) := by
  have hstaged : stagedPaths { greedySolution [[py "-o my.cpp"]] [] with language := some .cpp }
      true workMount = .ok [py "/work/-o my.cpp"] := by
    decide +kernel
  obtain ⟨before, after, hscript, -⟩ := compileScript_sources (fun field => [field])
    Runtime.ascii hstaged rfl (show Language.cpp ≠ .python by decide) .work ⟨[], 0, []⟩
  exact ⟨before, after, hscript⟩

end Compiling

/-! ## Running -/

section Running

variable (expand : PyStr → List PyStr)

/-- The command of a solution. -/
def command (mount entry : PyStr) (memoryMib : ℤ) : Language → List PyStr
  | .cpp | .c => [mount ++ py "/bin"]
  | .java => javaCommand mount entry memoryMib
  | .python => [py "python3.9", mount ++ py "/" ++ entry]

theorem runScript_exits (language : Language) (mount entry : PyStr) (memoryMib : ℤ) :
    runScript expand [language.value, mount, entry, formatInt memoryMib] =
      if language = .java → InShellRange memoryMib then
        .exits 0 (printLines (command mount entry memoryMib language))
      else .exits 2 [] := by
  rw [runScript, handOver_language]
  cases language with
  | cpp => rfl
  | c => rfl
  | java =>
      have hmode : py "run" ≠ py "compile" := by decide
      simp only [languageScript, javaScript, if_neg hmode, integerValue_formatInt,
        forall_const]
      rfl
  | python => rfl

/-- From the least limits on nothing wraps around. -/
theorem heapMib_eq_max {memoryMib : ℤ} (hrange : InShellRange memoryMib)
    (hleast : -2 ^ 63 + 256 ≤ memoryMib) : heapMib memoryMib = max 256 (memoryMib - 256) := by
  have hwrap : Int.bmod (memoryMib - 256) (2 ^ 64) = memoryMib - 256 := by
    apply Int.bmod_eq_of_le
    · omega
    · have hlimit := hrange.2
      omega
  rw [heapMib, hwrap]
  split_ifs <;> omega

/-- The entry is one line, as far as the command has it. -/
def EntryIsLine (entry : PyStr) : Language → Prop
  | .cpp | .c => True
  | .java => entry ≠ [] ∧ newline ∉ entry
  | .python => newline ∉ entry

/-- The mounts the judge compiles below. -/
def IsMount (mount : PyStr) : Prop :=
  mount = workMount ∨ mount = validatorMount

theorem newline_notMem_formatInt (n : ℤ) : newline ∉ formatInt n := by
  have hdigit : ∀ d < 10, digitChar d ≠ newline := by
    intro d hd
    interval_cases d <;> decide
  rw [formatInt, List.mem_append, not_or]
  constructor
  · split_ifs <;> decide
  · intro hmem
    obtain ⟨d, hd, heq⟩ := List.mem_map.1 hmem
    exact hdigit d (Decimal.lt_ten_of_mem_digits hd) heq

theorem command_lines_iff {mount entry : PyStr} (hmount : IsMount mount) (memoryMib : ℤ)
    (language : Language) :
    (∀ item ∈ command mount entry memoryMib language, item ≠ [] ∧ newline ∉ item) ↔
      EntryIsLine entry language := by
  have hmount_ne : mount ≠ [] ∧ newline ∉ mount := by
    rcases hmount with rfl | rfl <;> exact ⟨by decide, by decide⟩
  have hbin : newline ∉ py "/bin" := by decide
  have hslash : newline ∉ py "/" := by decide
  cases language with
  | cpp => simp [command, EntryIsLine, hmount_ne, hbin]
  | c => simp [command, EntryIsLine, hmount_ne, hbin]
  | python =>
      have hname : py "python3.9" ≠ [] ∧ newline ∉ py "python3.9" := by decide
      simp [command, EntryIsLine, hmount_ne, hslash, hname]
  | java =>
      have hheap := newline_notMem_formatInt (heapMib memoryMib)
      have hfixed : ∀ item ∈ [py "java", py "-Xrs", py "-XX:+UseSerialGC", py "-Xss64m", py "-cp"],
          item ≠ [] ∧ newline ∉ item := by decide
      have hflag : newline ∉ py "-Xmx" ∧ newline ∉ py "m" ∧ py "-Xmx" ≠ [] := by decide
      simp only [List.forall_mem_cons] at hfixed
      simp [command, javaCommand, EntryIsLine, hmount_ne, hheap, hfixed, hflag]

theorem runArgvOf_eq_ok {rt : Runtime} {stdout : Bytes} {text : PyStr}
    (hdecoded : rt.decodeStrict stdout = some text) :
    runArgvOf rt stdout = .ok (tokens (· == newline) text) := by
  have hfilter : (splitOn newline text).filter (· ≠ []) = tokens (· == newline) text := by
    rw [tokens, splitOn]
    congr 1
    funext piece
    cases piece <;> rfl
  simp only [runArgvOf, hdecoded, hfilter]
  rfl

/-- What is decoded strictly is what was encoded. -/
def DecodesUtf8 (rt : Runtime) : Prop :=
  ∀ text bytes, encodeUtf8 text = some bytes → rt.decodeStrict bytes = some text

/-- A container of `run.sh` that ends with status zero has run the script to such an end,
and has printed what the script prints. -/
def RunsScript (run : SandboxSpec → PyM SandboxResult) : Prop :=
  ∀ spec args result status printed, spec.argv = py "/usr/local/lib/icpc/run.sh" :: args →
    run spec = .ok result → result.exitCode = 0 →
      runScript expand args = .exits status printed → status = 0 ∧
        (SurrogateFree printed → encodeUtf8 printed = some result.stdout)

theorem surrogateFree_command {mount entry : PyStr} (hmount : IsMount mount)
    (hentry : SurrogateFree entry) (memoryMib : ℤ) (language : Language) :
    SurrogateFree (printLines (command mount entry memoryMib language)) := by
  have hmount_free : SurrogateFree mount := by
    rcases hmount with rfl | rfl <;> exact surrogateFree_py _
  have hnewline : ¬IsSurrogate newline := by decide
  cases language with
  | cpp => simp [command, printLines, hmount_free, hnewline]
  | c => simp [command, printLines, hmount_free, hnewline]
  | java =>
      simp [command, javaCommand, printLines, hmount_free, hentry, hnewline]
  | python => simp [command, printLines, hmount_free, hentry, hnewline]

variable {expand} {rt : Runtime} {calls : CompileCalls PyM} {solution : Solution}
  {language : Language} {workDir : BindSource} {memoryMib : ℤ} {options : CompileOptions}
  {mount : PyStr} {outcome : CompileOutcome}

/-- The container whose output the command of a compiled solution is read off. -/
theorem printed_of_compiled (hlanguage : solution.language = some language)
    (hcompiled : compileSolution rt calls solution workDir memoryMib options mount = .ok outcome)
    (hok : outcome.ok = true) :
    ∃ printed, calls.runSandbox
        (runArgvSpec rt solution language workDir options mount memoryMib) = .ok printed ∧
      printed.exitCode = 0 ∧ runArgvOf rt printed.stdout = .ok outcome.runArgv := by
  have hended : ∀ {ended : CompileOutcome}, pure ended = (.ok outcome : PyM CompileOutcome) →
      ended.ok = true := fun heq => Except.ok.inj heq ▸ hok
  rw [compileSolution.eq_def] at hcompiled
  split at hcompiled
  · cases hended hcompiled
  · simp only [hlanguage] at hcompiled
    obtain ⟨sources, -, hcompiled⟩ := bind_eq_ok_iff.1 hcompiled
    obtain ⟨compiled, -, hcompiled⟩ := bind_eq_ok_iff.1 hcompiled
    -- both failures of the first container end without a command
    by_cases htimedOut : compiled.timedOut = true
    · rw [if_pos htimedOut] at hcompiled
      cases hended hcompiled
    · rw [if_neg htimedOut] at hcompiled
      by_cases hfailed : compiled.exitCode ≠ 0
      · rw [if_pos hfailed] at hcompiled
        cases hended hcompiled
      · rw [if_neg hfailed] at hcompiled
        obtain ⟨printed, hprinted, hread⟩ := bind_eq_ok_iff.1 hcompiled
        by_cases hexit : printed.exitCode ≠ 0
        · rw [if_pos hexit] at hread
          cases hended hread
        · rw [if_neg hexit, ofPyM_eq] at hread
          obtain ⟨runArgv, hargv, houtcome⟩ := bind_eq_ok_iff.1 hread
          obtain rfl := Except.ok.inj houtcome
          exact ⟨printed, hprinted, not_not.1 hexit, hargv⟩

/-- A compiled solution is run by the command of its language exactly if its entry is one
line; and a Java solution only compiles with a memory limit in the range of the shell. -/
theorem compileSolution_command_iff (hdecode : DecodesUtf8 rt)
    (hscript : RunsScript expand calls.runSandbox) (hmount : IsMount mount)
    (hlanguage : solution.language = some language) (hentry : SurrogateFree solution.entry)
    (hcompiled : compileSolution rt calls solution workDir memoryMib options mount = .ok outcome)
    (hok : outcome.ok = true) :
    (outcome.runArgv = command mount solution.entry memoryMib language ↔
        EntryIsLine solution.entry language) ∧
      (language = .java → InShellRange memoryMib ∧
        (-2 ^ 63 + 256 ≤ memoryMib → heapMib memoryMib = max 256 (memoryMib - 256))) := by
  obtain ⟨result, hresult, hexit, hargv⟩ := printed_of_compiled hlanguage hcompiled hok
  have hprints := runScript_exits expand language mount solution.entry memoryMib
  by_cases hrange : language = .java → InShellRange memoryMib
  swap
  · -- the script has failed
    rw [if_neg hrange] at hprints
    exact absurd (hscript _ _ result _ _ rfl hresult hexit hprints).1 (by decide)
  rw [if_pos hrange] at hprints
  refine ⟨?_, fun hjava => ⟨hrange hjava, heapMib_eq_max (hrange hjava)⟩⟩
  have hencoded := (hscript _ _ result _ _ rfl hresult hexit hprints).2
    (surrogateFree_command hmount hentry memoryMib language)
  have hlines := (runArgvOf_eq_ok (hdecode _ _ hencoded)).symm.trans hargv
  have htokens := @tokens_terminated_iff _ (· == newline) newline (beq_self_eq_true newline)
    (command mount solution.entry memoryMib language)
  rw [← Except.ok.inj hlines, ← command_lines_iff hmount memoryMib language, printLines, htokens]
  have hfree : ∀ item : PyStr, Free (· == newline) item ↔ newline ∉ item := by
    intro item
    simp only [Free, beq_eq_false_iff_ne, ne_eq]
    exact ⟨fun hnone hmem => hnone newline hmem rfl, fun hmem c hc heq => hmem (heq ▸ hc)⟩
  simp only [hfree]

end Running

/-! ## Containers that run the scripts -/

/-- The library with the decoding of UTF-8. -/
def utf8Runtime : Runtime :=
  { Runtime.ascii with decodeStrict := decodeUtf8 false }

theorem utf8Runtime_decodes : DecodesUtf8 utf8Runtime :=
  fun _ _ hencoded => decodeUtf8_encodeUtf8 false hencoded

/-- What a container leaves whose program has ended like the script. -/
def scriptResult : ScriptEnd → SandboxResult
  | .exits status printed => ⟨status, false, (encodeUtf8 printed).getD [], [], false⟩
  | .execs _ => ⟨0, false, [], [], false⟩

/-- Containers in which every compiler succeeds. -/
def scriptCalls : CompileCalls PyM where
  isDir _ := .ok true
  copySources _ _ := .ok ()
  runSandbox spec :=
    match spec.argv with
    | [] => .error ⟨.sandbox, []⟩
    | program :: args =>
        .ok (scriptResult
          (if program = py "/usr/local/lib/icpc/run.sh" then runScript (fun field => [field]) args
          else compileScript (fun field => [field]) args))

theorem scriptCalls_runsScript : RunsScript (fun field => [field]) scriptCalls.runSandbox := by
  intro spec args result status printed hargv hresult hexit hscript
  simp only [scriptCalls, hargv, if_true, hscript] at hresult
  obtain rfl := Except.ok.inj hresult
  refine ⟨hexit, fun hprinted => ?_⟩
  obtain ⟨bytes, hbytes⟩ := Option.isSome_iff_exists.1 ((encodeUtf8_isSome_iff _).2 hprinted)
  rw [scriptResult, hbytes]
  rfl

/-- The command of a Python solution comes back, even with a blank in its name. -/
theorem compileSolution_command_iff_blank :
    ∃ outcome, compileSolution utf8Runtime scriptCalls
        (greedySolution [[py "my sol.py"]] (py "my sol.py")) .work 256 ⟨[], 0, []⟩ workMount =
          .ok outcome ∧
      outcome.runArgv = [py "python3.9", py "/work/my sol.py"] := by
  have hok : (compileSolution utf8Runtime scriptCalls
      (greedySolution [[py "my sol.py"]] (py "my sol.py")) .work 256 ⟨[], 0, []⟩ workMount).map
        CompileOutcome.ok = .ok true := by
    decide +kernel
  obtain ⟨outcome, hcompiled, houtcome⟩ := map_eq_ok_iff.1 hok
  have hline : EntryIsLine (py "my sol.py") .python := by
    rw [EntryIsLine]
    decide
  exact ⟨outcome, hcompiled, (compileSolution_command_iff utf8Runtime_decodes
    scriptCalls_runsScript (.inl rfl) rfl (surrogateFree_py _) hcompiled houtcome).1.2 hline⟩

end IcpcVerify.Compile
