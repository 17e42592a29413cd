import IcpcVerify.Python.Argparse
import IcpcVerify.Python.JsonWriter

/-!
# The command lines of the runners

`parse_args` of both runners.  Leaving through `SystemExit` and raising are both `none`.
-/

namespace IcpcVerify.Runner

open IcpcVerify.Python
open IcpcVerify.Python.Argparse

/-- `args` of `runner.py`. -/
structure Arguments where
  input : PyStr
  stdout : PyStr
  stderr : PyStr
  result : PyStr
  hardKill : PyFloat
  outputLimit : ℤ
  argv : List PyStr
  deriving DecidableEq

/-- `args` of `interactive_runner.py`. -/
structure InteractiveArguments where
  result : PyStr
  hardKill : PyFloat
  pairTimeout : PyFloat
  solStderr : PyStr
  valStderr : PyStr
  validatorArgv : List PyStr
  argv : List PyStr
  deriving DecidableEq

def runnerOptions : List OptionSpec :=
  [⟨py "--input", .str⟩, ⟨py "--stdout", .str⟩, ⟨py "--stderr", .str⟩, ⟨py "--result", .str⟩,
    ⟨py "--hard-kill", .float⟩, ⟨py "--output-limit", .int⟩]

def interactiveOptions : List OptionSpec :=
  [⟨py "--result", .str⟩, ⟨py "--hard-kill", .float⟩, ⟨py "--pair-timeout", .float⟩,
    ⟨py "--validator-json", .str⟩, ⟨py "--sol-stderr", .str⟩, ⟨py "--val-stderr", .str⟩]

/-- `args.argv` without the `--` in front; an empty command is an error. -/
def commandOf (remainder : List PyStr) : Option (List PyStr) :=
  let argv := if remainder.head? = some dashes then remainder.tail else remainder
  if argv = [] then none else some argv

section Parsing

variable (rt : Runtime)

/-- `parse_args` of `runner.py`. -/
def parseArgs (argv : List PyStr) : Option Arguments := do
  let (values, remainder) ← Argparse.parseArgs rt runnerOptions argv
  let command ← commandOf remainder
  let input ← (values.lookup (py "--input")).bind ArgValue.asStr
  let stdout ← (values.lookup (py "--stdout")).bind ArgValue.asStr
  let stderr ← (values.lookup (py "--stderr")).bind ArgValue.asStr
  let result ← (values.lookup (py "--result")).bind ArgValue.asStr
  let hardKill ← (values.lookup (py "--hard-kill")).bind ArgValue.asFloat
  let outputLimit ← (values.lookup (py "--output-limit")).bind ArgValue.asInt
  return ⟨input, stdout, stderr, result, hardKill, outputLimit, command⟩

/-- `parse_args` of `interactive_runner.py`. -/
def parseInteractiveArgs (argv : List PyStr) : Option InteractiveArguments := do
  let (values, remainder) ← Argparse.parseArgs rt interactiveOptions argv
  let command ← commandOf remainder
  let result ← (values.lookup (py "--result")).bind ArgValue.asStr
  let hardKill ← (values.lookup (py "--hard-kill")).bind ArgValue.asFloat
  let pairTimeout ← (values.lookup (py "--pair-timeout")).bind ArgValue.asFloat
  let solStderr ← (values.lookup (py "--sol-stderr")).bind ArgValue.asStr
  let valStderr ← (values.lookup (py "--val-stderr")).bind ArgValue.asStr
  let validatorJson ← (values.lookup (py "--validator-json")).bind ArgValue.asStr
  let validator ← loads rt validatorJson
  let validatorArgv ← validator.asStrings
  return ⟨result, hardKill, pairTimeout, solStderr, valStderr, validatorArgv, command⟩

end Parsing

/-! ## What the judge puts on the command line -/

variable {rt : Runtime}

theorem longOptions_runner : LongOptions runnerOptions :=
  ⟨by decide +kernel, by decide +kernel, by decide +kernel⟩

theorem longOptions_interactive : LongOptions interactiveOptions :=
  ⟨by decide +kernel, by decide +kernel, by decide +kernel⟩

theorem noNumberOption_runner : NoNumberOption (optionNames runnerOptions) := by
  decide +kernel

theorem noNumberOption_interactive : NoNumberOption (optionNames interactiveOptions) := by
  decide +kernel

/-- One `--` in front is taken away, and no more. -/
theorem commandOf_dashes (argv : List PyStr) :
    commandOf (dashes :: argv) = if argv = [] then none else some argv := rfl

/-- The options of `runner.py` in the order of the judge, in front of any command. -/
theorem parseArgs_of_texts {input stdout stderr result hardKillText outputLimitText : PyStr}
    {hardKill : PyFloat} {outputLimit : ℤ} {argv : List PyStr}
    (htexts : ∀ text ∈ [input, stdout, stderr, result, hardKillText, outputLimitText],
      ArgumentText (optionNames runnerOptions) text)
    (hhardKill : rt.parseFloat hardKillText = some hardKill)
    (houtputLimit : readInt rt outputLimitText = .ok outputLimit) :
    parseArgs rt
      ([py "--input", input, py "--stdout", stdout, py "--stderr", stderr, py "--result", result,
        py "--hard-kill", hardKillText, py "--output-limit", outputLimitText, dashes] ++ argv) =
      (commandOf (dashes :: argv)).map fun command =>
        ⟨input, stdout, stderr, result, hardKill, outputLimit, command⟩ := by
  obtain ⟨uses, huses⟩ : ∃ uses : List OptionUse, uses =
      [⟨⟨py "--input", .str⟩, input, .str input⟩, ⟨⟨py "--stdout", .str⟩, stdout, .str stdout⟩,
        ⟨⟨py "--stderr", .str⟩, stderr, .str stderr⟩,
        ⟨⟨py "--result", .str⟩, result, .str result⟩,
        ⟨⟨py "--hard-kill", .float⟩, hardKillText, .float hardKill⟩,
        ⟨⟨py "--output-limit", .int⟩, outputLimitText, .int outputLimit⟩] := ⟨_, rfl⟩
  have hall : uses.map OptionUse.option = runnerOptions := by
    rw [huses]
    rfl
  have hconvert : ∀ use ∈ uses, convert rt use.option.type use.text = some use.value := by
    rw [huses]
    simp [convert, hhardKill, houtputLimit, Except.toOption]
  have hargument : ∀ use ∈ uses, ArgumentText (optionNames runnerOptions) use.text := by
    rw [huses]
    simpa using htexts
  have hparse := parseArgs_uses longOptions_runner hall hargument hconvert argv
  have htext : [py "--input", input, py "--stdout", stdout, py "--stderr", stderr,
      py "--result", result, py "--hard-kill", hardKillText, py "--output-limit",
      outputLimitText, dashes] ++ argv = OptionUse.texts uses ++ dashes :: argv := by
    rw [huses]
    rfl
  rw [parseArgs, htext, hparse, Option.bind_eq_bind, Option.bind_some]
  simp only
  cases hcommand : commandOf (dashes :: argv) with
  | none => rfl
  | some command =>
      rw [huses]
      rfl

/-- The same for `interactive_runner.py`. -/
theorem parseInteractiveArgs_of_texts
    {result hardKillText pairTimeoutText validatorJson solStderr valStderr : PyStr}
    {hardKill pairTimeout : PyFloat} {validator : JsonValue} {validatorArgv argv : List PyStr}
    (htexts : ∀ text ∈
        [result, hardKillText, pairTimeoutText, validatorJson, solStderr, valStderr],
      ArgumentText (optionNames interactiveOptions) text)
    (hhardKill : rt.parseFloat hardKillText = some hardKill)
    (hpairTimeout : rt.parseFloat pairTimeoutText = some pairTimeout)
    (hvalidator : loads rt validatorJson = some validator)
    (hvalidatorArgv : validator.asStrings = some validatorArgv) :
    parseInteractiveArgs rt
      ([py "--result", result, py "--hard-kill", hardKillText, py "--pair-timeout",
        pairTimeoutText, py "--validator-json", validatorJson, py "--sol-stderr", solStderr,
        py "--val-stderr", valStderr, dashes] ++ argv) =
      (commandOf (dashes :: argv)).map fun command =>
        ⟨result, hardKill, pairTimeout, solStderr, valStderr, validatorArgv, command⟩ := by
  obtain ⟨uses, huses⟩ : ∃ uses : List OptionUse, uses =
      [⟨⟨py "--result", .str⟩, result, .str result⟩,
        ⟨⟨py "--hard-kill", .float⟩, hardKillText, .float hardKill⟩,
        ⟨⟨py "--pair-timeout", .float⟩, pairTimeoutText, .float pairTimeout⟩,
        ⟨⟨py "--validator-json", .str⟩, validatorJson, .str validatorJson⟩,
        ⟨⟨py "--sol-stderr", .str⟩, solStderr, .str solStderr⟩,
        ⟨⟨py "--val-stderr", .str⟩, valStderr, .str valStderr⟩] := ⟨_, rfl⟩
  have hall : uses.map OptionUse.option = interactiveOptions := by
    rw [huses]
    rfl
  have hconvert : ∀ use ∈ uses, convert rt use.option.type use.text = some use.value := by
    rw [huses]
    simp [convert, hhardKill, hpairTimeout]
  have hargument : ∀ use ∈ uses, ArgumentText (optionNames interactiveOptions) use.text := by
    rw [huses]
    simpa using htexts
  have hparse := parseArgs_uses longOptions_interactive hall hargument hconvert argv
  have htext : [py "--result", result, py "--hard-kill", hardKillText, py "--pair-timeout",
      pairTimeoutText, py "--validator-json", validatorJson, py "--sol-stderr", solStderr,
      py "--val-stderr", valStderr, dashes] ++ argv =
        OptionUse.texts uses ++ dashes :: argv := by
    rw [huses]
    rfl
  rw [parseInteractiveArgs, htext, hparse, Option.bind_eq_bind, Option.bind_some]
  simp only
  cases hcommand : commandOf (dashes :: argv) with
  | none => rfl
  | some command =>
      rw [huses]
      calc
        _ = (loads rt validatorJson).bind fun validator =>
              validator.asStrings.bind fun validatorArgv =>
                some (InteractiveArguments.mk result hardKill pairTimeout solStderr valStderr
                  validatorArgv command) := rfl
        _ = _ := by
          rw [hvalidator, Option.bind_some, hvalidatorArgv, Option.bind_some]
          rfl

/-! ## The validator's command -/

theorem rereadItems_str (items : List PyStr) :
    JsonValue.rereadItems (items.map .str) = (items.map mergeSurrogates).map .str := by
  induction items with
  | nil => rfl
  | cons item items ih => rw [List.map_cons, JsonValue.rereadItems, ih]; rfl

theorem asStrings_list (items : List PyStr) :
    (JsonValue.list (items.map .str)).asStrings = some items := by
  induction items with
  | nil => rfl
  | cons item items ih =>
      rw [JsonValue.asStrings] at ih ⊢
      rw [List.map_cons, List.mapM_cons, ih]
      rfl

theorem printableItems_str (items : List PyStr) :
    JsonValue.PrintableItems rt (items.map .str) := by
  induction items with
  | nil => trivial
  | cons item items ih => exact ⟨trivial, ih⟩

/-- `json.loads` of what `json.dumps` makes of a list of strings: the strings with their
surrogates joined. -/
theorem loads_dumps_strings (items : List PyStr) :
    loads rt ((JsonValue.list (items.map .str)).dumps rt) =
      some (.list ((items.map mergeSurrogates).map .str)) := by
  have hprintable : (JsonValue.list (items.map .str)).Printable rt := printableItems_str items
  rw [JsonValue.loads_dumps hprintable, JsonValue.reread, rereadItems_str]

end IcpcVerify.Runner
