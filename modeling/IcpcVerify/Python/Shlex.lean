import IcpcVerify.Python.Runtime

/-!
# Splitting a command line

`shlex.split` reads a text character by character.  Words end at white space; quotes
group, and a backslash takes the next character literally, except that between double
quotes it only does so before a backslash or a double quote.
-/

namespace IcpcVerify.Python.Shlex

def whitespace : List CodePoint := [ord ' ', ord '\t', ord '\r', ord '\n']

def quotes : List CodePoint := [ord '\'', ord '"']

def backslash : CodePoint := ord '\\'

/-- Where the lexer stands. -/
inductive Mode where
  | between
  | word
  | quoted (quote : CodePoint)
  /-- After a backslash, in a word or between the given quotes. -/
  | escaped (quote : Option CodePoint)
  deriving DecidableEq

structure State where
  mode : Mode
  token : PyStr
  words : List PyStr

def start : State :=
  ⟨.between, [], []⟩

/-- One character of the loop in `shlex.read_token`. -/
def step (state : State) (c : CodePoint) : State :=
  match state.mode with
  | .between =>
      if c ∈ whitespace then state
      else if c = backslash then { state with mode := .escaped none }
      else if c ∈ quotes then { state with mode := .quoted c }
      else { state with mode := .word, token := [c] }
  | .word =>
      if c ∈ whitespace then ⟨.between, [], state.words ++ [state.token]⟩
      else if c ∈ quotes then { state with mode := .quoted c }
      else if c = backslash then { state with mode := .escaped none }
      else { state with token := state.token ++ [c] }
  | .quoted quote =>
      if c = quote then { state with mode := .word }
      else if c = backslash ∧ quote = ord '"' then { state with mode := .escaped (some quote) }
      else { state with token := state.token ++ [c] }
  | .escaped none => { state with mode := .word, token := state.token ++ [c] }
  | .escaped (some quote) =>
      { state with
        mode := .quoted quote
        token :=
          if c ≠ backslash ∧ c ≠ quote then state.token ++ [backslash, c]
          else state.token ++ [c] }

/-- The end of the text. -/
def finish (state : State) : PyM (List PyStr) :=
  match state.mode with
  | .between => return state.words
  | .word => return state.words ++ [state.token]
  | .quoted _ => throw ⟨.value, py "No closing quotation"⟩
  | .escaped _ => throw ⟨.value, py "No escaped character"⟩

/-- `shlex.split`. -/
def split (text : PyStr) : PyM (List PyStr) :=
  finish (text.foldl step start)

example : split (py "float_tolerance 1e-6 'a b'\"\\\"\"") =
    .ok [py "float_tolerance", py "1e-6", py "a b\""] := by
  decide +kernel

end IcpcVerify.Python.Shlex
