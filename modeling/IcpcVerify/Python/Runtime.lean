import IcpcVerify.Python.Number

/-!
# What the program takes from Python

Exceptions as values, and the library functions whose tables (case mapping,
printable characters, float literals, UTF-8 error handlers) play no role in the
program's own logic.  Results quantify over every `Runtime`.
-/

namespace IcpcVerify.Python

/-- Exception classes the program raises or lets through. -/
inductive ErrorKind where
  | assertion
  | os
  | value
  | attribute
  | index
  | sandbox
  | problemConfig
  | testData
  | cpu
  | overshootSpec
  | compareFlag
  | zeroDivision
  | type
  | overflow
  deriving DecidableEq

/-- A raised exception with its text. -/
structure PyError where
  kind : ErrorKind
  message : PyStr
  deriving DecidableEq

/-- Code that returns a value or raises. -/
abbrev PyM := Except PyError

/-- A plain computation inside code with more effects. -/
def ofPyM {m : Type → Type} [Monad m] [MonadExceptOf PyError m] {Value : Type}
    (action : PyM Value) : m Value :=
  match action with
  | .ok value => pure value
  | .error exc => throw exc

@[simp]
theorem ofPyM_eq {Value : Type} (action : PyM Value) : (ofPyM action : PyM Value) = action := by
  cases action <;> rfl

structure Runtime where
  /-- `repr` of a string. -/
  repr : PyStr → PyStr
  /-- `str` of a float. -/
  strFloat : ℚ → PyStr
  /-- `str.lower`. -/
  lower : PyStr → PyStr
  /-- `float` of a string; `none` is `ValueError`. -/
  parseFloat : PyStr → Option PyFloat
  /-- The float that the result of a `-` or `/` of finite floats is rounded to. -/
  roundFloat : ℚ → PyFloat
  /-- `int` of a string; `none` is `ValueError`. -/
  parseInt : PyStr → Option ℤ
  /-- `repr` of a byte string. -/
  reprBytes : Bytes → PyStr
  /-- `bytes.decode("utf-8", errors="replace")`. -/
  decodeReplace : Bytes → PyStr
  /-- `bytes.decode("utf-8", errors="surrogateescape")`. -/
  decodeSurrogateescape : Bytes → PyStr
  /-- `bytes.decode("utf-8")`; `none` is `UnicodeDecodeError`. -/
  decodeStrict : Bytes → Option PyStr
  /-- `json.dumps` of a list of strings. -/
  dumps : List PyStr → PyStr
  /-- `fnmatch.fnmatch` of a name and a pattern. -/
  fnmatch : PyStr → PyStr → Bool
  /-- `host_user()`: the `uid:gid` of the calling process. -/
  hostUser : PyStr

namespace Runtime

/-- Shell patterns without bracket expressions. -/
def globMatch : PyStr → PyStr → Bool
  | [], name => name = []
  | c :: pattern, name =>
      if c = ord '*' then name.tails.any (globMatch pattern)
      else
        match name with
        | [] => false
        | d :: rest => (c = ord '?' ∨ c = d) && globMatch pattern rest

/-- The same library with results of float arithmetic that are not rounded. -/
def exact (rt : Runtime) : Runtime :=
  { rt with roundFloat := .finite }

/-- The library as it behaves on plain ASCII texts, and with exact numbers. -/
def ascii : Runtime where
  repr s := py "'" ++ s ++ py "'"
  strFloat := formatFixed 1
  lower := List.map fun c => if ord 'A' ≤ c ∧ c ≤ ord 'Z' then chr (c.val + 32) else c
  parseFloat s := (numeralValue s).map .finite
  roundFloat := .finite
  parseInt := integerValue
  reprBytes bytes := py "b'" ++ bytes.map (fun byte => chr byte.toNat) ++ py "'"
  decodeReplace := List.map fun byte => chr byte.toNat
  decodeSurrogateescape := List.map fun byte => chr byte.toNat
  decodeStrict bytes :=
    if bytes.all (· < 128) then some (bytes.map fun byte => chr byte.toNat) else none
  dumps items :=
    py "[" ++ (List.intercalate (py ", ")
      (items.map fun item => py "\"" ++ item ++ py "\"")) ++ py "]"
  fnmatch name pattern := globMatch pattern name
  hostUser := py "1000:1000"

/-- The same with the special values that `float` reads. -/
def asciiSpecials : Runtime :=
  { ascii with
    parseFloat := fun s =>
      if ascii.lower s = py "nan" then some .nan
      else if ascii.lower s ∈ [py "inf", py "infinity"] then some .posInf
      else ascii.parseFloat s }

end Runtime

end IcpcVerify.Python
