import IcpcVerify.Python.Runtime

/-!
# Values of a YAML document

What `yaml.safe_load` can return, with Python's conversions of such values: their
truth, `str`, `float` and `int`.  Dates occur only through their type and their texts.
-/

namespace IcpcVerify.Python

inductive Yaml where
  | null
  | bool (value : Bool)
  | int (value : ℤ)
  | float (value : PyFloat)
  | str (value : PyStr)
  | binary (content : Bytes)
  /-- A `datetime.date` or `datetime.datetime`, with its `str` and its `repr`. -/
  | date (typeName text shown : PyStr)
  /-- An entry of an `!!omap` or of `!!pairs`. -/
  | tuple (first second : Yaml)
  | set (items : List Yaml)
  | list (items : List Yaml)
  | dict (entries : List (Yaml × Yaml))

/-- The entries of a `dict`; its keys are distinct. -/
abbrev Mapping := List (Yaml × Yaml)

namespace Yaml

def isKey (name : PyStr) : Yaml → Bool
  | str value => value = name
  | _ => false

/-- `bool(value)`. -/
def truthy : Yaml → Bool
  | null => false
  | bool value => value
  | int value => value ≠ 0
  | float value => value ≠ .finite 0
  | str value => value ≠ []
  | binary content => content ≠ []
  | date _ _ _ => true
  | tuple _ _ => true
  | set items => !items.isEmpty
  | list items => !items.isEmpty
  | dict entries => !entries.isEmpty

def typeName : Yaml → PyStr
  | null => py "NoneType"
  | bool _ => py "bool"
  | int _ => py "int"
  | float _ => py "float"
  | str _ => py "str"
  | binary _ => py "bytes"
  | date name _ _ => name
  | tuple _ _ => py "tuple"
  | set _ => py "set"
  | list _ => py "list"
  | dict _ => py "dict"

variable (rt : Runtime)

/-- `str` of any float. -/
def strPyFloat : PyFloat → PyStr
  | .finite value => rt.strFloat value
  | .posInf => py "inf"
  | .negInf => py "-inf"
  | .nan => py "nan"

/-- The longest integer that `str` prints, in digits. -/
def intMaxStrDigits : ℕ := 4300

def intDigitsError : PyError :=
  ⟨.value, py "Exceeds the limit (" ++ formatNat intMaxStrDigits ++
    py " digits) for integer string conversion; use sys.set_int_max_str_digits() " ++
    py "to increase the limit"⟩

/-- `str` of an integer. -/
def strInt (value : ℤ) : PyM PyStr :=
  if intMaxStrDigits < (formatNat value.natAbs).length then throw intDigitsError
  else return formatInt value

mutual

/-- `repr(value)`. -/
def reprValue : Yaml → PyM PyStr
  | null => return py "None"
  | bool value => return if value then py "True" else py "False"
  | int value => strInt value
  | float value => return strPyFloat rt value
  | str value => return rt.repr value
  | binary content => return rt.reprBytes content
  | date _ _ shown => return shown
  | tuple first second => do
      let first ← reprValue first
      let second ← reprValue second
      return py "(" ++ first ++ py ", " ++ second ++ py ")"
  | set items => do
      let items ← reprItems items
      return if items.isEmpty then py "set()"
        else py "\x7b" ++ List.intercalate (py ", ") items ++ py "\x7d"
  | list items => do
      let items ← reprItems items
      return py "[" ++ List.intercalate (py ", ") items ++ py "]"
  | dict entries => do
      let entries ← reprEntries entries
      return py "\x7b" ++ List.intercalate (py ", ") entries ++ py "\x7d"

def reprItems : List Yaml → PyM (List PyStr)
  | [] => return []
  | item :: items => do
      let item ← reprValue item
      let items ← reprItems items
      return item :: items

def reprEntries : List (Yaml × Yaml) → PyM (List PyStr)
  | [] => return []
  | (key, value) :: entries => do
      let key ← reprValue key
      let value ← reprValue value
      let entries ← reprEntries entries
      return (key ++ py ": " ++ value) :: entries

end

/-- `str(value)`. -/
def toStr : Yaml → PyM PyStr
  | str value => return value
  | date _ text _ => return text
  | value => reprValue rt value

/-- The text of a byte string that is to be read as a number. -/
def asciiText (content : Bytes) : Option PyStr :=
  if content.all (· < 128) then some (content.map fun byte => chr byte.toNat) else none

/-- Integers from here on are too large for a float. -/
def floatOverflow : ℕ := 2 ^ 1024 - 2 ^ 970

/-- `float(value)`; an integer of more than 53 bits is not rounded. -/
def toFloat : Yaml → PyM PyFloat
  | bool value => return .finite (if value then 1 else 0)
  | int value =>
      if floatOverflow ≤ value.natAbs then
        throw ⟨.overflow, py "int too large to convert to float"⟩
      else return .finite value
  | float value => return value
  | str value =>
      match rt.parseFloat value with
      | some number => return number
      | none => throw ⟨.value, py "could not convert string to float: " ++ rt.repr value⟩
  | binary content =>
      match (asciiText content).bind rt.parseFloat with
      | some number => return number
      | none =>
          throw ⟨.value, py "could not convert string to float: " ++ rt.reprBytes content⟩
  | value =>
      throw ⟨.type, py "float() argument must be a string or a real number, not '" ++
        value.typeName ++ py "'"⟩

/-- `int(value)`; a float is cut towards zero. -/
def toInt : Yaml → PyM ℤ
  | bool value => return if value then 1 else 0
  | int value => return value
  | float (.finite value) => return if value < 0 then ⌈value⌉ else ⌊value⌋
  | float .nan => throw ⟨.value, py "cannot convert float NaN to integer"⟩
  | float _ => throw ⟨.overflow, py "cannot convert float infinity to integer"⟩
  | str value =>
      match rt.parseInt value with
      | some number => return number
      | none =>
          throw ⟨.value, py "invalid literal for int() with base 10: " ++ rt.repr value⟩
  | binary content =>
      match (asciiText content).bind rt.parseInt with
      | some number => return number
      | none =>
          throw ⟨.value, py "invalid literal for int() with base 10: " ++ rt.reprBytes content⟩
  | value =>
      throw ⟨.type, py "int() argument must be a string, a bytes-like object or a real " ++
        py "number, not '" ++ value.typeName ++ py "'"⟩

end Yaml

/-- `mapping.get(name)`. -/
def Mapping.get? (mapping : Mapping) (name : PyStr) : Option Yaml :=
  (mapping.find? fun entry => entry.1.isKey name).map Prod.snd

end IcpcVerify.Python
