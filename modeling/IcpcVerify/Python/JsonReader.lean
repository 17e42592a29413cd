import IcpcVerify.Core.Dictionary
import IcpcVerify.Python.Integer
import IcpcVerify.Python.Json

/-!
# Reading JSON

`json.loads` of a text, as the scanner of the library reads it: strings with their
escapes, two of which may stand for one code point, numerals that are integers or floats,
and containers to any depth.  Every failure is a `ValueError`, here `none`.
-/

namespace IcpcVerify.Python

inductive JsonValue where
  | null
  | bool (value : Bool)
  | int (value : ℤ)
  | float (value : PyFloat)
  | str (text : PyStr)
  | list (items : List JsonValue)
  | dict (entries : List (PyStr × JsonValue))

namespace JsonValue

/-- `value[key]`; `none` is an exception. -/
def item (key : PyStr) : JsonValue → Option JsonValue
  | dict entries => entries.lookup key
  | _ => none

def asFloat : JsonValue → Option ℚ
  | float (.finite x) => some x
  | _ => none

def asInt : JsonValue → Option ℤ
  | int n => some n
  | _ => none

def asBool : JsonValue → Option Bool
  | bool value => some value
  | _ => none

def asStr : JsonValue → Option PyStr
  | str text => some text
  | _ => none

/-- A list of strings. -/
def asStrings : JsonValue → Option (List PyStr)
  | list items => items.mapM asStr
  | _ => none

/-- `bool(value)`. -/
def truthy : JsonValue → Bool
  | null => false
  | bool value => value
  | int n => n ≠ 0
  | float x => x ≠ .finite 0
  | str text => text ≠ []
  | list items => !items.isEmpty
  | dict entries => !entries.isEmpty

end JsonValue

/-! ## Strings -/

def quote : CodePoint := ord '"'
def backslash : CodePoint := ord '\\'

def isAsciiDigit (c : CodePoint) : Bool :=
  0x30 ≤ c.val ∧ c.val ≤ 0x39

def hexValue (c : CodePoint) : Option ℕ :=
  if isAsciiDigit c then some (c.val - 0x30)
  else if 0x61 ≤ c.val ∧ c.val ≤ 0x66 then some (c.val - 0x61 + 10)
  else if 0x41 ≤ c.val ∧ c.val ≤ 0x46 then some (c.val - 0x41 + 10)
  else none

/-- The number of four hexadecimal digits. -/
def hexNumber (digits : List CodePoint) : Option ℕ :=
  digits.foldlM (fun n c => (hexValue c).map (n * 16 + ·)) 0

/-- What a backslash and this letter stand for. -/
def unescape (letter : CodePoint) : Option CodePoint :=
  if letter = quote ∨ letter = backslash ∨ letter = ord '/' then some letter
  else if letter = ord 'b' then some (chr 0x08)
  else if letter = ord 'f' then some (chr 0x0C)
  else if letter = ord 'n' then some (chr 0x0A)
  else if letter = ord 'r' then some (chr 0x0D)
  else if letter = ord 't' then some (chr 0x09)
  else none

/-- A piece of a string: a code point, or the number of a `\u` escape. -/
inductive StringPiece where
  | plain (c : CodePoint)
  | escape (number : ℕ)
  deriving DecidableEq

/-- The pieces up to the closing quote, and what follows it. -/
def scanPieces : PyStr → Option (List StringPiece × PyStr)
  | [] => none
  | c :: rest =>
      if c = quote then some ([], rest)
      else if c = backslash then
        match rest with
        | [] => none
        | letter :: rest =>
            if letter = ord 'u' then
              match rest with
              | d₃ :: d₂ :: d₁ :: d₀ :: rest => do
                  let number ← hexNumber [d₃, d₂, d₁, d₀]
                  let (pieces, rest) ← scanPieces rest
                  return (.escape number :: pieces, rest)
              | _ => none
            else do
              let c ← unescape letter
              let (pieces, rest) ← scanPieces rest
              return (.plain c :: pieces, rest)
      else if c.val < 0x20 then none
      else do
        let (pieces, rest) ← scanPieces rest
        return (.plain c :: pieces, rest)

def IsHighSurrogate (n : ℕ) : Prop :=
  0xD800 ≤ n ∧ n ≤ 0xDBFF

def IsLowSurrogate (n : ℕ) : Prop :=
  0xDC00 ≤ n ∧ n ≤ 0xDFFF

instance (n : ℕ) : Decidable (IsHighSurrogate n) :=
  inferInstanceAs (Decidable (_ ∧ _))

instance (n : ℕ) : Decidable (IsLowSurrogate n) :=
  inferInstanceAs (Decidable (_ ∧ _))

/-- The code point of two surrogates. -/
def joinSurrogates (high low : ℕ) : CodePoint :=
  chr (0x10000 + (high - 0xD800) * 0x400 + (low - 0xDC00))

/-- An escaped high surrogate takes the escaped low one behind it. -/
def joinPieces : List StringPiece → PyStr
  | [] => []
  | .plain c :: pieces => c :: joinPieces pieces
  | .escape high :: .escape low :: pieces =>
      if IsHighSurrogate high ∧ IsLowSurrogate low then joinSurrogates high low :: joinPieces pieces
      else chr high :: joinPieces (.escape low :: pieces)
  | .escape number :: pieces => chr number :: joinPieces pieces

/-- The string after an opening quote, and what follows it. -/
def scanString (text : PyStr) : Option (PyStr × PyStr) := do
  let (pieces, rest) ← scanPieces text
  return (joinPieces pieces, rest)

/-! ## Numerals -/

/-- A point with the digits behind it. -/
def scanFraction : PyStr → PyStr
  | [] => []
  | c :: rest =>
      if c = ord '.' ∧ rest.takeWhile isAsciiDigit ≠ [] then c :: rest.takeWhile isAsciiDigit
      else []

/-- The sign in front of a text. -/
def scanSign (signs : List CodePoint) : PyStr → PyStr
  | [] => []
  | c :: _ => if c ∈ signs then [c] else []

/-- An `e` with a sign and the digits behind it. -/
def scanExponent : PyStr → PyStr
  | [] => []
  | c :: rest =>
      let sign := scanSign [ord '+', ord '-'] rest
      let digits := (rest.drop sign.length).takeWhile isAsciiDigit
      if (c = ord 'e' ∨ c = ord 'E') ∧ digits ≠ [] then c :: (sign ++ digits) else []

/-- A zero, or digits that do not start with one. -/
def scanWhole : PyStr → PyStr
  | [] => []
  | c :: rest => if c = ord '0' then [c] else (c :: rest).takeWhile isAsciiDigit

/-- A numeral, whether it is a float, and what follows it. -/
def scanNumber (text : PyStr) : Option ((PyStr × Bool) × PyStr) :=
  let sign := scanSign [ord '-'] text
  let whole := scanWhole (text.drop sign.length)
  if whole = [] then none
  else
    let afterWhole := (text.drop sign.length).drop whole.length
    let fraction := scanFraction afterWhole
    let afterFraction := afterWhole.drop fraction.length
    let exponent := scanExponent afterFraction
    some ((sign ++ whole ++ fraction ++ exponent, fraction ≠ [] ∨ exponent ≠ []),
      afterFraction.drop exponent.length)

variable (rt : Runtime)

/-- `float` or `int` of a numeral. -/
def numberValue (numeral : PyStr) (isFloat : Bool) : Option JsonValue :=
  if isFloat then (rt.parseFloat numeral).map .float
  else (readInt rt numeral).toOption.map .int

/-! ## Values -/

def isJsonSpace (c : CodePoint) : Bool :=
  c = ord ' ' ∨ c = ord '\t' ∨ c = ord '\n' ∨ c = ord '\r'

def skipSpace (text : PyStr) : PyStr :=
  text.dropWhile isJsonSpace

/-- The words with a value of their own. -/
def jsonConstants : List (PyStr × JsonValue) :=
  [(py "null", .null), (py "true", .bool true), (py "false", .bool false),
    (py "NaN", .float .nan), (py "Infinity", .float .posInf), (py "-Infinity", .float .negInf)]

/-- A word or a numeral, and what follows it. -/
def scanScalar (text : PyStr) : Option (JsonValue × PyStr) :=
  match jsonConstants.find? fun constant => constant.1.isPrefixOf text with
  | some constant => some (constant.2, text.drop constant.1.length)
  | none => do
      let (number, rest) ← scanNumber text
      let value ← numberValue rt number.1 number.2
      return (value, rest)

/-- A `dict` of the entries in the order of the text. -/
def collectEntries (entries : List (PyStr × JsonValue)) : List (PyStr × JsonValue) :=
  entries.foldl (fun dict entry => Dictionary.set entry.1 entry.2 dict) []

/-- Takes one code point from the front of a text. -/
def expect (c : CodePoint) : PyStr → Option PyStr
  | [] => none
  | d :: rest => if d = c then some rest else none

def openBracket : CodePoint := ord '['
def closeBracket : CodePoint := ord ']'
def openBrace : CodePoint := chr 0x7B
def closeBrace : CodePoint := chr 0x7D
def byteOrderMark : CodePoint := chr 0xFEFF
def comma : CodePoint := ord ','
def colon : CodePoint := ord ':'

mutual

/-- The value at the front of a text, and what follows it; `fuel` bounds the depth and the
lengths of the containers. -/
def scanValue : ℕ → PyStr → Option (JsonValue × PyStr)
  | 0, _ => none
  | _, [] => none
  | fuel + 1, c :: rest =>
      if c = quote then (scanString rest).map fun scanned => (.str scanned.1, scanned.2)
      else if c = openBracket then
        match expect closeBracket (skipSpace rest) with
        | some rest => some (.list [], rest)
        | none =>
            (scanItems fuel (skipSpace rest)).map fun scanned => (.list scanned.1, scanned.2)
      else if c = openBrace then
        match expect closeBrace (skipSpace rest) with
        | some rest => some (.dict [], rest)
        | none =>
            (scanEntries fuel (skipSpace rest)).map fun scanned =>
              (.dict (collectEntries scanned.1), scanned.2)
      else scanScalar rt (c :: rest)

/-- The items up to the closing bracket. -/
def scanItems : ℕ → PyStr → Option (List JsonValue × PyStr)
  | 0, _ => none
  | fuel + 1, text => do
      let (item, rest) ← scanValue fuel text
      match expect closeBracket (skipSpace rest) with
      | some rest => return ([item], rest)
      | none => do
          let rest ← expect comma (skipSpace rest)
          let (items, rest) ← scanItems fuel (skipSpace rest)
          return (item :: items, rest)

/-- The entries up to the closing brace. -/
def scanEntries : ℕ → PyStr → Option (List (PyStr × JsonValue) × PyStr)
  | 0, _ => none
  | fuel + 1, text => do
      let rest ← expect quote text
      let (key, rest) ← scanString rest
      let rest ← expect colon (skipSpace rest)
      let (value, rest) ← scanValue fuel (skipSpace rest)
      match expect closeBrace (skipSpace rest) with
      | some rest => return ([(key, value)], rest)
      | none => do
          let rest ← expect comma (skipSpace rest)
          let (entries, rest) ← scanEntries fuel (skipSpace rest)
          return ((key, value) :: entries, rest)

end

/-- `json.loads` of a string; `none` is `ValueError`. -/
def loads (text : PyStr) : Option JsonValue :=
  if text.head? = some byteOrderMark then none
  else do
    let (value, rest) ← scanValue rt (text.length + 1) (skipSpace text)
    if skipSpace rest = [] then return value else none

end IcpcVerify.Python
