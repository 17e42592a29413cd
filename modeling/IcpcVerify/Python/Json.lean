import IcpcVerify.Python.Encoding

/-!
# Written JSON

`json.dumps(value, ensure_ascii=False, indent=2)`: the layout of arrays and objects, and
the escapes of strings.  What is not escaped reaches the text as it is.
-/

namespace IcpcVerify.Python

/-- A value as `json.dumps` meets it; a number is given by its `repr`. -/
inductive Json where
  | str (text : PyStr)
  | bool (value : Bool)
  | number (numeral : PyStr)
  | array (items : List Json)
  | object (fields : List (PyStr × Json))

/-! ## Writing -/

/-- `ESCAPE_DCT` of the encoder, and every other code point as it is. -/
def escapeJson (c : CodePoint) : PyStr :=
  if c = chr 0x22 then py "\\\""
  else if c = chr 0x5C then py "\\\\"
  else if c = chr 0x0A then py "\\n"
  else if c = chr 0x0D then py "\\r"
  else if c = chr 0x09 then py "\\t"
  else if c = chr 0x0C then py "\\f"
  else if c = chr 0x08 then py "\\b"
  else if c.val < 0x20 then py "\\u00" ++ [hexDigit (c.val / 16), hexDigit (c.val % 16)]
  else [c]

def quoteJson (text : PyStr) : PyStr :=
  py "\"" ++ text.flatMap escapeJson ++ py "\""

/-- A new line, indented by two columns a level. -/
def indentedLine (level : ℕ) : PyStr :=
  newline :: List.replicate (2 * level) (ord ' ')

/-- The pieces of an array or object, one on a line. -/
def layOut (level : ℕ) (opening closing : PyStr) (pieces : List PyStr) : PyStr :=
  if pieces = [] then opening ++ closing
  else
    opening ++ indentedLine (level + 1) ++
      List.intercalate (py "," ++ indentedLine (level + 1)) pieces ++
      indentedLine level ++ closing

namespace Json

mutual

def dumpsAt (level : ℕ) : Json → PyStr
  | str text => quoteJson text
  | bool value => if value then py "true" else py "false"
  | number numeral => numeral
  | array items => layOut level (py "[") (py "]") (dumpsItems (level + 1) items)
  | object fields => layOut level (py "\x7b") (py "\x7d") (dumpsFields (level + 1) fields)

def dumpsItems (level : ℕ) : List Json → List PyStr
  | [] => []
  | item :: items => dumpsAt level item :: dumpsItems level items

def dumpsFields (level : ℕ) : List (PyStr × Json) → List PyStr
  | [] => []
  | (key, value) :: fields =>
      (quoteJson key ++ py ": " ++ dumpsAt level value) :: dumpsFields level fields

end

/-- `json.dumps(value, ensure_ascii=False, indent=2)`. -/
def dumps (value : Json) : PyStr :=
  dumpsAt 0 value

example : (object [(py "id", str (py "1")), (py "log", array [str [newline], bool true])]).dumps =
    py "\x7b\n  \"id\": \"1\",\n  \"log\": [\n    \"\\n\",\n    true\n  ]\n\x7d" := by
  decide

mutual

/-- The strings, keys and numerals of a value. -/
def texts : Json → List PyStr
  | str text => [text]
  | bool _ => []
  | number numeral => [numeral]
  | array items => itemTexts items
  | object fields => fieldTexts fields

def itemTexts : List Json → List PyStr
  | [] => []
  | item :: items => texts item ++ itemTexts items

def fieldTexts : List (PyStr × Json) → List PyStr
  | [] => []
  | (key, value) :: fields => key :: texts value ++ fieldTexts fields

end

end Json

/-! ## Written texts -/

theorem surrogateFree_escapeJson {c : CodePoint} (hc : ¬IsSurrogate c) :
    SurrogateFree (escapeJson c) := by
  rw [escapeJson]
  split_ifs with _ _ _ _ _ _ _ hcontrol
  · exact surrogateFree_py _
  · exact surrogateFree_py _
  · exact surrogateFree_py _
  · exact surrogateFree_py _
  · exact surrogateFree_py _
  · exact surrogateFree_py _
  · exact surrogateFree_py _
  · have hhigh := not_isSurrogate_hexDigit (c.val / 16) (by omega)
    have hlow := not_isSurrogate_hexDigit (c.val % 16) (by omega)
    simp [hhigh, hlow]
  · simpa using hc

theorem surrogateFree_quoteJson {text : PyStr} (htext : SurrogateFree text) :
    SurrogateFree (quoteJson text) := by
  have hescaped : SurrogateFree (text.flatMap escapeJson) := by
    intro c hc
    obtain ⟨c', hc', hmem⟩ := List.mem_flatMap.1 hc
    exact surrogateFree_escapeJson (htext c' hc') c hmem
  simp [quoteJson, hescaped]

theorem surrogateFree_indentedLine (level : ℕ) : SurrogateFree (indentedLine level) := by
  rw [indentedLine, surrogateFree_cons]
  constructor
  · exact not_isSurrogate_ord _
  · intro c hc
    rw [List.eq_of_mem_replicate hc]
    exact not_isSurrogate_ord _

theorem surrogateFree_layOut (level : ℕ) {opening closing : PyStr}
    (hopening : SurrogateFree opening) (hclosing : SurrogateFree closing)
    {pieces : List PyStr} (hpieces : ∀ piece ∈ pieces, SurrogateFree piece) :
    SurrogateFree (layOut level opening closing pieces) := by
  have hseparator : SurrogateFree (py "," ++ indentedLine (level + 1)) := by
    simp [surrogateFree_indentedLine]
  have hjoined := hseparator.intercalate hpieces
  rw [layOut]
  split_ifs
  · simp [hopening, hclosing]
  · simp [hopening, hclosing, surrogateFree_indentedLine, hjoined]

namespace Json

mutual

/-- What is written of a value holds no surrogates if its texts hold none. -/
theorem surrogateFree_dumpsAt (level : ℕ) (value : Json)
    (htexts : ∀ text ∈ value.texts, SurrogateFree text) :
    SurrogateFree (value.dumpsAt level) := by
  cases value with
  | str text => exact surrogateFree_quoteJson (htexts text (List.mem_singleton_self text))
  | bool value =>
      rw [dumpsAt]
      split_ifs <;> exact surrogateFree_py _
  | number numeral => exact htexts numeral (List.mem_singleton_self numeral)
  | array items =>
      rw [texts] at htexts
      exact surrogateFree_layOut level (surrogateFree_py _) (surrogateFree_py _)
        (surrogateFree_dumpsItems (level + 1) items htexts)
  | object fields =>
      rw [texts] at htexts
      exact surrogateFree_layOut level (surrogateFree_py _) (surrogateFree_py _)
        (surrogateFree_dumpsFields (level + 1) fields htexts)

theorem surrogateFree_dumpsItems (level : ℕ) (items : List Json)
    (htexts : ∀ text ∈ itemTexts items, SurrogateFree text) :
    ∀ piece ∈ dumpsItems level items, SurrogateFree piece := by
  cases items with
  | nil => exact nofun
  | cons item items =>
      rw [itemTexts, List.forall_mem_append] at htexts
      rw [dumpsItems, List.forall_mem_cons]
      constructor
      · exact surrogateFree_dumpsAt level item htexts.1
      · exact surrogateFree_dumpsItems level items htexts.2

theorem surrogateFree_dumpsFields (level : ℕ) (fields : List (PyStr × Json))
    (htexts : ∀ text ∈ fieldTexts fields, SurrogateFree text) :
    ∀ piece ∈ dumpsFields level fields, SurrogateFree piece := by
  cases fields with
  | nil => exact nofun
  | cons field fields =>
      obtain ⟨key, value⟩ := field
      rw [fieldTexts, List.forall_mem_append, List.forall_mem_cons] at htexts
      obtain ⟨⟨hkey, hvalue⟩, hrest⟩ := htexts
      rw [dumpsFields, List.forall_mem_cons]
      constructor
      · have hquoted := surrogateFree_quoteJson hkey
        have hwritten := surrogateFree_dumpsAt level value hvalue
        simp [hquoted, hwritten]
      · exact surrogateFree_dumpsFields level fields hrest

end

end Json

end IcpcVerify.Python
