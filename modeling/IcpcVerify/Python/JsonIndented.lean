import IcpcVerify.Python.JsonFile

/-!
# Indented JSON is read back

What `json.dumps(value, ensure_ascii=False, indent=2)` writes is a text of the value: blanks
between the tokens, and strings whose escapes stand for what was escaped.  Nothing is lost,
surrogate pairs included.
-/

namespace IcpcVerify.Python

variable {rt : Runtime}

/-! ## Values -/

mutual

/-- What a written value is read as, its numerals as the scanner reads them. -/
inductive Denotes (rt : Runtime) : Json → JsonValue → Prop
  | str (text : PyStr) : Denotes rt (.str text) (.str text)
  | bool (value : Bool) : Denotes rt (.bool value) (.bool value)
  | number {numeral : PyStr} {value : JsonValue} (hnumeral : Renders rt value numeral)
      (hprintable : PrintableText numeral) : Denotes rt (.number numeral) value
  | array {items : List Json} {values : List JsonValue} (hitems : DenotesItems rt items values) :
      Denotes rt (.array items) (.list values)
  | object {fields : List (PyStr × Json)} {entries : List (PyStr × JsonValue)}
      (hfields : DenotesFields rt fields entries) :
      Denotes rt (.object fields) (.dict (collectEntries entries))

inductive DenotesItems (rt : Runtime) : List Json → List JsonValue → Prop
  | nil : DenotesItems rt [] []
  | cons {item : Json} {value : JsonValue} {items : List Json} {values : List JsonValue}
      (hitem : Denotes rt item value) (hitems : DenotesItems rt items values) :
      DenotesItems rt (item :: items) (value :: values)

inductive DenotesFields (rt : Runtime) : List (PyStr × Json) → List (PyStr × JsonValue) → Prop
  | nil : DenotesFields rt [] []
  | cons {key : PyStr} {field : Json} {value : JsonValue} {fields : List (PyStr × Json)}
      {entries : List (PyStr × JsonValue)} (hfield : Denotes rt field value)
      (hfields : DenotesFields rt fields entries) :
      DenotesFields rt ((key, field) :: fields) ((key, value) :: entries)

end

theorem DenotesItems.map {Item : Type} {write : Item → Json} {value : Item → JsonValue}
    {items : List Item} (hitems : ∀ item ∈ items, Denotes rt (write item) (value item)) :
    DenotesItems rt (items.map write) (items.map value) := by
  induction items with
  | nil => exact .nil
  | cons item items ih =>
      obtain ⟨hitem, hrest⟩ := List.forall_mem_cons.1 hitems
      exact .cons hitem (ih hrest)

/-- A dictionary whose keys differ has its entries as they come. -/
theorem collectEntries_of_nodup {entries : List (PyStr × JsonValue)}
    (hkeys : (entries.map Prod.fst).Nodup) : collectEntries entries = entries :=
  @Dictionary.foldl_set_of_nodup _ _ _ entries [] hkeys

/-- An object whose keys differ denotes its entries. -/
theorem Denotes.object_of_nodup {fields : List (PyStr × Json)}
    {entries : List (PyStr × JsonValue)} (hkeys : (entries.map Prod.fst).Nodup)
    (hfields : DenotesFields rt fields entries) : Denotes rt (.object fields) (.dict entries) := by
  have hobject := Denotes.object hfields
  rwa [collectEntries_of_nodup hkeys] at hobject

/-! ## Layout -/

theorem jsonBlank_indentedLine (level : ℕ) : JsonBlank (indentedLine level) := by
  intro c hc
  rcases List.mem_cons.1 hc with rfl | hspace
  · decide
  · rw [List.eq_of_mem_replicate hspace]
    decide

theorem layOut_of_ne_nil (level : ℕ) (opening closing : PyStr) {pieces : List PyStr}
    (hne : pieces ≠ []) :
    layOut level opening closing pieces =
      opening ++ (indentedLine (level + 1) ++
        (List.intercalate (comma :: indentedLine (level + 1)) pieces ++
          (indentedLine level ++ closing))) := by
  rw [layOut, if_neg hne]
  simp only [List.append_assoc]
  rfl

theorem renders_layOut_list (level : ℕ) {values : List JsonValue} {pieces : List PyStr}
    (hpieces : List.Forall₂ (Renders rt) values pieces) :
    Renders rt (.list values) (layOut level (py "[") (py "]") pieces) := by
  cases hpieces with
  | nil => exact .emptyList jsonBlank_nil
  | cons hvalue hrest =>
      rw [layOut_of_ne_nil _ _ _ (List.cons_ne_nil _ _)]
      exact renders_list (.cons hvalue hrest) (jsonBlank_indentedLine _)
        (jsonBlank_indentedLine _) (jsonBlank_indentedLine _)

theorem renders_layOut_dict (level : ℕ) {entries : List (PyStr × JsonValue)}
    {pieces : List PyStr} (hpieces : List.Forall₂ (RendersEntry rt) entries pieces) :
    Renders rt (.dict (collectEntries entries)) (layOut level (py "\x7b") (py "\x7d") pieces) := by
  cases hpieces with
  | nil => exact .emptyDict jsonBlank_nil
  | cons hentry hrest =>
      rw [layOut_of_ne_nil _ _ _ (List.cons_ne_nil _ _)]
      exact renders_dict (.cons hentry hrest) (jsonBlank_indentedLine _)
        (jsonBlank_indentedLine _) (jsonBlank_indentedLine _)

theorem quoteJson_eq (text : PyStr) :
    quoteJson text = quote :: (text.flatMap escapeJson ++ [quote]) := by
  rfl

/-! ## Line ends -/

theorem carriageReturn_notMem_escapeJson (c : CodePoint) : carriageReturn ∉ escapeJson c := by
  rw [escapeJson]
  split_ifs with _ _ _ hreturn
  · decide
  · decide
  · decide
  · decide
  · decide
  · decide
  · decide
  · have hdigit : ∀ d < 16, carriageReturn ≠ hexDigit d := by
      intro d hd
      interval_cases d <;> decide
    have hhigh := hdigit (c.val / 16) (by omega)
    have hlow := hdigit (c.val % 16) (by omega)
    simp only [List.mem_append, List.mem_cons, hhigh, hlow, List.not_mem_nil, or_self, or_false]
    decide
  · exact fun hmem => hreturn (List.mem_singleton.1 hmem).symm

theorem carriageReturn_notMem_quoteJson (text : PyStr) : carriageReturn ∉ quoteJson text := by
  have hescaped : carriageReturn ∉ text.flatMap escapeJson := by
    intro hmem
    obtain ⟨c, -, hc⟩ := List.mem_flatMap.1 hmem
    exact carriageReturn_notMem_escapeJson c hc
  have hquote : carriageReturn ∉ py "\"" := by decide
  simp only [quoteJson, List.mem_append, hescaped, hquote, or_self, not_false_iff]

theorem carriageReturn_notMem_indentedLine (level : ℕ) :
    carriageReturn ∉ indentedLine level := by
  intro hmem
  rcases List.mem_cons.1 hmem with hnewline | hspace
  · exact absurd hnewline (by decide)
  · exact absurd (List.eq_of_mem_replicate hspace) (by decide)

theorem carriageReturn_notMem_layOut (level : ℕ) {opening closing : PyStr}
    (hopening : carriageReturn ∉ opening) (hclosing : carriageReturn ∉ closing)
    {pieces : List PyStr} (hpieces : ∀ piece ∈ pieces, carriageReturn ∉ piece) :
    carriageReturn ∉ layOut level opening closing pieces := by
  have hline := carriageReturn_notMem_indentedLine
  have hcomma : carriageReturn ∉ py "," := by decide
  have hjoined : carriageReturn ∉
      List.intercalate (py "," ++ indentedLine (level + 1)) pieces := by
    intro hmem
    have hall : ∀ c ∈ List.intercalate (py "," ++ indentedLine (level + 1)) pieces,
        c ≠ carriageReturn := by
      apply forall_mem_intercalate
      · intro c hc heq
        rw [heq, List.mem_append] at hc
        exact hc.elim hcomma (hline _)
      · exact fun piece hpiece c hc heq => hpieces piece hpiece (heq ▸ hc)
    exact hall carriageReturn hmem rfl
  rw [layOut]
  split_ifs
  · simp only [List.mem_append, hopening, hclosing, or_self, not_false_iff]
  · simp only [List.mem_append, hopening, hclosing, hline, hjoined, or_self, not_false_iff]

namespace Json

mutual

theorem renders_dumpsAt (level : ℕ) {json : Json} {value : JsonValue}
    (hdenotes : Denotes rt json value) : Renders rt value (json.dumpsAt level) := by
  cases hdenotes with
  | str text =>
      rw [dumpsAt, quoteJson_eq]
      exact renders_str (scanString_quoteJson text)
  | bool value =>
      cases value with
      | true => exact @renders_constant rt (py "true", .bool true) (by simp [jsonConstants])
      | false => exact @renders_constant rt (py "false", .bool false) (by simp [jsonConstants])
  | number hnumeral => exact hnumeral
  | array hitems =>
      rw [dumpsAt]
      exact renders_layOut_list level (renders_dumpsItems (level + 1) hitems)
  | object hfields =>
      rw [dumpsAt]
      exact renders_layOut_dict level (renders_dumpsFields (level + 1) hfields)

theorem renders_dumpsItems (level : ℕ) {items : List Json} {values : List JsonValue}
    (hitems : DenotesItems rt items values) :
    List.Forall₂ (Renders rt) values (dumpsItems level items) := by
  cases hitems with
  | nil => exact .nil
  | cons hitem hrest =>
      exact .cons (renders_dumpsAt level hitem) (renders_dumpsItems level hrest)

theorem renders_dumpsFields (level : ℕ) {fields : List (PyStr × Json)}
    {entries : List (PyStr × JsonValue)} (hfields : DenotesFields rt fields entries) :
    List.Forall₂ (RendersEntry rt) entries (dumpsFields level fields) := by
  cases hfields with
  | nil => exact .nil
  | @cons key field value fields entries hfield hrest =>
      refine .cons ⟨_, _, scanString_quoteJson key, renders_dumpsAt level hfield, ?_⟩
        (renders_dumpsFields level hrest)
      rw [quoteJson_eq]
      simp only [List.cons_append, List.append_assoc]
      rfl

end

/-! ## Files -/

mutual

/-- A carriage return is escaped wherever it stands. -/
theorem carriageReturn_notMem_dumpsAt (level : ℕ) {json : Json} {value : JsonValue}
    (hdenotes : Denotes rt json value) : carriageReturn ∉ json.dumpsAt level := by
  cases hdenotes with
  | str text => exact carriageReturn_notMem_quoteJson text
  | bool value =>
      cases value with
      | true => exact (by decide : carriageReturn ∉ py "true")
      | false => exact (by decide : carriageReturn ∉ py "false")
  | number hnumeral hprintable => exact hprintable.carriageReturn_notMem
  | array hitems =>
      exact carriageReturn_notMem_layOut level (by decide) (by decide)
        (carriageReturn_notMem_dumpsItems (level + 1) hitems)
  | object hfields =>
      exact carriageReturn_notMem_layOut level (by decide) (by decide)
        (carriageReturn_notMem_dumpsFields (level + 1) hfields)

theorem carriageReturn_notMem_dumpsItems (level : ℕ) {items : List Json}
    {values : List JsonValue} (hitems : DenotesItems rt items values) :
    ∀ piece ∈ dumpsItems level items, carriageReturn ∉ piece := by
  cases hitems with
  | nil => exact nofun
  | cons hitem hrest =>
      rw [dumpsItems, List.forall_mem_cons]
      exact ⟨carriageReturn_notMem_dumpsAt level hitem,
        carriageReturn_notMem_dumpsItems level hrest⟩

theorem carriageReturn_notMem_dumpsFields (level : ℕ) {fields : List (PyStr × Json)}
    {entries : List (PyStr × JsonValue)} (hfields : DenotesFields rt fields entries) :
    ∀ piece ∈ dumpsFields level fields, carriageReturn ∉ piece := by
  cases hfields with
  | nil => exact nofun
  | @cons key field value fields entries hfield hrest =>
      have hkey := carriageReturn_notMem_quoteJson key
      have hvalue := carriageReturn_notMem_dumpsAt level hfield
      have hcolon : carriageReturn ∉ py ": " := by decide
      rw [dumpsFields, List.forall_mem_cons]
      constructor
      · simp only [List.mem_append, hkey, hvalue, hcolon, or_self, not_false_iff]
      · exact carriageReturn_notMem_dumpsFields level hrest

end

/-- What is written to a file is read back from it. -/
theorem loadsFile_dumps {json : Json} {value : JsonValue} (hdenotes : Denotes rt json value)
    {content : Bytes} (hcontent : encodeUtf8 json.dumps = some content) :
    loadsFile rt content = some value := by
  rw [loadsFile, readText_encodeUtf8 hcontent (carriageReturn_notMem_dumpsAt 0 hdenotes),
    Option.bind_some]
  exact (renders_dumpsAt 0 hdenotes).loads

end Json

end IcpcVerify.Python
