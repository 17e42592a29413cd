import IcpcVerify.Python.JsonWriter
import IcpcVerify.Python.Utf8

/-!
# JSON files

`json.dump` writes nothing but printable ASCII.  A file with it can be encoded, is not
changed by the reading of text files, and gives back the value.
-/

namespace IcpcVerify.Python

variable {rt : Runtime}

/-! ## Printable texts -/

/-- A printable code point of ASCII. -/
def IsPrintable (c : CodePoint) : Prop :=
  0x20 ≤ c.val ∧ c.val ≤ 0x7E

instance (c : CodePoint) : Decidable (IsPrintable c) :=
  inferInstanceAs (Decidable (_ ∧ _))

/-- Nothing but printable ASCII. -/
def PrintableText (text : PyStr) : Prop :=
  ∀ c ∈ text, IsPrintable c

instance (text : PyStr) : Decidable (PrintableText text) :=
  List.decidableBAll IsPrintable text

theorem printableText_append {text text' : PyStr} (htext : PrintableText text)
    (htext' : PrintableText text') : PrintableText (text ++ text') :=
  List.forall_mem_append.2 ⟨htext, htext'⟩

theorem printableText_cons {c : CodePoint} {text : PyStr} (hc : IsPrintable c)
    (htext : PrintableText text) : PrintableText (c :: text) :=
  List.forall_mem_cons.2 ⟨hc, htext⟩

theorem printableText_nil : PrintableText [] := by
  simp [PrintableText]

theorem isPrintable_hexDigit {d : ℕ} (hd : d < 16) : IsPrintable (hexDigit d) := by
  interval_cases d <;> exact ⟨by decide, by decide⟩

theorem printableText_hexEscape (n : ℕ) : PrintableText (hexEscape n) := by
  have hdigit : ∀ k : ℕ, IsPrintable (hexDigit (k % 16)) :=
    fun k => isPrintable_hexDigit (Nat.mod_lt k (by decide))
  have hbackslash : IsPrintable backslash := ⟨by decide, by decide⟩
  have hletter : IsPrintable (ord 'u') := ⟨by decide, by decide⟩
  simp [hexEscape, PrintableText, hdigit, hbackslash, hletter]

theorem printableText_escapeAscii (c : CodePoint) : PrintableText (escapeAscii c) := by
  have hbackslash : IsPrintable backslash := ⟨by decide, by decide⟩
  rw [escapeAscii]
  cases hshort : shortEscape c with
  | some letter =>
      have hletter : IsPrintable letter := by
        rw [shortEscape] at hshort
        split_ifs at hshort with hself hn hr ht hf hb <;> obtain rfl := Option.some.inj hshort
        · rcases hself with rfl | rfl <;> exact ⟨by decide, by decide⟩
        all_goals exact ⟨by decide, by decide⟩
      exact printableText_cons hbackslash (printableText_cons hletter printableText_nil)
  | none =>
      simp only
      split_ifs with hprintable
      · exact printableText_cons hprintable printableText_nil
      · exact printableText_hexEscape _
      · exact printableText_append (printableText_hexEscape _) (printableText_hexEscape _)

theorem printableText_quoteAscii (text : PyStr) : PrintableText (quoteAscii text) := by
  have hquote : IsPrintable quote := ⟨by decide, by decide⟩
  have hescaped : PrintableText (text.flatMap escapeAscii) := by
    intro c hc
    obtain ⟨d, -, hd⟩ := List.mem_flatMap.1 hc
    exact printableText_escapeAscii d c hd
  exact printableText_cons hquote
    (printableText_append hescaped (printableText_cons hquote printableText_nil))

theorem isPrintable_of_isAsciiDigit {c : CodePoint} (hc : isAsciiDigit c = true) :
    IsPrintable c := by
  simp only [isAsciiDigit, decide_eq_true_eq] at hc
  rw [IsPrintable]
  omega

theorem printableText_takeWhile (text : PyStr) : PrintableText (text.takeWhile isAsciiDigit) :=
  fun _ hc => isPrintable_of_isAsciiDigit (List.mem_takeWhile_imp hc)

theorem printableText_scanSign {signs : List CodePoint} (hsigns : PrintableText signs)
    (text : PyStr) : PrintableText (scanSign signs text) := by
  cases text with
  | nil => exact printableText_nil
  | cons c text =>
      rw [scanSign]
      split_ifs with hc
      · exact printableText_cons (hsigns c hc) printableText_nil
      · exact printableText_nil

/-- A numeral is printable. -/
theorem printableText_of_scanNumber {text numeral rest : PyStr} {isFloat : Bool}
    (hscan : scanNumber text = some ((numeral, isFloat), rest)) : PrintableText numeral := by
  have hminus : PrintableText [ord '-'] := printableText_cons (by decide) printableText_nil
  have hsigns : PrintableText [ord '+', ord '-'] := printableText_cons (by decide) hminus
  have hwhole : ∀ text, PrintableText (scanWhole text) := by
    intro text
    cases text with
    | nil => exact printableText_nil
    | cons c text =>
        rw [scanWhole]
        split_ifs with hc
        · exact printableText_cons (hc ▸ by decide) printableText_nil
        · exact printableText_takeWhile _
  have hfraction : ∀ text, PrintableText (scanFraction text) := by
    intro text
    cases text with
    | nil => exact printableText_nil
    | cons c text =>
        rw [scanFraction]
        split_ifs with hc
        · exact printableText_cons (hc.1 ▸ by decide) (printableText_takeWhile _)
        · exact printableText_nil
  have hexponent : ∀ text, PrintableText (scanExponent text) := by
    intro text
    cases text with
    | nil => exact printableText_nil
    | cons c text =>
        simp only [scanExponent]
        split_ifs with hc
        · have hletter : IsPrintable c := by
            rcases hc.1 with rfl | rfl <;> decide
          exact printableText_cons hletter (printableText_append
            (printableText_scanSign hsigns _) (printableText_takeWhile _))
        · exact printableText_nil
  simp only [scanNumber] at hscan
  split_ifs at hscan
  obtain ⟨⟨rfl, -⟩, -⟩ := by simpa only [Option.some.injEq, Prod.mk.injEq] using hscan
  exact printableText_append (printableText_append (printableText_append
    (printableText_scanSign hminus _) (hwhole _)) (hfraction _)) (hexponent _)

theorem printableText_intercalate {sep : PyStr} {pieces : List PyStr} (hsep : PrintableText sep)
    (hpieces : ∀ piece ∈ pieces, PrintableText piece) :
    PrintableText (List.intercalate sep pieces) :=
  forall_mem_intercalate hsep hpieces

namespace JsonValue

mutual

theorem printableText_dumps (value : JsonValue) (hvalue : value.Printable rt) :
    PrintableText (value.dumps rt) := by
  have hsep : PrintableText (py ", ") := by decide
  cases value with
  | null => exact (by decide : PrintableText (py "null"))
  | bool value =>
      cases value with
      | true => exact (by decide : PrintableText (py "true"))
      | false => exact (by decide : PrintableText (py "false"))
  | int n => exact printableText_of_scanNumber (scanNumber_formatInt n)
  | float x =>
      cases x with
      | finite x => exact printableText_of_scanNumber hvalue.1
      | posInf => exact (by decide : PrintableText (py "Infinity"))
      | negInf => exact (by decide : PrintableText (py "-Infinity"))
      | nan => exact (by decide : PrintableText (py "NaN"))
  | str text => exact printableText_quoteAscii text
  | list items =>
      exact printableText_cons (by decide) (printableText_append
        (printableText_intercalate hsep (printableText_dumpsItems items hvalue))
        (printableText_cons (by decide) printableText_nil))
  | dict entries =>
      exact printableText_cons (by decide) (printableText_append
        (printableText_intercalate hsep (printableText_dumpsEntries entries hvalue))
        (printableText_cons (by decide) printableText_nil))

theorem printableText_dumpsItems (items : List JsonValue) (hitems : PrintableItems rt items) :
    ∀ piece ∈ dumpsItems rt items, PrintableText piece := by
  cases items with
  | nil => simp [dumpsItems]
  | cons item items =>
      rw [dumpsItems, List.forall_mem_cons]
      exact ⟨printableText_dumps item hitems.1, printableText_dumpsItems items hitems.2⟩

theorem printableText_dumpsEntries (entries : List (PyStr × JsonValue))
    (hentries : PrintableEntries rt entries) :
    ∀ piece ∈ dumpsEntries rt entries, PrintableText piece := by
  cases entries with
  | nil => simp [dumpsEntries]
  | cons entry entries =>
      obtain ⟨key, value⟩ := entry
      have hcolon : PrintableText (py ": ") := by decide
      rw [dumpsEntries, List.forall_mem_cons]
      constructor
      · exact printableText_append (printableText_append (printableText_quoteAscii key) hcolon)
          (printableText_dumps value hentries.1)
      · exact printableText_dumpsEntries entries hentries.2

end

end JsonValue

/-! ## Files -/

theorem PrintableText.surrogateFree {text : PyStr} (htext : PrintableText text) :
    SurrogateFree text := by
  intro c hc hsurrogate
  have hprintable := htext c hc
  rw [IsPrintable] at hprintable
  rw [IsSurrogate] at hsurrogate
  omega

theorem PrintableText.carriageReturn_notMem {text : PyStr} (htext : PrintableText text) :
    carriageReturn ∉ text := by
  intro hc
  exact absurd (htext carriageReturn hc) (by decide)

/-- `json.loads(path.read_text(encoding="utf-8"))`. -/
def loadsFile (rt : Runtime) (content : Bytes) : Option JsonValue :=
  (readText content).bind (loads rt)

/-- What is dumped to a file is read back from it. -/
theorem loadsFile_dumps {value : JsonValue} (hvalue : value.Printable rt) :
    ∃ content, encodeUtf8 (value.dumps rt) = some content ∧
      loadsFile rt content = some value.reread := by
  have htext := value.printableText_dumps hvalue
  obtain ⟨content, hcontent⟩ := Option.isSome_iff_exists.1
    ((encodeUtf8_isSome_iff _).2 htext.surrogateFree)
  refine ⟨content, hcontent, ?_⟩
  rw [loadsFile, readText_encodeUtf8 hcontent htext.carriageReturn_notMem, Option.bind_some,
    JsonValue.loads_dumps hvalue]

end IcpcVerify.Python
