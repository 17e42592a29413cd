import IcpcVerify.Python.JsonReader

/-!
# Texts of JSON values

A value can be written in many ways: with blanks between the tokens, and with any escapes
in its strings.  However it is written, the reader finds it at the front of a text.
-/

namespace IcpcVerify.Python

/-! ## Strings -/

/-- Puts a piece in front of those that were scanned. -/
def addPiece (piece : StringPiece) (scanned : List StringPiece × PyStr) :
    List StringPiece × PyStr :=
  (piece :: scanned.1, scanned.2)

theorem scanPieces_quote (rest : PyStr) : scanPieces (quote :: rest) = some ([], rest) := by
  rw [scanPieces.eq_def]
  exact if_pos rfl

theorem backslash_ne_quote : backslash ≠ quote := by
  decide

/-- Code points that stand for themselves in a string. -/
def IsPlain (c : CodePoint) : Prop :=
  c ≠ quote ∧ c ≠ backslash ∧ ¬c.val < 0x20

theorem scanPieces_plain {c : CodePoint} (hc : IsPlain c) (rest : PyStr) :
    scanPieces (c :: rest) = (scanPieces rest).map (addPiece (.plain c)) := by
  obtain ⟨hquote, hbackslash, hcontrol⟩ := hc
  rw [scanPieces.eq_def]
  simp only [if_neg hquote, if_neg hbackslash, if_neg hcontrol]
  cases scanPieces rest <;> rfl

theorem scanPieces_letter {letter : CodePoint} (hletter : letter ≠ ord 'u') (rest : PyStr) :
    scanPieces (backslash :: letter :: rest) =
      (unescape letter).bind fun c => (scanPieces rest).map (addPiece (.plain c)) := by
  rw [scanPieces.eq_def]
  simp only [if_neg backslash_ne_quote, if_true, if_neg hletter]
  cases unescape letter <;> cases scanPieces rest <;> rfl

theorem scanPieces_escape (d₃ d₂ d₁ d₀ : CodePoint) (rest : PyStr) :
    scanPieces (backslash :: ord 'u' :: d₃ :: d₂ :: d₁ :: d₀ :: rest) =
      (hexNumber [d₃, d₂, d₁, d₀]).bind fun number =>
        (scanPieces rest).map (addPiece (.escape number)) := by
  rw [scanPieces, if_neg backslash_ne_quote, if_pos rfl, if_pos rfl]
  cases hexNumber [d₃, d₂, d₁, d₀] <;> cases scanPieces rest <;> rfl

/-- What follows a string does not change how it is read. -/
theorem scanPieces_append {text : PyStr} {pieces : List StringPiece} {rest : PyStr}
    (hscan : scanPieces text = some (pieces, rest)) (after : PyStr) :
    scanPieces (text ++ after) = some (pieces, rest ++ after) := by
  induction text using scanPieces.induct generalizing pieces with
  | case1 => cases hscan
  | case2 rest' =>
      rw [scanPieces_quote] at hscan
      obtain ⟨rfl, rfl⟩ := Prod.ext_iff.1 (Option.some.inj hscan)
      exact scanPieces_quote _
  | case3 => simp [scanPieces, backslash_ne_quote] at hscan
  | case4 d₃ d₂ d₁ d₀ rest' hne ih =>
      rw [scanPieces_escape] at hscan
      obtain ⟨number, hnumber, hscan⟩ := Option.bind_eq_some_iff.1 hscan
      obtain ⟨scanned, hrest, hadded⟩ := Option.map_eq_some_iff.1 hscan
      obtain ⟨rfl, rfl⟩ := Prod.ext_iff.1 hadded
      simp only [List.cons_append, scanPieces_escape, hnumber, Option.bind_some, ih hrest,
        Option.map_some]
      rfl
  | case5 rest' hshort hne =>
      rw [scanPieces, if_neg hne, if_pos rfl, if_pos rfl] at hscan
      · cases hscan
      · exact hshort
  | case6 letter rest' hletter hne ih =>
      rw [scanPieces_letter hletter] at hscan
      obtain ⟨c, hc, hscan⟩ := Option.bind_eq_some_iff.1 hscan
      obtain ⟨scanned, hrest, hadded⟩ := Option.map_eq_some_iff.1 hscan
      obtain ⟨rfl, rfl⟩ := Prod.ext_iff.1 hadded
      simp only [List.cons_append, scanPieces_letter hletter, hc, Option.bind_some, ih hrest,
        Option.map_some]
      rfl
  | case7 c rest' hquote hbackslash hcontrol =>
      rw [scanPieces.eq_def] at hscan
      simp only [if_neg hquote, if_neg hbackslash, if_pos hcontrol] at hscan
      cases hscan
  | case8 c rest' hquote hbackslash hcontrol ih =>
      rw [scanPieces_plain ⟨hquote, hbackslash, hcontrol⟩] at hscan
      obtain ⟨scanned, hrest, hadded⟩ := Option.map_eq_some_iff.1 hscan
      obtain ⟨rfl, rfl⟩ := Prod.ext_iff.1 hadded
      rw [List.cons_append, scanPieces_plain ⟨hquote, hbackslash, hcontrol⟩, ih hrest]
      rfl

theorem scanString_append {body text : PyStr} (hscan : scanString body = some (text, []))
    (after : PyStr) : scanString (body ++ after) = some (text, after) := by
  obtain ⟨⟨pieces, rest⟩, hpieces, hjoined⟩ := Option.bind_eq_some_iff.1 hscan
  obtain ⟨rfl, rfl⟩ : joinPieces pieces = text ∧ rest = [] :=
    Prod.ext_iff.1 (Option.some.inj hjoined)
  rw [scanString, scanPieces_append hpieces after]
  rfl

/-! ## Numerals -/

/-- Code points a numeral may go on with. -/
def continuesNumeral (c : CodePoint) : Bool :=
  isAsciiDigit c || [ord '.', ord 'e', ord 'E', ord '+', ord '-'].contains c

/-- A numeral in front of the text ends there. -/
def StopsNumeral (text : PyStr) : Prop :=
  ∀ c ∈ text.head?, continuesNumeral c = false

theorem takeWhile_append_of_stops {text after : PyStr} (hafter : StopsNumeral after) :
    (text ++ after).takeWhile isAsciiDigit = text.takeWhile isAsciiDigit := by
  induction text with
  | nil =>
      cases after with
      | nil => rfl
      | cons c after =>
          have hstop : continuesNumeral c = false := hafter c rfl
          have hdigit : isAsciiDigit c = false := (Bool.or_eq_false_iff.1 hstop).1
          rw [List.nil_append, List.takeWhile_cons, hdigit, if_neg Bool.false_ne_true,
            List.takeWhile_nil]
  | cons c text ih => rw [List.cons_append, List.takeWhile_cons, List.takeWhile_cons, ih]

theorem StopsNumeral.head_ne {c : CodePoint} {after : PyStr} (hafter : StopsNumeral (c :: after))
    {d : CodePoint} (hd : continuesNumeral d = true) : c ≠ d := by
  rintro rfl
  exact Bool.false_ne_true ((hafter c rfl).symm.trans hd)

theorem scanSign_append {signs : List CodePoint} (hsigns : signs.all continuesNumeral = true)
    {text after : PyStr} (hafter : StopsNumeral after) :
    scanSign signs (text ++ after) = scanSign signs text := by
  cases text with
  | cons c text => rfl
  | nil =>
      cases after with
      | nil => rfl
      | cons c after =>
          rw [List.nil_append, scanSign, scanSign, if_neg]
          intro hc
          exact hafter.head_ne (List.all_eq_true.1 hsigns c hc) rfl

theorem length_scanSign_le (signs : List CodePoint) (text : PyStr) :
    (scanSign signs text).length ≤ text.length := by
  cases text with
  | nil => rfl
  | cons c text =>
      rw [scanSign]
      split_ifs <;> simp

theorem scanWhole_append {text after : PyStr} (hafter : StopsNumeral after) :
    scanWhole (text ++ after) = scanWhole text := by
  cases text with
  | cons c text =>
      rw [List.cons_append, scanWhole, scanWhole, ← List.cons_append,
        takeWhile_append_of_stops hafter]
  | nil =>
      cases after with
      | nil => rfl
      | cons c after =>
          have htake : (c :: after).takeWhile isAsciiDigit = [] :=
            @takeWhile_append_of_stops [] _ hafter
          rw [List.nil_append, scanWhole, scanWhole, if_neg (hafter.head_ne (by decide)), htake]

theorem length_scanWhole_le (text : PyStr) : (scanWhole text).length ≤ text.length := by
  cases text with
  | nil => rfl
  | cons c text =>
      rw [scanWhole]
      split_ifs
      · simp
      · exact (List.takeWhile_prefix _).length_le

theorem scanFraction_append {text after : PyStr} (hafter : StopsNumeral after) :
    scanFraction (text ++ after) = scanFraction text := by
  cases text with
  | cons c text => rw [List.cons_append, scanFraction, scanFraction, takeWhile_append_of_stops hafter]
  | nil =>
      cases after with
      | nil => rfl
      | cons c after =>
          rw [List.nil_append, scanFraction, scanFraction, if_neg]
          exact fun hc => hafter.head_ne (by decide) hc.1

theorem length_scanFraction_le (text : PyStr) : (scanFraction text).length ≤ text.length := by
  cases text with
  | nil => rfl
  | cons c text =>
      rw [scanFraction]
      split_ifs
      · exact Nat.succ_le_succ (List.takeWhile_prefix _).length_le
      · simp

theorem scanExponent_append {text after : PyStr} (hafter : StopsNumeral after) :
    scanExponent (text ++ after) = scanExponent text := by
  cases text with
  | cons c text =>
      have hsigns : [ord '+', ord '-'].all continuesNumeral = true := by decide
      simp only [List.cons_append, scanExponent, scanSign_append hsigns hafter,
        List.drop_append_of_le_length (length_scanSign_le _ text),
        takeWhile_append_of_stops hafter]
  | nil =>
      cases after with
      | nil => rfl
      | cons c after =>
          have hlower : c ≠ ord 'e' := hafter.head_ne (by decide)
          have hupper : c ≠ ord 'E' := hafter.head_ne (by decide)
          simp [scanExponent, hlower, hupper]

theorem length_scanExponent_le (text : PyStr) : (scanExponent text).length ≤ text.length := by
  cases text with
  | nil => rfl
  | cons c text =>
      have hsign := length_scanSign_le [ord '+', ord '-'] text
      have hdigits := (List.takeWhile_prefix (l := text.drop
        (scanSign [ord '+', ord '-'] text).length) isAsciiDigit).length_le
      rw [List.length_drop] at hdigits
      simp only [scanExponent]
      split_ifs
      · rw [List.length_cons, List.length_append, List.length_cons]
        omega
      · simp

/-- What follows a numeral does not change how it is read. -/
theorem scanNumber_append {text after : PyStr} (hafter : StopsNumeral after) :
    scanNumber (text ++ after) =
      (scanNumber text).map fun scanned => (scanned.1, scanned.2 ++ after) := by
  have hsigns : [ord '-'].all continuesNumeral = true := by decide
  simp only [scanNumber, scanSign_append hsigns hafter,
    List.drop_append_of_le_length (length_scanSign_le _ text), scanWhole_append hafter,
    List.drop_append_of_le_length (length_scanWhole_le _), scanFraction_append hafter,
    List.drop_append_of_le_length (length_scanFraction_le _), scanExponent_append hafter,
    List.drop_append_of_le_length (length_scanExponent_le _)]
  split_ifs <;> rfl

/-! ## Words and numerals -/

theorem scanWhole_eq_nil {c : CodePoint} (hc : isAsciiDigit c = false) (rest : PyStr) :
    scanWhole (c :: rest) = [] := by
  have hzero : c ≠ ord '0' := by
    rintro rfl
    cases hc
  rw [scanWhole, if_neg hzero, List.takeWhile_cons, hc, if_neg Bool.false_ne_true]

theorem scanNumber_eq_none {text : PyStr}
    (hwhole : scanWhole (text.drop (scanSign [ord '-'] text).length) = []) :
    scanNumber text = none := by
  rw [scanNumber]
  exact if_pos hwhole

/-- No word is the beginning of a numeral. -/
theorem find_constants_of_scanNumber {text : PyStr} (hnumber : scanNumber text ≠ none) :
    (jsonConstants.find? fun constant => constant.1.isPrefixOf text) = none := by
  rw [List.find?_eq_none]
  intro constant hconstant hprefix
  obtain ⟨rest, rfl⟩ := List.isPrefixOf_iff_prefix.1 hprefix
  apply hnumber
  apply scanNumber_eq_none
  simp only [jsonConstants, List.mem_cons, List.not_mem_nil, or_false] at hconstant
  rcases hconstant with rfl | rfl | rfl | rfl | rfl | rfl <;> exact scanWhole_eq_nil rfl _

/-- What may follow a value inside a container. -/
def AfterValue (text : PyStr) : Prop :=
  ∀ c ∈ text.head?, isJsonSpace c = true ∨ c = comma ∨ c = closeBracket ∨ c = closeBrace

theorem AfterValue.stopsNumeral {text : PyStr} (htext : AfterValue text) : StopsNumeral text := by
  intro c hc
  rcases htext c hc with hspace | rfl | rfl | rfl
  · simp only [isJsonSpace, decide_eq_true_eq] at hspace
    rcases hspace with rfl | rfl | rfl | rfl <;> rfl
  · rfl
  · rfl
  · rfl

/-! ## The texts of a value -/

def JsonBlank (text : PyStr) : Prop :=
  ∀ c ∈ text, isJsonSpace c = true

theorem jsonBlank_nil : JsonBlank [] := by
  simp [JsonBlank]

/-- The text starts with what starts no container, no string and no blank. -/
def StartsScalar (text : PyStr) : Prop :=
  ∃ c rest, text = c :: rest ∧ isJsonSpace c = false ∧
    c ∉ [quote, openBracket, openBrace, closeBracket, byteOrderMark]

section Texts

variable (rt : Runtime)

mutual

/-- The texts that stand for a value. -/
inductive Renders : JsonValue → PyStr → Prop
  | scalar {value : JsonValue} {text : PyStr} (hstart : StartsScalar text)
      (hscan : ∀ after, AfterValue after → scanScalar rt (text ++ after) = some (value, after)) :
      Renders value text
  | str {text body : PyStr} (hscan : scanString body = some (text, [])) :
      Renders (.str text) (quote :: body)
  | emptyList {blank : PyStr} (hblank : JsonBlank blank) :
      Renders (.list []) (openBracket :: (blank ++ [closeBracket]))
  | list {items : List JsonValue} {inside : PyStr} (hitems : RendersItems items inside) :
      Renders (.list items) (openBracket :: inside)
  | emptyDict {blank : PyStr} (hblank : JsonBlank blank) :
      Renders (.dict []) (openBrace :: (blank ++ [closeBrace]))
  | dict {entries : List (PyStr × JsonValue)} {inside : PyStr}
      (hentries : RendersEntries entries inside) :
      Renders (.dict (collectEntries entries)) (openBrace :: inside)

/-- The texts of items, up to the closing bracket. -/
inductive RendersItems : List JsonValue → PyStr → Prop
  | last {item : JsonValue} {before text after : PyStr} (hbefore : JsonBlank before)
      (hitem : Renders item text) (hafter : JsonBlank after) :
      RendersItems [item] (before ++ (text ++ (after ++ [closeBracket])))
  | more {item : JsonValue} {items : List JsonValue} {before text after rest : PyStr}
      (hbefore : JsonBlank before) (hitem : Renders item text) (hafter : JsonBlank after)
      (hrest : RendersItems items rest) :
      RendersItems (item :: items) (before ++ (text ++ (after ++ comma :: rest)))

/-- The texts of entries, up to the closing brace. -/
inductive RendersEntries : List (PyStr × JsonValue) → PyStr → Prop
  | last {key : PyStr} {value : JsonValue} {before body mid between text after : PyStr}
      (hbefore : JsonBlank before) (hkey : scanString body = some (key, []))
      (hmid : JsonBlank mid) (hbetween : JsonBlank between) (hvalue : Renders value text)
      (hafter : JsonBlank after) :
      RendersEntries [(key, value)] (before ++ (quote :: (body ++ (mid ++ (colon ::
        (between ++ (text ++ (after ++ [closeBrace]))))))))
  | more {key : PyStr} {value : JsonValue} {entries : List (PyStr × JsonValue)}
      {before body mid between text after rest : PyStr} (hbefore : JsonBlank before)
      (hkey : scanString body = some (key, [])) (hmid : JsonBlank mid)
      (hbetween : JsonBlank between) (hvalue : Renders value text) (hafter : JsonBlank after)
      (hrest : RendersEntries entries rest) :
      RendersEntries ((key, value) :: entries) (before ++ (quote :: (body ++ (mid ++ (colon ::
        (between ++ (text ++ (after ++ comma :: rest))))))))

end

end Texts

/-! ## Every text is read as its value -/

theorem expect_cons (c : CodePoint) (rest : PyStr) : expect c (c :: rest) = some rest := by
  rw [expect, if_pos rfl]

theorem expect_of_ne {c d : CodePoint} (hne : d ≠ c) (rest : PyStr) :
    expect c (d :: rest) = none := by
  rw [expect, if_neg hne]

theorem skipSpace_blank {blank : PyStr} (hblank : JsonBlank blank) {c : CodePoint}
    (hc : isJsonSpace c = false) (rest : PyStr) :
    skipSpace (blank ++ c :: rest) = c :: rest := by
  rw [skipSpace, List.dropWhile_append_of_pos hblank, List.dropWhile_cons, hc,
    if_neg Bool.false_ne_true]

variable {rt : Runtime}

/-- A value starts with no blank, no closing bracket and no byte order mark. -/
theorem Renders.head {value : JsonValue} {text : PyStr} (hrenders : Renders rt value text) :
    ∃ c rest, text = c :: rest ∧ isJsonSpace c = false ∧ c ≠ closeBracket ∧
      c ≠ byteOrderMark := by
  cases hrenders with
  | scalar hstart =>
      obtain ⟨c, rest, rfl, hspace, hc⟩ := hstart
      simp only [List.mem_cons, not_or] at hc
      exact ⟨c, rest, rfl, hspace, hc.2.2.2.1, hc.2.2.2.2.1⟩
  | str => exact ⟨_, _, rfl, rfl, by decide⟩
  | emptyList => exact ⟨_, _, rfl, rfl, by decide⟩
  | list => exact ⟨_, _, rfl, rfl, by decide⟩
  | emptyDict => exact ⟨_, _, rfl, rfl, by decide⟩
  | dict => exact ⟨_, _, rfl, rfl, by decide⟩

theorem Renders.skipSpace_blank {value : JsonValue} {text : PyStr}
    (hrenders : Renders rt value text) {blank : PyStr} (hblank : JsonBlank blank)
    (after : PyStr) : skipSpace (blank ++ (text ++ after)) = text ++ after := by
  obtain ⟨c, rest, rfl, hc, -⟩ := hrenders.head
  exact Python.skipSpace_blank hblank hc _

theorem afterValue_blank {blank : PyStr} (hblank : JsonBlank blank) {c : CodePoint}
    (hc : c = comma ∨ c = closeBracket ∨ c = closeBrace) (rest : PyStr) :
    AfterValue (blank ++ c :: rest) := by
  cases blank with
  | nil =>
      rintro d ⟨⟩
      exact .inr hc
  | cons space blank =>
      rintro d ⟨⟩
      exact .inl (hblank space List.mem_cons_self)

/-- Items do not start with the bracket that would close them. -/
theorem RendersItems.expect_eq_none {items : List JsonValue} {inside : PyStr}
    (hrenders : RendersItems rt items inside) (after : PyStr) :
    expect closeBracket (skipSpace (inside ++ after)) = none := by
  cases hrenders with
  | last hbefore hitem =>
      obtain ⟨c, rest, rfl, hspace, hc, -⟩ := hitem.head
      simp only [List.append_assoc, List.cons_append, skipSpace_blank hbefore hspace,
        expect_of_ne hc]
  | more hbefore hitem =>
      obtain ⟨c, rest, rfl, hspace, hc, -⟩ := hitem.head
      simp only [List.append_assoc, List.cons_append, skipSpace_blank hbefore hspace,
        expect_of_ne hc]

theorem RendersEntries.expect_eq_none {entries : List (PyStr × JsonValue)} {inside : PyStr}
    (hrenders : RendersEntries rt entries inside) (after : PyStr) :
    expect closeBrace (skipSpace (inside ++ after)) = none := by
  have hquote : isJsonSpace quote = false := rfl
  have hne : quote ≠ closeBrace := by decide
  cases hrenders with
  | last hbefore =>
      simp only [List.append_assoc, List.cons_append, skipSpace_blank hbefore hquote,
        expect_of_ne hne]
  | more hbefore =>
      simp only [List.append_assoc, List.cons_append, skipSpace_blank hbefore hquote,
        expect_of_ne hne]

theorem comma_ne_closing : comma ≠ closeBracket ∧ comma ≠ closeBrace := by
  decide

theorem isJsonSpace_punctuation :
    isJsonSpace comma = false ∧ isJsonSpace closeBracket = false ∧
      isJsonSpace closeBrace = false ∧ isJsonSpace colon = false ∧ isJsonSpace quote = false := by
  decide

mutual

/-- With enough fuel the reader finds a value at the front of a text. -/
theorem Renders.scan {value : JsonValue} {text : PyStr} (hrenders : Renders rt value text)
    {fuel : ℕ} (hfuel : text.length < fuel) {after : PyStr} (hafter : AfterValue after) :
    scanValue rt fuel (text ++ after) = some (value, after) := by
  obtain ⟨fuel, rfl⟩ := Nat.exists_eq_add_one_of_ne_zero (Nat.ne_zero_of_lt hfuel)
  obtain ⟨-, hspaceBracket, hspaceBrace, -, -⟩ := isJsonSpace_punctuation
  have hbracket : openBracket ≠ quote := by decide
  have hbrace : openBrace ≠ quote ∧ openBrace ≠ openBracket := by decide
  cases hrenders with
  | scalar hstart hscan =>
      have hread := hscan after hafter
      obtain ⟨c, rest, rfl, -, hc⟩ := hstart
      simp only [List.mem_cons, List.not_mem_nil, or_false, not_or] at hc
      obtain ⟨hcQuote, hcBracket, hcBrace, -, -⟩ := hc
      rw [List.cons_append] at hread ⊢
      rw [scanValue, if_neg hcQuote, if_neg hcBracket, if_neg hcBrace, hread]
  | str hscan =>
      rw [List.cons_append, scanValue, if_pos rfl, scanString_append hscan]
      rfl
  | emptyList hblank =>
      simp only [List.cons_append, List.append_assoc, List.nil_append]
      rw [scanValue, if_neg hbracket, if_pos rfl, skipSpace_blank hblank hspaceBracket,
        expect_cons]
  | list hitems =>
      have hread := hitems.scan (Nat.lt_of_succ_lt_succ hfuel) after
      rw [List.cons_append, scanValue, if_neg hbracket, if_pos rfl, hitems.expect_eq_none, hread]
      rfl
  | emptyDict hblank =>
      simp only [List.cons_append, List.append_assoc, List.nil_append]
      rw [scanValue, if_neg hbrace.1, if_neg hbrace.2, if_pos rfl,
        skipSpace_blank hblank hspaceBrace, expect_cons]
  | dict hentries =>
      have hread := hentries.scan (Nat.lt_of_succ_lt_succ hfuel) after
      rw [List.cons_append, scanValue, if_neg hbrace.1, if_neg hbrace.2, if_pos rfl,
        hentries.expect_eq_none, hread]
      rfl

theorem RendersItems.scan {items : List JsonValue} {inside : PyStr}
    (hrenders : RendersItems rt items inside) {fuel : ℕ} (hfuel : inside.length < fuel)
    (after : PyStr) :
    scanItems rt fuel (skipSpace (inside ++ after)) = some (items, after) := by
  obtain ⟨fuel, rfl⟩ := Nat.exists_eq_add_one_of_ne_zero (Nat.ne_zero_of_lt hfuel)
  obtain ⟨hspaceComma, hspaceBracket, -⟩ := isJsonSpace_punctuation
  cases hrenders with
  | @last item before text blank hbefore hitem hafter =>
      simp only [List.length_append, List.length_singleton] at hfuel
      have hshort : text.length < fuel := by omega
      have hread := hitem.scan hshort (afterValue_blank hafter (.inr (.inl rfl)) after)
      simp only [List.append_assoc, List.singleton_append, hitem.skipSpace_blank hbefore]
      rw [scanItems, hread]
      simp only [Option.bind_eq_bind, Option.bind_some, skipSpace_blank hafter hspaceBracket,
        expect_cons]
      rfl
  | @more item items before text blank rest hbefore hitem hafter hrest =>
      simp only [List.length_append, List.length_cons] at hfuel
      have hshort : text.length < fuel ∧ rest.length < fuel := by omega
      have hread := hitem.scan hshort.1 (afterValue_blank hafter (.inl rfl) (rest ++ after))
      have hmore := hrest.scan hshort.2 after
      simp only [List.append_assoc, List.cons_append, hitem.skipSpace_blank hbefore]
      rw [scanItems, hread]
      simp only [Option.bind_eq_bind, Option.bind_some, skipSpace_blank hafter hspaceComma,
        expect_of_ne comma_ne_closing.1, expect_cons, hmore]
      rfl

theorem RendersEntries.scan {entries : List (PyStr × JsonValue)} {inside : PyStr}
    (hrenders : RendersEntries rt entries inside) {fuel : ℕ} (hfuel : inside.length < fuel)
    (after : PyStr) :
    scanEntries rt fuel (skipSpace (inside ++ after)) = some (entries, after) := by
  obtain ⟨fuel, rfl⟩ := Nat.exists_eq_add_one_of_ne_zero (Nat.ne_zero_of_lt hfuel)
  obtain ⟨hspaceComma, -, hspaceBrace, hspaceColon, hspaceQuote⟩ := isJsonSpace_punctuation
  cases hrenders with
  | @last key value before body mid between text blank hbefore hkey hmid hbetween hvalue hafter =>
      simp only [List.length_append, List.length_cons, List.length_nil] at hfuel
      have hshort : text.length < fuel := by omega
      have hread := hvalue.scan hshort (afterValue_blank hafter (.inr (.inr rfl)) after)
      simp only [List.append_assoc, List.cons_append, List.nil_append,
        skipSpace_blank hbefore hspaceQuote]
      rw [scanEntries]
      simp only [Option.bind_eq_bind, Option.bind_some, expect_cons, scanString_append hkey,
        skipSpace_blank hmid hspaceColon, hvalue.skipSpace_blank hbetween, hread,
        skipSpace_blank hafter hspaceBrace]
      rfl
  | @more key value entries before body mid between text blank rest hbefore hkey hmid hbetween
      hvalue hafter hrest =>
      simp only [List.length_append, List.length_cons] at hfuel
      have hshort : text.length < fuel ∧ rest.length < fuel := by omega
      have hread := hvalue.scan hshort.1 (afterValue_blank hafter (.inl rfl) (rest ++ after))
      have hmore := hrest.scan hshort.2 after
      simp only [List.append_assoc, List.cons_append, skipSpace_blank hbefore hspaceQuote]
      rw [scanEntries]
      simp only [Option.bind_eq_bind, Option.bind_some, expect_cons, scanString_append hkey,
        skipSpace_blank hmid hspaceColon, hvalue.skipSpace_blank hbetween, hread,
        skipSpace_blank hafter hspaceComma, expect_of_ne comma_ne_closing.2, hmore]
      rfl

end

/-- However a value is written, `json.loads` reads it. -/
theorem Renders.loads {value : JsonValue} {text : PyStr} (hrenders : Renders rt value text) :
    loads rt text = some value := by
  have hread : scanValue rt (text.length + 1) (text ++ []) = some (value, []) :=
    hrenders.scan (Nat.lt_succ_self text.length) nofun
  obtain ⟨c, rest, htext, hspace, -, hc⟩ := hrenders.head
  have hmark : text.head? ≠ some byteOrderMark := by
    rw [htext]
    exact fun heq => hc (Option.some.inj heq)
  have hskip : skipSpace text = text := by
    rw [htext, skipSpace, List.dropWhile_cons, hspace, if_neg Bool.false_ne_true]
  rw [List.append_nil] at hread
  rw [Python.loads, if_neg hmark, hskip, hread]
  rfl

end IcpcVerify.Python
