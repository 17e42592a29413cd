import IcpcVerify.Python.Digits
import IcpcVerify.Python.Strip
import IcpcVerify.Timelimits

/-!
# The overshoot notation

A spec is a term, or two terms joined by a bar or an ampersand, with blanks allowed
around each term.  Its meaning is a function of the limit, which the parser computes on
the specs of the grammar and on no others.
-/

namespace IcpcVerify.Timelimits

open IcpcVerify.Python
open IcpcVerify.FallibleRun

/-! ## The grammar -/

/-- One digit or more. -/
def IsDigits (s : PyStr) : Prop :=
  s ≠ [] ∧ ∀ c ∈ s, (digitValue c).isSome = true

/-- Digits with an optional fraction. -/
def IsNumeral (s : PyStr) : Prop :=
  IsDigits s ∨ ∃ whole fraction, IsDigits whole ∧ IsDigits fraction ∧
    s = whole ++ ord '.' :: fraction

/-- A numeral followed immediately by its unit. -/
def IsTerm (s : PyStr) : Prop :=
  ∃ numeral unit, IsNumeral numeral ∧ (unit = ord 's' ∨ unit = ord '%') ∧ s = numeral ++ [unit]

/-- Such a text with blanks around it. -/
def Around (holds : PyStr → Prop) (s : PyStr) : Prop :=
  ∃ before inner after, Blank before ∧ Blank after ∧ holds inner ∧ s = before ++ inner ++ after

/-- One term, or two joined by one bar or one ampersand. -/
def IsSpec (spec : PyStr) : Prop :=
  Around IsTerm spec ∨ ∃ sep, (sep = ord '|' ∨ sep = ord '&') ∧ ∃ left right,
    Around IsTerm left ∧ Around IsTerm right ∧ spec = left ++ sep :: right

/-! ## What it means -/

/-- The number that a numeral writes. -/
inductive Writes : PyStr → ℚ → Prop where
  | whole {digits : PyStr} {values : List ℕ} (hread : ReadsAs digits values)
      (hne : digits ≠ []) : Writes digits (Decimal.numeral values [])
  | fraction {digits digits' : PyStr} {values values' : List ℕ} (hread : ReadsAs digits values)
      (hne : digits ≠ []) (hread' : ReadsAs digits' values') (hne' : digits' ≠ []) :
      Writes (digits ++ ord '.' :: digits') (Decimal.numeral values values')

/-- The overshoot of a term, by the limit. -/
inductive TermMeans : PyStr → (ℚ → ℚ) → Prop where
  | seconds {numeral : PyStr} {amount : ℚ} (hamount : Writes numeral amount) :
      TermMeans (numeral ++ [ord 's']) fun _ => amount
  | percent {numeral : PyStr} {amount : ℚ} (hamount : Writes numeral amount) :
      TermMeans (numeral ++ [ord '%']) fun limit => limit * amount / 100

/-- How two terms are joined. -/
inductive Joins : CodePoint → (ℚ → ℚ → ℚ) → Prop where
  | larger : Joins (ord '|') max
  | smaller : Joins (ord '&') min

/-- The overshoot of a spec, by the limit. -/
inductive SpecMeans : PyStr → (ℚ → ℚ) → Prop where
  | single {spec : PyStr} {f : ℚ → ℚ} (hterm : TermMeans (strip spec) f) : SpecMeans spec f
  | joined {left right : PyStr} {f g : ℚ → ℚ} {sep : CodePoint} {choose : ℚ → ℚ → ℚ}
      (hjoins : Joins sep choose) (hleft : TermMeans (strip left) f)
      (hright : TermMeans (strip right) g) :
      SpecMeans (left ++ sep :: right) fun limit => choose (f limit) (g limit)

/-! ## Characters of a term -/

theorem Writes.characters {numeral : PyStr} {amount : ℚ} (hwrites : Writes numeral amount) :
    ∀ c ∈ numeral, (digitValue c).isSome = true ∨ c = ord '.' := by
  cases hwrites with
  | whole hread => exact fun c hc => .inl (hread.isDigit c hc)
  | fraction hread _ hread' =>
      intro c hc
      rcases List.mem_append.1 hc with hwhole | hrest
      · exact .inl (hread.isDigit c hwhole)
      · rcases List.mem_cons.1 hrest with hdot | hfraction
        · exact .inr hdot
        · exact .inl (hread'.isDigit c hfraction)

theorem TermMeans.characters {term : PyStr} {f : ℚ → ℚ} (hterm : TermMeans term f) :
    ∀ c ∈ term, (digitValue c).isSome = true ∨ c ∈ [ord '.', ord 's', ord '%'] := by
  have hnumeral : ∀ {numeral : PyStr} {amount : ℚ}, Writes numeral amount → ∀ unit : CodePoint,
      unit ∈ [ord '.', ord 's', ord '%'] → ∀ c ∈ numeral ++ [unit],
        (digitValue c).isSome = true ∨ c ∈ [ord '.', ord 's', ord '%'] := by
    intro numeral amount hwrites unit hunit c hc
    rcases List.mem_append.1 hc with hmem | hmem
    · exact (hwrites.characters c hmem).imp_right fun hdot => by rw [hdot]; decide
    · right
      rwa [List.mem_singleton.1 hmem]
  cases hterm with
  | seconds hamount => exact hnumeral hamount _ (by decide)
  | percent hamount => exact hnumeral hamount _ (by decide)

theorem TermMeans.spaceless {term : PyStr} {f : ℚ → ℚ} (hterm : TermMeans term f) :
    Spaceless term := by
  intro c hc
  rcases hterm.characters c hc with hdigit | hother
  · exact isSpace_of_digit hdigit
  · have hall : Spaceless [ord '.', ord 's', ord '%'] := by decide
    exact hall c hother

theorem Joins.isSpace {sep : CodePoint} {choose : ℚ → ℚ → ℚ} (hjoins : Joins sep choose) :
    isSpace sep = false := by
  cases hjoins <;> decide

/-- What a term is made from has no joining character. -/
theorem TermMeans.not_mem {s : PyStr} {f : ℚ → ℚ} (hterm : TermMeans (strip s) f)
    {sep : CodePoint} {choose : ℚ → ℚ → ℚ} (hjoins : Joins sep choose) : sep ∉ s := by
  intro hmem
  rcases hterm.characters sep (mem_strip hmem hjoins.isSpace) with hdigit | hother
  · revert hdigit
    cases hjoins <;> decide
  · revert hother
    cases hjoins <;> decide

/-! ## Reading a term -/

theorem startsWithoutDigit_cons {c : CodePoint} (hc : digitValue c = none) (rest : PyStr) :
    StartsWithoutDigit (c :: rest) := by
  intro c' hc'
  obtain rfl : c = c' := by simpa using hc'
  exact hc

/-- Nothing follows the unit of a tight term. -/
theorem eq_nil_of_atEnd {s rest : PyStr} {c : CodePoint} (htight : Tight (s ++ c :: rest))
    (hend : atEnd rest = true) : rest = [] := by
  rcases of_decide_eq_true hend with hnil | hnewline
  · exact hnil
  · have hlast := htight.last newline (by rw [hnewline]; simp)
    exact absurd hlast (by decide)

/-- What `matchTerm` reads off a tight term is a numeral that the unit follows. -/
theorem writes_of_matchTerm {unit : CodePoint} {term : PyStr} (hterm : Tight term) {amount : ℚ}
    (hmatch : matchTerm unit term = some amount) :
    ∃ numeral, Writes numeral amount ∧ term = numeral ++ [unit] := by
  obtain ⟨digits, hsplit, hread, -⟩ := spanDigits_spec term
  rw [matchTerm] at hmatch
  rcases hspan : spanDigits term with ⟨_ | ⟨value, values⟩, _ | ⟨c, rest⟩⟩ <;>
    simp only [hspan, reduceCtorEq] at hmatch hsplit hread
  have hne : digits ≠ [] := by
    rw [Ne, readsAs_nil_iff hread]
    simp
  split_ifs at hmatch with hwhole hfraction
  · obtain ⟨rfl, hend⟩ := hwhole
    rw [hsplit] at hterm
    rw [eq_nil_of_atEnd hterm hend] at hsplit
    rw [← Option.some.inj hmatch]
    exact ⟨digits, .whole hread hne, hsplit⟩
  · subst hfraction
    obtain ⟨digits', hsplit', hread', -⟩ := spanDigits_spec rest
    rcases hspan' : spanDigits rest with ⟨_ | ⟨value', values'⟩, _ | ⟨c', rest'⟩⟩ <;>
      simp only [hspan', reduceCtorEq] at hmatch hsplit' hread'
    have hne' : digits' ≠ [] := by
      rw [Ne, readsAs_nil_iff hread']
      simp
    split_ifs at hmatch with hlast
    obtain ⟨rfl, hend⟩ := hlast
    rw [hsplit, hsplit', ← List.cons_append, ← List.append_assoc] at hterm
    rw [eq_nil_of_atEnd hterm hend] at hsplit'
    rw [← Option.some.inj hmatch]
    refine ⟨digits ++ ord '.' :: digits', .fraction hread hne hread' hne', ?_⟩
    rw [hsplit, hsplit']
    simp

/-- A numeral is read up to the unit that follows it. -/
theorem matchTerm_of_writes {unit : CodePoint} (hunit : digitValue unit = none)
    (hdot : unit ≠ ord '.') {numeral : PyStr} {amount : ℚ} (hwrites : Writes numeral amount) :
    matchTerm unit (numeral ++ [unit]) = some amount := by
  have hend : atEnd [] = true := by decide
  cases hwrites with
  | whole hread hne =>
      have hspan := spanDigits_of_readsAs hread (startsWithoutDigit_cons hunit [])
      obtain ⟨value, values, rfl⟩ := hread.exists_cons hne
      simp [matchTerm, hspan, hend]
  | @fraction digits digits' values values' hread hne hread' hne' =>
      have hpoint : digitValue (ord '.') = none := by decide
      have hspan := spanDigits_of_readsAs hread
        (startsWithoutDigit_cons hpoint (digits' ++ [unit]))
      have hspan' := spanDigits_of_readsAs hread' (startsWithoutDigit_cons hunit [])
      obtain ⟨value, values, rfl⟩ := hread.exists_cons hne
      obtain ⟨value', values', rfl⟩ := hread'.exists_cons hne'
      rw [List.append_assoc, List.cons_append]
      simp [matchTerm, hspan, hspan', hend, hdot.symm]

theorem matchTerm_eq_some_iff {unit : CodePoint} (hunit : digitValue unit = none)
    (hdot : unit ≠ ord '.') {term : PyStr} (hterm : Tight term) {amount : ℚ} :
    matchTerm unit term = some amount ↔
      ∃ numeral, Writes numeral amount ∧ term = numeral ++ [unit] := by
  constructor
  · exact writes_of_matchTerm hterm
  · rintro ⟨numeral, hwrites, rfl⟩
    exact matchTerm_of_writes hunit hdot hwrites

/-- The meaning of a tight term, by the unit it is read with. -/
theorem termMeans_iff {term : PyStr} (hterm : Tight term) {f : ℚ → ℚ} :
    TermMeans term f ↔
      (∃ amount, matchTerm (ord 's') term = some amount ∧ f = fun _ => amount) ∨
        ∃ amount, matchTerm (ord '%') term = some amount ∧
          f = fun limit => limit * amount / 100 := by
  have hseconds := @matchTerm_eq_some_iff (ord 's') (by decide) (by decide) term hterm
  have hpercent := @matchTerm_eq_some_iff (ord '%') (by decide) (by decide) term hterm
  simp only [hseconds, hpercent]
  constructor
  · intro hmeans
    cases hmeans with
    | seconds hwrites => exact .inl ⟨_, ⟨_, hwrites, rfl⟩, rfl⟩
    | percent hwrites => exact .inr ⟨_, ⟨_, hwrites, rfl⟩, rfl⟩
  · rintro (⟨amount, ⟨numeral, hwrites, rfl⟩, rfl⟩ | ⟨amount, ⟨numeral, hwrites, rfl⟩, rfl⟩)
    · exact .seconds hwrites
    · exact .percent hwrites

/-- A term is not read with both units. -/
theorem matchTerm_percent_of_seconds {term : PyStr} (hterm : Tight term) {amount : ℚ}
    (hseconds : matchTerm (ord 's') term = some amount) : matchTerm (ord '%') term = none := by
  by_contra hpercent
  obtain ⟨amount', hmatch⟩ := Option.ne_none_iff_exists'.1 hpercent
  obtain ⟨numeral, -, hsplit⟩ := writes_of_matchTerm hterm hseconds
  obtain ⟨numeral', -, hsplit'⟩ := writes_of_matchTerm hterm hmatch
  have hunits := (List.append_inj' (hsplit.symm.trans hsplit') rfl).2
  exact absurd hunits (by decide)

variable {rt : Runtime} {limit : ℚ}

/-- A tight term is converted by its meaning. -/
theorem termToSeconds_eq_ok_iff {term : PyStr} (hterm : Tight term) {seconds : ℚ} :
    termToSeconds rt term limit = .ok seconds ↔ ∃ f, TermMeans term f ∧ f limit = seconds := by
  simp only [termToSeconds, termMeans_iff hterm]
  cases hseconds : matchTerm (ord 's') term with
  | some amount => simp [matchTerm_percent_of_seconds hterm hseconds]
  | none => cases matchTerm (ord '%') term <;> simp

/-! ## Reading a spec -/

theorem splitOn_eq_pair {sep : CodePoint} {left right : PyStr} (hleft : sep ∉ left)
    (hright : sep ∉ right) : splitOn sep (left ++ sep :: right) = [left, right] := by
  have hparts : ∀ part ∈ [left, right], sep ∉ part := by simp [hleft, hright]
  have hjoined : List.intercalate [sep] [left, right] = left ++ sep :: right := by
    simp [List.intercalate]
  have hsplit := List.splitOn_intercalate sep hparts (by simp)
  rw [hjoined] at hsplit
  exact hsplit

theorem combine_eq_ok_iff {overshootSpec spec : PyStr} {sep : CodePoint} {choose : ℚ → ℚ → ℚ}
    (hjoins : Joins sep choose) {overshoot : ℚ} :
    overshootOf.combine rt limit overshootSpec spec sep choose = .ok overshoot ↔
      ∃ left right f g, spec = left ++ sep :: right ∧ TermMeans (strip left) f ∧
        TermMeans (strip right) g ∧ choose (f limit) (g limit) = overshoot := by
  rw [overshootOf.combine]
  constructor
  · intro hcombined
    split at hcombined
    · next first second hterms =>
      obtain ⟨amount, hamount, hrest⟩ := bind_eq_ok_iff.1 hcombined
      obtain ⟨amount', hamount', hchosen⟩ := bind_eq_ok_iff.1 hrest
      obtain ⟨left, rest, hsplit, rfl, hmap⟩ := List.map_eq_cons_iff.1 hterms
      obtain ⟨right, none, rfl, rfl, hnil⟩ := List.map_eq_cons_iff.1 hmap
      rw [List.map_eq_nil_iff.1 hnil] at hsplit
      obtain ⟨f, hf, rfl⟩ := (termToSeconds_eq_ok_iff (strip_tight left)).1 hamount
      obtain ⟨g, hg, rfl⟩ := (termToSeconds_eq_ok_iff (strip_tight right)).1 hamount'
      refine ⟨left, right, f, g, ?_, hf, hg, Except.ok.inj hchosen⟩
      have hjoined : List.intercalate [sep] (splitOn sep spec) = spec :=
        List.intercalate_splitOn sep
      rw [hsplit] at hjoined
      rw [← hjoined]
      simp [List.intercalate]
    · cases hcombined
  · rintro ⟨left, right, f, g, rfl, hf, hg, rfl⟩
    rw [splitOn_eq_pair (hf.not_mem hjoins) (hg.not_mem hjoins), List.map_cons, List.map_cons,
      List.map_nil]
    dsimp only
    rw [(termToSeconds_eq_ok_iff (strip_tight left)).2 ⟨f, hf, rfl⟩,
      (termToSeconds_eq_ok_iff (strip_tight right)).2 ⟨g, hg, rfl⟩]
    rfl

/-- A joining character of a spec joins its terms, and occurs once. -/
theorem SpecMeans.joined_of_mem {spec : PyStr} {h : ℚ → ℚ} (hmeans : SpecMeans spec h)
    {sep : CodePoint} {choose : ℚ → ℚ → ℚ} (hjoins : Joins sep choose) (hmem : sep ∈ spec) :
    ∃ left right f g, spec = left ++ sep :: right ∧ TermMeans (strip left) f ∧
      TermMeans (strip right) g ∧ h = fun limit => choose (f limit) (g limit) := by
  cases hmeans with
  | single hterm => exact absurd hmem (hterm.not_mem hjoins)
  | @joined left right f g sep' choose' hjoins' hleft hright =>
      rcases List.mem_append.1 hmem with hmem | hmem
      · exact absurd hmem (hleft.not_mem hjoins)
      · rcases List.mem_cons.1 hmem with rfl | hmem
        · have hsame : choose = choose' := by
            cases hjoins <;> cases hjoins' <;> rfl
          exact ⟨left, right, f, g, rfl, hleft, hright, by rw [hsame]⟩
        · exact absurd hmem (hright.not_mem hjoins)

/-- Two joined terms are computed by their meaning. -/
theorem combine_eq_ok_iff_specMeans {overshootSpec spec : PyStr} {sep : CodePoint}
    {choose : ℚ → ℚ → ℚ} (hjoins : Joins sep choose) (hmem : sep ∈ spec) {overshoot : ℚ} :
    overshootOf.combine rt limit overshootSpec spec sep choose = .ok overshoot ↔
      ∃ h, SpecMeans spec h ∧ h limit = overshoot := by
  rw [combine_eq_ok_iff hjoins]
  constructor
  · rintro ⟨left, right, f, g, rfl, hf, hg, rfl⟩
    exact ⟨_, .joined hjoins hf hg, rfl⟩
  · rintro ⟨h, hmeans, rfl⟩
    obtain ⟨left, right, f, g, hsplit, hf, hg, rfl⟩ := hmeans.joined_of_mem hjoins hmem
    exact ⟨left, right, f, g, hsplit, hf, hg, rfl⟩

/-- A tight spec is computed by its meaning. -/
theorem overshootOf_eq_ok_iff {overshootSpec spec : PyStr} (hspec : Tight spec)
    {overshoot : ℚ} :
    overshootOf rt limit overshootSpec spec = .ok overshoot ↔
      ∃ h, SpecMeans spec h ∧ h limit = overshoot := by
  rw [overshootOf]
  split_ifs with hboth hbar hampersand
  · simp only [false_iff]
    rintro ⟨h, hmeans, -⟩
    obtain ⟨left, right, f, g, rfl, hf, hg, -⟩ := hmeans.joined_of_mem .larger hboth.1
    have hother := hboth.2
    simp only [List.mem_append, List.mem_cons, hf.not_mem .smaller, hg.not_mem .smaller, or_false,
      false_or] at hother
    exact absurd hother (by decide)
  · exact combine_eq_ok_iff_specMeans .larger hbar
  · exact combine_eq_ok_iff_specMeans .smaller hampersand
  · rw [termToSeconds_eq_ok_iff hspec]
    constructor
    · rintro ⟨f, hf, rfl⟩
      refine ⟨f, .single ?_, rfl⟩
      rwa [strip_of_tight hspec]
    · rintro ⟨h, hmeans, rfl⟩
      cases hmeans with
      | single hterm =>
          rw [strip_of_tight hspec] at hterm
          exact ⟨h, hterm, rfl⟩
      | joined hjoins =>
          cases hjoins with
          | larger => exact absurd (by simp) hbar
          | smaller => exact absurd (by simp) hampersand

/-- Blanks around a spec do not change its meaning. -/
theorem specMeans_strip_iff {spec : PyStr} {h : ℚ → ℚ} :
    SpecMeans (strip spec) h ↔ SpecMeans spec h := by
  constructor
  · intro hmeans
    obtain ⟨before, after, hbefore, hafter, hpadded⟩ := exists_padding spec
    generalize hstripped : strip spec = stripped at hmeans hpadded
    cases hmeans with
    | single hterm =>
        apply SpecMeans.single
        rwa [← hstripped, strip_of_tight (strip_tight spec)] at hterm
    | @joined left right f g sep choose hjoins hleft hright =>
        have hspec : spec = (before ++ left) ++ sep :: (right ++ after) := by
          rw [hpadded]
          simp
        rw [hspec]
        refine .joined hjoins ?_ ?_
        · rwa [strip_blank_append hbefore]
        · rwa [strip_append_blank right hafter]
  · intro hmeans
    cases hmeans with
    | single hterm =>
        apply SpecMeans.single
        rwa [strip_of_tight (strip_tight spec)]
    | @joined left right f g sep choose hjoins hleft hright =>
        rw [strip_around left right hjoins.isSpace]
        refine .joined hjoins ?_ ?_
        · rwa [strip_dropWhile]
        · rwa [strip_rdropWhile]

theorem TermMeans.ne_nil {term : PyStr} {f : ℚ → ℚ} (hterm : TermMeans term f) : term ≠ [] := by
  cases hterm <;> simp

theorem SpecMeans.strip_ne_nil {spec : PyStr} {h : ℚ → ℚ} (hmeans : SpecMeans spec h) :
    strip spec ≠ [] := by
  cases hmeans with
  | single hterm => exact hterm.ne_nil
  | @joined left right f g sep choose hjoins =>
      exact List.ne_nil_of_mem (mem_strip (by simp) hjoins.isSpace)

/-- The limits of a spec, by its meaning. -/
theorem makeTimeLimits_eq_ok_iff (hlimit : 0 < limit) {spec : PyStr} {limits : TimeLimits} :
    makeTimeLimits rt limit spec = .ok limits ↔
      ∃ h, SpecMeans spec h ∧ limits = ⟨limit, h limit, limit + h limit⟩ := by
  rw [makeTimeLimits_ok_iff]
  simp only [overshootOf_eq_ok_iff (strip_tight spec), specMeans_strip_iff]
  constructor
  · rintro ⟨-, -, _, ⟨h, hmeans, rfl⟩, rfl⟩
    exact ⟨h, hmeans, rfl⟩
  · rintro ⟨h, hmeans, rfl⟩
    exact ⟨hlimit, hmeans.strip_ne_nil, h limit, ⟨h, hmeans, rfl⟩, rfl⟩

/-! ## Errors -/

/-- An `OvershootSpecError`. -/
def IsSpecError (exc : PyError) : Prop :=
  ∃ message, exc = overshootSpecError message

theorem termToSeconds_failsOnly (term : PyStr) :
    FailsOnly IsSpecError (termToSeconds rt term limit) := by
  rw [termToSeconds]
  split
  · exact failsOnly_ok _
  · split
    · exact failsOnly_ok _
    · exact failsOnly_error ⟨_, rfl⟩

theorem combine_failsOnly (overshootSpec spec : PyStr) (sep : CodePoint) (choose : ℚ → ℚ → ℚ) :
    FailsOnly IsSpecError (overshootOf.combine rt limit overshootSpec spec sep choose) := by
  rw [overshootOf.combine]
  split
  · rw [failsOnly_bind_iff]
    refine ⟨termToSeconds_failsOnly _, fun first _ => ?_⟩
    rw [failsOnly_bind_iff]
    exact ⟨termToSeconds_failsOnly _, fun second _ => failsOnly_ok _⟩
  · exact failsOnly_error ⟨_, rfl⟩

theorem makeTimeLimits_failsOnly (spec : PyStr) :
    FailsOnly IsSpecError (makeTimeLimits rt limit spec) := by
  rw [makeTimeLimits]
  split_ifs
  · exact failsOnly_error ⟨_, rfl⟩
  · exact failsOnly_error ⟨_, rfl⟩
  · rw [failsOnly_bind_iff]
    refine ⟨?_, fun overshoot _ => failsOnly_ok _⟩
    rw [overshootOf]
    split_ifs
    · exact failsOnly_error ⟨_, rfl⟩
    · exact combine_failsOnly _ _ _ _
    · exact combine_failsOnly _ _ _ _
    · exact termToSeconds_failsOnly _

/-! ## The grammar and the meaning -/

theorem isDigits_iff {s : PyStr} : IsDigits s ↔ s ≠ [] ∧ ∃ values, ReadsAs s values := by
  refine and_congr_right fun _ => ⟨exists_readsAs, ?_⟩
  rintro ⟨values, hread⟩
  exact hread.isDigit

theorem isNumeral_iff {s : PyStr} : IsNumeral s ↔ ∃ amount, Writes s amount := by
  simp only [IsNumeral, isDigits_iff]
  constructor
  · rintro (⟨hne, values, hread⟩ |
      ⟨whole, fraction, ⟨hne, values, hread⟩, ⟨hne', values', hread'⟩, rfl⟩)
    · exact ⟨_, .whole hread hne⟩
    · exact ⟨_, .fraction hread hne hread' hne'⟩
  · rintro ⟨amount, hwrites⟩
    cases hwrites with
    | whole hread hne => exact .inl ⟨hne, _, hread⟩
    | fraction hread hne hread' hne' =>
        exact .inr ⟨_, _, ⟨hne, _, hread⟩, ⟨hne', _, hread'⟩, rfl⟩

theorem isTerm_iff {s : PyStr} : IsTerm s ↔ ∃ f, TermMeans s f := by
  simp only [IsTerm, isNumeral_iff]
  constructor
  · rintro ⟨numeral, unit, ⟨amount, hwrites⟩, rfl | rfl, rfl⟩
    · exact ⟨_, .seconds hwrites⟩
    · exact ⟨_, .percent hwrites⟩
  · rintro ⟨f, hmeans⟩
    cases hmeans with
    | seconds hwrites => exact ⟨_, _, ⟨_, hwrites⟩, .inl rfl, rfl⟩
    | percent hwrites => exact ⟨_, _, ⟨_, hwrites⟩, .inr rfl, rfl⟩

theorem around_isTerm_iff {s : PyStr} : Around IsTerm s ↔ ∃ f, TermMeans (strip s) f := by
  rw [← isTerm_iff]
  constructor
  · rintro ⟨before, inner, after, hbefore, hafter, hterm, rfl⟩
    obtain ⟨f, hmeans⟩ := isTerm_iff.1 hterm
    rwa [strip_padded hbefore hafter hmeans.spaceless.tight]
  · intro hterm
    obtain ⟨before, after, hbefore, hafter, hs⟩ := exists_padding s
    exact ⟨before, strip s, after, hbefore, hafter, hterm, hs⟩

/-- The specs of the grammar are those with a meaning. -/
theorem isSpec_iff {spec : PyStr} : IsSpec spec ↔ ∃ h, SpecMeans spec h := by
  simp only [IsSpec, around_isTerm_iff]
  constructor
  · rintro (⟨f, hterm⟩ | ⟨sep, rfl | rfl, left, right, ⟨f, hleft⟩, ⟨g, hright⟩, rfl⟩)
    · exact ⟨f, .single hterm⟩
    · exact ⟨_, .joined .larger hleft hright⟩
    · exact ⟨_, .joined .smaller hleft hright⟩
  · rintro ⟨h, hmeans⟩
    cases hmeans with
    | single hterm => exact .inl ⟨h, hterm⟩
    | @joined left right f g sep choose hjoins hleft hright =>
        refine .inr ⟨sep, ?_, left, right, ⟨f, hleft⟩, ⟨g, hright⟩, rfl⟩
        cases hjoins with
        | larger => exact .inl rfl
        | smaller => exact .inr rfl

/-! ## Laws of the meaning -/

theorem Writes.nonneg {numeral : PyStr} {amount : ℚ} (hwrites : Writes numeral amount) :
    0 ≤ amount := by
  cases hwrites <;> exact Decimal.numeral_nonneg _ _

theorem TermMeans.nonneg {term : PyStr} {f : ℚ → ℚ} (hterm : TermMeans term f)
    (hlimit : 0 < limit) : 0 ≤ f limit := by
  cases hterm with
  | seconds hwrites => exact hwrites.nonneg
  | percent hwrites =>
      have hamount := hwrites.nonneg
      positivity

theorem TermMeans.monotone {term : PyStr} {f : ℚ → ℚ} (hterm : TermMeans term f) :
    Monotone f := by
  cases hterm with
  | seconds => exact monotone_const
  | percent hwrites =>
      intro limit limit' hle
      have hamount := hwrites.nonneg
      dsimp only
      gcongr

theorem SpecMeans.nonneg {spec : PyStr} {h : ℚ → ℚ} (hmeans : SpecMeans spec h)
    (hlimit : 0 < limit) : 0 ≤ h limit := by
  cases hmeans with
  | single hterm => exact hterm.nonneg hlimit
  | joined hjoins hleft hright =>
      cases hjoins with
      | larger => exact le_max_of_le_left (hleft.nonneg hlimit)
      | smaller => exact le_min (hleft.nonneg hlimit) (hright.nonneg hlimit)

theorem SpecMeans.monotone {spec : PyStr} {h : ℚ → ℚ} (hmeans : SpecMeans spec h) :
    Monotone h := by
  cases hmeans with
  | single hterm => exact hterm.monotone
  | joined hjoins hleft hright =>
      cases hjoins with
      | larger => exact hleft.monotone.max hright.monotone
      | smaller => exact hleft.monotone.min hright.monotone

/-- The order of two joined terms does not matter. -/
theorem SpecMeans.symm {left right : PyStr} {f g : ℚ → ℚ} {sep : CodePoint}
    {choose : ℚ → ℚ → ℚ} (hjoins : Joins sep choose) (hleft : TermMeans (strip left) f)
    (hright : TermMeans (strip right) g) :
    SpecMeans (right ++ sep :: left) fun limit => choose (f limit) (g limit) := by
  have hcomm : (fun limit => choose (f limit) (g limit)) =
      fun limit => choose (g limit) (f limit) := by
    funext limit
    cases hjoins with
    | larger => exact max_comm _ _
    | smaller => exact min_comm _ _
  rw [hcomm]
  exact .joined hjoins hright hleft

/-- What the limits of a spec satisfy, at a limit above zero. -/
structure OvershootLaws (rt : Runtime) (limit : ℚ) (spec : PyStr) : Prop where
  accepted : (∃ limits, makeTimeLimits rt limit spec = .ok limits) ↔ IsSpec spec
  refused : ¬IsSpec spec →
    ∃ message, makeTimeLimits rt limit spec = .error (overshootSpecError message)
  bounds : ∀ limits, makeTimeLimits rt limit spec = .ok limits →
    limits.limit = limit ∧ 0 ≤ limits.overshoot ∧
      limits.hardKill = limit + limits.overshoot ∧ limit ≤ limits.hardKill
  combined : ∀ sep choose, Joins sep choose → ∀ left right, spec = left ++ sep :: right →
    ∀ limits, makeTimeLimits rt limit spec = .ok limits →
      ∃ first second, makeTimeLimits rt limit left = .ok first ∧
        makeTimeLimits rt limit right = .ok second ∧
          limits.overshoot = choose first.overshoot second.overshoot
  symmetric : ∀ sep choose, Joins sep choose → ∀ left right, spec = left ++ sep :: right →
    ∀ limits, makeTimeLimits rt limit spec = .ok limits →
      makeTimeLimits rt limit (right ++ sep :: left) = .ok limits
  increasing : ∀ limit', limit < limit' → ∀ limits limits',
    makeTimeLimits rt limit spec = .ok limits → makeTimeLimits rt limit' spec = .ok limits' →
      limits.hardKill < limits'.hardKill

/-- The parts on both sides of a joining character are those that were joined. -/
theorem parts_of_joined {left right left' right' : PyStr} {f g : ℚ → ℚ} {sep : CodePoint}
    {choose : ℚ → ℚ → ℚ} (hjoins : Joins sep choose) (hleft : TermMeans (strip left') f)
    (hright : TermMeans (strip right') g)
    (hsplit : left ++ sep :: right = left' ++ sep :: right') : left = left' ∧ right = right' := by
  have hparts := (List.append_cons_inj_of_notMem (hleft.not_mem hjoins)
    (hright.not_mem hjoins)).1 hsplit.symm
  exact ⟨hparts.1.symm, hparts.2.2.symm⟩

/-- The parser accepts the grammar and nothing else, and its limits obey the laws. -/
theorem makeTimeLimits_laws (rt : Runtime) (hlimit : 0 < limit) (spec : PyStr) :
    OvershootLaws rt limit spec := by
  have haccepted : (∃ limits, makeTimeLimits rt limit spec = .ok limits) ↔ IsSpec spec := by
    simp only [makeTimeLimits_eq_ok_iff hlimit, isSpec_iff]
    constructor
    · rintro ⟨limits, h, hmeans, -⟩
      exact ⟨h, hmeans⟩
    · rintro ⟨h, hmeans⟩
      exact ⟨_, h, hmeans, rfl⟩
  constructor
  · exact haccepted
  · intro hspec
    cases hmade : makeTimeLimits rt limit spec with
    | ok limits => exact absurd (haccepted.1 ⟨limits, hmade⟩) hspec
    | error exc =>
        obtain ⟨message, rfl⟩ := makeTimeLimits_failsOnly spec exc hmade
        exact ⟨message, rfl⟩
  · intro limits hmade
    obtain ⟨h, hmeans, rfl⟩ := (makeTimeLimits_eq_ok_iff hlimit).1 hmade
    have hnonneg := hmeans.nonneg hlimit
    exact ⟨rfl, hnonneg, rfl, le_add_of_nonneg_right hnonneg⟩
  · rintro sep choose hjoins left right rfl limits hmade
    obtain ⟨h, hmeans, rfl⟩ := (makeTimeLimits_eq_ok_iff hlimit).1 hmade
    obtain ⟨left', right', f, g, hsplit, hleft, hright, rfl⟩ :=
      hmeans.joined_of_mem hjoins (by simp)
    obtain ⟨rfl, rfl⟩ := parts_of_joined hjoins hleft hright hsplit
    exact ⟨_, _, (makeTimeLimits_eq_ok_iff hlimit).2 ⟨f, .single hleft, rfl⟩,
      (makeTimeLimits_eq_ok_iff hlimit).2 ⟨g, .single hright, rfl⟩, rfl⟩
  · rintro sep choose hjoins left right rfl limits hmade
    obtain ⟨h, hmeans, rfl⟩ := (makeTimeLimits_eq_ok_iff hlimit).1 hmade
    obtain ⟨left', right', f, g, hsplit, hleft, hright, rfl⟩ :=
      hmeans.joined_of_mem hjoins (by simp)
    obtain ⟨rfl, rfl⟩ := parts_of_joined hjoins hleft hright hsplit
    exact (makeTimeLimits_eq_ok_iff hlimit).2 ⟨_, .symm hjoins hleft hright, rfl⟩
  · intro limit' hlt limits limits' hmade hmade'
    obtain ⟨h, hmeans, rfl⟩ := (makeTimeLimits_eq_ok_iff hlimit).1 hmade
    have hlater : makeTimeLimits rt limit' spec = .ok ⟨limit', h limit', limit' + h limit'⟩ :=
      (makeTimeLimits_eq_ok_iff (hlimit.trans hlt)).2 ⟨h, hmeans, rfl⟩
    rw [← Except.ok.inj (hlater.symm.trans hmade')]
    exact add_lt_add_of_lt_of_le hlt (hmeans.monotone hlt.le)

theorem makeTimeLimits_laws_default :
    OvershootLaws Runtime.ascii 1 (py "2s|20%") ∧
      makeTimeLimits Runtime.ascii 1 (py "2s|20%") = .ok ⟨1, 2, 3⟩ := by
  refine ⟨makeTimeLimits_laws Runtime.ascii one_pos (py "2s|20%"), ?_⟩
  decide +kernel

end IcpcVerify.Timelimits
