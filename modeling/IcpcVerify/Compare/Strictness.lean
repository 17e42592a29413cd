import IcpcVerify.Compare.Reference
import IcpcVerify.Core.Tokens

/-!
# Strict and lenient comparison

With `space_change_sensitive` the texts are compared as wholes, without it token by
token.  On texts with the same separators the two come to the same as long as tokens
are compared as text.
-/

namespace IcpcVerify.Compare

open IcpcVerify.Python
open IcpcVerify.Tokens

/-! ## Tokens and lower case -/

theorem splitWhitespace_eq_tokens (s : PyStr) : splitWhitespace s = tokens isSpace s := by
  rw [splitWhitespace, tokens]
  apply List.filter_congr
  intro token _
  cases token <;> simp

/-- Lower-casing goes character by character, each to one or more, and neither creates
nor destroys white space. -/
def LowersByCharacter (rt : Runtime) : Prop :=
  ∃ f : CodePoint → PyStr, rt.lower = List.flatMap f ∧ (∀ c, f c ≠ []) ∧
    ∀ c, ∀ d ∈ f c, isSpace d = isSpace c

theorem LowersByCharacter.actsOnTokens {rt : Runtime} (hlower : LowersByCharacter rt) :
    ActsOnTokens isSpace rt.lower := by
  obtain ⟨f, hf, hne, hkeeps⟩ := hlower
  rw [hf]
  exact actsOnTokens_flatMap hne hkeeps

variable {rt : Runtime} {flags : CompareFlags}

theorem fold_actsOnTokens (hlower : ActsOnTokens isSpace rt.lower) :
    ActsOnTokens isSpace (compareExact.fold rt flags) := by
  cases hcase : flags.caseSensitive with
  | true =>
      convert actsOnTokens_id (p := isSpace) using 1
      funext text
      simp [compareExact.fold, hcase]
  | false =>
      convert hlower using 1
      funext text
      simp [compareExact.fold, hcase]

theorem sameText_iff_fold (t a : PyStr) :
    SameText rt flags t a ↔ compareExact.fold rt flags t = compareExact.fold rt flags a := by
  rw [SameText, compareExact.fold, compareExact.fold]
  split_ifs <;> rfl

theorem forall₂_sameText_iff (team answer : List PyStr) :
    List.Forall₂ (SameText rt flags) team answer ↔
      team.map (compareExact.fold rt flags) = answer.map (compareExact.fold rt flags) := by
  have hsame : SameText rt flags =
      fun t a => compareExact.fold rt flags t = compareExact.fold rt flags a := by
    ext t a
    exact sameText_iff_fold t a
  calc List.Forall₂ (SameText rt flags) team answer
      ↔ List.Forall₂ (· = ·) (team.map (compareExact.fold rt flags))
          (answer.map (compareExact.fold rt flags)) := by
        rw [hsame, List.forall₂_map_left_iff, List.forall₂_map_right_iff]
    _ ↔ team.map (compareExact.fold rt flags) = answer.map (compareExact.fold rt flags) := by
        rw [List.forall₂_eq_eq_eq]

/-! ## The comparison of whole texts -/

theorem compareExact_accepts_iff (team answer : PyStr) :
    (compareExact rt team answer flags).1 = true ↔
      compareExact.fold rt flags (rstrip newline team) =
        compareExact.fold rt flags (rstrip newline answer) := by
  rw [compareExact]
  split_ifs with heq
  · exact iff_of_true rfl heq
  · apply iff_of_false _ heq
    cases firstCharacterDifference rt 1 _ <;> exact Bool.false_ne_true

theorem isSpace_of_newline (c : CodePoint) (hc : (c == newline) = true) : isSpace c = true := by
  rw [beq_iff_eq.1 hc]
  decide

theorem tokens_rstrip (text : PyStr) :
    tokens isSpace (rstrip newline text) = tokens isSpace text :=
  tokens_rdropWhile isSpace_of_newline text

/-- Texts that agree as wholes agree token by token. -/
theorem forall₂_sameText_of_exact (hlower : ActsOnTokens isSpace rt.lower)
    {team answer : PyStr} (hexact : (compareExact rt team answer flags).1 = true) :
    List.Forall₂ (SameText rt flags) (splitWhitespace team) (splitWhitespace answer) := by
  have hfold : ActsOnTokens isSpace (compareExact.fold rt flags) := fold_actsOnTokens hlower
  rw [compareExact_accepts_iff] at hexact
  rw [forall₂_sameText_iff, splitWhitespace_eq_tokens, splitWhitespace_eq_tokens,
    ← tokens_rstrip team, ← tokens_rstrip answer, ← hfold.tokens_map, ← hfold.tokens_map,
    hexact]

/-- On texts of the same layout the converse holds too. -/
theorem compareExact_iff_of_layout (hlower : ActsOnTokens isSpace rt.lower)
    {team answer : PyStr} (hlayout : layout isSpace team = layout isSpace answer) :
    (compareExact rt team answer flags).1 = true ↔
      List.Forall₂ (SameText rt flags) (splitWhitespace team) (splitWhitespace answer) := by
  have hstripped : layout isSpace (rstrip newline team) = layout isSpace (rstrip newline answer) :=
    layout_rdropWhile isSpace_of_newline hlayout
  rw [compareExact_accepts_iff, (fold_actsOnTokens hlower).eq_iff_of_layout hstripped,
    tokens_rstrip, tokens_rstrip, forall₂_sameText_iff, splitWhitespace_eq_tokens,
    splitWhitespace_eq_tokens]

/-! ## Stricter flags -/

theorem compareTokens_iff_sameText (hfloats : flags.compareFloats = false)
    (team answer : PyStr) :
    (compareTokens rt team answer flags).1 = true ↔
      List.Forall₂ (SameText rt flags) (splitWhitespace team) (splitWhitespace answer) := by
  have htext : ∀ t a, tokenMatches rt flags t a = true ↔ SameText rt flags t a :=
    fun t a => tokenMatches_of_text rt flags (by simp [hfloats])
  rw [compareTokens_accepts_iff]
  simp only [htext]

theorem compareOutput_spaceChange (hlower : ActsOnTokens isSpace rt.lower)
    (hfloats : flags.compareFloats = false) {team answer : Bytes}
    (haccepted : (compareOutput rt team answer
      { flags with spaceChangeSensitive := true }).1 = true) :
    (compareOutput rt team answer { flags with spaceChangeSensitive := false }).1 = true := by
  rw [compareOutput, if_pos rfl] at haccepted
  rw [compareOutput, if_neg Bool.false_ne_true]
  apply (compareTokens_iff_sameText (by exact hfloats) _ _).2
  exact forall₂_sameText_of_exact hlower haccepted

theorem compareOutput_case (hfloats : flags.compareFloats = false) {team answer : Bytes}
    (haccepted : (compareOutput rt team answer
      { flags with caseSensitive := true }).1 = true) :
    (compareOutput rt team answer { flags with caseSensitive := false }).1 = true := by
  rw [compareOutput] at haccepted ⊢
  by_cases hspace : flags.spaceChangeSensitive = true
  · rw [if_pos (by exact hspace), compareExact_accepts_iff] at haccepted
    rw [if_pos (by exact hspace), compareExact_accepts_iff]
    have heq : rstrip newline (rt.decodeSurrogateescape team) =
        rstrip newline (rt.decodeSurrogateescape answer) := haccepted
    rw [heq]
  · rw [if_neg (by exact hspace)] at haccepted ⊢
    have hsame := (compareTokens_iff_sameText (by exact hfloats) _ _).1 haccepted
    apply (compareTokens_iff_sameText (by exact hfloats) _ _).2
    refine hsame.imp fun t a hta => ?_
    have heq : t = a := hta
    rw [heq]
    exact sameText_refl rt _ a

/-- Each strictness flag only narrows what is accepted, whatever the other one is. -/
theorem compareOutput_strictness (hlower : LowersByCharacter rt)
    (hfloats : flags.compareFloats = false) (team answer : Bytes) :
    ((compareOutput rt team answer { flags with spaceChangeSensitive := true }).1 = true →
        (compareOutput rt team answer { flags with spaceChangeSensitive := false }).1 = true) ∧
      ((compareOutput rt team answer { flags with caseSensitive := true }).1 = true →
        (compareOutput rt team answer { flags with caseSensitive := false }).1 = true) :=
  ⟨compareOutput_spaceChange hlower.actsOnTokens hfloats, compareOutput_case hfloats⟩

/-! ## The ASCII library -/

theorem ascii_lower_val {c : CodePoint} (hc : ord 'A' ≤ c ∧ c ≤ ord 'Z') :
    ∃ n, n < 26 ∧ c = chr (65 + n) := by
  have hlow : 65 ≤ c.val := hc.1
  have hhigh : c.val ≤ 90 := hc.2
  refine ⟨c.val - 65, by omega, ?_⟩
  apply Fin.ext
  simp only [chr, Fin.val_ofNat]
  omega

/-- `Runtime.ascii.lower` on one character. -/
def asciiLower (c : CodePoint) : CodePoint :=
  if ord 'A' ≤ c ∧ c ≤ ord 'Z' then chr (c.val + 32) else c

theorem ascii_lower (s : PyStr) : Runtime.ascii.lower s = s.map asciiLower :=
  rfl

/-- What lower case does not change about a character. -/
theorem asciiLower_keeps (c : CodePoint) :
    isSpace (asciiLower c) = isSpace c ∧ digitValue (asciiLower c) = digitValue c ∧
      (asciiLower c = ord '.' ↔ c = ord '.') := by
  rw [asciiLower]
  split_ifs with hupper
  · obtain ⟨n, hn, rfl⟩ := ascii_lower_val hupper
    interval_cases n <;> decide +kernel
  · exact ⟨rfl, rfl, Iff.rfl⟩

theorem ascii_lowersByCharacter : LowersByCharacter Runtime.ascii := by
  refine ⟨fun c => [asciiLower c], ?_, fun c => List.cons_ne_nil _ _, fun c d hd => ?_⟩
  · funext s
    rw [ascii_lower, List.map_eq_flatMap]
  · rw [List.mem_singleton.1 hd, (asciiLower_keeps c).1]

/-- `Yes` for `Yes` with both flags is accepted with either of them cleared. -/
theorem compareOutput_strictness_yes :
    (compareOutput Runtime.ascii [89, 101, 115, 10] [89, 101, 115]
        ⟨true, false, none, none⟩).1 = true ∧
      (compareOutput Runtime.ascii [89, 101, 115, 10] [89, 101, 115]
        ⟨false, true, none, none⟩).1 = true :=
  have hstrict : (compareOutput Runtime.ascii [89, 101, 115, 10] [89, 101, 115]
      ⟨true, true, none, none⟩).1 = true := by decide +kernel
  have hfloats : CompareFlags.compareFloats ⟨true, true, none, none⟩ = false := rfl
  have hnarrow := compareOutput_strictness ascii_lowersByCharacter hfloats
    [89, 101, 115, 10] [89, 101, 115]
  ⟨hnarrow.1 hstrict, hnarrow.2 hstrict⟩

end IcpcVerify.Compare
