import IcpcVerify.Compare
import IcpcVerify.Core.ItemGrammar

/-!
# The lists of comparison flags

An accepted list is items one after the other, a switch alone or a tolerance with the
text of its value.  The last item that sets a tolerance decides it, so that a list
after another overrides it field by field.
-/

namespace IcpcVerify.Compare

open IcpcVerify.Python
open IcpcVerify.ItemGrammar

variable {rt : Runtime}

/-- A switch, or a tolerance with a text that `float` accepts. -/
inductive FlagItem (rt : Runtime) where
  | switch (flag : PyStr) (hflag : flag ∈ boolFlags)
  | tolerance (flag text : PyStr) (value : PyFloat) (hflag : flag ∈ toleranceFlags)
      (hvalue : rt.parseFloat text = some value)

namespace FlagItem

def written : FlagItem rt → List PyStr
  | switch flag _ => [flag]
  | tolerance flag text _ _ _ => [flag, text]

/-- Whether the item is the switch of this name. -/
def isSwitch (name : PyStr) : FlagItem rt → Bool
  | switch flag _ => flag = name
  | tolerance .. => false

/-- The value of a tolerance with one of these names. -/
def setting (names : List PyStr) : FlagItem rt → Option PyFloat
  | switch .. => none
  | tolerance flag _ value _ _ => if flag ∈ names then some value else none

def apply (flags : CompareFlags) : FlagItem rt → CompareFlags
  | switch flag _ => setBool flag flags
  | tolerance flag _ value _ _ => setTolerance flag value flags

end FlagItem

/-- The flags that set the absolute tolerance. -/
def absoluteFlags : List PyStr :=
  [py "float_tolerance", py "float_absolute_tolerance"]

/-- The flags that set the relative tolerance. -/
def relativeFlags : List PyStr :=
  [py "float_tolerance", py "float_relative_tolerance"]

/-! ## The parser reads items -/

theorem not_mem_boolFlags_of_toleranceFlag {flag : PyStr} (hflag : flag ∈ toleranceFlags) :
    flag ∉ boolFlags := by
  have hdisjoint : ∀ flag ∈ toleranceFlags, flag ∉ boolFlags := by decide
  exact hdisjoint flag hflag

theorem parseItems_switch {flag : PyStr} (hflag : flag ∈ boolFlags) (rest : List PyStr)
    (flags : CompareFlags) :
    parseItems rt (flag :: rest) flags = parseItems rt rest (setBool flag flags) := by
  cases rest with
  | nil => simp only [parseItems, if_pos hflag]
  | cons value rest => rw [parseItems, if_pos hflag]

theorem parseItems_tolerance {flag text : PyStr} {value : PyFloat}
    (hflag : flag ∈ toleranceFlags) (hvalue : rt.parseFloat text = some value)
    (rest : List PyStr) (flags : CompareFlags) :
    parseItems rt (flag :: text :: rest) flags =
      parseItems rt rest (setTolerance flag value flags) := by
  rw [parseItems, if_neg (not_mem_boolFlags_of_toleranceFlag hflag), if_pos hflag, hvalue]

/-- An accepted list that is not empty starts with an item. -/
theorem exists_item_of_parseItems {items : List PyStr} {flags flags' : CompareFlags}
    (hitems : items ≠ []) (haccepted : parseItems rt items flags = .ok flags') :
    ∃ (item : FlagItem rt) (rest : List PyStr), items = item.written ++ rest := by
  obtain ⟨flag, rest, rfl⟩ := List.exists_cons_of_ne_nil hitems
  by_cases hbool : flag ∈ boolFlags
  · exact ⟨.switch flag hbool, rest, rfl⟩
  by_cases htolerance : flag ∈ toleranceFlags
  · cases rest with
    | nil => simp [parseItems, hbool, htolerance] at haccepted
    | cons text rest =>
        rw [parseItems, if_neg hbool, if_pos htolerance] at haccepted
        cases hvalue : rt.parseFloat text with
        | none => simp [hvalue] at haccepted
        | some value => exact ⟨.tolerance flag text value htolerance hvalue, rest, rfl⟩
  · cases rest <;> simp [parseItems, hbool, htolerance] at haccepted

theorem parseItems_readsItems (rt : Runtime) :
    ReadsItems (@FlagItem.written rt) FlagItem.apply (parseItems rt) where
  written_ne_nil item := by cases item <;> simp [FlagItem.written]
  done flags := by rw [parseItems]
  round item rest flags := by
    cases item with
    | switch flag hflag => exact parseItems_switch hflag rest flags
    | tolerance flag text value hflag hvalue => exact parseItems_tolerance hflag hvalue rest flags
  starts items flags flags' := exists_item_of_parseItems

theorem parseCompareFlags_eq_ok_iff (items : List PyStr) (flags : CompareFlags) :
    parseCompareFlags rt items = .ok flags ↔
      ∃ read : List (FlagItem rt), read.flatMap FlagItem.written = items ∧
        read.foldl FlagItem.apply .initial = flags :=
  (parseItems_readsItems rt).read_eq_ok_iff items .initial flags

/-! ## What an item sets -/

theorem caseSensitive_apply (flags : CompareFlags) (item : FlagItem rt) :
    (item.apply flags).caseSensitive =
      (item.isSwitch (py "case_sensitive") || flags.caseSensitive) := by
  cases item with
  | switch flag hflag =>
      by_cases hname : flag = py "case_sensitive" <;>
        simp [FlagItem.apply, FlagItem.isSwitch, setBool, hname]
  | tolerance flag text value hflag hvalue =>
      simp only [FlagItem.apply, FlagItem.isSwitch, setTolerance]
      split_ifs <;> rfl

theorem spaceChangeSensitive_apply (flags : CompareFlags) (item : FlagItem rt) :
    (item.apply flags).spaceChangeSensitive =
      (item.isSwitch (py "space_change_sensitive") || flags.spaceChangeSensitive) := by
  cases item with
  | switch flag hflag =>
      have hnames : flag = py "case_sensitive" ∨ flag = py "space_change_sensitive" := by
        simpa [boolFlags] using hflag
      have hdistinct : py "case_sensitive" ≠ py "space_change_sensitive" := by decide
      rcases hnames with rfl | rfl
      · simp [FlagItem.apply, FlagItem.isSwitch, setBool, hdistinct]
      · simp [FlagItem.apply, FlagItem.isSwitch, setBool, hdistinct.symm]
  | tolerance flag text value hflag hvalue =>
      simp only [FlagItem.apply, FlagItem.isSwitch, setTolerance]
      split_ifs <;> rfl

theorem floatAbsoluteTolerance_apply (flags : CompareFlags) (item : FlagItem rt) :
    (item.apply flags).floatAbsoluteTolerance =
      (item.setting absoluteFlags).or flags.floatAbsoluteTolerance := by
  cases item with
  | switch flag hflag =>
      simp only [FlagItem.apply, FlagItem.setting, setBool]
      split_ifs <;> rfl
  | tolerance flag text value hflag hvalue =>
      simp only [FlagItem.apply, FlagItem.setting, setTolerance, absoluteFlags,
        List.mem_cons, List.not_mem_nil, or_false]
      split_ifs <;> rfl

theorem floatRelativeTolerance_apply (flags : CompareFlags) (item : FlagItem rt) :
    (item.apply flags).floatRelativeTolerance =
      (item.setting relativeFlags).or flags.floatRelativeTolerance := by
  cases item with
  | switch flag hflag =>
      simp only [FlagItem.apply, FlagItem.setting, setBool]
      split_ifs <;> rfl
  | tolerance flag text value hflag hvalue =>
      simp only [FlagItem.apply, FlagItem.setting, setTolerance, relativeFlags,
        List.mem_cons, List.not_mem_nil, or_false]
      split_ifs <;> rfl

/-! ## The grammar -/

/-- The flags that a list of items stands for. -/
structure SetBy (items : List (FlagItem rt)) (flags : CompareFlags) : Prop where
  caseSensitive : flags.caseSensitive = true ↔
    ∃ item ∈ items, item.isSwitch (py "case_sensitive") = true
  spaceChangeSensitive : flags.spaceChangeSensitive = true ↔
    ∃ item ∈ items, item.isSwitch (py "space_change_sensitive") = true
  absolute : flags.floatAbsoluteTolerance =
    (items.filterMap (FlagItem.setting absoluteFlags)).getLast?
  relative : flags.floatRelativeTolerance =
    (items.filterMap (FlagItem.setting relativeFlags)).getLast?

/-- `later` where it sets a field, and `flags` elsewhere. -/
def CompareFlags.overriddenBy (flags later : CompareFlags) : CompareFlags where
  caseSensitive := later.caseSensitive || flags.caseSensitive
  spaceChangeSensitive := later.spaceChangeSensitive || flags.spaceChangeSensitive
  floatAbsoluteTolerance := later.floatAbsoluteTolerance.or flags.floatAbsoluteTolerance
  floatRelativeTolerance := later.floatRelativeTolerance.or flags.floatRelativeTolerance

theorem foldl_apply (items : List (FlagItem rt)) (flags : CompareFlags) :
    items.foldl FlagItem.apply flags =
      ⟨items.any (FlagItem.isSwitch (py "case_sensitive")) || flags.caseSensitive,
        items.any (FlagItem.isSwitch (py "space_change_sensitive")) ||
          flags.spaceChangeSensitive,
        (items.filterMap (FlagItem.setting absoluteFlags)).getLast?.or
          flags.floatAbsoluteTolerance,
        (items.filterMap (FlagItem.setting relativeFlags)).getLast?.or
          flags.floatRelativeTolerance⟩ := by
  rw [← view_foldl_switch caseSensitive_apply items flags,
    ← view_foldl_switch spaceChangeSensitive_apply items flags,
    ← view_foldl_setting floatAbsoluteTolerance_apply items flags,
    ← view_foldl_setting floatRelativeTolerance_apply items flags]

theorem setBy_foldl_apply (items : List (FlagItem rt)) :
    SetBy items (items.foldl FlagItem.apply .initial) := by
  rw [foldl_apply]
  constructor <;> simp [CompareFlags.initial]

theorem foldl_apply_eq_overriddenBy (items : List (FlagItem rt)) (flags : CompareFlags) :
    items.foldl FlagItem.apply flags =
      flags.overriddenBy (items.foldl FlagItem.apply .initial) := by
  rw [foldl_apply, foldl_apply items .initial]
  simp [CompareFlags.overriddenBy, CompareFlags.initial]

/-- The parser accepts what is written with items and raises its own error otherwise,
the items decide the flags, and a list after another overrides it. -/
theorem parseCompareFlags_grammar (rt : Runtime) (items : List PyStr) :
    ((∃ flags, parseCompareFlags rt items = .ok flags) ↔
        ∃ read : List (FlagItem rt), read.flatMap FlagItem.written = items) ∧
      (∀ exc, parseCompareFlags rt items = .error exc → exc.kind = .compareFlag) ∧
      (∀ flags, parseCompareFlags rt items = .ok flags →
        ∀ read : List (FlagItem rt), read.flatMap FlagItem.written = items →
          SetBy read flags) ∧
      ∀ flags later more, parseCompareFlags rt items = .ok flags →
        parseCompareFlags rt later = .ok more →
          parseCompareFlags rt (items ++ later) = .ok (flags.overriddenBy more) := by
  refine ⟨?_, fun exc hraised => parseItems_raises hraised, ?_, ?_⟩
  · simp only [parseCompareFlags_eq_ok_iff]
    constructor
    · rintro ⟨flags, read, hread, -⟩
      exact ⟨read, hread⟩
    · rintro ⟨read, hread⟩
      exact ⟨_, read, hread, rfl⟩
  · intro flags haccepted read hread
    have hmeans := (parseCompareFlags_eq_ok_iff items _).2 ⟨read, hread, rfl⟩
    rw [← Except.ok.inj (hmeans.symm.trans haccepted)]
    exact setBy_foldl_apply read
  · intro flags later more haccepted hlater
    obtain ⟨read, rfl, rfl⟩ := (parseCompareFlags_eq_ok_iff items flags).1 haccepted
    obtain ⟨readLater, rfl, rfl⟩ := (parseCompareFlags_eq_ok_iff later more).1 hlater
    rw [← foldl_apply_eq_overriddenBy, ← List.foldl_append, ← List.flatMap_append]
    exact (parseCompareFlags_eq_ok_iff _ _).2 ⟨read ++ readLater, rfl, rfl⟩

example :
    parseCompareFlags Runtime.ascii
        [py "float_tolerance", py "1", py "case_sensitive", py "float_relative_tolerance",
          py "0.5"] =
      .ok ⟨true, false, some (.finite 1), some (.finite (1 / 2))⟩ := by
  decide +kernel

end IcpcVerify.Compare
