import IcpcVerify.Core.Dictionary
import IcpcVerify.Python.Integer

/-!
# Command lines

`argparse` for a parser whose options have long names and take one value each, in front
of everything that remains (`nargs=REMAINDER`).  Every error, and the help option, ends in
`SystemExit`, here `none`.
-/

namespace IcpcVerify.Python.Argparse

/-- `type` of an option. -/
inductive ArgType where
  | str
  | float
  | int
  deriving DecidableEq

inductive ArgValue where
  | str (text : PyStr)
  | float (x : PyFloat)
  | int (n : ℤ)
  deriving DecidableEq

namespace ArgValue

def asStr : ArgValue → Option PyStr
  | str text => some text
  | _ => none

def asFloat : ArgValue → Option PyFloat
  | float x => some x
  | _ => none

def asInt : ArgValue → Option ℤ
  | int n => some n
  | _ => none

end ArgValue

structure OptionSpec where
  name : PyStr
  type : ArgType

def dash : CodePoint := ord '-'
def dashes : PyStr := py "--"

/-! ## Options and arguments -/

/-- How a text on the command line is taken. -/
inductive Role where
  | argument
  /-- An option, with what follows an equals sign in the same text. -/
  | option (name : PyStr) (explicit : Option PyStr)
  | unknown
  deriving DecidableEq

/-- The text before and behind its first equals sign. -/
def splitEquals (text : PyStr) : PyStr × Option PyStr :=
  (text.takeWhile (· ≠ ord '='), (text.dropWhile (· ≠ ord '=')).tail?)

/-- `-` with digits, which may have a point before the last of them. -/
def isNegativeNumber (text : PyStr) : Bool :=
  match text with
  | [] => false
  | c :: rest =>
      let whole := spanDigits rest
      decide (c = dash) && ((whole.1 ≠ [] && atEnd whole.2) ||
        match whole.2 with
        | [] => false
        | dot :: rest =>
            let fraction := spanDigits rest
            dot = ord '.' && fraction.1 ≠ [] && atEnd fraction.2)
where
  /-- `$` also stands before a last newline. -/
  atEnd (text : PyStr) : Bool := text = [] ∨ text = [newline]

/-- The options a text can be short for. -/
def optionMatches (names : List PyStr) (text : PyStr) : List (PyStr × Option PyStr) :=
  if text[1]? = some dash then
    let (abbreviated, explicit) := splitEquals text
    (names.filter abbreviated.isPrefixOf).map fun name => (name, explicit)
  else
    names.filterMap fun name =>
      if name = text.take 2 then some (name, some (text.drop 2))
      else if text.isPrefixOf name then some (name, none)
      else none

/-- `_parse_optional`; `none` is an ambiguous option. -/
def role (names : List PyStr) (text : PyStr) : Option Role :=
  if text.head? ≠ some dash then some .argument
  else if text ∈ names then some (.option text none)
  else if text.length = 1 then some .argument
  else
    let (before, explicit) := splitEquals text
    if explicit.isSome ∧ before ∈ names then some (.option before explicit)
    else
      match optionMatches names text with
      | _ :: _ :: _ => none
      | [found] => some (.option found.1 found.2)
      | [] =>
          if isNegativeNumber text ∨ ord ' ' ∈ text then some .argument else some .unknown

/-! ## Parsing -/

section Parsing

variable (rt : Runtime) (options : List OptionSpec)

/-- `_get_value`; `none` is a `ValueError`. -/
def convert (type : ArgType) (text : PyStr) : Option ArgValue :=
  match type with
  | .str => some (.str text)
  | .float => (rt.parseFloat text).map .float
  | .int => (readInt rt text).toOption.map .int

abbrev Values := List (PyStr × ArgValue)

/-- `take_action` of an option with its value; the help option ends the program. -/
def store (values : Values) (name text : PyStr) : Option Values := do
  let option ← options.find? (·.name = name)
  let value ← convert rt option.type text
  return Dictionary.set name value values

/-- Takes options with their values; the first argument that belongs to no option starts
the remainder. -/
def consume (values : Values) : List (PyStr × Role) → Option (Values × List PyStr)
  | [] => some (values, [])
  | (_, .option name (some text)) :: rest => do
      let values ← store rt options values name text
      consume values rest
  | (_, .option name none) :: (text, .argument) :: rest => do
      let values ← store rt options values name text
      consume values rest
  | (text, .argument) :: rest => some (values, text :: rest.map Prod.fst)
  | _ => none

/-- The option strings of the parser. -/
def optionNames : List PyStr :=
  py "-h" :: py "--help" :: options.map OptionSpec.name

/-- `parse_args`, with all options required. -/
def parseArgs (argv : List PyStr) : Option (Values × List PyStr) := do
  let roles ← (argv.takeWhile (· ≠ dashes)).mapM fun text =>
    (role (optionNames options) text).map fun role => (text, role)
  let (values, remainder) ← consume rt options [] roles
  if options.all fun option => (values.lookup option.name).isSome then
    return (values, remainder ++ argv.dropWhile (· ≠ dashes))
  else none

end Parsing

/-! ## Options with their values in front of `--` -/

variable {rt : Runtime} {options : List OptionSpec}

/-- A text that is an argument to the parser, and does not end its options. -/
structure ArgumentText (names : List PyStr) (text : PyStr) : Prop where
  role : role names text = some .argument
  ne_dashes : text ≠ dashes

theorem argumentText_of_not_dash {names : List PyStr} {text : PyStr}
    (htext : text.head? ≠ some dash) : ArgumentText names text := by
  constructor
  · rw [role, if_pos htext]
  · rintro rfl
    exact htext rfl

theorem role_of_name {names : List PyStr} {name : PyStr} (hmem : name ∈ names)
    (hdash : name.head? = some dash) : role names name = some (.option name none) := by
  rw [role, if_neg (not_not.2 hdash), if_pos hmem]

/-- No option of the parser looks like a negative number. -/
def NoNumberOption (names : List PyStr) : Prop :=
  ∀ name ∈ names, name[1]?.bind digitValue = none

instance (names : List PyStr) : Decidable (NoNumberOption names) :=
  inferInstanceAs (Decidable (∀ name ∈ names, name[1]?.bind digitValue = none))

/-- A negative number is no option, although it starts like one. -/
theorem argumentText_of_negativeNumber {names : List PyStr} {d : ℕ} {rest : PyStr} (hd : d < 10)
    (hnames : NoNumberOption names)
    (hnumber : isNegativeNumber (dash :: digitChar d :: rest) = true)
    (hequals : ord '=' ∉ dash :: digitChar d :: rest) :
    ArgumentText names (dash :: digitChar d :: rest) := by
  have hdigit : digitValue (digitChar d) = some d := digitValue_digitChar hd
  have hsecond : ∀ name ∈ names, name[1]? ≠ some (digitChar d) := by
    intro name hname heq
    have hnone := hnames name hname
    rw [heq, Option.bind_some, hdigit] at hnone
    cases hnone
  have hmem : dash :: digitChar d :: rest ∉ names := fun hmem => hsecond _ hmem rfl
  have hlength : (dash :: digitChar d :: rest).length ≠ 1 := by simp
  have hnone : (splitEquals (dash :: digitChar d :: rest)).2 = none := by
    have hall : ∀ c ∈ dash :: digitChar d :: rest, decide (c ≠ ord '=') = true :=
      fun c hc => decide_eq_true fun heq => hequals (heq ▸ hc)
    rw [splitEquals, List.dropWhile_eq_nil_iff.2 hall]
    rfl
  have hdash : (dash :: digitChar d :: rest)[1]? ≠ some dash := by
    intro heq
    exact (digitChar_plain hd).2.1 (Option.some.inj heq)
  have hmatches : optionMatches names (dash :: digitChar d :: rest) = [] := by
    rw [optionMatches, if_neg hdash, List.filterMap_eq_nil_iff]
    intro name hname
    have htake : name ≠ (dash :: digitChar d :: rest).take 2 := by
      rintro rfl
      exact hsecond _ hname rfl
    rw [if_neg htake, if_neg]
    intro hprefix
    obtain ⟨tail, rfl⟩ := List.isPrefixOf_iff_prefix.1 hprefix
    exact hsecond _ hname rfl
  constructor
  · rw [role, if_neg (by simp), if_neg hmem, if_neg hlength]
    simp only [hnone, Option.isSome_none, hmatches, hnumber]
    simp
  · exact fun heq => (digitChar_plain hd).2.1 (List.cons.inj (List.cons.inj heq).2).1

theorem equals_notMem_digits {digits : List ℕ} (hdigits : ∀ d ∈ digits, d < 10) :
    ord '=' ∉ digits.map digitChar := by
  intro hmem
  obtain ⟨d, hd, heq⟩ := List.mem_map.1 hmem
  have hne : ∀ d < 10, digitChar d ≠ ord '=' := by
    intro d hd
    interval_cases d <;> decide
  exact hne d (hdigits d hd) heq

theorem spanDigits_digits {digits : List ℕ} (hdigits : ∀ d ∈ digits, d < 10) :
    spanDigits (digits.map digitChar) = (digits, []) := by
  have hend : StartsWithoutDigit [] := by simp [StartsWithoutDigit]
  simpa using spanDigits_append hdigits hend

section PrintedNumbers

variable {names : List PyStr} (hnames : NoNumberOption names)
include hnames

/-- A printed number, with its sign or without one. -/
theorem argumentText_signed (negative : Prop) [Decidable negative] {text : PyStr} {d : ℕ}
    {ds : List ℕ} {rest : PyStr} (hdigits : ∀ d' ∈ d :: ds, d' < 10)
    (htext : text = (d :: ds).map digitChar ++ rest)
    (hnumber : isNegativeNumber (dash :: text) = true) (hequals : ord '=' ∉ rest) :
    ArgumentText names ((if negative then py "-" else []) ++ text) := by
  have hd : d < 10 := hdigits d List.mem_cons_self
  have hnone : ord '=' ∉ dash :: text := by
    rw [htext, List.mem_cons, List.mem_append, not_or, not_or]
    exact ⟨by decide, equals_notMem_digits hdigits, hequals⟩
  subst htext
  split_ifs
  · exact argumentText_of_negativeNumber hd hnames hnumber hnone
  · apply argumentText_of_not_dash
    exact fun heq => (digitChar_plain hd).2.1 (Option.some.inj heq)

/-- Printed integers are arguments. -/
theorem argumentText_formatInt (n : ℤ) : ArgumentText names (formatInt n) := by
  have hdigits : ∀ d ∈ Decimal.digits n.natAbs, d < 10 := fun _ => Decimal.lt_ten_of_mem_digits
  have hspan : spanDigits (formatNat n.natAbs) = (Decimal.digits n.natAbs, []) :=
    spanDigits_digits hdigits
  have hnumber : isNegativeNumber (dash :: formatNat n.natAbs) = true := by
    simp [isNegativeNumber, hspan, isNegativeNumber.atEnd, Decimal.digits_ne_nil]
  obtain ⟨d, ds, hsplit⟩ := List.exists_cons_of_ne_nil (Decimal.digits_ne_nil n.natAbs)
  have htext : formatNat n.natAbs = (d :: ds).map digitChar ++ [] := by
    rw [formatNat, hsplit, List.append_nil]
  rw [hsplit] at hdigits
  exact argumentText_signed hnames (n < 0) hdigits htext hnumber List.not_mem_nil

/-- Printed fixed-point numerals are arguments. -/
theorem argumentText_formatFixed {places : ℕ} (hplaces : 0 < places) (x : ℚ) :
    ArgumentText names (formatFixed places x) := by
  obtain ⟨whole, hwhole⟩ : ∃ whole, whole = Decimal.digits (gridSteps places x / 10 ^ places) :=
    ⟨_, rfl⟩
  obtain ⟨fraction, hfraction⟩ :
      ∃ fraction, fraction = Decimal.padded places (gridSteps places x % 10 ^ places) := ⟨_, rfl⟩
  have hwholeDigits : ∀ d ∈ whole, d < 10 := by
    rw [hwhole]
    exact fun _ => Decimal.lt_ten_of_mem_digits
  have hfractionDigits : ∀ d ∈ fraction, d < 10 := by
    rw [hfraction]
    exact fun _ => Decimal.lt_ten_of_mem_padded
  have hfractionNe : fraction ≠ [] := by
    rw [hfraction, Ne, ← List.length_eq_zero_iff, Decimal.length_padded]
    omega
  have hpoint : StartsWithoutDigit (ord '.' :: fraction.map digitChar) := by
    intro c hc
    obtain rfl : ord '.' = c := by simpa using hc
    decide
  have hspan : spanDigits (writeNumeral whole fraction) =
      (whole, ord '.' :: fraction.map digitChar) := spanDigits_append hwholeDigits hpoint
  have hspan' : spanDigits (fraction.map digitChar) = (fraction, []) :=
    spanDigits_digits hfractionDigits
  have hnumber : isNegativeNumber (dash :: writeNumeral whole fraction) = true := by
    simp [isNegativeNumber, hspan, hspan', isNegativeNumber.atEnd, hfractionNe]
  have hequals : ord '=' ∉ ord '.' :: fraction.map digitChar :=
    List.not_mem_cons_of_ne_of_not_mem (by decide) (equals_notMem_digits hfractionDigits)
  obtain ⟨d, ds, hsplit⟩ := List.exists_cons_of_ne_nil
    (Decimal.digits_ne_nil (gridSteps places x / 10 ^ places))
  rw [← hwhole] at hsplit
  rw [hsplit] at hwholeDigits
  rw [formatFixed, ← hwhole, ← hfraction]
  exact argumentText_signed hnames (x < 0) hwholeDigits (by rw [hsplit, writeNumeral]) hnumber
    hequals

end PrintedNumbers

/-- A parser with long options of different names. -/
structure LongOptions (options : List OptionSpec) : Prop where
  nodup : (options.map OptionSpec.name).Nodup
  dash : ∀ option ∈ options, option.name.head? = some dash
  ne_dashes : ∀ option ∈ options, option.name ≠ dashes

theorem LongOptions.find? (hoptions : LongOptions options) {option : OptionSpec}
    (hmem : option ∈ options) : options.find? (·.name = option.name) = some option := by
  cases hfound : options.find? (·.name = option.name) with
  | none => exact absurd (List.find?_eq_none.1 hfound option hmem) (by simp)
  | some found =>
      have hname : found.name = option.name := by simpa using List.find?_some hfound
      rw [List.inj_on_of_nodup_map hoptions.nodup (List.mem_of_find?_eq_some hfound) hmem hname]

/-- An option on the command line, its text and its value. -/
structure OptionUse where
  option : OptionSpec
  text : PyStr
  value : ArgValue

namespace OptionUse

def texts (uses : List OptionUse) : List PyStr :=
  uses.flatMap fun use => [use.option.name, use.text]

def roles (uses : List OptionUse) : List (PyStr × Role) :=
  uses.flatMap fun use => [(use.option.name, .option use.option.name none), (use.text, .argument)]

def values (uses : List OptionUse) : Values :=
  uses.map fun use => (use.option.name, use.value)

/-- The text counts as an argument, and is converted to the value. -/
structure Valid (rt : Runtime) (options : List OptionSpec) (use : OptionUse) : Prop where
  mem : use.option ∈ options
  text : ArgumentText (optionNames options) use.text
  convert : convert rt use.option.type use.text = some use.value

end OptionUse

variable {uses : List OptionUse}

theorem ne_dashes_of_uses (hoptions : LongOptions options)
    (huses : ∀ use ∈ uses, use.Valid rt options) : ∀ text ∈ OptionUse.texts uses, text ≠ dashes := by
  intro text htext
  obtain ⟨use, huse, hmem⟩ := List.mem_flatMap.1 htext
  rcases List.mem_pair.1 hmem with rfl | rfl
  · exact hoptions.ne_dashes _ (huses use huse).mem
  · exact (huses use huse).text.ne_dashes

theorem mapM_role_uses (hoptions : LongOptions options)
    (huses : ∀ use ∈ uses, use.Valid rt options) :
    ((OptionUse.texts uses).mapM fun text =>
      (role (optionNames options) text).map fun role => (text, role)) =
        some (OptionUse.roles uses) := by
  induction uses with
  | nil => rfl
  | cons use uses ih =>
      obtain ⟨huse, hrest⟩ := List.forall_mem_cons.1 huses
      have hmem : use.option.name ∈ optionNames options :=
        List.mem_cons_of_mem _ (List.mem_cons_of_mem _ (List.mem_map_of_mem huse.mem))
      have hname := role_of_name hmem (hoptions.dash _ huse.mem)
      have htexts : OptionUse.texts (use :: uses) =
          use.option.name :: use.text :: OptionUse.texts uses := rfl
      rw [htexts, List.mapM_cons, List.mapM_cons, ih hrest, hname, huse.text.role]
      rfl

/-- Options that are used once are taken one by one. -/
theorem consume_uses (hoptions : LongOptions options)
    (huses : ∀ use ∈ uses, use.Valid rt options) (taken : Values)
    (hfresh : (taken.map Prod.fst ++ uses.map fun use => use.option.name).Nodup) :
    consume rt options taken (OptionUse.roles uses) = some (taken ++ OptionUse.values uses, []) := by
  induction uses generalizing taken with
  | nil => rw [OptionUse.values, List.map_nil, List.append_nil]; rfl
  | cons use uses ih =>
      obtain ⟨huse, hrest⟩ := List.forall_mem_cons.1 huses
      have hnew : use.option.name ∉ taken.map Prod.fst := by
        intro hmem
        exact List.disjoint_of_nodup_append hfresh hmem (List.mem_cons_self ..)
      have hstore : store rt options taken use.option.name use.text =
          some (taken ++ [(use.option.name, use.value)]) := by
        rw [store, hoptions.find? huse.mem]
        simp only [Option.bind_eq_bind, Option.bind_some, huse.convert, Dictionary.set_of_notMem hnew]
        rfl
      have hnext : ((taken ++ [(use.option.name, use.value)]).map Prod.fst ++
          uses.map fun use => use.option.name).Nodup := by
        simpa using hfresh
      have hroles : OptionUse.roles (use :: uses) =
          (use.option.name, .option use.option.name none) :: (use.text, .argument) ::
            OptionUse.roles uses := rfl
      rw [hroles, consume, hstore, Option.bind_eq_bind, Option.bind_some, ih hrest _ hnext,
        List.append_assoc]
      rfl

theorem lookup_values_isSome {use : OptionUse} (huse : use ∈ uses) :
    ((OptionUse.values uses).lookup use.option.name).isSome = true := by
  rw [List.lookup_isSome_iff]
  exact ⟨_, List.mem_map_of_mem huse, by simp⟩

/-- All options with their values in front of `--`: each value is converted, and everything
from `--` on remains as it is. -/
theorem parseArgs_uses (hoptions : LongOptions options)
    (hall : uses.map OptionUse.option = options)
    (hargument : ∀ use ∈ uses, ArgumentText (optionNames options) use.text)
    (hconvert : ∀ use ∈ uses, convert rt use.option.type use.text = some use.value)
    (rest : List PyStr) :
    parseArgs rt options (OptionUse.texts uses ++ dashes :: rest) =
      some (OptionUse.values uses, dashes :: rest) := by
  have huses : ∀ use ∈ uses, use.Valid rt options := by
    intro use huse
    refine ⟨?_, hargument use huse, hconvert use huse⟩
    rw [← hall]
    exact List.mem_map_of_mem huse
  have hne : ∀ text ∈ OptionUse.texts uses, decide (text ≠ dashes) = true := by
    intro text htext
    exact decide_eq_true (ne_dashes_of_uses hoptions huses text htext)
  have htake : (OptionUse.texts uses ++ dashes :: rest).takeWhile (· ≠ dashes) =
      OptionUse.texts uses := by
    rw [List.takeWhile_append_of_pos hne, List.takeWhile_cons_of_neg (by simp), List.append_nil]
  have hdrop : (OptionUse.texts uses ++ dashes :: rest).dropWhile (· ≠ dashes) =
      dashes :: rest := by
    rw [List.dropWhile_append_of_pos hne, List.dropWhile_cons_of_neg (by simp)]
  have hnodup : (uses.map fun use => use.option.name).Nodup := by
    have hnames := hoptions.nodup
    rw [← hall, List.map_map] at hnames
    exact hnames
  have hrequired : (options.all fun option =>
      ((OptionUse.values uses).lookup option.name).isSome) = true := by
    rw [List.all_eq_true, ← hall, List.forall_mem_map]
    exact fun use huse => lookup_values_isSome huse
  rw [parseArgs, htake, hdrop, mapM_role_uses hoptions huses, Option.bind_eq_bind,
    Option.bind_some, consume_uses hoptions huses [] hnodup]
  simp only [List.nil_append, Option.bind_eq_bind, Option.bind_some, if_pos hrequired]
  rfl

end IcpcVerify.Python.Argparse
