import IcpcVerify.Python.Yaml

/-!
# Integers in texts

`int` of a text takes a sign and decimal digits of any script, with single underscores
between them and white space around them, up to a number of digits that the interpreter
fixes.
-/

namespace IcpcVerify.Python

/-- White space for `int`: unlike `str.strip`, it keeps the ASCII separators. -/
def isNumberSpace (c : CodePoint) : Bool :=
  isSpace c && !(0x1C ≤ c.val ∧ c.val ≤ 0x1F)

/-- Whether the sign is a minus, and what follows it. -/
def takeSign : PyStr → Bool × PyStr
  | [] => (false, [])
  | c :: rest =>
      if c = ord '-' then (true, rest)
      else if c = ord '+' then (false, rest)
      else (false, c :: rest)

/-- Longest run of digits, as values, and what follows it; `none` where an underscore
stands before anything else than a digit. -/
def digitRun : PyStr → Option (List ℕ × PyStr)
  | [] => some ([], [])
  | c :: rest =>
      match digitValue c with
      | some d => (digitRun rest).map fun run => (d :: run.1, run.2)
      | none =>
          if c = ord '_' then
            if (rest.head?.bind digitValue).isSome then digitRun rest else none
          else some ([], c :: rest)

def tooManyDigits (digits : ℕ) : PyError :=
  ⟨.value, py "Exceeds the limit (" ++ formatNat Yaml.intMaxStrDigits ++
    py " digits) for integer string conversion: value has " ++ formatNat digits ++
    py " digits; use sys.set_int_max_str_digits() to increase the limit"⟩

variable (rt : Runtime)

def invalidLiteral (text : PyStr) : PyError :=
  ⟨.value, py "invalid literal for int() with base 10: " ++ (rt.repr text).take 200⟩

/-- `int` of a text. -/
def readInt (text : PyStr) : PyM ℤ :=
  let (negative, number) := takeSign (text.dropWhile isNumberSpace)
  if number.head? = some (ord '_') then throw (invalidLiteral rt text)
  else
    match digitRun number with
    | none => throw (invalidLiteral rt text)
    | some (digits, rest) =>
        if digits = [] then throw (invalidLiteral rt text)
        else if Yaml.intMaxStrDigits < digits.length then throw (tooManyDigits digits.length)
        else if !rest.all isNumberSpace then throw (invalidLiteral rt text)
        else return if negative then -(Decimal.value digits : ℤ) else Decimal.value digits

/-! ## Printed numbers are read back -/

/-- Nothing but white space or a sign is skipped before the digits. -/
theorem digitChar_plain {d : ℕ} (hd : d < 10) :
    isNumberSpace (digitChar d) = false ∧ digitChar d ≠ ord '-' ∧ digitChar d ≠ ord '+' ∧
      digitChar d ≠ ord '_' := by
  interval_cases d <;> decide

theorem digitRun_digitChars {digits : List ℕ} (hdigits : ∀ d ∈ digits, d < 10) :
    digitRun (digits.map digitChar) = some (digits, []) := by
  induction digits with
  | nil => rfl
  | cons d digits ih =>
      obtain ⟨hd, hrest⟩ := List.forall_mem_cons.1 hdigits
      rw [List.map_cons, digitRun, digitValue_digitChar hd, ih hrest]
      rfl

theorem length_digits_le {n places : ℕ} (hplaces : 0 < places) (hn : n < 10 ^ places) :
    (Decimal.digits n).length ≤ places := by
  rw [Decimal.digits]
  split_ifs
  · exact hplaces
  · rw [List.length_reverse]
    exact (Nat.digits_length_le_iff (by norm_num) n).2 hn

theorem readInt_formatNat {n : ℕ} (hn : n < 10 ^ Yaml.intMaxStrDigits) :
    readInt rt (formatNat n) = .ok (n : ℤ) := by
  have hdigits : ∀ d ∈ Decimal.digits n, d < 10 := fun _ => Decimal.lt_ten_of_mem_digits
  obtain ⟨d, ds, hsplit⟩ := List.exists_cons_of_ne_nil (Decimal.digits_ne_nil n)
  obtain ⟨hspace, hminus, hplus, hunderscore⟩ := digitChar_plain (hdigits d (by simp [hsplit]))
  have htext : formatNat n = digitChar d :: ds.map digitChar := by
    rw [formatNat, hsplit, List.map_cons]
  have hskip : (formatNat n).dropWhile isNumberSpace = formatNat n := by
    rw [htext, List.dropWhile_cons, hspace, if_neg Bool.false_ne_true]
  have hsign : takeSign (formatNat n) = (false, formatNat n) := by
    rw [htext, takeSign, if_neg hminus, if_neg hplus]
  have hhead : (formatNat n).head? ≠ some (ord '_') := by
    rw [htext, List.head?_cons]
    exact fun heq => hunderscore (Option.some.inj heq)
  have hlength : ¬Yaml.intMaxStrDigits < (Decimal.digits n).length :=
    not_lt.2 (length_digits_le (by decide) hn)
  have hrun : digitRun (formatNat n) = some (Decimal.digits n, []) := digitRun_digitChars hdigits
  simp only [readInt, hskip, hsign, if_neg hhead, hrun, if_neg (Decimal.digits_ne_nil n),
    if_neg hlength, Decimal.value_digits]
  rfl

end IcpcVerify.Python
