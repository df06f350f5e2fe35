import Mathlib.Algebra.Order.Field.Rat
import Mathlib.Data.Int.Log
import Mathlib.Data.List.TakeWhile
import Mathlib.Data.Rat.Floor
import Mathlib.Tactic.Linarith
import Mathlib.Tactic.NormNum
import Mathlib.Tactic.Positivity

/-!
# Numbers written as text

The number that a text without blanks stands for, as the language converts it:
decimal literals with a fraction and an exponent, a sign, and the prefixes of
the other radices. The exact value is then rounded to a double. A text that is
no number has no value, and neither has one that is not finite.
-/

namespace LiquidationBot.NumberText

/-- White space and line terminators. -/
def isSpace (char : Char) : Bool :=
  char.toNat ∈ [9, 10, 11, 12, 13, 32, 160, 0x1680, 0x2028, 0x2029, 0x202f, 0x205f, 0x3000, 0xfeff] ||
    (0x2000 ≤ char.toNat && char.toNat ≤ 0x200a)

def digitValue (char : Char) : Option Nat :=
  if char.isDigit then some (char.toNat - '0'.toNat)
  else if 'a' ≤ char ∧ char ≤ 'f' then some (char.toNat - 'a'.toNat + 10)
  else if 'A' ≤ char ∧ char ≤ 'F' then some (char.toNat - 'A'.toNat + 10)
  else none

/-- The value of digits behind a value; any other character leaves none. -/
def readDigits (radix : Nat) : Nat → List Char → Option Nat
  | value, [] => some value
  | value, char :: rest =>
      match digitValue char with
      | none => none
      | some digit =>
          if digit < radix then readDigits radix (radix * value + digit) rest else none

/-- At least one digit. -/
def numeral (radix : Nat) (text : List Char) : Option Nat :=
  if text = [] then none else readDigits radix 0 text

/-- The exponent of a literal, after its letter. -/
def exponentPart : List Char → Option ℤ
  | [] => some 0
  | _ :: '-' :: text => (numeral 10 text).map (fun size => -(size : ℤ))
  | _ :: '+' :: text => (numeral 10 text).map (fun size => (size : ℤ))
  | _ :: text => (numeral 10 text).map (fun size => (size : ℤ))

def isExponentLetter (char : Char) : Bool := char = 'e' || char = 'E'

def isPoint (char : Char) : Bool := char = '.'

/-- An unsigned decimal literal: a digit stands before or after the point. -/
def decimalLiteral (text : List Char) : Option ℚ := do
  let mantissa := text.takeWhile (fun char => !isExponentLetter char)
  let whole := mantissa.takeWhile (fun char => !isPoint char)
  let fraction := (mantissa.dropWhile (fun char => !isPoint char)).drop 1
  if whole = [] ∧ fraction = [] then none
  else
    let exponent ← exponentPart (text.dropWhile (fun char => !isExponentLetter char))
    let units ← readDigits 10 0 whole
    let parts ← readDigits 10 0 fraction
    some (((units : ℚ) + (parts : ℚ) / 10 ^ fraction.length) * 10 ^ exponent)

def exactNumber : List Char → Option ℚ
  | '0' :: 'x' :: text => (numeral 16 text).map (fun value => (value : ℚ))
  | '0' :: 'X' :: text => (numeral 16 text).map (fun value => (value : ℚ))
  | '0' :: 'o' :: text => (numeral 8 text).map (fun value => (value : ℚ))
  | '0' :: 'O' :: text => (numeral 8 text).map (fun value => (value : ℚ))
  | '0' :: 'b' :: text => (numeral 2 text).map (fun value => (value : ℚ))
  | '0' :: 'B' :: text => (numeral 2 text).map (fun value => (value : ℚ))
  | '-' :: text => (decimalLiteral text).map (fun value => -value)
  | '+' :: text => decimalLiteral text
  | text => decimalLiteral text

/-- The nearest whole number, and the even one of two. -/
def roundHalfEven (value : ℚ) : ℤ :=
  let rest := value - (value.floor : ℚ)
  if rest < 1 / 2 then value.floor
  else if 1 / 2 < rest then value.floor + 1
  else if value.floor % 2 = 0 then value.floor
  else value.floor + 1

/-- The spacing of doubles around a value. -/
def spacing (value : ℚ) : ℚ := 2 ^ max (Int.log 2 |value| - 52) (-1074)

/-- The nearest double, where it is finite. -/
def roundToDouble (value : ℚ) : Option ℚ :=
  let rounded := (roundHalfEven (value / spacing value) : ℚ) * spacing value
  if |rounded| < 2 ^ 1024 then some rounded else none

/-- `Number(text)`, where it is finite. -/
def number (text : List Char) : Option ℚ := (exactNumber text).bind roundToDouble

theorem readDigits_of_isDigit {text : List Char} (digits : ∀ char ∈ text, char.isDigit = true)
    (value : Nat) : readDigits 10 value text = some (Nat.ofDigitChars 10 text value) := by
  induction text generalizing value with
  | nil => simp [readDigits]
  | cons char rest inductionHypothesis =>
    have first := digits char List.mem_cons_self
    have bounds : char.toNat - '0'.toNat < 10 := by
      simp only [Char.isDigit, Bool.and_eq_true, decide_eq_true_eq] at first
      have above : char.toNat ≤ 57 := UInt32.le_iff_toNat_le.mp first.2
      change char.toNat - 48 < 10
      omega
    simp only [readDigits, digitValue, first, if_true, bounds, Nat.ofDigitChars_cons]
    exact inductionHypothesis (fun later member => digits later (List.mem_cons_of_mem char member)) _

theorem takeWhile_of_isDigit {text : List Char} (digits : ∀ char ∈ text, char.isDigit = true)
    {keep : Char → Bool} (kept : ∀ char, char.isDigit = true → keep char = true) :
    text.takeWhile keep = text ∧ text.dropWhile keep = [] := by
  refine ⟨?_, ?_⟩
  · exact List.takeWhile_eq_self_iff.mpr (fun char member => kept char (digits char member))
  · exact List.dropWhile_eq_nil_iff.mpr (fun char member => kept char (digits char member))

/-- Digits alone are a decimal literal. -/
theorem decimalLiteral_of_isDigit {text : List Char} (nonempty : text ≠ [])
    (digits : ∀ char ∈ text, char.isDigit = true) :
    decimalLiteral text = some (Nat.ofDigitChars 10 text 0 : ℚ) := by
  have letters : ∀ char : Char, char.isDigit = true → (!isExponentLetter char) = true := by
    intro char digit
    rw [Bool.not_eq_true', isExponentLetter, Bool.or_eq_false_iff, decide_eq_false_iff_not,
      decide_eq_false_iff_not]
    constructor
    · rintro rfl
      cases digit
    · rintro rfl
      cases digit
  have points : ∀ char : Char, char.isDigit = true → (!isPoint char) = true := by
    intro char digit
    rw [Bool.not_eq_true', isPoint, decide_eq_false_iff_not]
    rintro rfl
    cases digit
  obtain ⟨all, none⟩ := takeWhile_of_isDigit digits letters
  obtain ⟨whole, rest⟩ := takeWhile_of_isDigit digits points
  simp [decimalLiteral, all, none, whole, rest, nonempty, exponentPart,
    readDigits_of_isDigit digits, readDigits]

theorem exactNumber_of_isDigit {text : List Char} (nonempty : text ≠ [])
    (digits : ∀ char ∈ text, char.isDigit = true) :
    exactNumber text = some (Nat.ofDigitChars 10 text 0 : ℚ) := by
  unfold exactNumber
  split
  case h_9 => exact decimalLiteral_of_isDigit nonempty digits
  all_goals simp at digits

theorem roundHalfEven_intCast (value : ℤ) : roundHalfEven value = value := by
  simp [roundHalfEven, Rat.floor_intCast]

/-- Whole numbers up to the precision are doubles. -/
theorem roundToDouble_natCast {value : Nat} (positive : 0 < value) (small : value < 2 ^ 53) :
    roundToDouble value = some (value : ℚ) := by
  have log : Int.log 2 |(value : ℚ)| = Nat.log 2 value := by
    rw [abs_of_nonneg (by positivity), Int.log_natCast]
  have bound : Nat.log 2 value < 53 := Nat.log_lt_of_lt_pow (by omega) small
  obtain ⟨shift, total⟩ := Nat.exists_eq_add_of_le (Nat.le_of_lt_succ bound)
  have gap : spacing (value : ℚ) = (2 ^ shift : ℚ)⁻¹ := by
    rw [spacing, log, max_eq_left (by omega),
      show (Nat.log 2 value : ℤ) - 52 = -(shift : ℤ) by omega, zpow_neg, zpow_natCast]
  have scaled : (value : ℚ) / spacing (value : ℚ) = ((value * 2 ^ shift : ℤ) : ℚ) := by
    rw [gap, div_inv_eq_mul]
    push_cast
    rfl
  have exact : (roundHalfEven ((value : ℚ) / spacing (value : ℚ)) : ℚ) * spacing (value : ℚ) =
      value := by
    rw [scaled, roundHalfEven_intCast, gap]
    push_cast
    rw [mul_assoc, mul_inv_cancel₀ (by positivity), mul_one]
  have finite : |(value : ℚ)| < 2 ^ 1024 := by
    rw [abs_of_nonneg (by positivity)]
    calc (value : ℚ) < 2 ^ 53 := by exact_mod_cast small
      _ ≤ 2 ^ 1024 := pow_le_pow_right₀ (by norm_num) (by norm_num)
  simp only [roundToDouble, exact, finite, if_true]

/-- A number printed in decimal is read back. -/
theorem number_toDigits {value : Nat} (positive : 0 < value) (small : value < 2 ^ 53) :
    number (Nat.toDigits 10 value) = some (value : ℚ) := by
  have digits : ∀ char ∈ Nat.toDigits 10 value, char.isDigit = true :=
    fun _ => Nat.isDigit_of_mem_toDigits (by omega) (by omega)
  have nonempty : Nat.toDigits 10 value ≠ [] := by
    intro none
    have read := Nat.ofDigitChars_ten_toDigits (n := value)
    rw [none, Nat.ofDigitChars_nil] at read
    omega
  rw [number, exactNumber_of_isDigit nonempty digits, Nat.ofDigitChars_ten_toDigits]
  exact roundToDouble_natCast positive small

end LiquidationBot.NumberText
