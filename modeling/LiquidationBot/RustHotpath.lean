import LiquidationBot.Library.FixedWidth
import LiquidationBot.Library.JsonText
import Mathlib.Tactic.NormNum

/-!
# The margin of a route, native and in script

The margin of a route in basis points is computed in big integers, or by a native
module where one is enabled and loaded. The native module reads both amounts as
128-bit integers, an unreadable one as zero, computes in that width and returns
64 bits. Its arithmetic panics on overflow where the build checks for it and
wraps where it does not; a panic becomes an error.

Margins are compared as the integers that either side converts to a number. They
agree while both amounts can be read and neither the scaled gain nor the margin
overflows, and otherwise only where the amount that cannot be read makes no
difference of a basis point.
-/

namespace LiquidationBot

open FixedWidth

/-- `RouteInput`, with amounts in decimal. -/
structure RouteInput where
  debtRaw : String
  revenueRaw : String

namespace RustHotpath

/-! ## The native module -/

/-- Half of the values of `i128`. -/
def halfI128 : Nat := 2 ^ 127

/-- Half of the values of `i64`. -/
def halfI64 : Nat := 2 ^ 63

/-- A checked operation of `i128`. -/
def checked (value : Int) : Option Int := if Fits halfI128 value then some value else none

/-- Digits behind a value, each added with the sign; none if it does not fit. -/
def parseDigits (sign : Int) : Int → List Char → Option Int
  | value, [] => some value
  | value, char :: rest =>
      if char.isDigit then do
        let shifted ← checked (value * 10)
        let next ← checked (shifted + sign * (char.toNat - '0'.toNat : Nat))
        parseDigits sign next rest
      else none

/-- `parse::<i128>`. -/
def parseI128 (text : String) : Option Int :=
  match text.toList with
  | [] => none
  | ['+'] => none
  | ['-'] => none
  | '+' :: digits => parseDigits 1 0 digits
  | '-' :: digits => parseDigits (-1) 0 digits
  | digits => parseDigits 1 0 digits

/-- The result of an operation of `i128`, or none where it panics. -/
def i128 (overflowChecks : Bool) (value : Int) : Option Int :=
  if Fits halfI128 value then some value
  else if overflowChecks then none
  else some (wrap halfI128 value)

/-- `quick_margin_bps_inner`, or none where it panics. A divisor above zero cannot make the
division overflow. -/
def quickMarginBpsInner (overflowChecks : Bool) (input : RouteInput) : Option Int :=
  let debt := (parseI128 input.debtRaw).getD 0
  let revenue := (parseI128 input.revenueRaw).getD 0
  if debt ≤ 0 then some 0
  else do
    let gain ← i128 overflowChecks (revenue - debt)
    let scaled ← i128 overflowChecks (gain * 10000)
    some (wrap halfI64 (scaled.tdiv debt))

/-- `quick_margin_bps`. -/
def nativeQuickMarginBps (overflowChecks : Bool) (input : RouteInput) : Except String Int :=
  match quickMarginBpsInner overflowChecks input with
  | some value => .ok value
  | none => .error "rust_hotpath_panic"

/-! ## In script -/

/-- `BigInt(text)`. -/
def bigInt (text : String) : Except String Int :=
  match Json.bigInt (jsString text) with
  | some value => .ok value
  | none => .error "SyntaxError"

/-- `quickMarginBpsJs`, before the conversion to a number. -/
def quickMarginBpsJs (input : RouteInput) : Except String Int := do
  let debt ← bigInt input.debtRaw
  let revenue ← bigInt input.revenueRaw
  if debt ≤ 0 then return 0
  return ((revenue - debt) * 10000).tdiv debt

/-- `quickMarginBps`, with the native module if one is loaded. -/
def quickMarginBps (native : Option (RouteInput → Except String Int)) (input : RouteInput) :
    Except String Int :=
  match native with
  | some native => native input
  | none => quickMarginBpsJs input

/-- Two amounts as they are handed over. -/
def routeOf (debt revenue : Nat) : RouteInput := ⟨toString debt, toString revenue⟩

/-- Enabling the native module does not change the margin. -/
def MarginsAgree (overflowChecks : Bool) (debt revenue : Nat) : Prop :=
  quickMarginBps (some (nativeQuickMarginBps overflowChecks)) (routeOf debt revenue) =
    quickMarginBps none (routeOf debt revenue)

/-- The amounts for which the module computes the margin. -/
inductive MarginKept (overflowChecks : Bool) (debt revenue : Int) : Prop where
  | noDebt (none : debt = 0)
  | exact (debtRead : debt < 2 ^ 127) (revenueRead : revenue < 2 ^ 127)
      (scaledLow : -2 ^ 127 ≤ (revenue - debt) * 10000)
      (scaledHigh : (revenue - debt) * 10000 < 2 ^ 127)
      (narrow : (revenue - debt) * 10000 < 2 ^ 63 * debt)
  /-- The debt is too large to be read, and the margin less than a basis point. -/
  | debtUnread (large : 2 ^ 127 ≤ debt) (even : |revenue - debt| * 10000 < debt)
  /-- The revenue is too large to be read, and makes no difference from what the wrapped loss
  of all the debt stands for. -/
  | revenueUnread (wraps : overflowChecks = false) (debtRead : debt < 2 ^ 127)
      (large : 2 ^ 127 ≤ revenue) (near : (2 ^ 127 - debt) * 10000 < 2 ^ 127)
      (same : 2 ^ 127 * 10000 / debt = revenue * 10000 / debt)

/-! ## Reading the amounts -/

theorem le_ofDigitChars (chars : List Char) (value : Nat) :
    value ≤ Nat.ofDigitChars 10 chars value := by
  induction chars generalizing value with
  | nil => simp
  | cons char rest inductionHypothesis =>
    rw [Nat.ofDigitChars_cons]
    have later := inductionHypothesis (10 * value + (char.toNat - '0'.toNat))
    omega

theorem checked_natCast (value : Nat) :
    checked value = if value < halfI128 then some (value : Int) else none := by
  have fits : Fits halfI128 value ↔ value < halfI128 := by
    rw [Fits]
    omega
  simp only [checked, fits]

/-- Digits are read as long as their value fits. -/
theorem parseDigits_of_isDigit {chars : List Char} (digits : ∀ char ∈ chars, char.isDigit = true)
    {value : Nat} (fits : value < halfI128) : parseDigits 1 value chars =
      if Nat.ofDigitChars 10 chars value < halfI128 then
        some (Nat.ofDigitChars 10 chars value : Int)
      else none := by
  induction chars generalizing value with
  | nil => simp [parseDigits, fits]
  | cons char rest inductionHypothesis =>
    have final := le_ofDigitChars rest (10 * value + (char.toNat - '0'.toNat))
    rw [Nat.ofDigitChars_cons, parseDigits, if_pos (digits char List.mem_cons_self),
      show (value * 10 : Int) = (10 * value : Nat) by push_cast; ring, checked_natCast]
    by_cases shifted : 10 * value < halfI128
    · rw [if_pos shifted, Option.bind_eq_bind, Option.bind_some, one_mul, ← Nat.cast_add,
        checked_natCast]
      by_cases next : 10 * value + (char.toNat - '0'.toNat) < halfI128
      · rw [if_pos next, Option.bind_some]
        exact inductionHypothesis
          (fun later member => digits later (List.mem_cons_of_mem char member)) next
      · rw [if_neg next, if_neg (by omega)]
        rfl
    · rw [if_neg shifted, if_neg (by omega)]
      rfl

theorem isDigit_toString (value : Nat) : (toString value).toList ≠ [] ∧
    (∀ char ∈ (toString value).toList, char.isDigit = true) ∧
      Nat.ofDigitChars 10 (toString value).toList 0 = value := by
  rw [Nat.toString_eq_repr, Nat.toList_repr]
  exact ⟨Nat.toDigits_ne_nil, fun _ => Nat.isDigit_of_mem_toDigits (by decide) (by decide),
    Nat.ofDigitChars_ten_toDigits⟩

/-- An amount is read where it fits. -/
theorem parseI128_toString (value : Nat) : parseI128 (toString value) =
    if value < halfI128 then some (value : Int) else none := by
  obtain ⟨nonempty, digits, same⟩ := isDigit_toString value
  have read : parseDigits 1 0 (toString value).toList =
      if value < halfI128 then some (value : Int) else none := by
    have whole := parseDigits_of_isDigit digits (show 0 < halfI128 by decide)
    rwa [same] at whole
  rw [parseI128]
  generalize (toString value).toList = chars at nonempty digits read
  split
  case h_1 => exact absurd rfl nonempty
  case h_6 => exact read
  all_goals simp at digits

theorem bigInt_toString (value : Nat) : bigInt (toString value) = .ok value := by
  obtain ⟨nonempty, digits, same⟩ := isDigit_toString value
  rw [bigInt, Json.bigInt_of_isDigit nonempty digits, same]

/-- The margin in script, for a debt above zero. -/
theorem quickMarginBpsJs_routeOf {debt : Nat} (positive : 0 < debt) (revenue : Nat) :
    quickMarginBpsJs (routeOf debt revenue) =
      .ok ((((revenue : Int) - debt) * 10000).tdiv debt) := by
  have some : ¬ (debt : Int) ≤ 0 := by omega
  simp only [quickMarginBpsJs, routeOf, bigInt_toString]
  exact if_neg some

/-! ## Where the margins agree -/

theorem marginsAgree_iff_inner {overflowChecks : Bool} {debt revenue : Nat} (positive : 0 < debt) :
    MarginsAgree overflowChecks debt revenue ↔
      quickMarginBpsInner overflowChecks (routeOf debt revenue) =
        some ((((revenue : Int) - debt) * 10000).tdiv debt) := by
  simp only [MarginsAgree, quickMarginBps, nativeQuickMarginBps, quickMarginBpsJs_routeOf positive]
  cases quickMarginBpsInner overflowChecks (routeOf debt revenue) with
  | none => simp
  | some value => simp

/-- An unreadable debt has no margin. -/
theorem inner_debtUnread (overflowChecks : Bool) {debt : Nat} (large : halfI128 ≤ debt)
    (revenue : Nat) : quickMarginBpsInner overflowChecks (routeOf debt revenue) = some 0 := by
  simp only [quickMarginBpsInner, routeOf, parseI128_toString, if_neg (not_lt.mpr large),
    Option.getD_none, le_refl, if_true]

/-- The gain fits; its scaling decides. -/
theorem inner_debtRead (overflowChecks : Bool) {debt : Nat} (positive : 0 < debt)
    (debtRead : debt < halfI128) (revenue : Nat) :
    quickMarginBpsInner overflowChecks (routeOf debt revenue) =
      (i128 overflowChecks
        (((if revenue < halfI128 then (revenue : Int) else 0) - debt) * 10000)).map
          (fun scaled => wrap halfI64 (scaled.tdiv debt)) := by
  have revenueRead : ((if revenue < halfI128 then some (revenue : Int) else none).getD 0) =
      if revenue < halfI128 then (revenue : Int) else 0 := by
    split <;> rfl
  have fits : Fits halfI128 ((if revenue < halfI128 then (revenue : Int) else 0) - debt) := by
    rw [Fits]
    split <;> omega
  simp only [quickMarginBpsInner, routeOf, parseI128_toString, if_pos debtRead, Option.getD_some,
    revenueRead, if_neg (show ¬ (debt : Int) ≤ 0 by omega)]
  rw [i128, if_pos fits, Option.bind_eq_bind, Option.bind_some]
  cases i128 overflowChecks _ <;> rfl

/-- Narrowed or wrapped, the quotient is the true one where nothing overflows. -/
theorem i128_tdiv_eq_iff {overflowChecks : Bool} {value divisor : Int} (positive : 0 < divisor)
    (bounded : divisor ≤ halfI128) (above : -(halfI64 : Int) < value.tdiv divisor) :
    (i128 overflowChecks value).map (fun scaled => wrap halfI64 (scaled.tdiv divisor)) =
        some (value.tdiv divisor) ↔
      Fits halfI128 value ∧ value.tdiv divisor < halfI64 := by
  have exactly := wrap_wrap_tdiv_eq_iff (show 0 < halfI64 by decide) positive bounded above
  rw [i128]
  by_cases fits : Fits halfI128 value
  · rw [wrap_of_fits (by decide) fits] at exactly
    rw [if_pos fits, Option.map_some, Option.some.injEq, exactly]
  · rw [if_neg fits]
    cases overflowChecks with
    | true => simp [fits]
    | false =>
      rw [if_neg Bool.false_ne_true, Option.map_some, Option.some.injEq, exactly]

variable {overflowChecks : Bool} {debt revenue : Nat}

theorem agree_debtUnread (large : halfI128 ≤ debt) :
    MarginsAgree overflowChecks debt revenue ↔ |(revenue : Int) - debt| * 10000 < debt := by
  have positive : 0 < debt := (show 0 < halfI128 by decide).trans_le large
  have size : |((revenue : Int) - debt) * 10000| = |(revenue : Int) - debt| * 10000 := abs_mul _ _
  rw [marginsAgree_iff_inner positive, inner_debtUnread overflowChecks large, Option.some.injEq,
    eq_comm, tdiv_eq_zero_iff (Int.natCast_pos.mpr positive), size]

theorem agree_bothRead (positive : 0 < debt) (debtRead : debt < halfI128)
    (revenueRead : revenue < halfI128) :
    MarginsAgree overflowChecks debt revenue ↔ -2 ^ 127 ≤ ((revenue : Int) - debt) * 10000 ∧
      ((revenue : Int) - debt) * 10000 < 2 ^ 127 ∧
        ((revenue : Int) - debt) * 10000 < 2 ^ 63 * debt := by
  have divisor : (0 : Int) < debt := Int.natCast_pos.mpr positive
  have above : -(halfI64 : Int) < (((revenue : Int) - debt) * 10000).tdiv debt := by
    rw [lt_tdiv_iff divisor (by decide), halfI64]
    omega
  rw [marginsAgree_iff_inner positive, inner_debtRead overflowChecks positive debtRead,
    if_pos revenueRead, i128_tdiv_eq_iff divisor (by omega) above, tdiv_lt_iff divisor (by decide),
    Fits, and_assoc]
  rfl

/-- The margin in script where the revenue is larger. -/
theorem margin_eq {debt revenue : Int} (positive : 0 < debt) (gains : debt ≤ revenue) :
    ((revenue - debt) * 10000).tdiv debt = revenue * 10000 / debt - 10000 := by
  rw [Int.tdiv_eq_ediv_of_nonneg (by omega), sub_mul, mul_comm debt 10000,
    Int.sub_mul_ediv_right _ _ positive.ne']

/-- The wrapped loss of a debt that is nearly too large. -/
theorem wrap_loss {debt : Int} (debtRead : debt < 2 ^ 127)
    (near : (2 ^ 127 - debt) * 10000 < 2 ^ 127) :
    wrap halfI128 (-debt * 10000) = (2 ^ 127 - debt) * 10000 := by
  refine (wrap_eq_iff (by decide)).mpr ⟨?_, 5000, ?_⟩
  · rw [Fits, halfI128]
    omega
  · rw [halfI128]
    push_cast
    ring

/-- The wrapped loss of any other debt is further from the gain than two debts. -/
theorem wrap_loss_apart {debt revenue : Int} (large : 2 ^ 127 ≤ revenue)
    (far : 2 ^ 127 ≤ (2 ^ 127 - debt) * 10000) :
    wrap halfI128 (-debt * 10000) + 2 * debt ≤ (revenue - debt) * 10000 := by
  obtain ⟨⟨_, high⟩, turns, moved⟩ :=
    (@wrap_eq_iff halfI128 (-debt * 10000) _ (by decide)).mp rfl
  generalize wrap halfI128 (-debt * 10000) = wrapped at high moved ⊢
  rw [halfI128] at high moved
  push_cast at high moved
  omega

theorem agree_revenueUnread (positive : 0 < debt) (debtRead : debt < halfI128)
    (large : halfI128 ≤ revenue) :
    MarginsAgree overflowChecks debt revenue ↔ overflowChecks = false ∧
      ((2 : Int) ^ 127 - debt) * 10000 < 2 ^ 127 ∧
        (2 : Int) ^ 127 * 10000 / debt = (revenue : Int) * 10000 / debt := by
  have debtBelow : (debt : Int) < 2 ^ 127 := by rw [halfI128] at debtRead; omega
  have revenueAbove : (2 : Int) ^ 127 ≤ revenue := by rw [halfI128] at large; omega
  have divisor : (0 : Int) < debt := Int.natCast_pos.mpr positive
  have gain : 0 ≤ (((revenue : Int) - debt) * 10000).tdiv debt :=
    Int.tdiv_nonneg (by omega) divisor.le
  rw [marginsAgree_iff_inner positive, inner_debtRead overflowChecks positive debtRead,
    if_neg (not_lt.mpr large), zero_sub, i128]
  by_cases fits : Fits halfI128 (-(debt : Int) * 10000)
  · -- the loss of all the debt is computed, and no gain is one
    have loss : (-(debt : Int) * 10000).tdiv debt = -10000 := by
      rw [neg_mul, ← mul_neg, Int.mul_tdiv_cancel_left _ divisor.ne']
    rw [if_pos fits, Option.map_some, loss, wrap_of_fits (by decide) (by decide),
      Option.some.injEq]
    rw [Fits, halfI128] at fits
    constructor
    · intro same
      omega
    · rintro ⟨_, near, _⟩
      omega
  · rw [if_neg fits]
    cases overflowChecks with
    | true => simp
    | false =>
      rw [Fits, halfI128] at fits
      have wide : (halfI128 : Int) < halfI64 * (debt : Int) := by
        rw [halfI128, halfI64]
        push_cast at fits ⊢
        omega
      have narrow := fits_tdiv divisor
        (fits_wrap (show 0 < halfI128 by decide) (-(debt : Int) * 10000)) wide
      rw [if_neg Bool.false_ne_true, Option.map_some, Option.some.injEq,
        wrap_of_fits (by decide) narrow]
      by_cases near : ((2 : Int) ^ 127 - debt) * 10000 < 2 ^ 127
      · rw [wrap_loss debtBelow near, margin_eq divisor debtBelow.le,
          margin_eq divisor (debtBelow.le.trans revenueAbove)]
        constructor
        · intro same
          exact ⟨rfl, near, by omega⟩
        · rintro ⟨_, _, same⟩
          rw [same]
      · have apart := tdiv_lt_tdiv_of_apart divisor
          (wrap_loss_apart revenueAbove (not_lt.mp near))
        constructor
        · intro same
          exact absurd same apart.ne
        · rintro ⟨_, within, _⟩
          exact absurd within near

/-- The native module computes the margin exactly where both amounts can be read and nothing
overflows, and where an amount that cannot be read makes no difference. -/
theorem marginsAgree_iff (overflowChecks : Bool) (debt revenue : Nat) :
    MarginsAgree overflowChecks debt revenue ↔ MarginKept overflowChecks debt revenue := by
  have half : halfI128 = 2 ^ 127 := rfl
  rcases Nat.eq_zero_or_pos debt with rfl | positive
  · refine iff_of_true ?_ (.noDebt rfl)
    simp only [MarginsAgree, quickMarginBps, nativeQuickMarginBps, quickMarginBpsInner,
      quickMarginBpsJs, routeOf, parseI128_toString, bigInt_toString]
    rfl
  rcases lt_or_ge debt halfI128 with debtRead | debtLarge
  · rcases lt_or_ge revenue halfI128 with revenueRead | revenueLarge
    · rw [agree_bothRead positive debtRead revenueRead]
      constructor
      · rintro ⟨low, high, narrow⟩
        exact .exact (by omega) (by omega) low high narrow
      · intro kept
        cases kept with
        | noDebt none => omega
        | exact _ _ low high narrow => exact ⟨low, high, narrow⟩
        | debtUnread large _ => omega
        | revenueUnread _ _ large _ _ => omega
    · rw [agree_revenueUnread positive debtRead revenueLarge]
      constructor
      · rintro ⟨wraps, near, same⟩
        exact .revenueUnread wraps (by omega) (by omega) near same
      · intro kept
        cases kept with
        | noDebt none => omega
        | exact _ revenueRead _ _ _ => omega
        | debtUnread large _ => omega
        | revenueUnread wraps _ _ near same => exact ⟨wraps, near, same⟩
  · rw [agree_debtUnread debtLarge]
    constructor
    · exact .debtUnread (by omega)
    · intro kept
      cases kept with
      | noDebt none => omega
      | exact debtRead _ _ _ _ => omega
      | debtUnread _ even => exact even
      | revenueUnread _ debtRead _ _ _ => omega

/-- A debt of one unit and a revenue of a whole token: the margin leaves 64 bits. -/
theorem whole_token_truncated : 1 < 2 ^ 256 ∧ 10 ^ 18 < 2 ^ 256 ∧
    quickMarginBpsJs (routeOf 1 (10 ^ 18)) = .ok 9999999999999999990000 ∧
      ∀ overflowChecks, nativeQuickMarginBps overflowChecks (routeOf 1 (10 ^ 18)) =
        .ok 1864712049423014128 ∧ ¬ MarginsAgree overflowChecks 1 (10 ^ 18) := by
  have script : quickMarginBpsJs (routeOf 1 (10 ^ 18)) = .ok 9999999999999999990000 := by
    decide +kernel
  have native (overflowChecks : Bool) : nativeQuickMarginBps overflowChecks
      (routeOf 1 (10 ^ 18)) = .ok 1864712049423014128 := by
    cases overflowChecks <;> decide +kernel
  refine ⟨by decide, by decide, script, fun overflowChecks => ⟨native overflowChecks, ?_⟩⟩
  rw [MarginsAgree, quickMarginBps, quickMarginBps, native, script]
  decide

end RustHotpath

end LiquidationBot
