import LiquidationBot.Library.EventLogs
import LiquidationBot.LocalPositionModel

/-!
# Pool logs and the accounts they name

The pool's own declarations index the reserve, the owner and the referral code
of a deposit or a borrow. The bot's declaration of those two events indexes the
caller in place of the referral code. The signature is the same, so the logs
decode: the owner is read as the caller, the referral code as the owner, and the
caller as the amount. The other events are declared as the pool declares them.
-/

namespace LiquidationBot.PoolLogs

open AbiWords EventLogs LocalPositionModel

/-- The inputs of the pool's events. -/
inductive PoolField where
  | reserve
  | user
  | onBehalfOf
  | amount
  | referralCode
  | interestRateMode
  | borrowRate
  | repayer
  | useATokens
  | recipient
  | collateralAsset
  | debtAsset
  | debtToCover
  | liquidatedCollateralAmount
  | liquidator
  | receiveAToken
  | liquidityRate
  | stableBorrowRate
  | variableBorrowRate
  | liquidityIndex
  | variableBorrowIndex
deriving DecidableEq

/-- The events of `aavePoolAbi`. The recipient is the source's `to`. -/
def aavePoolAbi : AavePoolEventName → EventAbi AavePoolEventName PoolField
  | .ReserveDataUpdated => ⟨.ReserveDataUpdated,
      [⟨.reserve, .address, true⟩, ⟨.liquidityRate, .uint 256, false⟩,
        ⟨.stableBorrowRate, .uint 256, false⟩, ⟨.variableBorrowRate, .uint 256, false⟩,
        ⟨.liquidityIndex, .uint 256, false⟩, ⟨.variableBorrowIndex, .uint 256, false⟩]⟩
  | .Supply => ⟨.Supply,
      [⟨.reserve, .address, true⟩, ⟨.user, .address, true⟩, ⟨.onBehalfOf, .address, true⟩,
        ⟨.amount, .uint 256, false⟩, ⟨.referralCode, .uint 16, false⟩]⟩
  | .Borrow => ⟨.Borrow,
      [⟨.reserve, .address, true⟩, ⟨.user, .address, true⟩, ⟨.onBehalfOf, .address, true⟩,
        ⟨.amount, .uint 256, false⟩, ⟨.interestRateMode, .uint 8, false⟩,
        ⟨.borrowRate, .uint 256, false⟩, ⟨.referralCode, .uint 16, false⟩]⟩
  | .Repay => ⟨.Repay,
      [⟨.reserve, .address, true⟩, ⟨.user, .address, true⟩, ⟨.repayer, .address, true⟩,
        ⟨.amount, .uint 256, false⟩, ⟨.useATokens, .bool, false⟩]⟩
  | .Withdraw => ⟨.Withdraw,
      [⟨.reserve, .address, true⟩, ⟨.user, .address, true⟩, ⟨.recipient, .address, true⟩,
        ⟨.amount, .uint 256, false⟩]⟩
  | .LiquidationCall => ⟨.LiquidationCall,
      [⟨.collateralAsset, .address, true⟩, ⟨.debtAsset, .address, true⟩, ⟨.user, .address, true⟩,
        ⟨.debtToCover, .uint 256, false⟩, ⟨.liquidatedCollateralAmount, .uint 256, false⟩,
        ⟨.liquidator, .address, false⟩, ⟨.receiveAToken, .bool, false⟩]⟩

/-! ## What the pool emits -/

/-- The inputs the pool indexes. -/
def emittedIndexed : AavePoolEventName → List PoolField
  | .Supply => [.reserve, .onBehalfOf, .referralCode]
  | .Borrow => [.reserve, .onBehalfOf, .referralCode]
  | .Withdraw => [.reserve, .user, .recipient]
  | .Repay => [.reserve, .user, .repayer]
  | .LiquidationCall => [.collateralAsset, .debtAsset, .user]
  | .ReserveDataUpdated => [.reserve]

/-- The pool's own declaration of an event. -/
def poolAbi (name : AavePoolEventName) : EventAbi AavePoolEventName PoolField :=
  (aavePoolAbi name).reindexed (emittedIndexed name)

/-- An event of the pool that names an account. -/
inductive PoolEmission where
  | supply (reserve user onBehalfOf : BitVec 160) (amount : Word) (referralCode : BitVec 16)
  | borrow (reserve user onBehalfOf : BitVec 160) (amount : Word) (interestRateMode : BitVec 8)
      (borrowRate : Word) (referralCode : BitVec 16)
  | repay (reserve user repayer : BitVec 160) (amount : Word) (useATokens : Bool)
  | withdraw (reserve user recipient : BitVec 160) (amount : Word)
  | liquidationCall (collateralAsset debtAsset user : BitVec 160)
      (debtToCover liquidatedCollateralAmount : Word) (liquidator : BitVec 160)
      (receiveAToken : Bool)

namespace PoolEmission

def name : PoolEmission → AavePoolEventName
  | .supply .. => .Supply
  | .borrow .. => .Borrow
  | .repay .. => .Repay
  | .withdraw .. => .Withdraw
  | .liquidationCall .. => .LiquidationCall

/-- The emitted values, in the order of the declaration. -/
def values : PoolEmission → List Value
  | .supply reserve user onBehalfOf amount referralCode =>
      [.address reserve, .address user, .address onBehalfOf, .number amount.toNat,
        .number referralCode.toNat]
  | .borrow reserve user onBehalfOf amount interestRateMode borrowRate referralCode =>
      [.address reserve, .address user, .address onBehalfOf, .number amount.toNat,
        .number interestRateMode.toNat, .number borrowRate.toNat, .number referralCode.toNat]
  | .repay reserve user repayer amount useATokens =>
      [.address reserve, .address user, .address repayer, .number amount.toNat, .truth useATokens]
  | .withdraw reserve user recipient amount =>
      [.address reserve, .address user, .address recipient, .number amount.toNat]
  | .liquidationCall collateralAsset debtAsset user debtToCover liquidatedCollateralAmount
      liquidator receiveAToken =>
      [.address collateralAsset, .address debtAsset, .address user, .number debtToCover.toNat,
        .number liquidatedCollateralAmount.toNat, .address liquidator, .truth receiveAToken]

/-- The log of an emission. -/
def record (emission : PoolEmission) : LogRecord AavePoolEventName :=
  emit (poolAbi emission.name) emission.values

/-- The account whose balances change. -/
def account : PoolEmission → BitVec 160
  | .supply _ _ onBehalfOf _ _ => onBehalfOf
  | .borrow _ _ onBehalfOf _ _ _ _ => onBehalfOf
  | .repay _ user _ _ _ => user
  | .withdraw _ user _ _ => user
  | .liquidationCall _ _ user _ _ _ _ => user

/-- The amount, the debt covered and the collateral taken. -/
def amounts : PoolEmission → Option Nat × Option Nat × Option Nat
  | .supply _ _ _ amount _ => (some amount.toNat, none, none)
  | .borrow _ _ _ amount _ _ _ => (some amount.toNat, none, none)
  | .repay _ _ _ amount _ => (some amount.toNat, none, none)
  | .withdraw _ _ _ amount => (some amount.toNat, none, none)
  | .liquidationCall _ _ _ debtToCover liquidatedCollateralAmount _ _ =>
      (none, some debtToCover.toNat, some liquidatedCollateralAmount.toNat)

/-- The shifted fields happen to be the right ones: the referral code spells the
owner's address, and the caller's address the amount. -/
def Coincides : PoolEmission → Prop
  | .supply _ user onBehalfOf amount referralCode =>
      referralCode.toNat = onBehalfOf.toNat ∧ user.toNat = amount.toNat
  | .borrow _ user onBehalfOf amount _ _ referralCode =>
      referralCode.toNat = onBehalfOf.toNat ∧ user.toNat = amount.toNat
  | _ => True

end PoolEmission

/-! ## What the bot reads -/

/-- A decoded address, spelled with its checksum. -/
def addressField (checksum : BitVec 160 → BitVec 40) (values : List (PoolField × Value))
    (field : PoolField) : Option Address :=
  match values.lookup field with
  | some (.address value) => some ⟨value, checksum value⟩
  | _ => none

/-- A decoded number. -/
def numberField (values : List (PoolField × Value)) (field : PoolField) : Option Nat :=
  match values.lookup field with
  | some (.number value) => some value
  | _ => none

/-- The decoded arguments the parser reads. -/
def argsOf (checksum : BitVec 160 → BitVec 40) (values : List (PoolField × Value)) :
    PoolEventArgs where
  reserve := addressField checksum values .reserve
  collateralAsset := addressField checksum values .collateralAsset
  debtAsset := addressField checksum values .debtAsset
  user := addressField checksum values .user
  onBehalfOf := addressField checksum values .onBehalfOf
  amount := numberField values .amount
  debtToCover := numberField values .debtToCover
  liquidatedCollateralAmount := numberField values .liquidatedCollateralAmount
  liquidityIndex := numberField values .liquidityIndex
  variableBorrowIndex := numberField values .variableBorrowIndex

/-- The library's decoder on the bot's declarations. The spelling of addresses
and the price feed's event are given. -/
def poolDecoder (checksum : BitVec 160 → BitVec 40)
    (answerUpdated : LogRecord AavePoolEventName → Option (Int × Int)) :
    LogDecoder (LogRecord AavePoolEventName) where
  poolEvent := fun name record => (decode (aavePoolAbi name) record).map (argsOf checksum)
  answerUpdated := answerUpdated

/-- A log is parsed as the emitted event, with the emitted account and amounts. -/
def Attributed (decoder : LogDecoder (LogRecord AavePoolEventName))
    (log : Log (LogRecord AavePoolEventName)) (origin : IngestionEventMeta)
    (emission : PoolEmission) : Prop :=
  ∃ event, parseAavePoolLog decoder { log with payload := emission.record } origin = some event ∧
    event.name = emission.name ∧
    (resolveUserAddress event).map Address.value = some emission.account ∧
    (event.amount, event.debtToCover, event.liquidatedCollateralAmount) = emission.amounts

/-! ## Decoding an emission -/

section Decoding

variable (checksum : BitVec 160 → BitVec 40)
  (answerUpdated : LogRecord AavePoolEventName → Option (Int × Int))
  (log : Log (LogRecord AavePoolEventName)) (origin : IngestionEventMeta)

/-- A log decodes as no event of another name. -/
theorem decode_other (emission : PoolEmission) {name : AavePoolEventName}
    (other : name ≠ emission.name) : decode (aavePoolAbi name) emission.record = none := by
  have named : ∀ name, (aavePoolAbi name).signature.name = name := by
    intro name
    cases name <;> rfl
  rw [decode, if_neg]
  intro same
  have signature : emission.record.signature = (aavePoolAbi emission.name).signature :=
    EventAbi.signature_reindexed _ _
  rw [signature] at same
  apply other
  rw [← named name, ← same, named]

/-- A search that only one element can answer is answered by that element. -/
theorem findSome?_only {α β : Type} {f : α → Option β} {items : List α} {item : α}
    (member : item ∈ items) (others : ∀ other ∈ items, other ≠ item → f other = none) :
    items.findSome? f = f item := by
  classical
  induction items with
  | nil => cases member
  | cons first rest inductionHypothesis =>
    have later : item ∈ rest → rest.findSome? f = f item := fun listed =>
      inductionHypothesis listed (fun other listed => others other (List.mem_cons_of_mem _ listed))
    rw [List.findSome?_cons]
    by_cases here : first = item
    · rw [here]
      cases answer : f item with
      | some value => rfl
      | none =>
        by_cases listed : item ∈ rest
        · exact (later listed).trans answer
        · rw [List.findSome?_eq_none_iff]
          intro other otherListed
          apply others other (List.mem_cons_of_mem _ otherListed)
          rintro rfl
          exact listed otherListed
    · rw [others first List.mem_cons_self here]
      exact later ((List.mem_cons.mp member).resolve_left (Ne.symm here))

/-- The event the parser makes of decoded values. -/
def parsedEvent (name : AavePoolEventName) (values : List (PoolField × Value)) :
    ParsedAavePoolEvent :=
  let args := argsOf checksum values
  { name := name
    origin := origin
    reserve := args.reserveAsset
    collateralAsset := if name = .LiquidationCall then args.collateralAsset else none
    debtAsset := if name = .LiquidationCall then args.debtAsset else none
    user := args.user
    onBehalfOf := args.onBehalfOf
    amount := args.amount
    debtToCover := args.debtToCover
    liquidatedCollateralAmount := args.liquidatedCollateralAmount
    liquidityIndex := args.liquidityIndex
    variableBorrowIndex := args.variableBorrowIndex }

/-- A log is parsed as the event that it is, from the values decoded for it. -/
theorem parse_record (emission : PoolEmission) :
    parseAavePoolLog (poolDecoder checksum answerUpdated) { log with payload := emission.record }
        origin =
      (decode (aavePoolAbi emission.name) emission.record).map
        (parsedEvent checksum origin emission.name) := by
  have other : ∀ name, name ≠ emission.name →
      decode (aavePoolAbi name) emission.record = none := fun _ => decode_other emission
  have listed : ∀ name, name ∈ poolEventNames := by
    intro name
    cases name <;> decide
  refine (findSome?_only (listed emission.name) ?_).trans ?_
  · intro name _ different
    simp only [poolDecoder, other name different, Option.map_none]
  · simp only [poolDecoder, Option.map_map]
    rfl

theorem decode_supply (reserve user onBehalfOf : BitVec 160) (amount : Word)
    (referralCode : BitVec 16) :
    decode (aavePoolAbi .Supply)
        (PoolEmission.supply reserve user onBehalfOf amount referralCode).record =
      some [(.reserve, .address ((ofUnsigned reserve).setWidth 160)),
        (.user, .address ((ofUnsigned onBehalfOf).setWidth 160)),
        (.onBehalfOf, .address ((BitVec.ofNat 256 referralCode.toNat).setWidth 160)),
        (.amount, .number (ofUnsigned user).toNat),
        (.referralCode, .number (BitVec.ofNat 256 amount.toNat).toNat)] := rfl

theorem decode_borrow (reserve user onBehalfOf : BitVec 160) (amount : Word)
    (interestRateMode : BitVec 8) (borrowRate : Word) (referralCode : BitVec 16) :
    decode (aavePoolAbi .Borrow) (PoolEmission.borrow reserve user onBehalfOf amount
        interestRateMode borrowRate referralCode).record =
      some [(.reserve, .address ((ofUnsigned reserve).setWidth 160)),
        (.user, .address ((ofUnsigned onBehalfOf).setWidth 160)),
        (.onBehalfOf, .address ((BitVec.ofNat 256 referralCode.toNat).setWidth 160)),
        (.amount, .number (ofUnsigned user).toNat),
        (.interestRateMode, .number (BitVec.ofNat 256 amount.toNat).toNat),
        (.borrowRate, .number (BitVec.ofNat 256 interestRateMode.toNat).toNat),
        (.referralCode, .number (BitVec.ofNat 256 borrowRate.toNat).toNat)] := rfl

/-- The values of an emission have the types of its inputs. -/
theorem values_typed (emission : PoolEmission) :
    ∀ pair ∈ (aavePoolAbi emission.name).inputs.zip emission.values,
      pair.2.HasType pair.1.type := by
  have small : ∀ {width : Nat} (value : BitVec width), width ≤ 256 → value.toNat < 2 ^ 256 :=
    fun value within => value.isLt.trans_le (Nat.pow_le_pow_right (by decide) within)
  intro pair member
  cases emission <;>
    simp only [PoolEmission.name, PoolEmission.values, aavePoolAbi, List.zip_cons_cons,
      List.zip_nil_left, List.mem_cons, List.not_mem_nil, or_false] at member <;>
    rcases member with rfl | rfl | rfl | rfl | rfl | rfl | rfl <;>
    first | trivial | exact small _ (by decide)

/-- Where the bot declares an event as the pool does, its logs give the emitted
values. -/
theorem decode_same (emission : PoolEmission)
    (same : poolAbi emission.name = aavePoolAbi emission.name) :
    decode (aavePoolAbi emission.name) emission.record =
      some (namedValues (aavePoolAbi emission.name) emission.values) := by
  rw [PoolEmission.record, same]
  apply decode_emit
  · cases emission <;> rfl
  · exact values_typed emission

/-- The zero address is nobody, and every other address its own account. -/
theorem map_value_eq_iff (address : Address) (account : BitVec 160) :
    (if address.toLowerCase = ZERO_ADDRESS then none else some address).map Address.value =
        some account ↔ account ≠ 0 ∧ address.value = account := by
  have zero : address.toLowerCase = ZERO_ADDRESS ↔ address.value = 0 :=
    Address.toLowerCase_eq_iff address ZERO_ADDRESS
  by_cases nobody : address.value = 0
  · rw [if_pos (zero.mpr nobody), nobody]
    constructor
    · intro resolved
      cases resolved
    · rintro ⟨nonzero, same⟩
      exact absurd same.symm nonzero
  · rw [if_neg (fun lower => nobody (zero.mp lower)), Option.map_some, Option.some.injEq]
    constructor
    · rintro rfl
      exact ⟨nobody, rfl⟩
    · exact And.right

/-- Attribution of a log whose values are known. -/
theorem attributed_decoded_iff {emission : PoolEmission} {values : List (PoolField × Value)}
    (decoded : decode (aavePoolAbi emission.name) emission.record = some values) :
    Attributed (poolDecoder checksum answerUpdated) log origin emission ↔
      (resolveUserAddress (parsedEvent checksum origin emission.name values)).map Address.value =
          some emission.account ∧
        (numberField values .amount, numberField values .debtToCover,
          numberField values .liquidatedCollateralAmount) = emission.amounts := by
  rw [Attributed, parse_record, decoded]
  constructor
  · rintro ⟨event, parsed, -, resolved, amounts⟩
    cases parsed
    exact ⟨resolved, amounts⟩
  · rintro ⟨resolved, amounts⟩
    exact ⟨_, rfl, rfl, resolved, amounts⟩

/-- A shifted deposit or borrow: the owner is what the referral code spells, and
the amount what the caller's address spells. -/
theorem shifted_iff (referralCode : BitVec 16) (user onBehalfOf : BitVec 160) (amount : Word) :
    (((BitVec.ofNat 256 referralCode.toNat).setWidth 160 = onBehalfOf) ∧
      (ofUnsigned user).toNat = amount.toNat) ↔
      referralCode.toNat = onBehalfOf.toNat ∧ user.toNat = amount.toNat := by
  have code := referralCode.isLt
  have caller := user.isLt
  have spelled : ((BitVec.ofNat 256 referralCode.toNat).setWidth 160).toNat =
      referralCode.toNat := by
    rw [BitVec.toNat_setWidth, BitVec.toNat_ofNat]
    omega
  have word : (ofUnsigned user).toNat = user.toNat := by
    rw [ofUnsigned, BitVec.toNat_setWidth]
    omega
  rw [← BitVec.toNat_inj, spelled, word]

end Decoding

/-- Account 9 borrows 500 of asset 3 for itself, with the referral code 7. -/
def referredBorrow : PoolEmission := .borrow 3 9 9 500 2 40 7

/-- A log to carry it, and its origin. -/
def referredLog : Log (LogRecord AavePoolEventName) :=
  ⟨⟨1, 0⟩, some 700000, some 1, some 0, referredBorrow.record⟩

def referredOrigin : IngestionEventMeta := ⟨700000, none, some 1, 0, .confirmed⟩

end LiquidationBot.PoolLogs
