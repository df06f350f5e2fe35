import LiquidationBot.HealthPolicy
import LiquidationBot.Library.AbiWords
import LiquidationBot.Library.Throwing
import Mathlib.Logic.Function.Basic

/-!
# The flash-loan receiver

The contract that the pool calls during a flash loan: it liquidates a position
with the lent amount, swaps the collateral it receives, and lets the pool pull
the amount and the premium. Anyone can ask the pool for a loan to this receiver,
so the initiator and the parameters are arbitrary.

When debt and collateral are the same asset the contract returns early, without
a liquidation. The premium of such a loan is paid from what the receiver held
before, and that is the only way to take something from it.
-/

namespace LiquidationBot

/-- An address on the chain. -/
abbrev EvmAddress := BitVec 160

/-- Why a call reverts. -/
inductive Revert where
  | OnlyPool
  | DebtAssetMismatch
  | InsufficientDebtForRepay
  | NoCollateralToSwap
  | hfNotLiquidatable
  | invalidParams
  | overflow
  | callFailed
  | insufficientAllowance
  | insufficientBalance
deriving DecidableEq

/-- What the receiver holds of each token, and what it lets others pull. -/
structure Holdings where
  balance : EvmAddress → Nat
  allowance : EvmAddress → EvmAddress → Nat

namespace Holdings

/-- `approve` of a standard token. -/
def approve (holdings : Holdings) (token spender : EvmAddress) (amount : Nat) : Holdings :=
  { holdings with
    allowance := Function.update holdings.allowance token
      (Function.update (holdings.allowance token) spender amount) }

/-- A transfer to the receiver. -/
def credit (holdings : Holdings) (token : EvmAddress) (amount : Nat) : Holdings :=
  { holdings with
    balance := Function.update holdings.balance token (holdings.balance token + amount) }

/-- `transferFrom` by a spender, away from the receiver. -/
def pull (holdings : Holdings) (token spender : EvmAddress) (amount : Nat) :
    Except Revert Holdings :=
  if holdings.allowance token spender < amount then .error .insufficientAllowance
  else if holdings.balance token < amount then .error .insufficientBalance
  else .ok
    { balance := Function.update holdings.balance token (holdings.balance token - amount)
      allowance := Function.update holdings.allowance token
        (Function.update (holdings.allowance token) spender
          (holdings.allowance token spender - amount)) }

@[simp] theorem balance_approve (holdings : Holdings) (token spender : EvmAddress) (amount : Nat) :
    (holdings.approve token spender amount).balance = holdings.balance := rfl

@[simp] theorem allowance_approve (holdings : Holdings) (token spender : EvmAddress)
    (amount : Nat) : (holdings.approve token spender amount).allowance token spender = amount := by
  simp [approve]

@[simp] theorem balance_credit (holdings : Holdings) (token : EvmAddress) (amount : Nat) :
    (holdings.credit token amount).balance token = holdings.balance token + amount := by
  simp [credit]

end Holdings

/-- The arguments of the pool's `liquidationCall`. -/
structure LiquidationCall where
  collateralAsset : EvmAddress
  debtAsset : EvmAddress
  user : EvmAddress
  debtToCover : Nat
  receiveAToken : Bool
deriving DecidableEq

/-- The token in which a liquidation pays. -/
def LiquidationCall.paidToken (call : LiquidationCall) (aToken : EvmAddress → EvmAddress) :
    EvmAddress :=
  if call.receiveAToken then aToken call.collateralAsset else call.collateralAsset

/-- The lending pool as the receiver sees it. A liquidation that does not revert
pays collateral of the user, as the asset or as the pool's token for it. -/
structure AavePool where
  address : EvmAddress
  aToken : EvmAddress → EvmAddress
  getUserAccountData : EvmAddress → Option UserAccountData
  liquidationCall : Holdings → LiquidationCall → Option Holdings
  pays : ∀ before call after, call.collateralAsset ≠ call.debtAsset →
    liquidationCall before call = some after →
    before.balance (call.paidToken aToken) < after.balance (call.paidToken aToken)

/-- `ExactInputSingleParams` of the router. -/
structure ExactInputSingleParams where
  tokenIn : EvmAddress
  tokenOut : EvmAddress
  fee : BitVec 24
  recipient : EvmAddress
  amountIn : Nat
  amountOutMinimum : Nat
  sqrtPriceLimitX96 : BitVec 160

structure SwapRouter where
  address : EvmAddress
  exactInputSingle : Holdings → ExactInputSingleParams → Option Holdings

/-- The receiver's immutables, and its own address. -/
structure LiquidationFlashReceiver where
  POOL : AavePool
  SWAP_ROUTER : SwapRouter
  swapFee : BitVec 24
  self : EvmAddress

/-- A liquidation made during a call, with the collateral received for it. -/
structure Liquidation where
  call : LiquidationCall
  received : Nat
deriving DecidableEq

namespace LiquidationFlashReceiver

/-- `SWAP_SLIPPAGE_BPS`. -/
def SWAP_SLIPPAGE_BPS : Nat := 200

/-- A field of the parameters. -/
def fieldAt {α : Type} (read : AbiWords.Word → Option α) (params : List AbiWords.Byte)
    (index : Nat) : Option α :=
  (AbiWords.wordAt params index).bind read

/-- The tuple that `executeOperation` decodes its parameters as. -/
def decodeParams (params : List AbiWords.Byte) : Option LiquidationCall := do
  let collateralAsset ← fieldAt (AbiWords.readUnsigned 160) params 0
  let debtAsset ← fieldAt (AbiWords.readUnsigned 160) params 1
  let user ← fieldAt (AbiWords.readUnsigned 160) params 2
  let debtToCover ← fieldAt (AbiWords.readUnsigned 256) params 3
  let receiveAToken ← fieldAt AbiWords.readBool params 4
  return ⟨collateralAsset, debtAsset, user, debtToCover.toNat, receiveAToken⟩

/-- A result of checked arithmetic. -/
def checked (value : Nat) : Except Revert Nat :=
  if value < 2 ^ 256 then .ok value else .error .overflow

/-- The result of an external call. -/
def external {α : Type} : Option α → Except Revert α
  | some value => .ok value
  | none => .error .callFailed

/-- Go on only when the condition holds. -/
def require (condition : Prop) [Decidable condition] (reason : Revert) : Except Revert Unit :=
  if condition then .ok () else .error reason

/-- The swap of collateral for what is missing of the debt asset. -/
def swapCollateral (receiver : LiquidationFlashReceiver) (holdings : Holdings)
    (asset collateralAsset : EvmAddress) (need : Nat) : Except Revert Holdings := do
  let collateralBal := holdings.balance collateralAsset
  require (collateralBal ≠ 0) .NoCollateralToSwap
  let scaled ← checked (need * (BPS - SWAP_SLIPPAGE_BPS))
  let minOut := if scaled / BPS = 0 ∧ 0 < need then 1 else scaled / BPS
  external (receiver.SWAP_ROUTER.exactInputSingle
    (holdings.approve collateralAsset receiver.SWAP_ROUTER.address collateralBal)
    { tokenIn := collateralAsset
      tokenOut := asset
      fee := receiver.swapFee
      recipient := receiver.self
      amountIn := collateralBal
      amountOutMinimum := minOut
      sqrtPriceLimitX96 := 0 })

/-- The liquidation, with the collateral it brings. -/
def liquidate (receiver : LiquidationFlashReceiver) (holdings : Holdings) (asset : EvmAddress)
    (call : LiquidationCall) : Except Revert (Holdings × Liquidation) := do
  let approved := holdings.approve asset receiver.POOL.address call.debtToCover
  let data ← external (receiver.POOL.getUserAccountData call.user)
  require (data.healthFactor < WAD) .hfNotLiquidatable
  let liquidated ← external (receiver.POOL.liquidationCall approved call)
  let paid := call.paidToken receiver.POOL.aToken
  return (liquidated, ⟨call, liquidated.balance paid - approved.balance paid⟩)

/-- From the liquidation on: swap if the debt asset does not suffice, and let the
pool pull what is owed. -/
def coverDebt (receiver : LiquidationFlashReceiver) (holdings : Holdings)
    (asset collateralAsset : EvmAddress) (amount premium : Nat) : Except Revert Holdings := do
  let owe ← checked (amount + premium)
  let debtBal := holdings.balance asset
  let swapped ← if debtBal < owe then
      receiver.swapCollateral holdings asset collateralAsset (owe - debtBal)
    else pure holdings
  require (owe ≤ swapped.balance asset) .InsufficientDebtForRepay
  return swapped.approve asset receiver.POOL.address owe

/-- `executeOperation`. The initiator is not looked at. -/
def executeOperation (receiver : LiquidationFlashReceiver) (sender : EvmAddress)
    (holdings : Holdings) (asset : EvmAddress) (amount premium : Nat) (_initiator : EvmAddress)
    (params : List AbiWords.Byte) : Except Revert (Holdings × List Liquidation) := do
  require (sender = receiver.POOL.address) .OnlyPool
  match decodeParams params with
  | none => throw .invalidParams
  | some call =>
      require (call.debtAsset = asset) .DebtAssetMismatch
      if call.collateralAsset = asset then
        let oweSame ← checked (amount + premium)
        require (oweSame ≤ holdings.balance asset) .InsufficientDebtForRepay
        return (holdings.approve asset receiver.POOL.address oweSame, [])
      else
        let (liquidated, liquidation) ← receiver.liquidate holdings asset call
        let covered ← receiver.coverDebt liquidated asset call.collateralAsset amount premium
        return (covered, [liquidation])

/-- The arguments of a flash loan to the receiver, with the premium the pool
charges for it. -/
structure FlashLoan where
  initiator : EvmAddress
  asset : EvmAddress
  amount : Nat
  premium : Nat
  params : List AbiWords.Byte

/-- `flashLoanSimple`: the pool lends, calls the receiver and pulls. -/
def flashLoanSimple (receiver : LiquidationFlashReceiver) (holdings : Holdings)
    (loan : FlashLoan) : Except Revert (Holdings × List Liquidation) := do
  let (operated, liquidations) ← receiver.executeOperation receiver.POOL.address
    (holdings.credit loan.asset loan.amount) loan.asset loan.amount loan.premium loan.initiator
    loan.params
  let repaid ← operated.pull loan.asset receiver.POOL.address (loan.amount + loan.premium)
  return (repaid, liquidations)

/-- A loan reverts, leaves at least as much of the debt asset as before, or has
brought collateral of the encoded user. -/
def NotDrained (receiver : LiquidationFlashReceiver) (holdings : Holdings) (loan : FlashLoan) :
    Prop :=
  ∀ after liquidations, receiver.flashLoanSimple holdings loan = .ok (after, liquidations) →
    holdings.balance loan.asset ≤ after.balance loan.asset ∨
      ∃ liquidation ∈ liquidations, 0 < liquidation.received ∧
        ∃ encoded, decodeParams loan.params = some encoded ∧
          liquidation.call.user = encoded.user

/-- The parameters name one asset as debt and collateral, and the receiver holds
the premium. -/
def PaysPremiumFromBalance (holdings : Holdings) (loan : FlashLoan) : Prop :=
  (∃ call, decodeParams loan.params = some call ∧ call.debtAsset = loan.asset ∧
      call.collateralAsset = loan.asset) ∧
    loan.amount + loan.premium < 2 ^ 256 ∧ 0 < loan.premium ∧
    loan.premium ≤ holdings.balance loan.asset

/-! ## Steps that go through -/

@[simp] theorem checked_eq_ok_iff (value result : Nat) :
    checked value = .ok result ↔ value < 2 ^ 256 ∧ value = result := by
  by_cases fits : value < 2 ^ 256
  · rw [checked, if_pos fits, Except.ok.injEq]
    exact ⟨fun same => ⟨fits, same⟩, And.right⟩
  · rw [checked, if_neg fits]
    simp only [reduceCtorEq, false_iff, not_and]
    exact fun below => absurd below fits

@[simp] theorem external_eq_ok_iff {α : Type} (answer : Option α) (value : α) :
    external answer = .ok value ↔ answer = some value := by
  cases answer with
  | none => simp [external]
  | some other => simp [external]

@[simp] theorem require_eq_ok_iff (condition : Prop) [Decidable condition] (reason : Revert)
    (done : Unit) : require condition reason = .ok done ↔ condition := by
  by_cases holds : condition
  · simp [require, holds]
  · simp [require, holds]

theorem pull_eq_ok_iff (holdings : Holdings) (token spender : EvmAddress) (amount : Nat)
    (after : Holdings) :
    holdings.pull token spender amount = .ok after ↔
      amount ≤ holdings.allowance token spender ∧ amount ≤ holdings.balance token ∧
        { balance := Function.update holdings.balance token (holdings.balance token - amount)
          allowance := Function.update holdings.allowance token
            (Function.update (holdings.allowance token) spender
              (holdings.allowance token spender - amount)) } = after := by
  simp only [Holdings.pull]
  split
  next short =>
    simp only [reduceCtorEq, false_iff, not_and]
    omega
  next =>
    split
    next short =>
      simp only [reduceCtorEq, false_iff, not_and]
      omega
    next =>
      rw [Except.ok.injEq]
      constructor
      · intro same
        exact ⟨by omega, by omega, same⟩
      · rintro ⟨_, _, same⟩
        exact same

section Paths

variable (receiver : LiquidationFlashReceiver) (holdings : Holdings) (loan : FlashLoan)

/-- A liquidation that goes through has brought collateral. -/
theorem received_of_liquidate {asset : EvmAddress} {call : LiquidationCall} {after : Holdings}
    {liquidation : Liquidation} (different : call.collateralAsset ≠ call.debtAsset)
    (returned : receiver.liquidate holdings asset call = .ok (after, liquidation)) :
    0 < liquidation.received ∧ liquidation.call = call := by
  simp only [liquidate, Throwing.bind_eq_ok_iff, external_eq_ok_iff, require_eq_ok_iff, pure,
    Except.pure, Except.ok.injEq, Prod.mk.injEq] at returned
  obtain ⟨_, _, _, _, liquidated, paid, rfl, rfl⟩ := returned
  exact ⟨Nat.sub_pos_of_lt (receiver.POOL.pays _ call liquidated different paid), rfl⟩

/-- A loan that goes through took one of the two paths. -/
theorem flashLoanSimple_eq_ok {after : Holdings} {liquidations : List Liquidation}
    (returned : receiver.flashLoanSimple holdings loan = .ok (after, liquidations)) :
    ∃ call, decodeParams loan.params = some call ∧ call.debtAsset = loan.asset ∧
      (call.collateralAsset = loan.asset ∧ loan.premium ≤ holdings.balance loan.asset ∧
          loan.amount + loan.premium < 2 ^ 256 ∧
          after.balance loan.asset + loan.premium = holdings.balance loan.asset ∨
        call.collateralAsset ≠ loan.asset ∧ ∃ liquidation ∈ liquidations,
          0 < liquidation.received ∧ liquidation.call = call) := by
  simp only [flashLoanSimple, executeOperation, Throwing.bind_eq_ok_iff, Prod.exists] at returned
  obtain ⟨operated, made, ⟨_, _, body⟩, repaid, pulled, same⟩ := returned
  cases same
  cases decoded : decodeParams loan.params with
  | none => simp [decoded, throw, throwThe, MonadExceptOf.throw] at body
  | some call =>
    simp only [decoded, Throwing.bind_eq_ok_iff, require_eq_ok_iff] at body
    obtain ⟨_, debt, body⟩ := body
    refine ⟨call, rfl, debt, ?_⟩
    by_cases collateral : call.collateralAsset = loan.asset
    · simp only [collateral, if_true, Throwing.bind_eq_ok_iff, checked_eq_ok_iff, require_eq_ok_iff,
        pure, Except.pure, Except.ok.injEq, Prod.mk.injEq, Holdings.balance_credit] at body
      obtain ⟨_, ⟨fits, rfl⟩, _, held, rfl, rfl⟩ := body
      obtain ⟨_, _, rfl⟩ := (pull_eq_ok_iff _ _ _ _ _).mp pulled
      refine Or.inl ⟨collateral, by omega, fits, ?_⟩
      simp only [Function.update_self, Holdings.balance_approve, Holdings.balance_credit]
      omega
    · have different : call.collateralAsset ≠ call.debtAsset := by
        rw [debt]
        exact collateral
      simp only [collateral, if_false, Throwing.bind_eq_ok_iff, Prod.exists, pure, Except.pure,
        Except.ok.injEq, Prod.mk.injEq] at body
      obtain ⟨liquidated, liquidation, returned, _, _, _, rfl⟩ := body
      exact Or.inr ⟨collateral, liquidation, List.mem_singleton.mpr rfl,
        received_of_liquidate receiver _ different returned⟩

/-- With one asset for debt and collateral, a loan goes through when the receiver
holds the premium. -/
theorem flashLoanSimple_same_ok {call : LiquidationCall}
    (decoded : decodeParams loan.params = some call) (debt : call.debtAsset = loan.asset)
    (collateral : call.collateralAsset = loan.asset)
    (fits : loan.amount + loan.premium < 2 ^ 256)
    (held : loan.premium ≤ holdings.balance loan.asset) :
    ∃ after, receiver.flashLoanSimple holdings loan = .ok (after, []) := by
  have enough : loan.amount + loan.premium ≤
      ((holdings.credit loan.asset loan.amount).approve loan.asset receiver.POOL.address
        (loan.amount + loan.premium)).balance loan.asset := by
    rw [Holdings.balance_approve, Holdings.balance_credit]
    omega
  have allowed := (Holdings.allowance_approve (holdings.credit loan.asset loan.amount) loan.asset
    receiver.POOL.address (loan.amount + loan.premium)).ge
  obtain ⟨after, pulled⟩ : ∃ after, ((holdings.credit loan.asset loan.amount).approve loan.asset
      receiver.POOL.address (loan.amount + loan.premium)).pull loan.asset receiver.POOL.address
        (loan.amount + loan.premium) = .ok after :=
    ⟨_, (pull_eq_ok_iff _ _ _ _ _).mpr ⟨allowed, enough, rfl⟩⟩
  refine ⟨after, ?_⟩
  simp only [flashLoanSimple, executeOperation, Throwing.bind_eq_ok_iff, Prod.exists, decoded, debt,
    collateral, if_true, checked_eq_ok_iff, require_eq_ok_iff, pure, Except.pure]
  exact ⟨_, [], ⟨(), trivial, (), trivial, _, ⟨fits, rfl⟩, (), enough, rfl⟩, after, pulled, rfl⟩

/-- A loan drains the receiver exactly when its parameters name one asset as
debt and collateral and the receiver holds the premium. -/
theorem not_drained_iff :
    receiver.NotDrained holdings loan ↔ ¬ PaysPremiumFromBalance holdings loan := by
  constructor
  · rintro kept ⟨⟨call, decoded, debt, collateral⟩, fits, positive, held⟩
    obtain ⟨after, returned⟩ :=
      flashLoanSimple_same_ok receiver holdings loan decoded debt collateral fits held
    obtain ⟨other, again, _, ⟨_, _, _, cost⟩ | ⟨_, liquidation, none, _⟩⟩ :=
      flashLoanSimple_eq_ok receiver holdings loan returned
    · rcases kept after [] returned with enough | ⟨liquidation, none, _⟩
      · omega
      · exact List.not_mem_nil none
    · exact List.not_mem_nil none
  · intro safe after liquidations returned
    obtain ⟨call, decoded, debt, ⟨collateral, held, fits, cost⟩ |
        ⟨_, liquidation, member, positive, same⟩⟩ :=
      flashLoanSimple_eq_ok receiver holdings loan returned
    · have free : ¬ 0 < loan.premium := fun positive =>
        safe ⟨⟨call, decoded, debt, collateral⟩, fits, positive, held⟩
      exact Or.inl (by omega)
    · exact Or.inr ⟨liquidation, member, positive, call, decoded, by rw [same]⟩

end Paths

/-- A pool where nobody can be liquidated. -/
def calmPool : AavePool where
  address := 1
  aToken := fun asset => asset + 100
  getUserAccountData := fun _ => some ⟨2000, 1000, 0, 8000, 7500, 1600000000000000000⟩
  liquidationCall := fun _ _ => none
  pays := by simp

def calmReceiver : LiquidationFlashReceiver where
  POOL := calmPool
  SWAP_ROUTER := ⟨2, fun _ _ => none⟩
  swapFee := 500
  self := 3

/-- A hundred units of asset five were left behind. -/
def leftover : Holdings := ⟨fun token => if token = 5 then 100 else 0, fun _ _ => 0⟩

/-- A stranger's loan that names asset five as debt and collateral. -/
def strangersLoan : FlashLoan where
  initiator := 9
  asset := 5
  amount := 200000
  premium := 100
  params := AbiWords.encode [5, 5, 9, 0, 0]

/-- The loan goes through without a liquidation and nothing is left. -/
theorem drained_by_stranger :
    (∃ after, calmReceiver.flashLoanSimple leftover strangersLoan = .ok (after, []) ∧
        after.balance 5 = 0) ∧
      leftover.balance 5 = 100 ∧ ¬ calmReceiver.NotDrained leftover strangersLoan := by
  have decoded : decodeParams strangersLoan.params = some ⟨5, 5, 9, 0, false⟩ := by
    decide +kernel
  obtain ⟨after, returned⟩ := flashLoanSimple_same_ok calmReceiver leftover strangersLoan decoded
    rfl rfl (by decide) (by decide)
  have cost : after.balance 5 + 100 = leftover.balance 5 := by
    obtain ⟨_, _, _, ⟨_, _, _, cost⟩ | ⟨_, liquidation, none, _⟩⟩ :=
      flashLoanSimple_eq_ok calmReceiver leftover strangersLoan returned
    · exact cost
    · exact absurd none List.not_mem_nil
  have held : leftover.balance 5 = 100 := rfl
  refine ⟨⟨after, returned, by omega⟩, held, ?_⟩
  intro kept
  rcases kept after [] returned with enough | ⟨liquidation, none, _⟩
  · have lost : leftover.balance 5 ≤ after.balance 5 := enough
    omega
  · exact List.not_mem_nil none

end LiquidationFlashReceiver

end LiquidationBot
