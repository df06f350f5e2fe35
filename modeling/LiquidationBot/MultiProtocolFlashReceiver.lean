import LiquidationBot.Library.Prefixes
import LiquidationBot.LiquidationRoute
import Mathlib.Algebra.BigOperators.Group.List.Basic

/-!
# The receiver of all protocols

This receiver decodes the routes as the bot encodes them. It takes the collateral of a
liquidation to a swap and lets the pool pull what is owed, but it never lets the pool pull the
debt that the liquidation covers, as the other receiver does. A pool that pulls this debt
refuses every liquidation. So no loan to the receiver completes, whatever its parameters, and
what others send to the receiver stays there.
-/

namespace LiquidationBot

/-- `RouteType`. -/
inductive RouteType where
  | AaveV3
  | Moonwell
  | Morpho
deriving DecidableEq

/-- Why a call of this receiver reverts. -/
inductive MultiRevert where
  | OnlyPool
  | UnsupportedRouteType
  | InsufficientDebtForRepay
  | noCollateral
  | invalidParams
  | invalidRouteType
  | other (reason : Revert)
deriving DecidableEq

/-- The receiver's immutables, and its own address. -/
structure MultiProtocolFlashReceiver where
  POOL : AavePool
  SWAP_ROUTER : SwapRouter
  swapFee : BitVec 24
  self : EvmAddress

namespace MultiProtocolFlashReceiver

open LiquidationFlashReceiver (FlashLoan checked external)

/-- The conversion to the enumeration, which has three members. -/
def routeTypeOf (raw : BitVec 8) : Option RouteType :=
  if raw = 0 then some .AaveV3
  else if raw = 1 then some .Moonwell
  else if raw = 2 then some .Morpho
  else none

/-- A step that reverts for a reason of its own. -/
def lift {α : Type} (step : Except Revert α) : Except MultiRevert α := step.mapError .other

/-- Go on only when the condition holds. -/
def require (condition : Prop) [Decidable condition] (reason : MultiRevert) :
    Except MultiRevert Unit :=
  if condition then .ok () else .error reason

/-- `_swapCollateralForDebt`. -/
def swapCollateralForDebt (receiver : MultiProtocolFlashReceiver) (holdings : Holdings)
    (collateralAsset debtAsset : EvmAddress) (minDebtOut : Nat) : Except MultiRevert Holdings := do
  let collateralBal := holdings.balance collateralAsset
  require (collateralBal > 0) .noCollateral
  lift (external (receiver.SWAP_ROUTER.exactInputSingle
    (holdings.approve collateralAsset receiver.SWAP_ROUTER.address collateralBal)
    { tokenIn := collateralAsset
      tokenOut := debtAsset
      fee := receiver.swapFee
      recipient := receiver.self
      amountIn := collateralBal
      amountOutMinimum := minDebtOut
      sqrtPriceLimitX96 := 0 }))

/-- The branches on the route type. -/
def operate (receiver : MultiProtocolFlashReceiver) (holdings : Holdings) (asset : EvmAddress)
    (params : Params) : RouteType → Except MultiRevert Holdings
  | .AaveV3 => do
      let liquidated ← lift (external (receiver.POOL.liquidationCall holdings params.call))
      receiver.swapCollateralForDebt liquidated params.call.collateralAsset asset
        params.minCollateralOut
  | _ => throw .UnsupportedRouteType

/-- `executeOperation`. The initiator is not looked at. -/
def executeOperation (receiver : MultiProtocolFlashReceiver) (sender : EvmAddress)
    (holdings : Holdings) (asset : EvmAddress) (amount premium : Nat) (_initiator : EvmAddress)
    (params : List AbiWords.Byte) : Except MultiRevert Holdings := do
  require (sender = receiver.POOL.address) .OnlyPool
  match decodeParams params with
  | none => throw .invalidParams
  | some decoded =>
      match routeTypeOf decoded.routeType with
      | none => throw .invalidRouteType
      | some routeType => do
          let operated ← receiver.operate holdings asset decoded routeType
          let owe ← lift (checked (amount + premium))
          require (owe ≤ operated.balance asset) .InsufficientDebtForRepay
          return operated.approve asset receiver.POOL.address owe

/-- `flashLoanSimple` of the pool: it lends, calls the receiver and pulls. -/
def flashLoanSimple (receiver : MultiProtocolFlashReceiver) (holdings : Holdings)
    (loan : FlashLoan) : Except MultiRevert Holdings := do
  let operated ← receiver.executeOperation receiver.POOL.address
    (holdings.credit loan.asset loan.amount) loan.asset loan.amount loan.premium loan.initiator
    loan.params
  lift (operated.pull loan.asset receiver.POOL.address (loan.amount + loan.premium))

/-! ## Histories -/

/-- What can happen to the receiver: a loan, a call by anyone, and tokens sent to it. -/
inductive ReceiverEvent where
  | flashLoan (loan : FlashLoan)
  | executeOperation (sender : EvmAddress) (call : FlashLoan)
  | received (token : EvmAddress) (amount : Nat)

/-- The call that an event makes. -/
def attempt (receiver : MultiProtocolFlashReceiver) (holdings : Holdings) :
    ReceiverEvent → Except MultiRevert Holdings
  | .flashLoan loan => receiver.flashLoanSimple holdings loan
  | .executeOperation sender call =>
      receiver.executeOperation sender holdings call.asset call.amount call.premium call.initiator
        call.params
  | .received token amount => .ok (holdings.credit token amount)

/-- A call that reverts leaves everything as it was. -/
def step (receiver : MultiProtocolFlashReceiver) (holdings : Holdings) (event : ReceiverEvent) :
    Holdings :=
  match receiver.attempt holdings event with
  | .ok after => after
  | .error _ => holdings

/-- What an event sends to the receiver. -/
def ReceiverEvent.sent (token : EvmAddress) : ReceiverEvent → Nat
  | .received sentToken amount => if sentToken = token then amount else 0
  | _ => 0

/-- The event is a call that reverts, or no call. -/
def Reverts (receiver : MultiProtocolFlashReceiver) (holdings : Holdings) (event : ReceiverEvent) :
    Prop :=
  (∃ token amount, event = .received token amount) ∨
    ∃ reason, receiver.attempt holdings event = .error reason

/-- The pool takes the debt that a liquidation covers from the liquidator, who has to let it. -/
def PullsDebt (pool : AavePool) : Prop :=
  ∀ before call after, pool.liquidationCall before call = some after →
    0 < before.allowance call.debtAsset pool.address

/-- The receiver lets the pool pull nothing. -/
def Unapproved (receiver : MultiProtocolFlashReceiver) (holdings : Holdings) : Prop :=
  ∀ token, holdings.allowance token receiver.POOL.address = 0

section Stuck

variable {receiver : MultiProtocolFlashReceiver} {holdings : Holdings}

theorem bind_error {α β : Type} {step : Except MultiRevert α}
    {rest : α → Except MultiRevert β} {reason : MultiRevert} (failed : step = .error reason) :
    (step >>= rest) = .error reason := by
  rw [failed]
  rfl

/-- Each branch reverts: one at the pool, the others at once. -/
theorem operate_reverts (pulls : PullsDebt receiver.POOL)
    (unapproved : Unapproved receiver holdings)
    (asset : EvmAddress) (params : Params) (routeType : RouteType) :
    ∃ reason, receiver.operate holdings asset params routeType = .error reason := by
  cases routeType with
  | AaveV3 =>
    have refused : receiver.POOL.liquidationCall holdings params.call = none := by
      rw [Option.eq_none_iff_forall_ne_some]
      intro after paid
      have allowed := pulls holdings params.call after paid
      rw [unapproved] at allowed
      exact lt_irrefl 0 allowed
    refine ⟨.other .callFailed, bind_error ?_⟩
    rw [refused]
    rfl
  | Moonwell => exact ⟨.UnsupportedRouteType, rfl⟩
  | Morpho => exact ⟨.UnsupportedRouteType, rfl⟩

theorem executeOperation_reverts (pulls : PullsDebt receiver.POOL)
    (unapproved : Unapproved receiver holdings) (sender asset : EvmAddress) (amount premium : Nat)
    (initiator : EvmAddress) (params : List AbiWords.Byte) :
    ∃ reason, receiver.executeOperation sender holdings asset amount premium initiator params =
      .error reason := by
  by_cases pool : sender = receiver.POOL.address
  · have admitted : require (sender = receiver.POOL.address) .OnlyPool = .ok () := if_pos pool
    rw [executeOperation, admitted, Throwing.ok_bind]
    cases decodeParams params with
    | none => exact ⟨.invalidParams, rfl⟩
    | some decoded =>
      dsimp only
      cases routeTypeOf decoded.routeType with
      | none => exact ⟨.invalidRouteType, rfl⟩
      | some routeType =>
        obtain ⟨reason, failed⟩ := operate_reverts pulls unapproved asset decoded routeType
        exact ⟨reason, bind_error failed⟩
  · have rejected : require (sender = receiver.POOL.address) .OnlyPool = .error .OnlyPool :=
      if_neg pool
    exact ⟨.OnlyPool, bind_error rejected⟩

/-- One event: a call reverts, and the receiver still lets the pool pull nothing. -/
theorem step_unapproved (pulls : PullsDebt receiver.POOL)
    (unapproved : Unapproved receiver holdings)
    (event : ReceiverEvent) : Reverts receiver holdings event ∧
      Unapproved receiver (receiver.step holdings event) ∧
      ∀ token, (receiver.step holdings event).balance token =
        holdings.balance token + event.sent token := by
  have stays : ∀ reason, receiver.attempt holdings event = .error reason →
      receiver.step holdings event = holdings := by
    intro reason failed
    rw [step, failed]
  cases event with
  | flashLoan loan =>
    have credited : Unapproved receiver (holdings.credit loan.asset loan.amount) := unapproved
    obtain ⟨reason, failed⟩ := executeOperation_reverts pulls credited receiver.POOL.address
      loan.asset loan.amount loan.premium loan.initiator loan.params
    have reverted : receiver.attempt holdings (.flashLoan loan) = .error reason :=
      bind_error failed
    rw [stays reason reverted]
    exact ⟨Or.inr ⟨reason, reverted⟩, unapproved, fun _ => rfl⟩
  | executeOperation sender call =>
    obtain ⟨reason, reverted⟩ := executeOperation_reverts pulls unapproved sender call.asset
      call.amount call.premium call.initiator call.params
    rw [stays reason reverted]
    exact ⟨Or.inr ⟨reason, reverted⟩, unapproved, fun _ => rfl⟩
  | received sentToken amount =>
    refine ⟨Or.inl ⟨sentToken, amount, rfl⟩, unapproved, fun token => ?_⟩
    change Function.update holdings.balance sentToken (holdings.balance sentToken + amount) token =
      holdings.balance token + if sentToken = token then amount else 0
    by_cases here : sentToken = token
    · rw [here, Function.update_self, if_pos rfl]
    · rw [Function.update_of_ne (Ne.symm here), if_neg here, Nat.add_zero]

/-- Over any history of loans, calls and payments every loan and every call reverts, and the
receiver's balances are what it had and was sent. -/
theorem never_completes (pulls : PullsDebt receiver.POOL)
    (unapproved : Unapproved receiver holdings)
    (events : List ReceiverEvent) :
    Prefixes.EachStep (fun past event =>
        Reverts receiver (past.foldl receiver.step holdings) event) events ∧
      ∀ token, (events.foldl receiver.step holdings).balance token =
        holdings.balance token + (events.map (ReceiverEvent.sent token)).sum := by
  have run : Prefixes.EachStep (fun past event =>
        Reverts receiver (past.foldl receiver.step holdings) event) events ∧
      Unapproved receiver (events.foldl receiver.step holdings) ∧
      ∀ token, (events.foldl receiver.step holdings).balance token =
        holdings.balance token + (events.map (ReceiverEvent.sent token)).sum := by
    induction events using List.reverseRecOn with
    | nil => exact ⟨fun past event initial => by simp at initial, unapproved, fun _ => rfl⟩
    | append_singleton events event inductionHypothesis =>
      obtain ⟨each, still, balances⟩ := inductionHypothesis
      obtain ⟨reverts, after, changed⟩ := step_unapproved pulls still event
      rw [Prefixes.eachStep_snoc, List.foldl_append]
      refine ⟨⟨each, reverts⟩, after, fun token => ?_⟩
      rw [List.foldl_cons, List.foldl_nil, changed, balances, List.map_append, List.sum_append,
        List.map_singleton, List.sum_singleton, Nat.add_assoc]
  exact ⟨run.1, run.2.2⟩

end Stuck

/-- A pool that pays a tenth more than the debt it is allowed to pull. -/
def pullingPool : AavePool where
  address := 1
  aToken := fun asset => asset + 100
  getUserAccountData := fun _ => some ⟨2000, 1000, 0, 8000, 7500, 900000000000000000⟩
  liquidationCall := fun holdings call =>
    if 0 < call.debtToCover ∧ call.debtToCover ≤ holdings.allowance call.debtAsset 1 then
      some (holdings.credit (call.paidToken (fun asset => asset + 100))
        (call.debtToCover + call.debtToCover / 10))
    else none
  pays := by
    intro before call after _ paid
    split at paid
    next covered =>
      cases paid
      rw [Holdings.balance_credit]
      omega
    next => cases paid

def pullingReceiver : MultiProtocolFlashReceiver := ⟨pullingPool, ⟨2, fun _ _ => none⟩, 500, 3⟩

/-- The loan of a route of the bot's own reverts, before and after the receiver is sent a
premium. -/
theorem never_completes_plainRoute :
    let loan : FlashLoan := ⟨9, 6, 1000, 1, encodeLiquidationRoute
      LiquidationFlashReceiver.plainRoute⟩
    Prefixes.EachStep (fun past event => Reverts pullingReceiver
        (past.foldl pullingReceiver.step ⟨fun _ => 0, fun _ _ => 0⟩) event)
      [.flashLoan loan, .received 6 1, .flashLoan loan] := by
  intro loan
  refine (never_completes ?_ (fun _ => rfl) _).1
  intro before call after paid
  change (if 0 < call.debtToCover ∧ call.debtToCover ≤ before.allowance call.debtAsset 1 then
    some _ else none) = some after at paid
  split at paid
  next covered => exact covered.1.trans_le covered.2
  next => cases paid

end MultiProtocolFlashReceiver

end LiquidationBot
