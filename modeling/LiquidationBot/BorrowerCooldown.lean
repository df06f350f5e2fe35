import LiquidationBot.Library.Expiry
import LiquidationBot.SafeTransactionExecutor

/-!
# The borrower cooldown

A failed execution puts its borrower on hold. The registry stores a deadline for
each chain and lower-cased account, and the gate in front of it decides which
reasons of dead letters count. Whoever asks must name the account under which
the hold was recorded.
-/

namespace LiquidationBot

/-- The reason of a dead letter: the executor's, or one of the orchestrator's. -/
inductive DeadLetterReason where
  | rejected (reason : RejectReason)
  | failed (reason : FailReason)
  | executor_exception
  | request_builder_exception
deriving DecidableEq

/-- `shouldApplyBorrowerCooldown`, by `cooldownEligibleDeadLetterReasons`. -/
def shouldApplyBorrowerCooldown : DeadLetterReason → Bool
  | .rejected .final_simulation_failed => true
  | .failed .receipt_reverted => true
  | .executor_exception => true
  | .failed .send_failed => true
  | _ => false

/-- `borrowerKey`: chain and lower-cased account. -/
structure BorrowerKey where
  chain : SupportedChain
  account : Address
deriving DecidableEq

def borrowerKey (chain : SupportedChain) (account : Address) : BorrowerKey :=
  ⟨chain, account.toLowerCase⟩

theorem borrowerKey_eq_iff (chain other : SupportedChain) (account tested : Address) :
    borrowerKey chain account = borrowerKey other tested ↔
      chain = other ∧ account.value = tested.value := by
  rw [borrowerKey, borrowerKey, BorrowerKey.mk.injEq, Address.toLowerCase_eq_iff]

def defaultCooldownMs : Int := 10 * 60 * 1000

def minCooldownMs : Int := 5 * 60 * 1000

def maxCooldownMs : Int := 15 * 60 * 1000

def clampBorrowerCooldownMs (value : Int) : Int := min maxCooldownMs (max minCooldownMs value)

/-- `BorrowerCooldownRegistry`. -/
structure BorrowerCooldownRegistry where
  blockedUntilMs : InsertionMap BorrowerKey Int
  lastReason : InsertionMap BorrowerKey DeadLetterReason
  cooldownMs : Int

namespace BorrowerCooldownRegistry

/-- The constructor, with the setting or the default. -/
def create (cooldownMs : Option Int) : BorrowerCooldownRegistry where
  blockedUntilMs := .empty
  lastReason := .empty
  cooldownMs := clampBorrowerCooldownMs (cooldownMs.getD defaultCooldownMs)

def blockBorrower (registry : BorrowerCooldownRegistry) (nowMs : Int) (chain : SupportedChain)
    (account : Address) (reason : DeadLetterReason) : BorrowerCooldownRegistry :=
  { registry with
    blockedUntilMs :=
      Expiry.hold registry.blockedUntilMs registry.cooldownMs nowMs (borrowerKey chain account)
    lastReason := registry.lastReason.set (borrowerKey chain account) reason }

def isBorrowerBlocked (registry : BorrowerCooldownRegistry) (nowMs : Int) (chain : SupportedChain)
    (account : Address) : BorrowerCooldownRegistry × Bool :=
  match registry.blockedUntilMs.get? (borrowerKey chain account) with
  | none => (registry, false)
  | some deadline =>
      if deadline ≤ nowMs then
        ({ registry with
            blockedUntilMs := registry.blockedUntilMs.delete (borrowerKey chain account)
            lastReason := registry.lastReason.delete (borrowerKey chain account) }, false)
      else (registry, true)

/-- The registry's check is a check of its deadlines. -/
theorem isBorrowerBlocked_eq (registry : BorrowerCooldownRegistry) (nowMs : Int)
    (chain : SupportedChain) (account : Address) :
    ((registry.isBorrowerBlocked nowMs chain account).1.blockedUntilMs,
        (registry.isBorrowerBlocked nowMs chain account).2) =
      Expiry.check registry.blockedUntilMs nowMs (borrowerKey chain account) := by
  unfold isBorrowerBlocked Expiry.check
  cases registry.blockedUntilMs.get? (borrowerKey chain account) with
  | none => rfl
  | some deadline =>
    dsimp only
    split
    · rfl
    · rfl

/-- The gate's `recordDeadLetter`. -/
def recordDeadLetter (registry : BorrowerCooldownRegistry) (nowMs : Int) (chain : SupportedChain)
    (account : Address) (reason : DeadLetterReason) : BorrowerCooldownRegistry :=
  if shouldApplyBorrowerCooldown reason then registry.blockBorrower nowMs chain account reason
  else registry

@[simp] theorem cooldownMs_isBorrowerBlocked (registry : BorrowerCooldownRegistry) (nowMs : Int)
    (chain : SupportedChain) (account : Address) :
    (registry.isBorrowerBlocked nowMs chain account).1.cooldownMs = registry.cooldownMs := by
  unfold isBorrowerBlocked
  split
  · rfl
  · split
    · rfl
    · rfl

@[simp] theorem cooldownMs_recordDeadLetter (registry : BorrowerCooldownRegistry) (nowMs : Int)
    (chain : SupportedChain) (account : Address) (reason : DeadLetterReason) :
    (registry.recordDeadLetter nowMs chain account reason).cooldownMs = registry.cooldownMs := by
  unfold recordDeadLetter
  split
  · rfl
  · rfl

end BorrowerCooldownRegistry

end LiquidationBot
