import Mathlib.Tactic.Common

/-!
# Account and asset addresses

An address is a hex string. Two spellings of one account differ only in the case
of their letters, and the code compares spellings, not accounts: a lookup in a
lower-cased map finds an account under every spelling, a direct comparison does
not. The model therefore keeps the case of the forty digits beside the value.
-/

namespace LiquidationBot

/-- A twenty-byte address as spelled: its value, and which of its forty hex
digits are upper-case letters. -/
structure Address where
  value : BitVec 160
  upper : BitVec 40
deriving DecidableEq

namespace Address

/-- The lower-case spelling, used as a map key everywhere. -/
def toLowerCase (address : Address) : Address := ⟨address.value, 0⟩

@[simp] theorem toLowerCase_toLowerCase (address : Address) :
    address.toLowerCase.toLowerCase = address.toLowerCase := rfl

/-- Lower-casing forgets exactly the spelling. -/
theorem toLowerCase_eq_iff (left right : Address) :
    left.toLowerCase = right.toLowerCase ↔ left.value = right.value := by
  constructor
  · intro same
    simpa [toLowerCase] using same
  · intro same
    rw [toLowerCase, toLowerCase, same]

end Address

/-- `ZERO_ADDRESS`, which is spelled without letters apart from its prefix. -/
def ZERO_ADDRESS : Address := ⟨0, 0⟩

/-- `BASE_USDC`, in the spelling of the source. -/
def BASE_USDC : Address := ⟨0x833589fcd6edb6e08f4c7c32d4f71b54bda02913, 0x192048020⟩

/-- `BASE_USDBC`, in the spelling of the source. -/
def BASE_USDBC : Address := ⟨0xd9aaec86b65d86f6a7b5b1b0c42ffa531710b6ca, 0xc80a81c0b⟩

/-- `FEED_HEARTBEATS`: seconds between rounds of the known price feeds, looked
up by lower-cased feed address. -/
def FEED_HEARTBEATS (feed : Address) : Option Nat :=
  if feed = ⟨0x71041dddad3595f9ced3dccfbe3d1f4b0a16bb70, 0⟩ then some 3600
  else if feed = ⟨0x7e860098f58bbfc8648a4311b374b1d669a2bc6b, 0⟩ then some 86400
  else if feed = ⟨0x07da0e54543a844a80abe69c8a12f22b3aa59f9d, 0⟩ then some 3600
  else none

/-- The heartbeat of a feed, with the default for unknown feeds. -/
def heartbeatOf (feed : Address) : Nat := (FEED_HEARTBEATS feed.toLowerCase).getD 3600

end LiquidationBot
