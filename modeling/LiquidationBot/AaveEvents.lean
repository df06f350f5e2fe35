import LiquidationBot.Addresses

/-!
# Ingested events

Pool logs and price-feed logs reach the bot over three channels. Raw websocket
logs are first normalised; pool logs are then matched against the pool's events
in a fixed order. The log decoder itself belongs to a library and stays a
parameter; the normaliser, the matching and the deduplication key are modelled
as written.
-/

namespace LiquidationBot

/-- Channel on which a log arrived. -/
inductive IngestionEventSource where
  | pending
  | confirmed
  | gapFill
deriving DecidableEq

/-- Names of the pool's events. -/
inductive AavePoolEventName where
  | Supply
  | Withdraw
  | Borrow
  | Repay
  | LiquidationCall
  | ReserveDataUpdated
deriving DecidableEq

/-- A transaction hash; the source writes `"0x"` for an absent one. -/
abbrev TxHash := Option (BitVec 256)

/-- Where an event comes from. -/
structure IngestionEventMeta where
  blockNumber : Nat
  flashblockIndex : Option Nat
  txHash : TxHash
  logIndex : Nat
  source : IngestionEventSource
deriving DecidableEq

/-- Arguments a decoded pool event may carry; an absent argument is `none`. -/
structure PoolEventArgs where
  reserve : Option Address
  collateralAsset : Option Address
  debtAsset : Option Address
  user : Option Address
  onBehalfOf : Option Address
  amount : Option Nat
  debtToCover : Option Nat
  liquidatedCollateralAmount : Option Nat
  liquidityIndex : Option Nat
  variableBorrowIndex : Option Nat
deriving DecidableEq

/-- A pool event after parsing. -/
structure ParsedAavePoolEvent where
  name : AavePoolEventName
  origin : IngestionEventMeta
  reserve : Address
  collateralAsset : Option Address
  debtAsset : Option Address
  user : Option Address
  onBehalfOf : Option Address
  amount : Option Nat
  debtToCover : Option Nat
  liquidatedCollateralAmount : Option Nat
  liquidityIndex : Option Nat
  variableBorrowIndex : Option Nat
deriving DecidableEq

/-- A price-feed answer after parsing. The update time may be missing, although
the parser of this module always supplies one. -/
structure ParsedChainlinkPriceEvent where
  origin : IngestionEventMeta
  feed : Address
  asset : Address
  price : Int
  oracleUpdatedAtSec : Option Int
deriving DecidableEq

/-- Either kind of parsed event. -/
inductive ParsedIngestionEvent where
  | aavePool (event : ParsedAavePoolEvent)
  | chainlinkPrice (event : ParsedChainlinkPriceEvent)
deriving DecidableEq

/-- Where a parsed event comes from, whatever its kind. -/
def ParsedIngestionEvent.origin : ParsedIngestionEvent → IngestionEventMeta
  | .aavePool event => event.origin
  | .chainlinkPrice event => event.origin

/-- The parts of the key string, which its separators keep apart. -/
structure DedupKey where
  blockNumber : Nat
  flashblockIndex : Option Nat
  txHash : TxHash
  logIndex : Nat
deriving DecidableEq

/-- `ingestionDedupKey`: the channel is not part of the key. -/
def ingestionDedupKey (origin : IngestionEventMeta) : DedupKey where
  blockNumber := origin.blockNumber
  flashblockIndex := origin.flashblockIndex
  txHash := origin.txHash
  logIndex := origin.logIndex

/-- The identity of a log on chain. -/
abbrev LogId := TxHash × Nat

/-- The identity an origin names. -/
def IngestionEventMeta.logId (origin : IngestionEventMeta) : LogId :=
  (origin.txHash, origin.logIndex)

/-- The identity a deduplication key belongs to. -/
def DedupKey.logId (key : DedupKey) : LogId := (key.txHash, key.logIndex)

/-- A numeric field of a raw log: a quantity string, a number, or anything else,
which covers an absent field, `null` and values of other types. -/
inductive RawQuantity where
  | text (value : Nat)
  | number (value : Nat)
  | missing
deriving DecidableEq

/-- The fields of a raw websocket log that the bot reads. The payload stands for
data and topics, which only the decoder looks at. -/
structure RawLog (Payload : Type) where
  address : Option Address
  blockNumber : RawQuantity
  transactionHash : TxHash
  logIndex : RawQuantity
  payload : Payload

/-- A log in the library's shape; gap-fill delivers these directly. -/
structure Log (Payload : Type) where
  address : Address
  blockNumber : Option Nat
  transactionHash : TxHash
  logIndex : Option Nat
  payload : Payload

/-- `rawLogToViemLog`: a numeric field that is neither text nor number becomes
zero, so the block number of a normalised raw log is never absent. -/
def rawLogToViemLog {Payload : Type} (raw : RawLog Payload) : Log Payload where
  address := raw.address.getD ZERO_ADDRESS
  blockNumber := some (match raw.blockNumber with
    | .text value => value
    | .number value => value
    | .missing => 0)
  transactionHash := raw.transactionHash
  logIndex := some (match raw.logIndex with
    | .number value => value
    | .text value => value
    | .missing => 0)
  payload := raw.payload

/-- The log decoder of the library: one pool event by name, and the price feed's
answer event with its value and update time. -/
structure LogDecoder (Payload : Type) where
  poolEvent : AavePoolEventName → Payload → Option PoolEventArgs
  answerUpdated : Payload → Option (Int × Int)

/-- The order in which the parser tries the pool's events. -/
def poolEventNames : List AavePoolEventName :=
  [.Supply, .Withdraw, .Borrow, .Repay, .LiquidationCall, .ReserveDataUpdated]

/-- The reserve of an event, falling back to the liquidation's assets. A decoded
pool event always has one of them. -/
def PoolEventArgs.reserveAsset (args : PoolEventArgs) : Address :=
  ((args.reserve.or args.collateralAsset).or args.debtAsset).getD ZERO_ADDRESS

/-- `parseAavePoolLog`: the first pool event that decodes. -/
def parseAavePoolLog {Payload : Type} (decoder : LogDecoder Payload) (log : Log Payload)
    (origin : IngestionEventMeta) : Option ParsedAavePoolEvent :=
  poolEventNames.findSome? (fun name => (decoder.poolEvent name log.payload).map (fun args =>
    { name := name
      origin := origin
      reserve := args.reserveAsset
      collateralAsset := if name = .LiquidationCall then args.collateralAsset else none
      debtAsset := if name = .LiquidationCall then args.debtAsset else none
      user := args.user
      onBehalfOf := args.onBehalfOf
      amount := args.amount
      debtToCover := args.debtToCover
      liquidatedCollateralAmount := args.liquidatedCollateralAmount
      liquidityIndex := args.liquidityIndex
      variableBorrowIndex := args.variableBorrowIndex }))

/-- `parseChainlinkAnswerUpdatedLog`: answers and update times must be positive. -/
def parseChainlinkAnswerUpdatedLog {Payload : Type} (decoder : LogDecoder Payload)
    (log : Log Payload) (asset : Address) (origin : IngestionEventMeta) :
    Option ParsedChainlinkPriceEvent :=
  match decoder.answerUpdated log.payload with
  | none => none
  | some (price, updatedAt) =>
      if price ≤ 0 then none
      else if updatedAt ≤ 0 then none
      else some
        { origin := origin
          feed := log.address
          asset := asset
          price := price
          oracleUpdatedAtSec := some updatedAt }

/-- Whether a log is a pool event depends on its payload only. -/
theorem parseAavePoolLog_isSome_iff {Payload : Type} (decoder : LogDecoder Payload)
    (log : Log Payload) (origin : IngestionEventMeta) :
    (parseAavePoolLog decoder log origin).isSome = true ↔
      ∃ name ∈ poolEventNames, (decoder.poolEvent name log.payload).isSome = true := by
  simp [parseAavePoolLog, List.findSome?_isSome_iff]

/-- Parsing keeps the origin it is given. -/
theorem parseAavePoolLog_origin {Payload : Type} {decoder : LogDecoder Payload}
    {log : Log Payload} {origin : IngestionEventMeta} {event : ParsedAavePoolEvent}
    (parsed : parseAavePoolLog decoder log origin = some event) : event.origin = origin := by
  obtain ⟨name, _, found⟩ := List.exists_of_findSome?_eq_some parsed
  obtain ⟨args, _, rfl⟩ := Option.map_eq_some_iff.mp found
  rfl

theorem parseChainlinkAnswerUpdatedLog_origin {Payload : Type} {decoder : LogDecoder Payload}
    {log : Log Payload} {asset : Address} {origin : IngestionEventMeta}
    {event : ParsedChainlinkPriceEvent}
    (parsed : parseChainlinkAnswerUpdatedLog decoder log asset origin = some event) :
    event.origin = origin := by
  unfold parseChainlinkAnswerUpdatedLog at parsed
  cases answer : decoder.answerUpdated log.payload with
  | none => simp [answer] at parsed
  | some round =>
    obtain ⟨price, updatedAt⟩ := round
    simp only [answer, Option.ite_none_left_eq_some, Option.some.injEq] at parsed
    obtain ⟨_, _, rfl⟩ := parsed
    rfl

end LiquidationBot
