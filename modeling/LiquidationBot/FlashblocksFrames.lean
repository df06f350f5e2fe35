import LiquidationBot.FlashblocksWsClient
import LiquidationBot.Library.Throwing

/-!
# Frames that are not what they should be

The handler of messages is given any text. What is no JSON is dropped, and so is
most that has another shape. Three shapes are not: a text that is `null`, a block
number of a known subscription that no big integer is written as, and a log of a
known subscription that is null or an array. The first two throw, the third is
handed to the callback as if it were a log.
-/

namespace LiquidationBot

/-! ## Texts that are converted -/

/-- The text that `extractSubscriptionBlockNumber` converts, if it converts one. -/
def blockText : Option Json → Option JsString
  | some (.string text) => some text
  | some result =>
      match rawBlockNumber result with
      | some (.string text) => some text
      | _ => none
  | none => none

/-- The result has a text for its block number, and the text is no big integer. -/
def HasUnreadableBlock (result : Option Json) : Prop :=
  ∃ text, blockText result = some text ∧ Json.bigInt text = none

theorem extractSubscriptionBlockNumber_of_text {result : Option Json} {text : JsString}
    (isText : blockText result = some text) :
    extractSubscriptionBlockNumber result = bigIntOrThrow text := by
  unfold blockText at isText
  split at isText
  next found =>
    cases isText
    rfl
  next value notString =>
    split at isText
    next found raw =>
      cases isText
      unfold extractSubscriptionBlockNumber
      split
      next other same => exact (notString other (Option.some.inj same)).elim
      next same =>
        cases same
        simp only [raw]
      next absent => cases absent
    · cases isText
  · cases isText

theorem extractSubscriptionBlockNumber_of_no_text {result : Option Json}
    (noText : blockText result = none) :
    ∃ blockNumber, extractSubscriptionBlockNumber result = .ok blockNumber := by
  unfold extractSubscriptionBlockNumber
  split
  · cases noText
  next value notString =>
    split
    next text raw => simp [blockText, raw] at noText
    next => exact ⟨_, rfl⟩
    next => exact ⟨_, rfl⟩
  · exact ⟨none, rfl⟩

/-- The conversion returns unless there is a text that it cannot read. -/
theorem extractSubscriptionBlockNumber_returns_iff (result : Option Json) :
    (∃ blockNumber, extractSubscriptionBlockNumber result = .ok blockNumber) ↔
      ¬ HasUnreadableBlock result := by
  unfold HasUnreadableBlock
  cases isText : blockText result with
  | none =>
    simp only [reduceCtorEq, false_and, exists_false, not_false_eq_true, iff_true]
    exact extractSubscriptionBlockNumber_of_no_text isText
  | some text =>
    rw [extractSubscriptionBlockNumber_of_text isText]
    unfold bigIntOrThrow
    cases read : Json.bigInt text with
    | none => simp [read]
    | some value => simp [read]

/-! ## What a frame is -/

/-- A result that a subscription of the kind can have: one with a block number, or a
log. -/
def WellFormedResult (kind : FlashblocksSubscriptionKind) (result : Option Json) : Prop :=
  match kind with
  | .newFlashblocks | .newHeads =>
      ∃ blockNumber, extractSubscriptionBlockNumber result = .ok (some blockNumber)
  | .pendingLogs | .logs => ∃ members, result = some (.object members)

/-- The result is null or an array where a log is expected. -/
def IsNoLog (result : Option Json) : Prop :=
  result = some .null ∨ ∃ items, result = some (.array items)

namespace FlashblocksWsClient

section Frames

variable (config : FlashblocksWsClientConfig) (client : FlashblocksWsClient) (raw : String)

/-- The text is a response to a pending request. -/
def Responds : Prop :=
  ∃ parsed, Json.parse raw = some parsed ∧ (client.pendingOf parsed).isSome

/-- The text is a notification of a known subscription with the result. -/
def Notifies (id : JsString) (kind : FlashblocksSubscriptionKind) (result : Option Json) : Prop :=
  ∃ parsed, Json.parse raw = some parsed ∧ isNotification parsed = true ∧
    client.knownSubscription parsed = some (id, kind) ∧ notificationResult parsed = result

/-- The text is a well-formed notification of a known subscription. -/
def NotifiesWell : Prop :=
  ∃ id kind result, Notifies client raw id kind result ∧ WellFormedResult kind result

/-- The handler returns, and what it was not meant for changes nothing and calls
nothing. -/
def Harmless : Prop :=
  ∃ handled, handleMessage config client raw = .ok handled ∧
    (¬ Responds client raw → ¬ NotifiesWell client raw → handled = client.ignored)

/-- The result is of no use to the callback of the kind, and the handler does not
notice. -/
def Mishandled (kind : FlashblocksSubscriptionKind) (result : Option Json) : Prop :=
  match kind with
  | .newFlashblocks | .newHeads => HasUnreadableBlock result
  | .pendingLogs => IsNoLog result
  | .logs => config.hasOnConfirmedLog = true ∧ IsNoLog result

/-- The texts that do harm: null, and a notification of a known subscription whose
result is mishandled. -/
def Harmful : Prop :=
  Json.parse raw = some .null ∨
    ¬ Responds client raw ∧ ∃ id kind result, Notifies client raw id kind result ∧
      Mishandled config kind result

end Frames

/-! ## Results and their callbacks -/

variable {config : FlashblocksWsClientConfig} {client : FlashblocksWsClient} {raw : String}
  {kind : FlashblocksSubscriptionKind} {result : Option Json}

theorem blockCallback_harmless_iff :
    (∃ callback, blockCallback config kind result = .ok callback ∧
      ((¬ ∃ blockNumber, extractSubscriptionBlockNumber result = .ok (some blockNumber)) →
        callback = none)) ↔ ¬ HasUnreadableBlock result := by
  rw [← extractSubscriptionBlockNumber_returns_iff]
  unfold blockCallback
  constructor
  · rintro ⟨callback, returned, _⟩
    obtain ⟨blockNumber, extracted, _⟩ := (Throwing.bind_eq_ok_iff _ _ _).mp returned
    exact ⟨blockNumber, extracted⟩
  · rintro ⟨blockNumber, extracted⟩
    rw [extracted]
    refine ⟨_, rfl, ?_⟩
    intro malformed
    cases blockNumber with
    | none => rfl
    | some block => exact absurd ⟨block, rfl⟩ malformed

/-- Of the values of object type, null and arrays are no logs. -/
theorem log_harmless_iff (wanted : Bool) :
    ((¬ ∃ members, result = some (.object members)) →
      result.filter (fun log => isObjectType (some log) && wanted) = none) ↔
        ¬ (wanted = true ∧ IsNoLog result) := by
  unfold IsNoLog
  cases result with
  | none => simp
  | some log =>
    cases log with
    | null => simp [isObjectType]
    | bool value => simp [isObjectType]
    | number value => simp [isObjectType]
    | string text => simp [isObjectType]
    | array items => simp [isObjectType]
    | object members => simp

/-- A result makes its callback throw, or reaches it in spite of its shape, exactly if
it is mishandled. -/
theorem callbackFor_harmless_iff :
    (∃ callback, callbackFor config kind result = .ok callback ∧
      (¬ WellFormedResult kind result → callback = none)) ↔ ¬ Mishandled config kind result := by
  cases kind with
  | pendingLogs => simpa [callbackFor, WellFormedResult, Mishandled] using log_harmless_iff true
  | logs =>
    simpa [callbackFor, WellFormedResult, Mishandled] using log_harmless_iff config.hasOnConfirmedLog
  | newFlashblocks => exact blockCallback_harmless_iff
  | newHeads => exact blockCallback_harmless_iff

section Parsed

variable {parsed : Json}

theorem handleMessage_of_parse (read : Json.parse raw = some parsed) (notNull : parsed ≠ .null) :
    handleMessage config client raw =
      match client.pendingOf parsed with
      | some (id, pending) => .ok (client.settleRequest id pending parsed)
      | none =>
          if isNotification parsed then client.notify config parsed else .ok client.ignored := by
  unfold handleMessage
  rw [read]
  cases parsed with
  | null => exact absurd rfl notNull
  | bool value => rfl
  | number value => rfl
  | string text => rfl
  | array items => rfl
  | object members => rfl

theorem responds_iff (read : Json.parse raw = some parsed) :
    Responds client raw ↔ (client.pendingOf parsed).isSome := by
  simp [Responds, read]

theorem notifies_iff (read : Json.parse raw = some parsed) (id : JsString) :
    Notifies client raw id kind result ↔ isNotification parsed = true ∧
      client.knownSubscription parsed = some (id, kind) ∧ notificationResult parsed = result := by
  simp [Notifies, read]

/-- A notification of a known subscription is as harmless as its callback. -/
theorem notify_harmless_iff {id : JsString}
    (known : client.knownSubscription parsed = some (id, kind)) :
    (∃ handled, client.notify config parsed = .ok handled ∧
      (¬ WellFormedResult kind (notificationResult parsed) → handled = client.ignored)) ↔
        ¬ Mishandled config kind (notificationResult parsed) := by
  rw [← callbackFor_harmless_iff]
  unfold notify
  rw [known]
  cases called : callbackFor config kind (notificationResult parsed) with
  | error error => simp [called, bind, Except.bind]
  | ok callback => simp [called, bind, Except.bind, pure, Except.pure, ignored]

end Parsed

section Example

/-- A configuration with all callbacks. -/
def everyCallback : FlashblocksWsClientConfig := ⟨true, true, none, true, none⟩

/-- A client with one subscription of the kind. -/
def subscribedTo (kind : FlashblocksSubscriptionKind) : FlashblocksWsClient :=
  { initial with subscriptions := InsertionMap.empty.set (jsString "0xa") kind }

/-- A notification for it, with a result. -/
def frameWith (result : String) : String :=
  "\x7b\"method\":\"eth_subscription\",\"params\":\x7b\"subscription\":\"0xa\",\"result\":" ++
    result ++ "\x7d\x7d"

/-- The callback of a log was called with null. -/
def callsWithNull : Except HandlerError HandledMessage → Bool
  | .ok ⟨_, _, some ⟨_, _, .onPendingLog .null⟩⟩ => true
  | _ => false

theorem not_harmless_of_throws {config : FlashblocksWsClientConfig} {client : FlashblocksWsClient}
    {raw : String} (throws : (handleMessage config client raw).isOk = false) :
    ¬ Harmless config client raw := by
  rintro ⟨handled, returned, _⟩
  rw [returned] at throws
  cases throws

end Example

end FlashblocksWsClient

end LiquidationBot
