import LiquidationBot.FlashLoanFees
import LiquidationBot.Library.JsonWriter
import LiquidationBot.Library.Throwing

/-!
# Settings read from environment variables

A variable is a text or undefined. Most readers take white space alone for
undefined and have a default for it; a text that does not stand for a setting is
refused with the name of its variable. The switches of the event-purity mode are
the exception: whatever is no boolean stands for the default there.

For each reader one lemma says that what it accepts is the reading of the text:
the default, the boolean or the number that the text stands for.
-/

namespace LiquidationBot

namespace RuntimeEnv

/-- `Env`. -/
abbrev Env := String → Option String

def trim (text : String) : String := String.ofList (FlashLoanFees.trim text.toList)

/-- `optionalEnv`. -/
def optionalEnv (env : Env) (name : String) : Option String :=
  ((env name).map trim).filter (fun text => text ≠ "")

def requireEnv (env : Env) (name : String) : Except String String :=
  match optionalEnv env name with
  | none => throw s!"{name} is required"
  | some text => return text

def parseList (value : Option String) : List String :=
  (((value.getD "").toList.splitOn ',').map (fun entry => trim (String.ofList entry))).filter
    (fun entry => entry ≠ "")

/-! ## Readings -/

/-- What a text stands for, with a default for undefined and for white space. -/
def readingOf {α : Type} (read : String → Option α) (fallback : α) (value : Option String) :
    Option α :=
  match value with
  | none => some fallback
  | some text => if trim text = "" then some fallback else read text

/-- `true`, `1`, `false` and `0`, in any case. -/
def booleanNamed (text : String) : Option Bool :=
  let normalized := (trim text).toLower
  if normalized = "true" ∨ normalized = "1" then some true
  else if normalized = "false" ∨ normalized = "0" then some false
  else none

/-- `Number(text)`, where it is finite. -/
def number (text : String) : Option ℚ := NumberText.number (trim text).toList

/-- A number literal of the program. -/
def literal (text : String) : ℚ := (number text).getD 0

/-- `BigInt(text.trim())`, where it does not throw. -/
def bigInt (text : String) : Option Int := Json.bigInt (jsString (trim text))

abbrev booleanOf : Bool → Option String → Option Bool := readingOf booleanNamed

abbrev numberOf : ℚ → Option String → Option ℚ := readingOf number

abbrev bigIntOf : Int → Option String → Option Int := readingOf bigInt

/-- The default may be spelled out. -/
theorem readingOf_getD {α : Type} {read : String → Option α} {fallback : α} {text : String}
    (spelled : readingOf read fallback (some text) = some fallback) (value : Option String) :
    readingOf read fallback (some (value.getD text)) = readingOf read fallback value := by
  cases value with
  | none => exact spelled
  | some given => rfl

/-! ## Booleans, numbers and addresses -/

/-- `parseBoolean` of the entry point. -/
def parseBoolean (value : Option String) (fallback : Bool) : Except String Bool :=
  let given := String.ofList (Json.quoted (value.getD ""))
  match booleanOf fallback value with
  | some read => return read
  | none => throw s!"Boolean env vars must be true or false (got {given})"

def parseMinNumber (value : Option String) (fallback : ℚ) (min : Nat) (name : String) :
    Except String ℚ :=
  match numberOf fallback value with
  | some parsed =>
      if parsed < min then throw s!"{name} must be a number greater than or equal to {min}"
      else return parsed
  | none => throw s!"{name} must be a number greater than or equal to {min}"

def isHexDigit (char : Char) : Bool := (NumberText.digitValue char).isSome

/-- `0x` and a number of hex digits. -/
def isHex (digits : Nat) (text : String) : Bool :=
  match text.toList with
  | '0' :: 'x' :: rest => rest.length = digits && rest.all isHexDigit
  | _ => false

/-- A text of hex digits. -/
abbrev Hex (digits : Nat) := { text : String // isHex digits text = true }

def parsePrivateKey (value : String) : Except String (Hex 64) :=
  if hex : isHex 64 value = true then return ⟨value, hex⟩
  else throw "PRIVATE_KEY must be a 32-byte hex string"

def parseAddress (value : Option String) : Except String (Option (Hex 40)) :=
  match value with
  | none => return none
  | some text =>
      if trim text = "" then return none
      else if hex : isHex 40 text = true then return some ⟨text, hex⟩
      else throw "Address env var must be a 20-byte hex address"

/-- `PrivateTxMode`. -/
inductive PrivateTxMode where
  | provider_private
  | sequencer_direct
  | auto
deriving DecidableEq

def parsePrivateTxMode (value : Option String) : Except String PrivateTxMode :=
  match value with
  | none => return .auto
  | some text =>
      if trim text = "" then return .auto
      else if text = "provider_private" then return .provider_private
      else if text = "sequencer_direct" then return .sequencer_direct
      else if text = "auto" then return .auto
      else throw "PRIVATE_TX_MODE must be one of provider_private, sequencer_direct, auto"

theorem requireEnv_eq_ok {env : Env} {name text : String}
    (accepted : requireEnv env name = .ok text) : optionalEnv env name = some text := by
  unfold requireEnv at accepted
  split at accepted
  · cases accepted
  case h_2 found =>
    cases accepted
    exact found

theorem parseBoolean_eq_ok {value : Option String} {fallback read : Bool}
    (accepted : parseBoolean value fallback = .ok read) : booleanOf fallback value = some read := by
  simp only [parseBoolean] at accepted
  split at accepted
  case h_1 found =>
    cases accepted
    exact found
  case h_2 => cases accepted

/-- What is accepted is the number that the text stands for, and it is not too small. -/
theorem parseMinNumber_eq_ok {value : Option String} {fallback parsed : ℚ} {min : Nat}
    {name : String} (accepted : parseMinNumber value fallback min name = .ok parsed) :
    numberOf fallback value = some parsed ∧ min ≤ parsed := by
  unfold parseMinNumber at accepted
  split at accepted
  case h_1 read found =>
    by_cases small : read < min
    · simp only [small, if_true] at accepted
      cases accepted
    · simp only [small, if_false] at accepted
      cases accepted
      exact ⟨found, not_lt.mp small⟩
  case h_2 => cases accepted

/-! ## The event-purity switches -/

namespace EventPurity

structure EventPurityConfig where
  enableArbitrage : Bool
  enableLiveTx : Bool
  enableWatchTierConfirm : Bool
  localHfUrgent : ℚ
  localHfWatch : ℚ
  reserveIndexRefreshBlocks : Int
  positionEvictionHfThreshold : ℚ
  positionEvictionInactiveBlocks : Int
  positionCacheHardCap : ℚ
  shadowSampleRate : ℚ
  shadowDriftToleranceBps : ℚ
  shadowFnRateTargetPct : ℚ
  shadowMaxSamplesPerDay : ℚ
  shadowMaxConcurrency : ℚ
  shadowBootstrapRampMs : ℚ
  shadowBootstrapSampleRateMultiplier : ℚ
  bootstrapEnabled : Bool
  bootstrapLookbackDays : ℚ
  bootstrapCacheEnabled : Bool
  bootstrapCacheTtlHours : ℚ
deriving DecidableEq

def DEFAULT_EVICTION_INACTIVE_BLOCKS : Int := 103680

/-- `parseBoolean` of this configuration: a text that is no boolean is the default. -/
def parseBoolean (value : Option String) (fallback : Bool) : Bool :=
  (booleanOf fallback value).getD fallback

/-- A reader that checks what a text stands for, but not its default. -/
def parseChecked {α : Type} (read : String → Option α) (check : α → Bool) (required : String)
    (value : Option String) (fallback : α) (name : String) : Except String α :=
  match value with
  | none => return fallback
  | some text =>
      if trim text = "" then return fallback
      else
        match read text with
        | some parsed => if check parsed then return parsed else throw s!"{name} must be {required}"
        | none => throw s!"{name} must be {required}"

def parsePositiveNumber : Option String → ℚ → String → Except String ℚ :=
  parseChecked number (fun parsed => 0 < parsed) "a positive number"

def parseNonNegativeNumber : Option String → ℚ → String → Except String ℚ :=
  parseChecked number (fun parsed => 0 ≤ parsed) "a non-negative number"

def parsePositiveBigInt : Option String → Int → String → Except String Int :=
  parseChecked bigInt (fun parsed => 0 < parsed) "a positive integer"

def parseEventPurityConfig (env : Env) : Except String EventPurityConfig := do
  let localHfUrgent ←
    parsePositiveNumber (env "LOCAL_HF_URGENT") (literal "1.05") "LOCAL_HF_URGENT"
  let localHfWatch ← parsePositiveNumber (env "LOCAL_HF_WATCH") (literal "1.10") "LOCAL_HF_WATCH"
  let reserveIndexRefreshBlocks ←
    parsePositiveBigInt (env "RESERVE_INDEX_REFRESH_BLOCKS") 100 "RESERVE_INDEX_REFRESH_BLOCKS"
  let positionEvictionHfThreshold ←
    parsePositiveNumber (env "POSITION_EVICTION_HF_THRESHOLD") (literal "1.5")
      "POSITION_EVICTION_HF_THRESHOLD"
  let positionEvictionInactiveBlocks ←
    parsePositiveBigInt (env "POSITION_EVICTION_INACTIVE_BLOCKS") DEFAULT_EVICTION_INACTIVE_BLOCKS
      "POSITION_EVICTION_INACTIVE_BLOCKS"
  let positionCacheHardCap ←
    parsePositiveNumber (env "POSITION_CACHE_HARD_CAP") 8000 "POSITION_CACHE_HARD_CAP"
  let shadowSampleRate ← parsePositiveNumber (env "SHADOW_SAMPLE_RATE") 100 "SHADOW_SAMPLE_RATE"
  let shadowDriftToleranceBps ←
    parseNonNegativeNumber (env "SHADOW_DRIFT_TOLERANCE_BPS") 50 "SHADOW_DRIFT_TOLERANCE_BPS"
  let shadowFnRateTargetPct ←
    parseNonNegativeNumber (env "SHADOW_FN_RATE_TARGET_PCT") 1 "SHADOW_FN_RATE_TARGET_PCT"
  let shadowMaxSamplesPerDay ←
    parsePositiveNumber (env "SHADOW_MAX_SAMPLES_PER_DAY") 500 "SHADOW_MAX_SAMPLES_PER_DAY"
  let shadowMaxConcurrency ←
    parsePositiveNumber (env "SHADOW_MAX_CONCURRENCY") 8 "SHADOW_MAX_CONCURRENCY"
  let shadowBootstrapRampMs ←
    parsePositiveNumber (env "SHADOW_BOOTSTRAP_RAMP_MS") 600000 "SHADOW_BOOTSTRAP_RAMP_MS"
  let shadowBootstrapSampleRateMultiplier ←
    parsePositiveNumber (env "SHADOW_BOOTSTRAP_SAMPLE_RATE_MULTIPLIER") 5
      "SHADOW_BOOTSTRAP_SAMPLE_RATE_MULTIPLIER"
  let bootstrapLookbackDays ←
    parsePositiveNumber (env "BOOTSTRAP_LOOKBACK_DAYS") 14 "BOOTSTRAP_LOOKBACK_DAYS"
  let bootstrapCacheTtlHours ←
    parsePositiveNumber (env "BOOTSTRAP_CACHE_TTL_HOURS") 24 "BOOTSTRAP_CACHE_TTL_HOURS"
  return {
    enableArbitrage := parseBoolean (env "ENABLE_ARBITRAGE") false
    enableLiveTx := parseBoolean (env "ENABLE_LIVE_TX") false
    enableWatchTierConfirm := parseBoolean (env "ENABLE_WATCH_TIER_CONFIRM") false
    bootstrapEnabled := parseBoolean (env "BOOTSTRAP_ENABLED") true
    bootstrapCacheEnabled := parseBoolean (env "BOOTSTRAP_CACHE_ENABLED") true
    localHfUrgent, localHfWatch, reserveIndexRefreshBlocks, positionEvictionHfThreshold,
    positionEvictionInactiveBlocks, positionCacheHardCap, shadowSampleRate,
    shadowDriftToleranceBps, shadowFnRateTargetPct, shadowMaxSamplesPerDay, shadowMaxConcurrency,
    shadowBootstrapRampMs, shadowBootstrapSampleRateMultiplier, bootstrapLookbackDays,
    bootstrapCacheTtlHours }

theorem parseChecked_eq_ok {α : Type} {read : String → Option α} {check : α → Bool}
    {required name : String} {value : Option String} {fallback parsed : α}
    (accepted : parseChecked read check required value fallback name = .ok parsed) :
    readingOf read fallback value = some parsed := by
  cases value with
  | none =>
    cases accepted
    rfl
  | some text =>
    by_cases blank : trim text = ""
    · simp only [parseChecked, blank, if_true] at accepted
      cases accepted
      simp only [readingOf, blank, if_true]
    · simp only [parseChecked, blank, if_false] at accepted
      simp only [readingOf, blank, if_false]
      split at accepted
      case h_1 found =>
        split at accepted
        · cases accepted
          exact found
        · cases accepted
      case h_2 => cases accepted

/-! ### What the switches are read from -/

/-- The booleans, with their defaults. -/
def switches : List (String × Bool) :=
  [("ENABLE_ARBITRAGE", false), ("ENABLE_LIVE_TX", false), ("ENABLE_WATCH_TIER_CONFIRM", false),
    ("BOOTSTRAP_ENABLED", true), ("BOOTSTRAP_CACHE_ENABLED", true)]

/-- The numbers, with their defaults. -/
def amounts : List (String × ℚ) :=
  [("LOCAL_HF_URGENT", literal "1.05"), ("LOCAL_HF_WATCH", literal "1.10"),
    ("POSITION_EVICTION_HF_THRESHOLD", literal "1.5"), ("POSITION_CACHE_HARD_CAP", 8000),
    ("SHADOW_SAMPLE_RATE", 100), ("SHADOW_DRIFT_TOLERANCE_BPS", 50),
    ("SHADOW_FN_RATE_TARGET_PCT", 1), ("SHADOW_MAX_SAMPLES_PER_DAY", 500),
    ("SHADOW_MAX_CONCURRENCY", 8), ("SHADOW_BOOTSTRAP_RAMP_MS", 600000),
    ("SHADOW_BOOTSTRAP_SAMPLE_RATE_MULTIPLIER", 5), ("BOOTSTRAP_LOOKBACK_DAYS", 14),
    ("BOOTSTRAP_CACHE_TTL_HOURS", 24)]

/-- The numbers of blocks, with their defaults. -/
def blockCounts : List (String × Int) :=
  [("RESERVE_INDEX_REFRESH_BLOCKS", 100),
    ("POSITION_EVICTION_INACTIVE_BLOCKS", DEFAULT_EVICTION_INACTIVE_BLOCKS)]

/-- Both environments say the same about every switch. -/
structure SameSwitches (env other : Env) : Prop where
  switches : ∀ entry ∈ switches,
    parseBoolean (env entry.1) entry.2 = parseBoolean (other entry.1) entry.2
  amounts : ∀ entry ∈ amounts, numberOf entry.2 (env entry.1) = numberOf entry.2 (other entry.1)
  blockCounts : ∀ entry ∈ blockCounts,
    bigIntOf entry.2 (env entry.1) = bigIntOf entry.2 (other entry.1)

/-- The values in the order of their variables. -/
def EventPurityConfig.switchValues (config : EventPurityConfig) : List Bool :=
  [config.enableArbitrage, config.enableLiveTx, config.enableWatchTierConfirm,
    config.bootstrapEnabled, config.bootstrapCacheEnabled]

def EventPurityConfig.amountValues (config : EventPurityConfig) : List ℚ :=
  [config.localHfUrgent, config.localHfWatch, config.positionEvictionHfThreshold,
    config.positionCacheHardCap, config.shadowSampleRate, config.shadowDriftToleranceBps,
    config.shadowFnRateTargetPct, config.shadowMaxSamplesPerDay, config.shadowMaxConcurrency,
    config.shadowBootstrapRampMs, config.shadowBootstrapSampleRateMultiplier,
    config.bootstrapLookbackDays, config.bootstrapCacheTtlHours]

def EventPurityConfig.blockCountValues (config : EventPurityConfig) : List Int :=
  [config.reserveIndexRefreshBlocks, config.positionEvictionInactiveBlocks]

/-- The values make up the configuration. -/
theorem EventPurityConfig.eq_iff (config other : EventPurityConfig) :
    config = other ↔ config.switchValues = other.switchValues ∧
      config.amountValues = other.amountValues ∧
      config.blockCountValues = other.blockCountValues := by
  constructor
  · rintro rfl
    exact ⟨rfl, rfl, rfl⟩
  · rintro ⟨switchesSame, amountsSame, countsSame⟩
    cases config
    cases other
    simp only [switchValues, amountValues, blockCountValues, List.cons.injEq, and_true] at *
    simp only [EventPurityConfig.mk.injEq]
    tauto

/-- An accepted configuration holds the reading of every variable. -/
theorem parseEventPurityConfig_eq_ok {env : Env} {config : EventPurityConfig}
    (accepted : parseEventPurityConfig env = .ok config) :
    switches.map (fun entry => parseBoolean (env entry.1) entry.2) = config.switchValues ∧
    amounts.map (fun entry => numberOf entry.2 (env entry.1)) = config.amountValues.map some ∧
    blockCounts.map (fun entry => bigIntOf entry.2 (env entry.1)) =
      config.blockCountValues.map some := by
  simp only [parseEventPurityConfig, Throwing.bind_eq_ok_iff, Throwing.pure_eq_ok_iff,
    parsePositiveNumber, parseNonNegativeNumber, parsePositiveBigInt] at accepted
  obtain ⟨_, urgent, _, watch, _, refresh, _, threshold, _, inactive, _, cap, _, rate, _, drift, _,
    target, _, samples, _, concurrency, _, ramp, _, multiplier, _, days, _, hours, rfl⟩ := accepted
  refine ⟨rfl, ?_, ?_⟩
  · simp only [amounts, EventPurityConfig.amountValues, List.map_cons, List.map_nil,
      parseChecked_eq_ok urgent, parseChecked_eq_ok watch, parseChecked_eq_ok threshold,
      parseChecked_eq_ok cap, parseChecked_eq_ok rate, parseChecked_eq_ok drift,
      parseChecked_eq_ok target, parseChecked_eq_ok samples, parseChecked_eq_ok concurrency,
      parseChecked_eq_ok ramp, parseChecked_eq_ok multiplier, parseChecked_eq_ok days,
      parseChecked_eq_ok hours]
  · simp only [blockCounts, EventPurityConfig.blockCountValues, List.map_cons, List.map_nil,
      parseChecked_eq_ok refresh, parseChecked_eq_ok inactive]

/-- Two accepted configurations are equal exactly when the variables say the same. -/
theorem eq_iff_sameSwitches {env other : Env} {config otherConfig : EventPurityConfig}
    (accepted : parseEventPurityConfig env = .ok config)
    (otherAccepted : parseEventPurityConfig other = .ok otherConfig) :
    config = otherConfig ↔ SameSwitches env other := by
  obtain ⟨switchesRead, amountsRead, countsRead⟩ := parseEventPurityConfig_eq_ok accepted
  obtain ⟨switchesRead', amountsRead', countsRead'⟩ := parseEventPurityConfig_eq_ok otherAccepted
  have someInjective {α : Type} : Function.Injective (List.map (some : α → Option α)) :=
    List.map_injective_iff.mpr (Option.some_injective _)
  rw [EventPurityConfig.eq_iff, ← someInjective.eq_iff (a := config.amountValues),
    ← someInjective.eq_iff (a := config.blockCountValues), ← switchesRead, ← switchesRead',
    ← amountsRead, ← amountsRead', ← countsRead, ← countsRead', List.map_inj_left,
    List.map_inj_left, List.map_inj_left]
  constructor
  · rintro ⟨switchesSame, amountsSame, countsSame⟩
    exact ⟨switchesSame, amountsSame, countsSame⟩
  · rintro ⟨switchesSame, amountsSame, countsSame⟩
    exact ⟨switchesSame, amountsSame, countsSame⟩

end EventPurity

end RuntimeEnv

end LiquidationBot
