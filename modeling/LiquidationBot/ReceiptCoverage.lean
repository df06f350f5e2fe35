import LiquidationBot.DryRunReceipts

/-!
# What a dry-run receipt vouches for

Equal hashes mean that the hashed settings are equal: the text of the hash determines
them, and an accepted configuration reads them from the same variables with the same
defaults.

The hash leaves out settings that execution uses: providers and fees of flash loans,
the receiver of arbitrages, the execution endpoints, the debt floor, the age of
prices, the private mode and the event-purity switches. They agree exactly when the
environments say the same about their variables, and nothing checks that.
-/

namespace LiquidationBot

namespace RuntimeEnv

open EventPurity (EventPurityConfig SameSwitches)

variable {platform : Platform}

/-! ## Execution settings -/

/-- What execution in live mode reads of a configuration. -/
structure ExecutionSettings where
  flashLoanProviders : List FlashLoanProviderId
  balancerFlashFallback : Bool
  flashLoanFeeBps : ℚ
  flashLoanSlippageFloorBps : ℚ
  slippageBps : ℚ
  arbitrageReceiverAddress : Option (Hex 40)
  liquidationReceiverAddress : Option (Hex 40)
  executionRpcUrlPrimary : String
  executionRpcFallbackUrls : List String
  sequencerDirectRpc : Option String
  minLiquidationDebtUsd : ℚ
  oracleMaxStaleMs : ℚ
  privateTxMode : PrivateTxMode
  eventPurity : EventPurityConfig
  minProfitWei : Int
  minProfitUsd : ℚ
  minProfitMarginBps : ℚ
  arbitrageMinProfitUsd : ℚ
  gasCostUsd : ℚ
deriving DecidableEq

def executionSettings (config : RuntimeConfig) : ExecutionSettings where
  flashLoanProviders := config.flashLoanProviders
  balancerFlashFallback := config.balancerFlashFallback
  flashLoanFeeBps := config.flashLoanFeeBps
  flashLoanSlippageFloorBps := config.flashLoanSlippageFloorBps
  slippageBps := config.slippageBps
  arbitrageReceiverAddress := config.arbitrageReceiverAddress
  liquidationReceiverAddress := config.liquidationReceiverAddress
  executionRpcUrlPrimary := config.executionRpcUrlPrimary
  executionRpcFallbackUrls := config.executionRpcFallbackUrls
  sequencerDirectRpc := config.sequencerDirectRpc
  minLiquidationDebtUsd := config.minLiquidationDebtUsd
  oracleMaxStaleMs := config.oracleMaxStaleMs
  privateTxMode := config.privateTxMode
  eventPurity := config.eventPurity
  minProfitWei := config.minProfitWei
  minProfitUsd := config.minProfitUsd
  minProfitMarginBps := config.minProfitMarginBps
  arbitrageMinProfitUsd := config.arbitrageMinProfitUsd
  gasCostUsd := config.gasCostUsd

/-- The providers that the variables name, under the policy for Balancer. -/
def providersOf (env : Env) : Option (List FlashLoanProviderId) :=
  (booleanOf false (env "BALANCER_FLASH_FALLBACK")).map
    (FlashLoanFees.applyFlashLoanProviderPolicy
      (FlashLoanFees.parseFlashLoanProviders (env "FLASH_LOAN_PROVIDERS")))

def debtFloorOf (env : Env) : Option ℚ := do
  let minProfitUsd ← numberOf 10 (env "MIN_PROFIT_USD")
  numberOf (defaultDebtFloorUsd minProfitUsd) (env "MIN_LIQUIDATION_DEBT_USD")

/-- The environments say the same about the variables that the hash leaves out. -/
structure SameUnhashed (env other : Env) : Prop where
  balancerFlashFallback : booleanOf false (env "BALANCER_FLASH_FALLBACK") =
    booleanOf false (other "BALANCER_FLASH_FALLBACK")
  flashLoanProviders : providersOf env = providersOf other
  flashLoanFeeBps : numberOf defaultFlashLoanFeeBps (env "FLASH_LOAN_FEE_BPS") =
    numberOf defaultFlashLoanFeeBps (other "FLASH_LOAN_FEE_BPS")
  flashLoanSlippageFloorBps :
    numberOf defaultFlashLoanSlippageFloorBps (env "FLASH_LOAN_SLIPPAGE_FLOOR_BPS") =
      numberOf defaultFlashLoanSlippageFloorBps (other "FLASH_LOAN_SLIPPAGE_FLOOR_BPS")
  arbitrageReceiverAddress : parseAddress (optionalEnv env "ARBITRAGE_RECEIVER_ADDRESS") =
    parseAddress (optionalEnv other "ARBITRAGE_RECEIVER_ADDRESS")
  executionRpcUrlPrimary :
    (optionalEnv env "EXECUTION_RPC_URL_PRIMARY").or (optionalEnv env "RPC_URL") =
      (optionalEnv other "EXECUTION_RPC_URL_PRIMARY").or (optionalEnv other "RPC_URL")
  executionRpcFallbackUrls : parseList (env "EXECUTION_RPC_URL_FALLBACKS") =
    parseList (other "EXECUTION_RPC_URL_FALLBACKS")
  sequencerDirectRpc :
    optionalEnv env "SEQUENCER_DIRECT_RPC" = optionalEnv other "SEQUENCER_DIRECT_RPC"
  minLiquidationDebtUsd : debtFloorOf env = debtFloorOf other
  oracleMaxStaleMs : numberOf 900000 (env "ORACLE_MAX_STALE_MS") =
    numberOf 900000 (other "ORACLE_MAX_STALE_MS")
  privateTxMode : parsePrivateTxMode (optionalEnv env "PRIVATE_TX_MODE") =
    parsePrivateTxMode (optionalEnv other "PRIVATE_TX_MODE")
  eventPurity : SameSwitches env other

/-! ## What the hash determines -/

/-- A default that is spelled out in the hash does not change the reading. -/
theorem readingOf_eq {α : Type} {read : String → Option α} {fallback : α} {text : String}
    {value other : Option String}
    (spelled : readingOf read fallback (some text) = some fallback)
    (same : value.getD text = other.getD text) :
    readingOf read fallback value = readingOf read fallback other := by
  rw [← readingOf_getD spelled value, ← readingOf_getD spelled other, same]

theorem optionalEnv_eq {env other : Env} {name : String}
    (same : (env name).getD "" = (other name).getD "") :
    optionalEnv env name = optionalEnv other name := by
  have spelled (environment : Env) : optionalEnv environment name =
      ((some ((environment name).getD "")).map trim).filter (fun text => text ≠ "") := by
    unfold optionalEnv
    cases environment name with
    | none => decide +kernel
    | some text => rfl
  rw [spelled env, spelled other, same]

theorem parseEthThreshold_eq {value other : Option String}
    (ether : platform.parseEther "0.01" = .ok MIN_PROFIT_THRESHOLD_WEI)
    (same : value.getD "0.01" = other.getD "0.01") :
    parseEthThreshold platform value = parseEthThreshold platform other := by
  have filled : trim "0.01" ≠ "" := by decide +kernel
  have spelled (given : Option String) :
      parseEthThreshold platform given = parseEthThreshold platform (some (given.getD "0.01")) := by
    cases given with
    | none =>
      simp only [parseEthThreshold, Option.getD_none, filled, if_false, ether]
      rfl
    | some text => rfl
  rw [spelled value, spelled other, same]

/-- The names in the hash. -/
def hashedNames : List String :=
  ["chains", "rpcUrl", "fallbackRpcUrls", "wsRpcUrl", "aaveSubgraphUrl", "account",
    "pollIntervalMs", "candidateCooldownMs", "minProfitThresholdEth", "minProfitUsd",
    "arbitrageMinProfitUsd", "gasCostUsd", "slippageBps", "minProfitMarginBps",
    "liquidationReceiverAddress", "priceFeedRegistryJson", "simulationMode"]

theorem nodup_hashedNames : hashedNames.Nodup := by decide

/-- The variables that stand in the hash as they are. -/
def hashedVariables : List String :=
  ["RPC_URL", "FALLBACK_RPC_URLS", "WS_RPC_URL", "POLL_INTERVAL_MS", "CANDIDATE_COOLDOWN_MS",
    "MIN_PROFIT_THRESHOLD_ETH", "MIN_PROFIT_USD", "ARBITRAGE_MIN_PROFIT_USD", "GAS_COST_USD",
    "SLIPPAGE_BPS", "MIN_PROFIT_MARGIN_BPS", "LIQUIDATION_RECEIVER_ADDRESS",
    "PRICE_FEED_REGISTRY_JSON", "SIMULATION_MODE"]

/-- No other variable matters for the hash. -/
theorem runtimeConfigHash_congr {env other : Env}
    (same : ∀ name ∈ hashedVariables, env name = other name) (chains : List SupportedChain)
    (privateKey : Hex 64) (subgraphFingerprint : String) :
    runtimeConfigHash platform env chains privateKey subgraphFingerprint =
      runtimeConfigHash platform other chains privateKey subgraphFingerprint := by
  simp only [hashedVariables, List.forall_mem_cons] at same
  obtain ⟨rpcUrl, fallbacks, wsRpcUrl, poll, cooldown, minProfitEth, minProfitUsd, arbitrage, gas,
    slippage, margin, receiver, feeds, simulation, -⟩ := same
  simp only [runtimeConfigHash, safetyRelevantConfig, optionalEnv, rpcUrl, fallbacks, wsRpcUrl,
    poll, cooldown, minProfitEth, minProfitUsd, arbitrage, gas, slippage, margin, receiver, feeds,
    simulation]

/-- The text of the hash determines what it is made of. -/
theorem safetyRelevantConfig_eq {env other : Env} {config otherConfig : RuntimeConfig}
    (same : SameHash platform env other config otherConfig) :
    ∃ account account', safetyRelevantConfig env config.chains account
        (buildAaveSubgraphFingerprint config.chains config.aaveSubgraphByChain) =
      safetyRelevantConfig other otherConfig.chains account'
        (buildAaveSubgraphFingerprint otherConfig.chains otherConfig.aaveSubgraphByChain) := by
  obtain ⟨hash, hashed, otherHashed⟩ := same
  obtain ⟨account, -, written⟩ := Throwing.exists_of_bind hashed
  obtain ⟨account', -, otherWritten⟩ := Throwing.exists_of_bind otherHashed
  rw [Throwing.pure_eq_ok_iff] at written otherWritten
  refine ⟨account, account', Json.eq_of_stringify_eq rfl nodup_hashedNames ?_⟩
  exact String.ofList_injective (written.trans otherWritten.symm)

/-- The settings that execution reads from hashed variables. -/
structure SameHashed (config other : RuntimeConfig) : Prop where
  rpcUrl : config.rpcUrl = other.rpcUrl
  minProfitWei : config.minProfitWei = other.minProfitWei
  minProfitUsd : config.minProfitUsd = other.minProfitUsd
  arbitrageMinProfitUsd : config.arbitrageMinProfitUsd = other.arbitrageMinProfitUsd
  gasCostUsd : config.gasCostUsd = other.gasCostUsd
  slippageBps : config.slippageBps = other.slippageBps
  minProfitMarginBps : config.minProfitMarginBps = other.minProfitMarginBps
  liquidationReceiverAddress :
    config.liquidationReceiverAddress = other.liquidationReceiverAddress
  simulationMode : config.simulationMode = other.simulationMode

/-- Two settings are equal exactly when their readings are. -/
theorem value_eq_iff {α : Type} {first second : Option α} {value other : α}
    (read : first = some value) (otherRead : second = some other) :
    value = other ↔ first = second := by
  rw [read, otherRead, Option.some.injEq]

theorem number_eq_iff {first second : Option String} {fallback value other : ℚ} {min min' : Nat}
    {name : String} (read : parseMinNumber first fallback min name = .ok value)
    (otherRead : parseMinNumber second fallback min' name = .ok other) :
    value = other ↔ numberOf fallback first = numberOf fallback second :=
  value_eq_iff (parseMinNumber_eq_ok read).1 (parseMinNumber_eq_ok otherRead).1

theorem boolean_eq_iff {first second : Option String} {fallback value other : Bool}
    (read : parseBoolean first fallback = .ok value)
    (otherRead : parseBoolean second fallback = .ok other) :
    value = other ↔ booleanOf fallback first = booleanOf fallback second :=
  value_eq_iff (parseBoolean_eq_ok read) (parseBoolean_eq_ok otherRead)

theorem returned_eq_iff {α : Type} {first second : Except String α} {value other : α}
    (read : first = .ok value) (otherRead : second = .ok other) :
    value = other ↔ first = second := by
  rw [read, otherRead, Except.ok.injEq]

/-- Each hashed variable stands for one setting in both environments. -/
theorem sameHashed_of_sameHash {env other : Env} {config otherConfig : RuntimeConfig}
    (ether : platform.parseEther "0.01" = .ok MIN_PROFIT_THRESHOLD_WEI)
    (settings : Settings platform env config)
    (otherSettings : Settings platform other otherConfig)
    (same : SameHash platform env other config otherConfig) : SameHashed config otherConfig := by
  obtain ⟨account, account', entries⟩ := safetyRelevantConfig_eq same
  simp only [safetyRelevantConfig, List.cons.injEq, Prod.mk.injEq, true_and, Option.some.injEq,
    Sum.inr.injEq, Sum.inl.injEq, and_true] at entries
  obtain ⟨-, rpcUrl, -, -, -, -, -, -, minProfitEth, minProfitUsd, arbitrageMinProfitUsd,
    gasCostUsd, slippageBps, minProfitMarginBps, liquidationReceiver, -, simulationMode⟩ := entries
  have urls : requireEnv env "RPC_URL" = requireEnv other "RPC_URL" := by
    rw [requireEnv, requireEnv, Option.map_injective Sum.inr_injective rpcUrl]
  exact {
    rpcUrl := (returned_eq_iff settings.rpcUrl otherSettings.rpcUrl).mpr urls
    minProfitWei := (returned_eq_iff settings.minProfitWei otherSettings.minProfitWei).mpr
      (parseEthThreshold_eq ether minProfitEth)
    minProfitUsd := (number_eq_iff settings.minProfitUsd otherSettings.minProfitUsd).mpr
      (readingOf_eq (by decide +kernel) minProfitUsd)
    arbitrageMinProfitUsd :=
      (number_eq_iff settings.arbitrageMinProfitUsd otherSettings.arbitrageMinProfitUsd).mpr
        (readingOf_eq (by decide +kernel) arbitrageMinProfitUsd)
    gasCostUsd := (number_eq_iff settings.gasCostUsd otherSettings.gasCostUsd).mpr
      (readingOf_eq (by decide +kernel) gasCostUsd)
    slippageBps := (number_eq_iff settings.slippageBps otherSettings.slippageBps).mpr
      (readingOf_eq (by decide +kernel) slippageBps)
    minProfitMarginBps := (number_eq_iff settings.minProfitMarginBps otherSettings.minProfitMarginBps).mpr
      (readingOf_eq (by decide +kernel) minProfitMarginBps)
    liquidationReceiverAddress :=
      (returned_eq_iff settings.liquidationReceiverAddress otherSettings.liquidationReceiverAddress).mpr
        (congrArg parseAddress (optionalEnv_eq liquidationReceiver))
    simulationMode := (boolean_eq_iff settings.simulationMode otherSettings.simulationMode).mpr
      (readingOf_eq (by decide +kernel) simulationMode) }

/-! ## What the hash leaves out -/

namespace Settings

variable {env : Env} {config : RuntimeConfig}

theorem providersOf (settings : Settings platform env config) :
    RuntimeEnv.providersOf env = some config.flashLoanProviders := by
  rw [RuntimeEnv.providersOf, parseBoolean_eq_ok settings.balancerFlashFallback,
    settings.flashLoanProviders]
  rfl

theorem debtFloorOf (settings : Settings platform env config) :
    RuntimeEnv.debtFloorOf env = some config.minLiquidationDebtUsd := by
  rw [RuntimeEnv.debtFloorOf, (parseMinNumber_eq_ok settings.minProfitUsd).1]
  exact (parseMinNumber_eq_ok settings.minLiquidationDebtUsd).1

theorem primaryUrl (settings : Settings platform env config) :
    (optionalEnv env "EXECUTION_RPC_URL_PRIMARY").or (optionalEnv env "RPC_URL") =
      some config.executionRpcUrlPrimary := by
  rw [settings.executionRpcUrlPrimary, requireEnv_eq_ok settings.rpcUrl]
  cases optionalEnv env "EXECUTION_RPC_URL_PRIMARY" with
  | none => rfl
  | some url => rfl

end Settings

/-- With the hashed settings equal, execution settings are equal exactly when the
environments say the same about the others. -/
theorem executionSettings_eq_iff {env other : Env} {config otherConfig : RuntimeConfig}
    (settings : Settings platform env config)
    (otherSettings : Settings platform other otherConfig)
    (hashed : SameHashed config otherConfig) :
    executionSettings config = executionSettings otherConfig ↔ SameUnhashed env other := by
  simp only [executionSettings, ExecutionSettings.mk.injEq, hashed.minProfitWei,
    hashed.minProfitUsd, hashed.arbitrageMinProfitUsd, hashed.gasCostUsd, hashed.slippageBps,
    hashed.minProfitMarginBps, hashed.liquidationReceiverAddress, true_and, and_true,
    value_eq_iff settings.providersOf otherSettings.providersOf,
    boolean_eq_iff settings.balancerFlashFallback otherSettings.balancerFlashFallback,
    number_eq_iff settings.flashLoanFeeBps otherSettings.flashLoanFeeBps,
    number_eq_iff settings.flashLoanSlippageFloorBps otherSettings.flashLoanSlippageFloorBps,
    returned_eq_iff settings.arbitrageReceiverAddress otherSettings.arbitrageReceiverAddress,
    value_eq_iff settings.primaryUrl otherSettings.primaryUrl, settings.executionRpcFallbackUrls,
    otherSettings.executionRpcFallbackUrls, settings.sequencerDirectRpc, otherSettings.sequencerDirectRpc,
    value_eq_iff settings.debtFloorOf otherSettings.debtFloorOf,
    number_eq_iff settings.oracleMaxStaleMs otherSettings.oracleMaxStaleMs,
    returned_eq_iff settings.privateTxMode otherSettings.privateTxMode,
    EventPurity.eq_iff_sameSwitches settings.eventPurity otherSettings.eventPurity]
  constructor
  · rintro ⟨providers, balancer, fee, slippageFloor, arbitrageReceiver, primary, fallbacks,
      sequencer, debtFloor, staleness, privateMode, switches⟩
    exact ⟨balancer, providers, fee, slippageFloor, arbitrageReceiver, primary, fallbacks,
      sequencer, debtFloor, staleness, privateMode, switches⟩
  · rintro ⟨balancer, providers, fee, slippageFloor, arbitrageReceiver, primary, fallbacks,
      sequencer, debtFloor, staleness, privateMode, switches⟩
    exact ⟨providers, balancer, fee, slippageFloor, arbitrageReceiver, primary, fallbacks,
      sequencer, debtFloor, staleness, privateMode, switches⟩

/-- Of two accepted environments with one hash, and of a dry run and the live run that
the gate admits with its receipt, the execution settings are equal exactly when both
environments say the same about the variables that the hash leaves out. -/
theorem receipt_vouches_iff (platform : Platform)
    (ether : platform.parseEther "0.01" = .ok MIN_PROFIT_THRESHOLD_WEI)
    (dry live : Env) (dryConfig liveConfig : RuntimeConfig)
    (dryAccepted : parseRuntimeConfig platform dry = .ok dryConfig)
    (liveAccepted : parseRuntimeConfig platform live = .ok liveConfig) :
    (SameHash platform dry live dryConfig liveConfig →
      (executionSettings dryConfig = executionSettings liveConfig ↔ SameUnhashed dry live)) ∧
    (∀ nowMs laterMs : ℚ, Admitted platform dry dryConfig liveConfig nowMs laterMs →
      (executionSettings dryConfig = executionSettings liveConfig ↔ SameUnhashed dry live)) := by
  have drySettings := (parseRuntimeConfig_eq_ok_iff.mp dryAccepted).1
  have liveSettings := (parseRuntimeConfig_eq_ok_iff.mp liveAccepted).1
  have agree (same : SameHash platform dry live dryConfig liveConfig) :
      executionSettings dryConfig = executionSettings liveConfig ↔ SameUnhashed dry live :=
    executionSettings_eq_iff drySettings liveSettings
      (sameHashed_of_sameHash ether drySettings liveSettings same)
  exact ⟨agree, fun nowMs laterMs admitted => agree (admitted.sameHash liveSettings)⟩

/-! ## A dry run and two live runs -/

/-- A platform for the environments below: URLs with a host behind their scheme, one
account, amounts in decimals. -/
def samplePlatform : Platform where
  hostname := fun url =>
    if "https://".toList.isPrefixOf url.toList then
      some (String.ofList ((url.toList.drop 8).takeWhile (fun char => char ≠ '/')))
    else none
  privateKeyToAccount := fun privateKey =>
    if privateKey.val = "0x0000000000000000000000000000000000000000000000000000000000000001" then
      .ok "0x7E5F4552091A69125d5DfCb7b8C2659029395Bdf"
    else .error "unknown key"
  parseEther := fun text =>
    match NumberText.exactNumber text.toList with
    | some ether =>
        if (ether * 10 ^ 18).isInt then .ok (ether * 10 ^ 18).num else .error "invalid amount"
    | none => .error "invalid amount"
  getAddress := fun text => text
  syntaxError := fun _ => "SyntaxError"

def environment (settings : List (String × String)) : Env := fun name => settings.lookup name

def validated : List (String × String) :=
  [("CHAINS", "optimism"), ("RPC_URL", "https://optimism.example"),
    ("AAVE_SUBGRAPH_URL", "https://subgraph.example"),
    ("PRIVATE_KEY", "0x0000000000000000000000000000000000000000000000000000000000000001"),
    ("SIMULATION_MODE", "false"), ("USE_PIPELINE_ORCHESTRATOR", "true"),
    ("LIQUIDATION_RECEIVER_ADDRESS", "0x00000000000000000000000000000000000000aa")]

/-- Another provider without a fee, another endpoint and live transactions. -/
def changed : List (String × String) :=
  validated ++ [("FLASH_LOAN_PROVIDERS", "balancer"), ("BALANCER_FLASH_FALLBACK", "true"),
    ("FLASH_LOAN_FEE_BPS", "0"), ("EXECUTION_RPC_URL_PRIMARY", "https://other.example"),
    ("ENABLE_LIVE_TX", "true")]

/-- What the hash is made of apart from variables. -/
def hashParts (config : RuntimeConfig) : List SupportedChain × Hex 64 × String :=
  (config.chains, config.privateKey,
    buildAaveSubgraphFingerprint config.chains config.aaveSubgraphByChain)

/-- A live configuration is accepted, with the given parts of the hash and settings. -/
def acceptsLive (env : Env) (parts : List SupportedChain × Hex 64 × String)
    (test : ExecutionSettings → Bool) : Bool :=
  match parseRuntimeConfig samplePlatform env with
  | .ok config =>
      !config.simulationMode && hashParts config = parts && test (executionSettings config)
  | .error _ => false

theorem exists_of_acceptsLive {env : Env} {parts : List SupportedChain × Hex 64 × String}
    {test : ExecutionSettings → Bool} (accepts : acceptsLive env parts test = true) :
    ∃ config, parseRuntimeConfig samplePlatform env = .ok config ∧
      config.simulationMode = false ∧ hashParts config = parts ∧
      test (executionSettings config) = true := by
  unfold acceptsLive at accepts
  split at accepts
  case h_1 config accepted =>
    simp only [Bool.and_eq_true, Bool.not_eq_true', decide_eq_true_eq] at accepts
    exact ⟨config, accepted, accepts.1.1, accepts.1.2, accepts.2⟩
  case h_2 => cases accepts

def samplePrivateKey : Hex 64 :=
  ⟨"0x0000000000000000000000000000000000000000000000000000000000000001", by decide +kernel⟩

def sampleParts : List SupportedChain × Hex 64 × String :=
  ([.optimism], samplePrivateKey, "https://subgraph.example")

def sampleHash : String :=
  String.ofList (Json.stringify (safetyRelevantConfig (environment validated) [.optimism]
    "0x7E5F4552091A69125d5DfCb7b8C2659029395Bdf" "https://subgraph.example"))

/-- The changed settings do not stand in the hash. -/
theorem sample_hash {settings : List (String × String)} {config : RuntimeConfig}
    (same : ∀ name ∈ hashedVariables, environment settings name = environment validated name)
    (parts : hashParts config = sampleParts) :
    configHashOf samplePlatform (environment settings) config = .ok sampleHash := by
  simp only [hashParts, sampleParts, Prod.mk.injEq] at parts
  obtain ⟨chains, privateKey, fingerprint⟩ := parts
  have account : samplePlatform.privateKeyToAccount samplePrivateKey =
      .ok "0x7E5F4552091A69125d5DfCb7b8C2659029395Bdf" := by
    simp only [samplePlatform, samplePrivateKey, if_true]
  rw [configHashOf, fingerprint, chains, privateKey, runtimeConfigHash_congr same,
    runtimeConfigHash, account]
  rfl

/-- Without live transactions, and with them. -/
theorem accepts_sample :
    acceptsLive (environment validated) sampleParts
        (fun settings => !settings.eventPurity.enableLiveTx) = true ∧
      acceptsLive (environment changed) sampleParts
        (fun settings => settings.eventPurity.enableLiveTx) = true := by
  decide +kernel

/-- The validated settings themselves, with their receipt, half a second later. -/
theorem receipt_vouches_iff_validated :
    ∃ dryConfig liveConfig,
      Admitted samplePlatform (environment validated) dryConfig liveConfig 1000500 1000500 ∧
      SameUnhashed (environment validated)
        (withReceipt (environment validated) sampleHash "1000000") := by
  obtain ⟨config, accepted, liveMode, parts, -⟩ := exists_of_acceptsLive accepts_sample.1
  have hashed := sample_hash (fun _ _ => rfl) parts
  have sent : number (trim "1000000") = some 1000000 := by decide +kernel
  obtain ⟨liveAccepted, admitted⟩ := admitted_withReceipt 1000500 1000500 hashed accepted hashed
    liveMode sent (by norm_num) (by norm_num [DeploymentSafetyGate.dryRunValidationTtlMs])
  have vouches := receipt_vouches_iff samplePlatform (by decide +kernel) _ _ _ _ accepted
    liveAccepted
  exact ⟨config, _, admitted, (vouches.2 1000500 1000500 admitted).mp rfl⟩

/-- The receipt of the validated settings admits the changed ones. -/
theorem changed_settings_admitted :
    ∃ dryConfig liveConfig,
      parseRuntimeConfig samplePlatform (environment validated) = .ok dryConfig ∧
      parseRuntimeConfig samplePlatform
        (withReceipt (environment changed) sampleHash "1000000") = .ok liveConfig ∧
      Admitted samplePlatform (environment validated) dryConfig liveConfig 1000500 1000500 ∧
      executionSettings dryConfig ≠ executionSettings liveConfig := by
  obtain ⟨dryConfig, dryAccepted, -, dryParts, off⟩ := exists_of_acceptsLive accepts_sample.1
  obtain ⟨liveConfig, accepted, liveMode, parts, on⟩ := exists_of_acceptsLive accepts_sample.2
  have dryHashed := sample_hash (fun _ _ => rfl) dryParts
  have hashed : configHashOf samplePlatform (environment changed) liveConfig = .ok sampleHash :=
    sample_hash (by decide +kernel) parts
  have sent : number (trim "1000000") = some 1000000 := by decide +kernel
  obtain ⟨liveAccepted, admitted⟩ := admitted_withReceipt 1000500 1000500 dryHashed accepted hashed
    liveMode sent (by norm_num) (by norm_num [DeploymentSafetyGate.dryRunValidationTtlMs])
  refine ⟨dryConfig, _, dryAccepted, liveAccepted, admitted, ?_⟩
  intro same
  have switches : (executionSettings dryConfig).eventPurity.enableLiveTx =
      (executionSettings liveConfig).eventPurity.enableLiveTx :=
    congrArg (fun settings => settings.eventPurity.enableLiveTx) same
  rw [on] at switches
  rw [switches] at off
  cases off

end RuntimeEnv

end LiquidationBot
