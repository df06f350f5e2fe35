import LiquidationBot.DeploymentSafetyGate

/-!
# The configuration of a run

`parseRuntimeConfig` reads every setting of the bot from the environment, with
defaults and lower bounds, and refuses combinations that may not start. The receipt
of a dry run is read along, and beside the hash it names stands the hash of the
environment at hand: the JSON text of a list of settings that is written out once
more, apart from the reader of the settings.
-/

namespace LiquidationBot

namespace RuntimeEnv

open EventPurity (EventPurityConfig parseEventPurityConfig)

/-! ## Chains and the subgraph -/

def parseSupportedChain (value : Option String) : Except String SupportedChain :=
  match value with
  | none => return .optimism
  | some text =>
      if trim text = "" then return .optimism
      else if text = "optimism" then return .optimism
      else if text = "arbitrum" then return .arbitrum
      else if text = "base" then return .base
      else throw s!"Unsupported chain: {text}"

def parseSupportedChains (env : Env) : Except String (List SupportedChain) :=
  match optionalEnv env "CHAINS" with
  | none => do
      let chain ← parseSupportedChain (env "CHAIN")
      return [chain]
  | some configuredChains => do
      let chains ← (parseList (some configuredChains)).mapM
        (fun entry => parseSupportedChain (some entry))
      if chains = [] then throw "CHAINS must include at least one supported chain"
      return chains.eraseDups

def firstSupportedChain (chains : List SupportedChain) : Except String SupportedChain :=
  match chains with
  | [] => throw "At least one supported chain is required"
  | chain :: _ => return chain

def aaveV3TheGraphSubgraphIds : SupportedChain → String
  | .optimism => "3RWFxWNstn4nP3dXiDfKi9GgBoHx7xzc7APkXs1MLEgi"
  | .arbitrum => "4xyasjQeREe7PxnF6wVdobZvCw5mhoHZq3T7guRpuNPf"
  | .base => "BAbf6A2V6fPv8dhH6zJf9X4fQfN9P9S9D2E6n7M8R1yA"

def assertSubgraphBorrowerDiscoveryUrl (platform : Platform) (url : String) :
    Except String Unit :=
  match platform.hostname url with
  | none => throw s!"Aave subgraph URL is not valid: {url}"
  | some hostname =>
      if hostname.toLower = "api.v3.aave.com" then
        throw <| "Subgraph URL points to the AaveKit GraphQL API (api.v3.aave.com), which does " ++
          "not support subgraph-style borrower paging (`positions`). Use an Aave V3 indexing " ++
          "subgraph (AAVE_SUBGRAPH_URL, BASE_AAVE_SUBGRAPH_URL, or THE_GRAPH_API_KEY). See README."
      else return ()

def resolveAaveSubgraphUrlForChain (platform : Platform) (env : Env) (chain : SupportedChain) :
    Except String String := do
  let baseOnly := if chain = .base then optionalEnv env "BASE_AAVE_SUBGRAPH_URL" else none
  let fromKey := (optionalEnv env "THE_GRAPH_API_KEY").map (fun apiKey =>
    s!"https://gateway.thegraph.com/api/{apiKey}/subgraphs/id/{aaveV3TheGraphSubgraphIds chain}")
  match ((optionalEnv env "AAVE_SUBGRAPH_URL").or baseOnly).or fromKey with
  | none =>
      throw <| "Configure subgraph access: set AAVE_SUBGRAPH_URL, or THE_GRAPH_API_KEY, or " ++
        "(when using Base) BASE_AAVE_SUBGRAPH_URL. See README."
  | some url =>
      assertSubgraphBorrowerDiscoveryUrl platform url
      return url

abbrev SubgraphUrls := InsertionMap SupportedChain String

/-- `aaveSubgraphByChain`: the URL of every chain. -/
def resolveSubgraphUrls (platform : Platform) (env : Env) (chains : List SupportedChain) :
    Except String SubgraphUrls := do
  let urls ← chains.mapM (resolveAaveSubgraphUrlForChain platform env)
  return (chains.zip urls).foldl (fun byChain entry => byChain.set entry.1 entry.2) .empty

/-- The URL of a chain that has one. -/
def urlOf (byChain : SubgraphUrls) (chain : SupportedChain) : String :=
  (byChain.get? chain).getD ""

/-- One URL alone, and else the sorted pairs of chain and URL. -/
def buildAaveSubgraphFingerprint (chains : List SupportedChain) (byChain : SubgraphUrls) :
    String :=
  match chains with
  | [only] => urlOf byChain only
  | _ =>
      let pairs := chains.map (fun chain => s!"{chainName chain}:{urlOf byChain chain}")
      String.intercalate "|" (pairs.mergeSort (fun left right => decide (left ≤ right)))

/-! ## The receipt and its hash -/

def defaultProfitMarginBps : Nat := 75

/-- The settings that the hash is made of, as they stand in the environment. -/
def safetyRelevantConfig (env : Env) (chains : List SupportedChain) (account : String)
    (subgraphFingerprint : String) : List (String × Option Json.Property) :=
  let raw (name default : String) : Option Json.Property := some (.inr ((env name).getD default))
  [("chains", some (.inl (chains.map chainName))),
    ("rpcUrl", (optionalEnv env "RPC_URL").map .inr),
    ("fallbackRpcUrls", some (.inl (parseList (env "FALLBACK_RPC_URLS")))),
    ("wsRpcUrl", (optionalEnv env "WS_RPC_URL").map .inr),
    ("aaveSubgraphUrl", some (.inr subgraphFingerprint)),
    ("account", some (.inr account)),
    ("pollIntervalMs", raw "POLL_INTERVAL_MS" "400"),
    ("candidateCooldownMs", raw "CANDIDATE_COOLDOWN_MS" "30000"),
    ("minProfitThresholdEth", raw "MIN_PROFIT_THRESHOLD_ETH" "0.01"),
    ("minProfitUsd", raw "MIN_PROFIT_USD" "10"),
    ("arbitrageMinProfitUsd", raw "ARBITRAGE_MIN_PROFIT_USD" "0.15"),
    ("gasCostUsd", raw "GAS_COST_USD" "0"),
    ("slippageBps", raw "SLIPPAGE_BPS" "50"),
    ("minProfitMarginBps", raw "MIN_PROFIT_MARGIN_BPS" (toString defaultProfitMarginBps)),
    ("liquidationReceiverAddress", raw "LIQUIDATION_RECEIVER_ADDRESS" ""),
    ("priceFeedRegistryJson", raw "PRICE_FEED_REGISTRY_JSON" ""),
    ("simulationMode", raw "SIMULATION_MODE" "true")]

def runtimeConfigHash (platform : Platform) (env : Env) (chains : List SupportedChain)
    (privateKey : Hex 64) (subgraphFingerprint : String) : Except String String := do
  let account ← platform.privateKeyToAccount privateKey
  return String.ofList (Json.stringify (safetyRelevantConfig env chains account subgraphFingerprint))

def parseDryRunChains (value : Option String) (fallback : List SupportedChain) :
    Except String (List SupportedChain) :=
  match value with
  | none => return fallback
  | some text =>
      if trim text = "" then return fallback
      else (text.toList.splitOn ',').mapM
        (fun entry => parseSupportedChain (some (trim (String.ofList entry))))

def parseDryRunValidation (platform : Platform) (env : Env) (chains : List SupportedChain)
    (privateKey : Hex 64) (subgraphFingerprint : String) :
    Except String (Option DryRunValidationReceipt) :=
  match optionalEnv env "DRY_RUN_CONFIG_HASH", optionalEnv env "DRY_RUN_VALIDATED_AT_MS" with
  | some configHash, some validatedAtMs => do
      let success ← parseBoolean (env "DRY_RUN_SUCCESS") false
      let expectedConfigHash ← runtimeConfigHash platform env chains privateKey subgraphFingerprint
      let validatedChains ← parseDryRunChains (env "DRY_RUN_CHAINS") chains
      return some {
        success, configHash, expectedConfigHash
        validatedAtMs := number validatedAtMs
        chains := validatedChains
        expectedChains := chains }
  | _, _ => return none

/-! ## The configuration -/

structure RuntimeConfig where
  chain : SupportedChain
  chains : List SupportedChain
  rpcUrl : String
  fallbackRpcUrls : List String
  wsRpcUrl : Option String
  wsRpcUrlPrimary : Option String
  wsRpcUrlSecondary : Option String
  wsRpcUrlTertiary : Option String
  executionRpcUrlPrimary : String
  executionRpcFallbackUrls : List String
  sequencerUptimeFeed : Option (Hex 40)
  sequencerDirectRpc : Option String
  flashblocksEnabled : Bool
  flashblocksPrimaryLoop : Bool
  hybridDetectionEnabled : Bool
  flashLoanProviders : List FlashLoanProviderId
  balancerFlashFallback : Bool
  privateTxMode : PrivateTxMode
  aaveSubgraphUrl : String
  aaveSubgraphByChain : SubgraphUrls
  privateKey : Hex 64
  pollIntervalMs : ℚ
  candidateCooldownMs : ℚ
  minProfitWei : Int
  minProfitUsd : ℚ
  gasCostUsd : ℚ
  slippageBps : ℚ
  minProfitMarginBps : ℚ
  flashLoanFeeBps : ℚ
  flashLoanSlippageFloorBps : ℚ
  gasOracleCacheMs : ℚ
  simulationMode : Bool
  telegramBotToken : Option String
  telegramChatId : Option String
  pagerDutyRoutingKey : Option String
  dryRunValidation : Option DryRunValidationReceipt
  logLevel : String
  usePipelineOrchestrator : Bool
  arbitrageReceiverAddress : Option (Hex 40)
  liquidationReceiverAddress : Option (Hex 40)
  dailyPnlCsvPath : Option String
  arbitrageMinProfitUsd : ℚ
  priceFeedRegistry : OracleFeedRegistry
  minLiquidationDebtUsd : ℚ
  borrowerDeadLetterCooldownMs : ℚ
  oracleMaxStaleMs : ℚ
  oraclePollIntervalMs : ℚ
  singleInstanceLockPath : String
  disableSingleInstanceLock : Bool
  eventPurity : EventPurityConfig

def minimumProfitMarginBpsLive : Nat := 75

def minimumProfitMarginBpsSimulation : Nat := 40

def defaultFlashLoanFeeBps : ℚ := 5

def defaultFlashLoanSlippageFloorBps : ℚ := 500

def MIN_PROFIT_THRESHOLD_WEI : Int := 10000000000000000

def placeholderPrivateKey : String :=
  "0x0000000000000000000000000000000000000000000000000000000000000000"

/-- The private key, which must not be the placeholder in live mode. -/
def readPrivateKey (env : Env) : Except String (Hex 64) := do
  let value ← requireEnv env "PRIVATE_KEY"
  parsePrivateKey value

def assertLiveKey (simulationMode : Bool) (privateKey : Hex 64) : Except String Unit :=
  if !simulationMode && privateKey.val.toLower = placeholderPrivateKey then
    throw "PRIVATE_KEY uses the placeholder private key and cannot run in live mode"
  else return ()

def minProfitMarginFloorBps (simulationMode : Bool) : Nat :=
  if simulationMode then minimumProfitMarginBpsSimulation else minimumProfitMarginBpsLive

def parseEthThreshold (platform : Platform) (value : Option String) : Except String Int :=
  match value with
  | none => return MIN_PROFIT_THRESHOLD_WEI
  | some text =>
      if trim text = "" then return MIN_PROFIT_THRESHOLD_WEI else platform.parseEther text

/-- The default of the debt floor. -/
def defaultDebtFloorUsd (minProfitUsd : ℚ) : ℚ := max minProfitUsd 50

/-- The settings of `parseRuntimeConfig`, before they are checked together. -/
def readRuntimeConfig (platform : Platform) (env : Env) : Except String RuntimeConfig := do
  let chains ← parseSupportedChains env
  let chain ← firstSupportedChain chains
  let rpcUrl ← requireEnv env "RPC_URL"
  let aaveSubgraphByChain ← resolveSubgraphUrls platform env chains
  let privateKey ← readPrivateKey env
  let simulationMode ← parseBoolean (env "SIMULATION_MODE") true
  assertLiveKey simulationMode privateKey
  let usePipelineOrchestrator ← parseBoolean (env "USE_PIPELINE_ORCHESTRATOR") false
  let configured ← parsePriceFeedRegistry platform (env "PRICE_FEED_REGISTRY_JSON")
  let sequencerUptimeFeed ← parseAddress (optionalEnv env "SEQUENCER_UPTIME_FEED")
  let flashblocksEnabled ← parseBoolean (env "FLASHBLOCKS_ENABLED") false
  let flashblocksPrimaryLoop ← parseBoolean (env "FLASHBLOCKS_PRIMARY_LOOP") false
  let hybridDetectionEnabled ← parseBoolean (env "HYBRID_DETECTION_ENABLED") false
  let balancerFlashFallback ← parseBoolean (env "BALANCER_FLASH_FALLBACK") false
  let privateTxMode ← parsePrivateTxMode (optionalEnv env "PRIVATE_TX_MODE")
  let pollIntervalMs ← parseMinNumber (env "POLL_INTERVAL_MS") 400 100 "POLL_INTERVAL_MS"
  let candidateCooldownMs ←
    parseMinNumber (env "CANDIDATE_COOLDOWN_MS") 30000 0 "CANDIDATE_COOLDOWN_MS"
  let minProfitWei ← parseEthThreshold platform (env "MIN_PROFIT_THRESHOLD_ETH")
  let minProfitUsd ← parseMinNumber (env "MIN_PROFIT_USD") 10 0 "MIN_PROFIT_USD"
  let gasCostUsd ← parseMinNumber (env "GAS_COST_USD") 0 0 "GAS_COST_USD"
  let slippageBps ← parseMinNumber (env "SLIPPAGE_BPS") 50 0 "SLIPPAGE_BPS"
  let minProfitMarginBps ← parseMinNumber (env "MIN_PROFIT_MARGIN_BPS") defaultProfitMarginBps
    (minProfitMarginFloorBps simulationMode) "MIN_PROFIT_MARGIN_BPS"
  let flashLoanFeeBps ← parseMinNumber (env "FLASH_LOAN_FEE_BPS") defaultFlashLoanFeeBps 0
    "FLASH_LOAN_FEE_BPS"
  let flashLoanSlippageFloorBps ← parseMinNumber (env "FLASH_LOAN_SLIPPAGE_FLOOR_BPS")
    defaultFlashLoanSlippageFloorBps 0 "FLASH_LOAN_SLIPPAGE_FLOOR_BPS"
  let gasOracleCacheMs ← parseMinNumber (env "GAS_ORACLE_CACHE_MS") 30000 1 "GAS_ORACLE_CACHE_MS"
  let dryRunValidation ← parseDryRunValidation platform env chains privateKey
    (buildAaveSubgraphFingerprint chains aaveSubgraphByChain)
  let arbitrageReceiverAddress ← parseAddress (optionalEnv env "ARBITRAGE_RECEIVER_ADDRESS")
  let liquidationReceiverAddress ← parseAddress (optionalEnv env "LIQUIDATION_RECEIVER_ADDRESS")
  let arbitrageMinProfitUsd ← parseMinNumber (env "ARBITRAGE_MIN_PROFIT_USD") (literal "0.15") 0
    "ARBITRAGE_MIN_PROFIT_USD"
  let minLiquidationDebtUsd ← parseMinNumber (env "MIN_LIQUIDATION_DEBT_USD")
    (defaultDebtFloorUsd minProfitUsd) 0 "MIN_LIQUIDATION_DEBT_USD"
  let borrowerDeadLetterCooldownMs ← parseMinNumber (env "BORROWER_DEAD_LETTER_COOLDOWN_MS") 600000
    300000 "BORROWER_DEAD_LETTER_COOLDOWN_MS"
  let oracleMaxStaleMs ← parseMinNumber (env "ORACLE_MAX_STALE_MS") 900000 1000
    "ORACLE_MAX_STALE_MS"
  let oraclePollIntervalMs ← parseMinNumber (env "ORACLE_POLL_INTERVAL_MS") 60000 1000
    "ORACLE_POLL_INTERVAL_MS"
  let disableSingleInstanceLock ← parseBoolean (env "DISABLE_SINGLE_INSTANCE_LOCK") false
  let eventPurity ← parseEventPurityConfig env
  return {
    chain, chains, rpcUrl, aaveSubgraphByChain, privateKey, simulationMode,
    usePipelineOrchestrator, sequencerUptimeFeed, flashblocksEnabled, flashblocksPrimaryLoop,
    hybridDetectionEnabled, balancerFlashFallback, privateTxMode, pollIntervalMs,
    candidateCooldownMs, minProfitWei, minProfitUsd, gasCostUsd, slippageBps, minProfitMarginBps,
    flashLoanFeeBps, flashLoanSlippageFloorBps, gasOracleCacheMs, dryRunValidation,
    arbitrageReceiverAddress, liquidationReceiverAddress, arbitrageMinProfitUsd,
    minLiquidationDebtUsd, borrowerDeadLetterCooldownMs, oracleMaxStaleMs, oraclePollIntervalMs,
    disableSingleInstanceLock, eventPurity
    aaveSubgraphUrl := urlOf aaveSubgraphByChain chain
    fallbackRpcUrls := parseList (env "FALLBACK_RPC_URLS")
    wsRpcUrl := optionalEnv env "WS_RPC_URL"
    wsRpcUrlPrimary := (optionalEnv env "WS_RPC_URL_PRIMARY").or (optionalEnv env "WS_RPC_URL")
    wsRpcUrlSecondary := optionalEnv env "WS_RPC_URL_SECONDARY"
    wsRpcUrlTertiary := optionalEnv env "WS_RPC_URL_TERTIARY"
    executionRpcUrlPrimary := (optionalEnv env "EXECUTION_RPC_URL_PRIMARY").getD rpcUrl
    executionRpcFallbackUrls := parseList (env "EXECUTION_RPC_URL_FALLBACKS")
    sequencerDirectRpc := optionalEnv env "SEQUENCER_DIRECT_RPC"
    flashLoanProviders := FlashLoanFees.applyFlashLoanProviderPolicy
      (FlashLoanFees.parseFlashLoanProviders (env "FLASH_LOAN_PROVIDERS")) balancerFlashFallback
    telegramBotToken := optionalEnv env "TELEGRAM_BOT_TOKEN"
    telegramChatId := optionalEnv env "TELEGRAM_CHAT_ID"
    pagerDutyRoutingKey := optionalEnv env "PAGERDUTY_ROUTING_KEY"
    logLevel := (env "LOG_LEVEL").getD "info"
    dailyPnlCsvPath := optionalEnv env "DAILY_PNL_CSV_PATH"
    priceFeedRegistry := configured.getD defaultPriceFeedRegistry
    singleInstanceLockPath :=
      (optionalEnv env "SINGLE_INSTANCE_LOCK_PATH").getD ".runtime/bot.lock" }

def assertPipelineFlashLiquidationReadiness (config : RuntimeConfig) : Except String Unit :=
  if !config.usePipelineOrchestrator || config.simulationMode then return ()
  else if config.liquidationReceiverAddress = none then
    throw <| "LIQUIDATION_RECEIVER_ADDRESS is required for live pipeline mode to enforce " ++
      "flash-loan-first liquidations"
  else return ()

def assertArbitragePriceFeedCoverage (config : RuntimeConfig) : Except String Unit :=
  let missing := missingFeeds config.priceFeedRegistry config.chains
  let listed := String.intercalate ", " missing
  if config.simulationMode || !config.usePipelineOrchestrator || missing.isEmpty then return ()
  else
    throw <| "Live arbitrage requires Chainlink feed coverage for tokenIn assets. " ++
      s!"Missing feeds: {listed}"

/-! ## What is read

A configuration is read exactly if each of its settings is what the reader of its
variables returns. -/

structure Settings (platform : Platform) (env : Env) (config : RuntimeConfig) : Prop where
  chains : parseSupportedChains env = .ok config.chains
  chain : firstSupportedChain config.chains = .ok config.chain
  rpcUrl : requireEnv env "RPC_URL" = .ok config.rpcUrl
  aaveSubgraphByChain :
    resolveSubgraphUrls platform env config.chains = .ok config.aaveSubgraphByChain
  aaveSubgraphUrl : config.aaveSubgraphUrl = urlOf config.aaveSubgraphByChain config.chain
  privateKey : readPrivateKey env = .ok config.privateKey
  simulationMode : parseBoolean (env "SIMULATION_MODE") true = .ok config.simulationMode
  liveKey : assertLiveKey config.simulationMode config.privateKey = .ok ()
  usePipelineOrchestrator :
    parseBoolean (env "USE_PIPELINE_ORCHESTRATOR") false = .ok config.usePipelineOrchestrator
  priceFeedRegistry : ∃ configured,
    parsePriceFeedRegistry platform (env "PRICE_FEED_REGISTRY_JSON") = .ok configured ∧
      config.priceFeedRegistry = configured.getD defaultPriceFeedRegistry
  fallbackRpcUrls : config.fallbackRpcUrls = parseList (env "FALLBACK_RPC_URLS")
  wsRpcUrl : config.wsRpcUrl = optionalEnv env "WS_RPC_URL"
  wsRpcUrlPrimary : config.wsRpcUrlPrimary =
    (optionalEnv env "WS_RPC_URL_PRIMARY").or (optionalEnv env "WS_RPC_URL")
  wsRpcUrlSecondary : config.wsRpcUrlSecondary = optionalEnv env "WS_RPC_URL_SECONDARY"
  wsRpcUrlTertiary : config.wsRpcUrlTertiary = optionalEnv env "WS_RPC_URL_TERTIARY"
  executionRpcUrlPrimary : config.executionRpcUrlPrimary =
    (optionalEnv env "EXECUTION_RPC_URL_PRIMARY").getD config.rpcUrl
  executionRpcFallbackUrls : config.executionRpcFallbackUrls =
    parseList (env "EXECUTION_RPC_URL_FALLBACKS")
  sequencerUptimeFeed :
    parseAddress (optionalEnv env "SEQUENCER_UPTIME_FEED") = .ok config.sequencerUptimeFeed
  sequencerDirectRpc : config.sequencerDirectRpc = optionalEnv env "SEQUENCER_DIRECT_RPC"
  flashblocksEnabled :
    parseBoolean (env "FLASHBLOCKS_ENABLED") false = .ok config.flashblocksEnabled
  flashblocksPrimaryLoop :
    parseBoolean (env "FLASHBLOCKS_PRIMARY_LOOP") false = .ok config.flashblocksPrimaryLoop
  hybridDetectionEnabled :
    parseBoolean (env "HYBRID_DETECTION_ENABLED") false = .ok config.hybridDetectionEnabled
  balancerFlashFallback :
    parseBoolean (env "BALANCER_FLASH_FALLBACK") false = .ok config.balancerFlashFallback
  flashLoanProviders : config.flashLoanProviders = FlashLoanFees.applyFlashLoanProviderPolicy
    (FlashLoanFees.parseFlashLoanProviders (env "FLASH_LOAN_PROVIDERS"))
    config.balancerFlashFallback
  privateTxMode : parsePrivateTxMode (optionalEnv env "PRIVATE_TX_MODE") = .ok config.privateTxMode
  pollIntervalMs : parseMinNumber (env "POLL_INTERVAL_MS") 400 100 "POLL_INTERVAL_MS" =
    .ok config.pollIntervalMs
  candidateCooldownMs :
    parseMinNumber (env "CANDIDATE_COOLDOWN_MS") 30000 0 "CANDIDATE_COOLDOWN_MS" =
      .ok config.candidateCooldownMs
  minProfitWei : parseEthThreshold platform (env "MIN_PROFIT_THRESHOLD_ETH") =
    .ok config.minProfitWei
  minProfitUsd : parseMinNumber (env "MIN_PROFIT_USD") 10 0 "MIN_PROFIT_USD" =
    .ok config.minProfitUsd
  gasCostUsd : parseMinNumber (env "GAS_COST_USD") 0 0 "GAS_COST_USD" = .ok config.gasCostUsd
  slippageBps : parseMinNumber (env "SLIPPAGE_BPS") 50 0 "SLIPPAGE_BPS" = .ok config.slippageBps
  minProfitMarginBps : parseMinNumber (env "MIN_PROFIT_MARGIN_BPS") defaultProfitMarginBps
    (minProfitMarginFloorBps config.simulationMode) "MIN_PROFIT_MARGIN_BPS" =
      .ok config.minProfitMarginBps
  flashLoanFeeBps : parseMinNumber (env "FLASH_LOAN_FEE_BPS") defaultFlashLoanFeeBps 0
    "FLASH_LOAN_FEE_BPS" = .ok config.flashLoanFeeBps
  flashLoanSlippageFloorBps : parseMinNumber (env "FLASH_LOAN_SLIPPAGE_FLOOR_BPS")
    defaultFlashLoanSlippageFloorBps 0 "FLASH_LOAN_SLIPPAGE_FLOOR_BPS" =
      .ok config.flashLoanSlippageFloorBps
  gasOracleCacheMs : parseMinNumber (env "GAS_ORACLE_CACHE_MS") 30000 1 "GAS_ORACLE_CACHE_MS" =
    .ok config.gasOracleCacheMs
  telegramBotToken : config.telegramBotToken = optionalEnv env "TELEGRAM_BOT_TOKEN"
  telegramChatId : config.telegramChatId = optionalEnv env "TELEGRAM_CHAT_ID"
  pagerDutyRoutingKey : config.pagerDutyRoutingKey = optionalEnv env "PAGERDUTY_ROUTING_KEY"
  dryRunValidation : parseDryRunValidation platform env config.chains config.privateKey
    (buildAaveSubgraphFingerprint config.chains config.aaveSubgraphByChain) =
      .ok config.dryRunValidation
  logLevel : config.logLevel = (env "LOG_LEVEL").getD "info"
  arbitrageReceiverAddress : parseAddress (optionalEnv env "ARBITRAGE_RECEIVER_ADDRESS") =
    .ok config.arbitrageReceiverAddress
  liquidationReceiverAddress : parseAddress (optionalEnv env "LIQUIDATION_RECEIVER_ADDRESS") =
    .ok config.liquidationReceiverAddress
  dailyPnlCsvPath : config.dailyPnlCsvPath = optionalEnv env "DAILY_PNL_CSV_PATH"
  arbitrageMinProfitUsd : parseMinNumber (env "ARBITRAGE_MIN_PROFIT_USD") (literal "0.15") 0
    "ARBITRAGE_MIN_PROFIT_USD" = .ok config.arbitrageMinProfitUsd
  minLiquidationDebtUsd : parseMinNumber (env "MIN_LIQUIDATION_DEBT_USD")
    (defaultDebtFloorUsd config.minProfitUsd) 0 "MIN_LIQUIDATION_DEBT_USD" =
      .ok config.minLiquidationDebtUsd
  borrowerDeadLetterCooldownMs : parseMinNumber (env "BORROWER_DEAD_LETTER_COOLDOWN_MS") 600000
    300000 "BORROWER_DEAD_LETTER_COOLDOWN_MS" = .ok config.borrowerDeadLetterCooldownMs
  oracleMaxStaleMs : parseMinNumber (env "ORACLE_MAX_STALE_MS") 900000 1000
    "ORACLE_MAX_STALE_MS" = .ok config.oracleMaxStaleMs
  oraclePollIntervalMs : parseMinNumber (env "ORACLE_POLL_INTERVAL_MS") 60000 1000
    "ORACLE_POLL_INTERVAL_MS" = .ok config.oraclePollIntervalMs
  singleInstanceLockPath : config.singleInstanceLockPath =
    (optionalEnv env "SINGLE_INSTANCE_LOCK_PATH").getD ".runtime/bot.lock"
  disableSingleInstanceLock : parseBoolean (env "DISABLE_SINGLE_INSTANCE_LOCK") false =
    .ok config.disableSingleInstanceLock
  eventPurity : parseEventPurityConfig env = .ok config.eventPurity

variable {platform : Platform} {env : Env} {config : RuntimeConfig}

/-- A setting after the other, in the order in which they are read. -/
theorem settings_of_readRuntimeConfig (accepted : readRuntimeConfig platform env = .ok config) :
    Settings platform env config := by
  unfold readRuntimeConfig at accepted
  obtain ⟨_, chains, accepted⟩ := Throwing.exists_of_bind accepted
  obtain ⟨_, chain, accepted⟩ := Throwing.exists_of_bind accepted
  obtain ⟨_, rpcUrl, accepted⟩ := Throwing.exists_of_bind accepted
  obtain ⟨_, aaveSubgraphByChain, accepted⟩ := Throwing.exists_of_bind accepted
  obtain ⟨_, privateKey, accepted⟩ := Throwing.exists_of_bind accepted
  obtain ⟨_, simulationMode, accepted⟩ := Throwing.exists_of_bind accepted
  obtain ⟨_, liveKey, accepted⟩ := Throwing.exists_of_bind accepted
  obtain ⟨_, usePipelineOrchestrator, accepted⟩ := Throwing.exists_of_bind accepted
  obtain ⟨_, priceFeedRegistry, accepted⟩ := Throwing.exists_of_bind accepted
  obtain ⟨_, sequencerUptimeFeed, accepted⟩ := Throwing.exists_of_bind accepted
  obtain ⟨_, flashblocksEnabled, accepted⟩ := Throwing.exists_of_bind accepted
  obtain ⟨_, flashblocksPrimaryLoop, accepted⟩ := Throwing.exists_of_bind accepted
  obtain ⟨_, hybridDetectionEnabled, accepted⟩ := Throwing.exists_of_bind accepted
  obtain ⟨_, balancerFlashFallback, accepted⟩ := Throwing.exists_of_bind accepted
  obtain ⟨_, privateTxMode, accepted⟩ := Throwing.exists_of_bind accepted
  obtain ⟨_, pollIntervalMs, accepted⟩ := Throwing.exists_of_bind accepted
  obtain ⟨_, candidateCooldownMs, accepted⟩ := Throwing.exists_of_bind accepted
  obtain ⟨_, minProfitWei, accepted⟩ := Throwing.exists_of_bind accepted
  obtain ⟨_, minProfitUsd, accepted⟩ := Throwing.exists_of_bind accepted
  obtain ⟨_, gasCostUsd, accepted⟩ := Throwing.exists_of_bind accepted
  obtain ⟨_, slippageBps, accepted⟩ := Throwing.exists_of_bind accepted
  obtain ⟨_, minProfitMarginBps, accepted⟩ := Throwing.exists_of_bind accepted
  obtain ⟨_, flashLoanFeeBps, accepted⟩ := Throwing.exists_of_bind accepted
  obtain ⟨_, flashLoanSlippageFloorBps, accepted⟩ := Throwing.exists_of_bind accepted
  obtain ⟨_, gasOracleCacheMs, accepted⟩ := Throwing.exists_of_bind accepted
  obtain ⟨_, dryRunValidation, accepted⟩ := Throwing.exists_of_bind accepted
  obtain ⟨_, arbitrageReceiverAddress, accepted⟩ := Throwing.exists_of_bind accepted
  obtain ⟨_, liquidationReceiverAddress, accepted⟩ := Throwing.exists_of_bind accepted
  obtain ⟨_, arbitrageMinProfitUsd, accepted⟩ := Throwing.exists_of_bind accepted
  obtain ⟨_, minLiquidationDebtUsd, accepted⟩ := Throwing.exists_of_bind accepted
  obtain ⟨_, borrowerDeadLetterCooldownMs, accepted⟩ := Throwing.exists_of_bind accepted
  obtain ⟨_, oracleMaxStaleMs, accepted⟩ := Throwing.exists_of_bind accepted
  obtain ⟨_, oraclePollIntervalMs, accepted⟩ := Throwing.exists_of_bind accepted
  obtain ⟨_, disableSingleInstanceLock, accepted⟩ := Throwing.exists_of_bind accepted
  obtain ⟨_, eventPurity, accepted⟩ := Throwing.exists_of_bind accepted
  rw [Throwing.pure_eq_ok_iff] at accepted
  subst accepted
  exact {
    chains, chain, rpcUrl, aaveSubgraphByChain, privateKey, simulationMode, liveKey,
    usePipelineOrchestrator, sequencerUptimeFeed, flashblocksEnabled, flashblocksPrimaryLoop,
    hybridDetectionEnabled, balancerFlashFallback, privateTxMode, pollIntervalMs,
    candidateCooldownMs, minProfitWei, minProfitUsd, gasCostUsd, slippageBps, minProfitMarginBps,
    flashLoanFeeBps, flashLoanSlippageFloorBps, gasOracleCacheMs, dryRunValidation,
    arbitrageReceiverAddress, liquidationReceiverAddress, arbitrageMinProfitUsd,
    minLiquidationDebtUsd, borrowerDeadLetterCooldownMs, oracleMaxStaleMs, oraclePollIntervalMs,
    disableSingleInstanceLock, eventPurity
    priceFeedRegistry := ⟨_, priceFeedRegistry, rfl⟩
    aaveSubgraphUrl := rfl
    fallbackRpcUrls := rfl
    wsRpcUrl := rfl
    wsRpcUrlPrimary := rfl
    wsRpcUrlSecondary := rfl
    wsRpcUrlTertiary := rfl
    executionRpcUrlPrimary := rfl
    executionRpcFallbackUrls := rfl
    sequencerDirectRpc := rfl
    flashLoanProviders := rfl
    telegramBotToken := rfl
    telegramChatId := rfl
    pagerDutyRoutingKey := rfl
    logLevel := rfl
    dailyPnlCsvPath := rfl
    singleInstanceLockPath := rfl }

/-- The other way round, each reader returns and the next one follows. -/
theorem readRuntimeConfig_of_settings (settings : Settings platform env config) :
    readRuntimeConfig platform env = .ok config := by
  obtain ⟨configured, parsed, registry⟩ := settings.priceFeedRegistry
  simp only [readRuntimeConfig, Throwing.ok_bind, parsed, settings.chains, settings.chain,
    settings.rpcUrl, settings.aaveSubgraphByChain, settings.privateKey, settings.simulationMode,
    settings.liveKey, settings.usePipelineOrchestrator, settings.sequencerUptimeFeed, settings.flashblocksEnabled,
    settings.flashblocksPrimaryLoop, settings.hybridDetectionEnabled,
    settings.balancerFlashFallback, settings.privateTxMode, settings.pollIntervalMs,
    settings.candidateCooldownMs, settings.minProfitWei, settings.minProfitUsd,
    settings.gasCostUsd, settings.slippageBps, settings.minProfitMarginBps,
    settings.flashLoanFeeBps, settings.flashLoanSlippageFloorBps, settings.gasOracleCacheMs,
    settings.dryRunValidation, settings.arbitrageReceiverAddress,
    settings.liquidationReceiverAddress, settings.arbitrageMinProfitUsd,
    settings.minLiquidationDebtUsd, settings.borrowerDeadLetterCooldownMs,
    settings.oracleMaxStaleMs, settings.oraclePollIntervalMs, settings.disableSingleInstanceLock,
    settings.eventPurity]
  rw [Throwing.pure_eq_ok_iff, ← registry,
    ← settings.aaveSubgraphUrl, ← settings.fallbackRpcUrls, ← settings.wsRpcUrlPrimary,
    ← settings.wsRpcUrl, ← settings.wsRpcUrlSecondary, ← settings.wsRpcUrlTertiary,
    ← settings.executionRpcUrlPrimary, ← settings.executionRpcFallbackUrls,
    ← settings.sequencerDirectRpc, ← settings.flashLoanProviders, ← settings.telegramBotToken,
    ← settings.telegramChatId, ← settings.pagerDutyRoutingKey, ← settings.logLevel,
    ← settings.dailyPnlCsvPath, ← settings.singleInstanceLockPath]

/-- What a configuration is refused for as a whole. -/
def checkRuntimeConfig (platform : Platform) (config : RuntimeConfig) : Except String Unit := do
  assertPipelineFlashLiquidationReadiness config
  if config.eventPurity.enableArbitrage then assertArbitragePriceFeedCoverage config
  if .base ∈ config.chains then assertBaseFeedRegistry platform config.priceFeedRegistry

def parseRuntimeConfig (platform : Platform) (env : Env) : Except String RuntimeConfig := do
  let config ← readRuntimeConfig platform env
  checkRuntimeConfig platform config
  return config

/-- What is accepted is what was read and passes the checks. -/
theorem parseRuntimeConfig_eq_ok_iff : parseRuntimeConfig platform env = .ok config ↔
    Settings platform env config ∧ checkRuntimeConfig platform config = .ok () := by
  constructor
  · intro accepted
    obtain ⟨read, accepted, checked⟩ := Throwing.exists_of_bind accepted
    obtain ⟨_, passed, returned⟩ := Throwing.exists_of_bind checked
    cases returned
    exact ⟨settings_of_readRuntimeConfig accepted, passed⟩
  · rintro ⟨settings, passed⟩
    simp only [parseRuntimeConfig, readRuntimeConfig_of_settings settings, Throwing.ok_bind, passed]
    rfl

/-- The gate on a configuration at start-up. -/
def evaluateRuntimeDeploymentSafety (nowMs laterMs : ℚ) (config : RuntimeConfig) :
    DeploymentGateResult :=
  DeploymentSafetyGate.evaluate DeploymentSafetyGate.dryRunValidationTtlMs nowMs laterMs
    { simulationMode := config.simulationMode
      hasMetricsEndpoint := true
      registeredChains := config.chains
      minProfitMarginBps := config.minProfitMarginBps
      dryRunValidation := config.dryRunValidation }

end RuntimeEnv

end LiquidationBot
