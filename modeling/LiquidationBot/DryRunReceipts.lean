import LiquidationBot.RuntimeConfig

/-!
# Dry-run receipts

A receipt names the hash of the environment that a dry run validated. The gate admits
a live run only if that is the hash of its own environment, and whatever has the hash
is admitted with the receipt while it is fresh: the variables of the receipt change
nothing else of the configuration, and its hash is read back as it was written.
-/

namespace LiquidationBot

namespace RuntimeEnv

open EventPurity (parseEventPurityConfig)

variable {platform : Platform}

/-! ## What the gate admits -/

/-- The hash of the environment of an accepted configuration. -/
def configHashOf (platform : Platform) (env : Env) (config : RuntimeConfig) :
    Except String String :=
  runtimeConfigHash platform env config.chains config.privateKey
    (buildAaveSubgraphFingerprint config.chains config.aaveSubgraphByChain)

/-- Both environments have one hash. -/
def SameHash (platform : Platform) (env other : Env) (config otherConfig : RuntimeConfig) : Prop :=
  ∃ hash, configHashOf platform env config = .ok hash ∧
    configHashOf platform other otherConfig = .ok hash

/-- The live run starts with the receipt of the dry run. -/
structure Admitted (platform : Platform) (dry : Env) (dryConfig liveConfig : RuntimeConfig)
    (nowMs laterMs : ℚ) : Prop where
  liveMode : liveConfig.simulationMode = false
  receiptOfDryRun : ∃ receipt, liveConfig.dryRunValidation = some receipt ∧
    configHashOf platform dry dryConfig = .ok receipt.configHash
  allowed : evaluateRuntimeDeploymentSafety nowMs laterMs liveConfig = .allowed

/-- The receipt stands beside the hash of the environment that it was read from. -/
theorem expectedConfigHash_of_settings {env : Env} {config : RuntimeConfig}
    {receipt : DryRunValidationReceipt} (settings : Settings platform env config)
    (found : config.dryRunValidation = some receipt) :
    configHashOf platform env config = .ok receipt.expectedConfigHash := by
  have parsed := settings.dryRunValidation
  rw [found] at parsed
  unfold parseDryRunValidation at parsed
  split at parsed
  · obtain ⟨success, -, parsed⟩ := Throwing.exists_of_bind parsed
    obtain ⟨expectedConfigHash, hashed, parsed⟩ := Throwing.exists_of_bind parsed
    obtain ⟨validatedChains, -, parsed⟩ := Throwing.exists_of_bind parsed
    cases parsed
    exact hashed
  · cases parsed

/-- The gate compares the receipt with the hash of the live environment. -/
theorem Admitted.sameHash {dry live : Env} {dryConfig liveConfig : RuntimeConfig}
    {nowMs laterMs : ℚ} (admitted : Admitted platform dry dryConfig liveConfig nowMs laterMs)
    (liveSettings : Settings platform live liveConfig) :
    SameHash platform dry live dryConfig liveConfig := by
  obtain ⟨receipt, found, ofDryRun⟩ := admitted.receiptOfDryRun
  obtain ⟨-, -, -, vouchedReceipt, held, vouched⟩ :=
    (DeploymentSafetyGate.evaluate_live_iff _ _ _ _ admitted.liveMode).mp admitted.allowed
  have sameReceipt : receipt = vouchedReceipt := Option.some.inj (found.symm.trans held)
  subst sameReceipt
  refine ⟨receipt.configHash, ofDryRun, ?_⟩
  rw [vouched.sameHash]
  exact expectedConfigHash_of_settings liveSettings found

/-! ## The receipt of a run -/

def receiptNames : List String :=
  ["DRY_RUN_CONFIG_HASH", "DRY_RUN_VALIDATED_AT_MS", "DRY_RUN_SUCCESS", "DRY_RUN_CHAINS"]

/-- The environment with the receipt of a successful dry run, for the chains at hand. -/
def withReceipt (env : Env) (configHash validatedAtMs : String) : Env := fun name =>
  if name = "DRY_RUN_CONFIG_HASH" then some configHash
  else if name = "DRY_RUN_VALIDATED_AT_MS" then some validatedAtMs
  else if name = "DRY_RUN_SUCCESS" then some "true"
  else if name = "DRY_RUN_CHAINS" then none
  else env name

/-- The configuration that is read with it. -/
def RuntimeConfig.withReceipt (config : RuntimeConfig) (configHash validatedAtMs : String) :
    RuntimeConfig :=
  { config with
    dryRunValidation := some {
      success := true
      validatedAtMs := number (trim validatedAtMs)
      configHash := configHash
      expectedConfigHash := configHash
      chains := config.chains
      expectedChains := config.chains } }

section

variable {env : Env} {config : RuntimeConfig} {configHash validatedAtMs : String}

theorem withReceipt_other {name : String} (other : name ∉ receiptNames) :
    withReceipt env configHash validatedAtMs name = env name := by
  simp only [receiptNames, List.mem_cons, List.not_mem_nil, or_false, not_or] at other
  simp only [withReceipt, other, if_false]

theorem optionalEnv_withReceipt {name : String} (other : name ∉ receiptNames) :
    optionalEnv (withReceipt env configHash validatedAtMs) name = optionalEnv env name := by
  rw [optionalEnv, optionalEnv, withReceipt_other other]

theorem requireEnv_withReceipt {name : String} (other : name ∉ receiptNames) :
    requireEnv (withReceipt env configHash validatedAtMs) name = requireEnv env name := by
  rw [requireEnv, requireEnv, optionalEnv_withReceipt other]

theorem parseSupportedChains_withReceipt :
    parseSupportedChains (withReceipt env configHash validatedAtMs) = parseSupportedChains env := by
  simp (disch := decide) only [parseSupportedChains, optionalEnv_withReceipt, withReceipt_other]

theorem resolveSubgraphUrls_withReceipt (chains : List SupportedChain) :
    resolveSubgraphUrls platform (withReceipt env configHash validatedAtMs) chains =
      resolveSubgraphUrls platform env chains := by
  have each : resolveAaveSubgraphUrlForChain platform (withReceipt env configHash validatedAtMs) =
      resolveAaveSubgraphUrlForChain platform env := by
    funext chain
    simp (disch := decide) only [resolveAaveSubgraphUrlForChain, optionalEnv_withReceipt]
  rw [resolveSubgraphUrls, resolveSubgraphUrls, each]

theorem readPrivateKey_withReceipt :
    readPrivateKey (withReceipt env configHash validatedAtMs) = readPrivateKey env := by
  simp (disch := decide) only [readPrivateKey, requireEnv_withReceipt]

theorem parseEventPurityConfig_withReceipt :
    parseEventPurityConfig (withReceipt env configHash validatedAtMs) =
      parseEventPurityConfig env := by
  simp (disch := decide) only [parseEventPurityConfig, withReceipt_other]

theorem runtimeConfigHash_withReceipt (chains : List SupportedChain) (privateKey : Hex 64)
    (subgraphFingerprint : String) :
    runtimeConfigHash platform (withReceipt env configHash validatedAtMs) chains privateKey
      subgraphFingerprint =
        runtimeConfigHash platform env chains privateKey subgraphFingerprint := by
  simp (disch := decide) only [runtimeConfigHash, safetyRelevantConfig, optionalEnv_withReceipt,
    withReceipt_other]

/-- A receipt of the hash is read back, with the hash that is expected. -/
theorem parseDryRunValidation_withReceipt {chains : List SupportedChain} {privateKey : Hex 64}
    {subgraphFingerprint : String}
    (hashed : runtimeConfigHash platform env chains privateKey subgraphFingerprint =
      .ok configHash)
    (trimmed : trim configHash = configHash) (hashFilled : configHash ≠ "")
    (timeFilled : trim validatedAtMs ≠ "") :
    parseDryRunValidation platform (withReceipt env configHash validatedAtMs) chains privateKey
        subgraphFingerprint =
      .ok (some ⟨true, number (trim validatedAtMs), configHash, configHash, chains, chains⟩) := by
  have hashText : optionalEnv (withReceipt env configHash validatedAtMs) "DRY_RUN_CONFIG_HASH" =
      some configHash := by
    simp [optionalEnv, withReceipt, trimmed, hashFilled]
  have timeText :
      optionalEnv (withReceipt env configHash validatedAtMs) "DRY_RUN_VALIDATED_AT_MS" =
        some (trim validatedAtMs) := by
    simp [optionalEnv, withReceipt, timeFilled]
  have success : parseBoolean
      (withReceipt env configHash validatedAtMs "DRY_RUN_SUCCESS") false = .ok true := by
    have written : withReceipt env configHash validatedAtMs "DRY_RUN_SUCCESS" = some "true" := by
      simp [withReceipt]
    rw [written]
    decide +kernel
  have ownChains : parseDryRunChains
      (withReceipt env configHash validatedAtMs "DRY_RUN_CHAINS") chains = .ok chains := by
    have unset : withReceipt env configHash validatedAtMs "DRY_RUN_CHAINS" = none := by
      simp [withReceipt]
    rw [unset]
    rfl
  simp only [parseDryRunValidation, hashText, timeText, success, ownChains,
    runtimeConfigHash_withReceipt, hashed, Throwing.ok_bind]
  rfl

/-- The receipt of the configuration changes nothing else of what is read. -/
theorem settings_withReceipt (settings : Settings platform env config)
    (hashed : configHashOf platform env config = .ok configHash)
    (trimmed : trim configHash = configHash) (hashFilled : configHash ≠ "")
    (timeFilled : trim validatedAtMs ≠ "") :
    Settings platform (withReceipt env configHash validatedAtMs)
      (config.withReceipt configHash validatedAtMs) := by
  constructor
  case dryRunValidation =>
    exact parseDryRunValidation_withReceipt hashed trimmed hashFilled timeFilled
  case priceFeedRegistry =>
    rw [withReceipt_other (by decide)]
    exact settings.priceFeedRegistry
  all_goals
    simp (disch := decide) only [RuntimeConfig.withReceipt, withReceipt_other,
      optionalEnv_withReceipt, requireEnv_withReceipt, parseSupportedChains_withReceipt,
      resolveSubgraphUrls_withReceipt, readPrivateKey_withReceipt,
      parseEventPurityConfig_withReceipt,
      settings.chains, settings.chain, settings.rpcUrl, settings.aaveSubgraphByChain,
      settings.aaveSubgraphUrl, settings.privateKey, settings.simulationMode, settings.liveKey,
      settings.usePipelineOrchestrator, settings.fallbackRpcUrls, settings.wsRpcUrl,
      settings.wsRpcUrlPrimary, settings.wsRpcUrlSecondary, settings.wsRpcUrlTertiary,
      settings.executionRpcUrlPrimary, settings.executionRpcFallbackUrls,
      settings.sequencerUptimeFeed, settings.sequencerDirectRpc, settings.flashblocksEnabled,
      settings.flashblocksPrimaryLoop, settings.hybridDetectionEnabled,
      settings.balancerFlashFallback, settings.flashLoanProviders, settings.privateTxMode,
      settings.pollIntervalMs, settings.candidateCooldownMs, settings.minProfitWei,
      settings.minProfitUsd, settings.gasCostUsd, settings.slippageBps,
      settings.minProfitMarginBps, settings.flashLoanFeeBps, settings.flashLoanSlippageFloorBps,
      settings.gasOracleCacheMs, settings.telegramBotToken, settings.telegramChatId,
      settings.pagerDutyRoutingKey, settings.logLevel, settings.arbitrageReceiverAddress,
      settings.liquidationReceiverAddress, settings.dailyPnlCsvPath,
      settings.arbitrageMinProfitUsd, settings.minLiquidationDebtUsd,
      settings.borrowerDeadLetterCooldownMs, settings.oracleMaxStaleMs,
      settings.oraclePollIntervalMs, settings.singleInstanceLockPath,
      settings.disableSingleInstanceLock, settings.eventPurity]

/-- The text of a hash stands between braces. -/
theorem trim_configHash (hashed : configHashOf platform env config = .ok configHash) :
    trim configHash = configHash ∧ configHash ≠ "" := by
  obtain ⟨account, -, written⟩ := Throwing.exists_of_bind hashed
  rw [Throwing.pure_eq_ok_iff] at written
  obtain ⟨body, closed⟩ := separatedBy_eq_append ',' '}' Json.writeMember (Json.present
    (safetyRelevantConfig env config.chains account
      (buildAaveSubgraphFingerprint config.chains config.aaveSubgraphByChain)))
  rw [Json.stringify, closed] at written
  have kept : FlashLoanFees.trim ('{' :: (body ++ ['}'])) = '{' :: (body ++ ['}']) := by
    have opening : FlashLoanFees.isWhitespace '{' = false := by decide
    have closing : FlashLoanFees.isWhitespace '}' = false := by decide
    rw [FlashLoanFees.trim, List.dropWhile_cons_of_neg (by simp [opening]), ← List.cons_append,
      List.rdropWhile_concat_neg _ _ _ (by simp [closing])]
  constructor
  · rw [← written, trim, String.toList_ofList, kept]
  · rintro rfl
    rw [String.ofList_eq_empty_iff] at written
    cases written

theorem checkRuntimeConfig_withReceipt :
    checkRuntimeConfig platform (config.withReceipt configHash validatedAtMs) =
      checkRuntimeConfig platform config := rfl

/-- Whatever has the hash of the dry run is admitted with its receipt, in time. -/
theorem admitted_withReceipt {dry : Env} {dryConfig : RuntimeConfig} {sentMs : ℚ}
    (nowMs laterMs : ℚ)
    (dryHashed : configHashOf platform dry dryConfig = .ok configHash)
    (accepted : parseRuntimeConfig platform env = .ok config)
    (hashed : configHashOf platform env config = .ok configHash)
    (liveMode : config.simulationMode = false)
    (sent : number (trim validatedAtMs) = some sentMs) (notEarly : sentMs ≤ nowMs + 60000)
    (fresh : laterMs ≤ sentMs + DeploymentSafetyGate.dryRunValidationTtlMs) :
    parseRuntimeConfig platform (withReceipt env configHash validatedAtMs) =
        .ok (config.withReceipt configHash validatedAtMs) ∧
      Admitted platform dry dryConfig (config.withReceipt configHash validatedAtMs)
        nowMs laterMs := by
  obtain ⟨settings, passed⟩ := parseRuntimeConfig_eq_ok_iff.mp accepted
  obtain ⟨trimmed, hashFilled⟩ := trim_configHash hashed
  have timeFilled : trim validatedAtMs ≠ "" := by
    intro blank
    rw [blank] at sent
    have unread : number "" = none := by decide +kernel
    rw [unread] at sent
    cases sent
  have chains : config.chains ≠ [] := by
    intro none
    have first := settings.chain
    rw [none] at first
    cases first
  have margin : 75 ≤ config.minProfitMarginBps := by
    have bounded := (parseMinNumber_eq_ok settings.minProfitMarginBps).2
    rw [liveMode] at bounded
    simpa [minProfitMarginFloorBps, minimumProfitMarginBpsLive] using bounded
  have allowed : evaluateRuntimeDeploymentSafety nowMs laterMs
      (config.withReceipt configHash validatedAtMs) = .allowed := by
    rw [evaluateRuntimeDeploymentSafety, DeploymentSafetyGate.evaluate_live_iff _ _ _ _ liveMode]
    exact ⟨chains, rfl, margin, _, rfl,
      DeploymentSafetyGate.vouched_of_success sent notEarly fresh configHash config.chains⟩
  have read := settings_withReceipt settings hashed trimmed hashFilled timeFilled
  exact ⟨parseRuntimeConfig_eq_ok_iff.mpr ⟨read, checkRuntimeConfig_withReceipt.trans passed⟩,
    liveMode, ⟨_, rfl, dryHashed⟩, allowed⟩

end

end RuntimeEnv

end LiquidationBot
