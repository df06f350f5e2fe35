import LiquidationBot.Addresses
import LiquidationBot.NonceManager
import LiquidationBot.Library.AsyncRuns
import LiquidationBot.Library.InsertionMap
import Mathlib.Algebra.Order.Field.Rat
import Mathlib.Order.Iterate
import Mathlib.Tactic.Linarith
import Mathlib.Tactic.LinearCombination
import Mathlib.Tactic.NormNum
import Mathlib.Tactic.Positivity
import Mathlib.Tactic.Ring

/-!
# Quotes from the mirrored pools

The mirror keeps the latest square-root price of every pool and quotes a swap
from it in either direction. The square of the price is cut before it is used:
as a factor that makes quotes smaller, as a divisor larger. The quote engine asks
the mirror first and a remote quoter otherwise. It always asks the mirror for one
and the same direction, so the way back is quoted like the way there.
-/

namespace LiquidationBot

/-- `PoolMirrorState`, without the liquidity and the tick, which no quote reads. -/
structure PoolMirrorState where
  pool : Address
  sqrtPriceX96 : Int
  updatedAtMs : Int
deriving DecidableEq

/-- `AmmMirror`. -/
structure AmmMirror where
  pools : InsertionMap Address PoolMirrorState
  eventsReceived : Nat
  lastSwapTimestamp : Option Int

namespace AmmMirror

def empty : AmmMirror := ⟨.empty, 0, none⟩

def upsert (mirror : AmmMirror) (state : PoolMirrorState) : AmmMirror where
  pools := mirror.pools.set state.pool.toLowerCase state
  eventsReceived := mirror.eventsReceived + 1
  lastSwapTimestamp := some state.updatedAtMs

def get (mirror : AmmMirror) (pool : Address) : Option PoolMirrorState :=
  mirror.pools.get? pool.toLowerCase

def size (mirror : AmmMirror) : Nat := mirror.pools.size

def isWarm (mirror : AmmMirror) : Bool := decide (0 < mirror.pools.size)

def q96 : Int := 2 ^ 96

/-- The price of a pool's first token in its second, times `q96`. -/
def ratio (state : PoolMirrorState) : Int := (state.sqrtPriceX96 * state.sqrtPriceX96).tdiv q96

/-- The amount out of a swap in one of the two directions. -/
def amountOut (state : PoolMirrorState) (amountIn : Int) (zeroForOne : Bool) : Int :=
  if zeroForOne then (amountIn * ratio state).tdiv q96
  else (amountIn * q96).tdiv (if ratio state = 0 then 1 else ratio state)

def quoteExactInputSingle (mirror : AmmMirror) (pool : Address) (amountIn : Int)
    (zeroForOne : Bool) : Option Int :=
  match mirror.get pool with
  | none => none
  | some state =>
      if amountIn ≤ 0 then none
      else if state.sqrtPriceX96 = 0 then none
      else
        let out := amountOut state amountIn zeroForOne
        if 0 < out then some out else none

/-- A quote is a positive amount for a positive amount, out of a mirrored pool. -/
theorem quoteExactInputSingle_eq_some_iff {mirror : AmmMirror} {pool : Address}
    {amountIn out : Int} {zeroForOne : Bool} :
    mirror.quoteExactInputSingle pool amountIn zeroForOne = some out ↔
      ∃ state, mirror.get pool = some state ∧ 0 < amountIn ∧ state.sqrtPriceX96 ≠ 0 ∧
        amountOut state amountIn zeroForOne = out ∧ 0 < out := by
  unfold quoteExactInputSingle
  cases mirror.get pool with
  | none => simp
  | some state =>
    by_cases empty : amountIn ≤ 0
    · simp [empty]
    · by_cases unpriced : state.sqrtPriceX96 = 0
      · simp [unpriced]
      · by_cases positive : 0 < amountOut state amountIn zeroForOne
        · simp only [empty, unpriced, positive, if_true, if_false, Option.some.injEq]
          constructor
          · rintro rfl
            exact ⟨state, rfl, not_le.mp empty, unpriced, rfl, positive⟩
          · rintro ⟨_, rfl, _, _, same, _⟩
            exact same
        · simp only [empty, unpriced, positive, if_false]
          constructor
          · intro impossible
            cases impossible
          · rintro ⟨_, same, _, _, rfl, some⟩
            cases same
            exact absurd some positive

theorem q96_pos : 0 < q96 := by decide

theorem ratio_nonneg (state : PoolMirrorState) : 0 ≤ ratio state :=
  Int.tdiv_nonneg (mul_self_nonneg _) q96_pos.le

theorem amountOut_true {state : PoolMirrorState} {amountIn : Int} (nonneg : 0 ≤ amountIn) :
    amountOut state amountIn true = amountIn * ratio state / q96 :=
  Int.tdiv_eq_ediv_of_nonneg (mul_nonneg nonneg (ratio_nonneg state))

theorem amountOut_false {state : PoolMirrorState} {amountIn : Int} (nonneg : 0 ≤ amountIn) :
    amountOut state amountIn false =
      amountIn * q96 / (if ratio state = 0 then 1 else ratio state) :=
  Int.tdiv_eq_ediv_of_nonneg (mul_nonneg nonneg q96_pos.le)

/-- There and back in opposite directions never gains, whatever the price is. -/
theorem opposite_directions_le {mirror : AmmMirror} {pool : Address} {amountIn out back : Int}
    {zeroForOne : Bool}
    (quoted : mirror.quoteExactInputSingle pool amountIn zeroForOne = some out)
    (returned : mirror.quoteExactInputSingle pool out (!zeroForOne) = some back) :
    back ≤ amountIn := by
  obtain ⟨state, mirrored, filled, _, rfl, received⟩ := quoteExactInputSingle_eq_some_iff.mp quoted
  obtain ⟨other, same, _, _, rfl, some⟩ := quoteExactInputSingle_eq_some_iff.mp returned
  cases mirrored.symm.trans same
  cases zeroForOne with
  | true =>
    -- an amount above zero came out, so the ratio is above zero
    rw [amountOut_true filled.le] at received some ⊢
    have kept := Int.ediv_mul_le (amountIn * ratio state) q96_pos.ne'
    have positive : 0 < ratio state := by
      refine (ratio_nonneg state).lt_of_ne' ?_
      intro zero
      rw [zero, mul_zero, Int.zero_ediv] at received
      exact absurd received (lt_irrefl 0)
    rw [Bool.not_true, amountOut_false received.le, if_neg positive.ne']
    exact Int.ediv_le_of_le_mul positive kept
  | false =>
    rw [amountOut_false filled.le] at received some ⊢
    rw [Bool.not_false, amountOut_true received.le] at some ⊢
    by_cases zero : ratio state = 0
    · rw [zero, mul_zero, Int.zero_ediv] at some
      exact absurd some (lt_irrefl 0)
    · rw [if_neg zero] at received some ⊢
      exact Int.ediv_le_of_le_mul q96_pos (Int.ediv_mul_le (amountIn * q96) zero)

/-- There and back in the same direction gains exactly when one way gains. -/
theorem same_direction_le_iff {state : PoolMirrorState} {amountIn : Int} (filled : 0 < amountIn)
    (received : 0 < amountOut state amountIn true) :
    amountOut state (amountOut state amountIn true) true ≤ amountIn ↔
      amountIn * ratio state < (amountIn + 1) * q96 := by
  have convert : Monotone (fun amount : Int => amount * ratio state / q96) := by
    intro less more order
    exact Int.ediv_le_ediv q96_pos (mul_le_mul_of_nonneg_right order (ratio_nonneg state))
  have twice : amountIn * ratio state / q96 * ratio state / q96 ≤ amountIn ↔
      amountIn * ratio state / q96 ≤ amountIn :=
    (Function.Commute.id_right).iterate_pos_le_iff_map_le convert strictMono_id (n := 2) two_pos
  rw [amountOut_true received.le, amountOut_true filled.le, twice, ← Int.lt_add_one_iff,
    Int.ediv_lt_iff_lt_mul q96_pos]

/-! ### What the cuts do to a quote -/

/-- What the price exchanges an amount for, before anything is cut. -/
def exactOut (state : PoolMirrorState) (amountIn : Int) (zeroForOne : Bool) : ℚ :=
  let price : ℚ := state.sqrtPriceX96
  if zeroForOne then amountIn * price ^ 2 / 2 ^ 192 else amountIn * 2 ^ 192 / price ^ 2

theorem ratio_eq (state : PoolMirrorState) :
    ratio state = state.sqrtPriceX96 * state.sqrtPriceX96 / q96 :=
  Int.tdiv_eq_ediv_of_nonneg (mul_self_nonneg _)

/-- Used as a factor, the price is cut and then the product: both against the
trader. -/
theorem amountOut_true_le {state : PoolMirrorState} {amountIn : Int} (filled : 0 < amountIn) :
    (amountOut state amountIn true : ℚ) ≤ exactOut state amountIn true := by
  have outer : amountOut state amountIn true * q96 ≤ amountIn * ratio state := by
    rw [amountOut_true filled.le]
    exact Int.ediv_mul_le _ q96_pos.ne'
  have inner : ratio state * q96 ≤ state.sqrtPriceX96 * state.sqrtPriceX96 := by
    rw [ratio_eq]
    exact Int.ediv_mul_le _ q96_pos.ne'
  have whole : amountOut state amountIn true * 2 ^ 192 ≤ amountIn * state.sqrtPriceX96 ^ 2 := by
    calc amountOut state amountIn true * 2 ^ 192
        = amountOut state amountIn true * q96 * q96 := by rw [q96]; ring
      _ ≤ amountIn * ratio state * q96 := mul_le_mul_of_nonneg_right outer q96_pos.le
      _ = amountIn * (ratio state * q96) := mul_assoc _ _ _
      _ ≤ amountIn * (state.sqrtPriceX96 * state.sqrtPriceX96) :=
          mul_le_mul_of_nonneg_left inner filled.le
      _ = amountIn * state.sqrtPriceX96 ^ 2 := by ring
  unfold exactOut
  rw [if_pos rfl, le_div_iff₀ (by norm_num)]
  exact_mod_cast whole

theorem amountOut_false_le_iff {state : PoolMirrorState} (priced : 0 < state.sqrtPriceX96)
    (amountIn : Int) :
    (amountOut state amountIn false : ℚ) ≤ exactOut state amountIn false ↔
      amountOut state amountIn false * (state.sqrtPriceX96 * state.sqrtPriceX96) ≤
        amountIn * q96 * q96 := by
  have scale : amountIn * q96 * q96 = amountIn * 2 ^ 192 := by
    rw [q96]
    ring
  have positive : (0 : ℚ) < (state.sqrtPriceX96 : ℚ) ^ 2 := by positivity
  unfold exactOut
  rw [if_neg Bool.false_ne_true, le_div_iff₀ positive, scale, ← sq]
  exact_mod_cast Iff.rfl

/-- The quotient of a cut divisor is not above the exact one exactly where the
outer division drops at least what the inner one has added. -/
theorem cut_divisor_le_iff {scaled square unit : Int} (positive : 0 < square / unit) :
    scaled / (square / unit) * square ≤ scaled * unit ↔
      scaled * (square % unit) ≤ scaled % (square / unit) * square := by
  have outer : square / unit * (scaled / (square / unit)) + scaled % (square / unit) = scaled :=
    Int.mul_ediv_add_emod _ _
  have inner : unit * (square / unit) + square % unit = square := Int.mul_ediv_add_emod _ _
  -- the two differences are the same up to the divisor
  have same : square / unit * (scaled * unit - scaled / (square / unit) * square) =
      scaled % (square / unit) * square - scaled * (square % unit) := by
    linear_combination -square * outer + scaled * inner
  rw [← sub_nonneg, ← mul_nonneg_iff_of_pos_left positive, same, sub_nonneg]

/-- A quote in one direction only, or a price below one unit, or what the outer
division drops covers what cutting the divisor has added. -/
def Covered (state : PoolMirrorState) (amountIn : Int) (zeroForOne : Bool) : Prop :=
  let square := state.sqrtPriceX96 * state.sqrtPriceX96
  zeroForOne = true ∨ square < q96 ∨
    amountIn * q96 * (square % q96) ≤ amountIn * q96 % (square / q96) * square

theorem amountOut_false_le_iff_covered {state : PoolMirrorState}
    (priced : 0 < state.sqrtPriceX96) {amountIn : Int} (filled : 0 < amountIn) :
    (amountOut state amountIn false : ℚ) ≤ exactOut state amountIn false ↔
      Covered state amountIn false := by
  have square : 0 < state.sqrtPriceX96 * state.sqrtPriceX96 := mul_pos priced priced
  have scaled : 0 ≤ amountIn * q96 := mul_nonneg filled.le q96_pos.le
  rw [amountOut_false_le_iff priced, amountOut_false filled.le, ratio_eq]
  unfold Covered
  by_cases small : state.sqrtPriceX96 * state.sqrtPriceX96 < q96
  · rw [Int.ediv_eq_zero_of_lt square.le small, if_pos rfl, Int.ediv_one]
    simp only [small, true_or, or_true, iff_true]
    exact mul_le_mul_of_nonneg_left small.le scaled
  · have positive : 0 < state.sqrtPriceX96 * state.sqrtPriceX96 / q96 := by
      apply Int.le_ediv_of_mul_le q96_pos
      rw [zero_add, one_mul]
      exact not_lt.mp small
    rw [if_neg positive.ne', cut_divisor_le_iff positive]
    simp only [Bool.false_eq_true, small, false_or]

end AmmMirror

/-! ## The engine -/

/-- `DexConfig`, by what a quote reads of it. -/
structure DexConfig where
  name : String
  router : Address
  quoterV2 : Option Address
  quoterPoolFee : Option Nat
deriving DecidableEq

/-- `QuoteEngineConfig`; the head of the chain is a call. -/
structure QuoteEngineConfig where
  useLocalMirror : Bool
  hasChainHead : Bool
  startBlock : Option Int

/-- What a quote asks for outside the mirror. The resolved start block is a field
of the engine. -/
inductive QuoteOp where
  | chainHead
  | resolvedStartBlock
  | resolveStartBlock (head : Int)
  | quoterV2 (quoter tokenIn tokenOut : Address) (amountIn : Int) (fee : Nat)
  | getAmountsOut (router : Address) (amountIn : Int) (path : List Address)
deriving DecidableEq

@[reducible] def QuoteOp.Answer : QuoteOp → Type
  | .chainHead => Except Thrown Int
  | .resolvedStartBlock => Option Int
  | .resolveStartBlock _ => Unit
  | .quoterV2 .. => Except Thrown Int
  | .getAmountsOut .. => Except Thrown (List Int)

abbrev QuoteM := Async QuoteOp QuoteOp.Answer Thrown

namespace QuoteEngine

/-- `MIRROR_COLD_RPC_FALLBACK_BLOCKS`. -/
def MIRROR_COLD_RPC_FALLBACK_BLOCKS : Int := 300

def chainHead : QuoteM Int := .call .chainHead Async.orThrow

/-- `blocksSinceStart`. -/
def blocksSinceStart (config : QuoteEngineConfig) : QuoteM Int :=
  if config.hasChainHead then do
    let head ← chainHead
    let resolved ← Async.perform .resolvedStartBlock
    let start := (config.startBlock.or resolved).getD head
    if config.startBlock = none ∧ resolved = none then
      Async.perform (QuoteOp.resolveStartBlock head)
    pure (if start < head then head - start else 0)
  else pure MIRROR_COLD_RPC_FALLBACK_BLOCKS

/-- `shouldForceRpcFallback`; an empty mirror forces it on both branches. -/
def shouldForceRpcFallback (config : QuoteEngineConfig) (mirrorStateSize : Nat) : QuoteM Bool :=
  if !config.useLocalMirror then pure true
  else if 0 < mirrorStateSize then pure false
  else do
    let blocks ← blocksSinceStart config
    if blocks < MIRROR_COLD_RPC_FALLBACK_BLOCKS then pure true else pure true

/-- `quoteViaRpc`. -/
def quoteViaRpc (dex : DexConfig) (tokenIn tokenOut : Address) (amountIn : Int) : QuoteM Int :=
  match dex.quoterV2 with
  | some quoter =>
      .call (.quoterV2 quoter tokenIn tokenOut amountIn (dex.quoterPoolFee.getD 3000)) Async.orThrow
  | none =>
      .call (.getAmountsOut dex.router amountIn [tokenIn, tokenOut]) (fun answer => do
        let amounts ← Async.orThrow answer
        match amounts[1]? with
        | none => .throw ⟨false⟩
        | some out => pure out)

/-- `quoteAmountOut`. -/
def quoteAmountOut (config : QuoteEngineConfig) (mirror : AmmMirror) (dex : DexConfig)
    (tokenIn tokenOut : Address) (amountIn : Int) : QuoteM Int := do
  let forceRpcFallback ← shouldForceRpcFallback config mirror.size
  if config.useLocalMirror && !forceRpcFallback && mirror.isWarm then
    match mirror.quoteExactInputSingle dex.router amountIn true with
    | some mirrored => pure mirrored
    | none => quoteViaRpc dex tokenIn tokenOut amountIn
  else quoteViaRpc dex tokenIn tokenOut amountIn

/-- The call returns from the mirror: it asks for nothing outside. -/
def AnsweredLocally (config : QuoteEngineConfig) (mirror : AmmMirror) (dex : DexConfig)
    (tokenIn tokenOut : Address) (amountIn out : Int) : Prop :=
  Async.Runs (quoteAmountOut config mirror dex tokenIn tokenOut amountIn) [] (.ok out)

section Local

variable {config : QuoteEngineConfig} {mirror : AmmMirror} {dex : DexConfig}
  {tokenIn tokenOut : Address} {amountIn out : Int}

/-- The remote quoter is always called. -/
theorem not_runs_quoteViaRpc {result : Except Thrown Int} :
    ¬ Async.Runs (quoteViaRpc dex tokenIn tokenOut amountIn) [] result := by
  unfold quoteViaRpc
  cases dex.quoterV2 with
  | some quoter =>
    intro run
    obtain ⟨_, _, impossible, _⟩ := Async.runs_call.mp run
    cases impossible
  | none =>
    intro run
    obtain ⟨_, _, impossible, _⟩ := Async.runs_call.mp run
    cases impossible

/-- An answer from the mirror is its quote for the router's entry in the one
direction that is ever asked for. -/
theorem answeredLocally_iff :
    AnsweredLocally config mirror dex tokenIn tokenOut amountIn out ↔
      config.useLocalMirror = true ∧
        mirror.quoteExactInputSingle dex.router amountIn true = some out := by
  constructor
  · intro run
    obtain ⟨forced, earlier, later, whole, _, run⟩ := Async.runs_bind_ok.mp run
    obtain ⟨rfl, rfl⟩ := List.append_eq_nil_iff.mp whole.symm
    split at run
    next asked =>
      obtain ⟨⟨used, _⟩, _⟩ := by simpa only [Bool.and_eq_true] using asked
      split at run
      next mirrored found =>
        cases (Async.runs_pure.mp run).2
        exact ⟨used, found⟩
      next => exact absurd run not_runs_quoteViaRpc
    next => exact absurd run not_runs_quoteViaRpc
  · rintro ⟨used, quoted⟩
    obtain ⟨state, mirrored, _⟩ := AmmMirror.quoteExactInputSingle_eq_some_iff.mp quoted
    have warm : 0 < mirror.size := by
      refine Nat.pos_of_ne_zero ?_
      intro cold
      have absent : mirror.pools.entries = [] := List.length_eq_zero_iff.mp cold
      rw [AmmMirror.get, InsertionMap.get?, absent] at mirrored
      cases mirrored
    have unforced : shouldForceRpcFallback config mirror.size = .pure false := by
      simp [shouldForceRpcFallback, used, warm]
    have isWarm : mirror.isWarm = true := decide_eq_true warm
    have answered : quoteAmountOut config mirror dex tokenIn tokenOut amountIn = .pure out := by
      simp [quoteAmountOut, unforced, used, isWarm, quoted]
    rw [AnsweredLocally, answered]
    exact .pure out

end Local

/-- Both legs of a round trip answered from the mirror return at most what went
in exactly when the pool's ratio lets one leg of that amount gain nothing. -/
theorem round_trip_le_iff (config : QuoteEngineConfig) (mirror : AmmMirror) (dex : DexConfig)
    (tokenIn tokenOut : Address) (amountIn received returned : Int) (state : PoolMirrorState)
    (mirrored : mirror.get dex.router = some state)
    (there : AnsweredLocally config mirror dex tokenIn tokenOut amountIn received)
    (back : AnsweredLocally config mirror dex tokenOut tokenIn received returned) :
    returned ≤ amountIn ↔ amountIn * AmmMirror.ratio state < (amountIn + 1) * AmmMirror.q96 := by
  obtain ⟨first, found, filled, _, rfl, some⟩ :=
    AmmMirror.quoteExactInputSingle_eq_some_iff.mp (answeredLocally_iff.mp there).2
  cases mirrored.symm.trans found
  obtain ⟨second, again, _, _, rfl, _⟩ :=
    AmmMirror.quoteExactInputSingle_eq_some_iff.mp (answeredLocally_iff.mp back).2
  cases mirrored.symm.trans again
  exact AmmMirror.same_direction_le_iff filled some

def poolAt (sqrtPriceX96 : Int) : AmmMirror :=
  AmmMirror.empty.upsert ⟨ZERO_ADDRESS, sqrtPriceX96, 0⟩

def mirroredDex : DexConfig := ⟨"UniswapV3", ZERO_ADDRESS, none, none⟩

def localEngine : QuoteEngineConfig := ⟨true, false, none⟩

/-- At a price of one fourth, sixteen units come back as one. -/
theorem round_trip_le_iff_quarter :
    (1 : Int) ≤ 16 ↔ 16 * AmmMirror.ratio ⟨ZERO_ADDRESS, 2 ^ 95, 0⟩ < (16 + 1) * AmmMirror.q96 :=
  round_trip_le_iff localEngine (poolAt (2 ^ 95)) mirroredDex BASE_USDC BASE_USDBC 16 4 1
    ⟨ZERO_ADDRESS, 2 ^ 95, 0⟩ (by decide) (answeredLocally_iff.mpr ⟨rfl, by decide⟩)
    (answeredLocally_iff.mpr ⟨rfl, by decide⟩)

/-- At a price of four, one unit comes back as sixteen. -/
theorem round_trip_gains :
    ¬ ∀ (config : QuoteEngineConfig) (mirror : AmmMirror) (dex : DexConfig)
      (tokenIn tokenOut : Address) (amountIn received returned : Int), 0 < amountIn →
      AnsweredLocally config mirror dex tokenIn tokenOut amountIn received →
      AnsweredLocally config mirror dex tokenOut tokenIn received returned →
      returned ≤ amountIn := by
  intro claim
  have gained := claim localEngine (poolAt (2 * 2 ^ 96)) mirroredDex BASE_USDC BASE_USDBC 1 4 16
    (by decide) (answeredLocally_iff.mpr ⟨rfl, by decide⟩) (answeredLocally_iff.mpr ⟨rfl, by decide⟩)
  exact absurd gained (by decide)

end QuoteEngine

end LiquidationBot
