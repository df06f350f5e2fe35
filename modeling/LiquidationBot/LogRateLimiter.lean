import LiquidationBot.Library.InsertionMap
import LiquidationBot.Library.Throttle
import Mathlib.Algebra.Order.Group.Int
import Mathlib.Algebra.Order.Ring.Rat
import Mathlib.Algebra.Order.Ring.Cast
import Mathlib.Data.List.Dedup
import Mathlib.Data.List.Perm.Subperm

/-!
# The limiter of repeated log lines

The limiter keeps a bucket for each key: how often the key was recorded, when
the bucket was opened or last let a line through, and up to five details. A
record that comes an interval after that time is logged with the number of
records suppressed before it. Beyond the configured number of keys the bucket
that was flushed longest ago makes room for a new one. The clock is read once
for each record; summaries on demand are left out.

While there is room for every key, each bucket is a counter over the times of
its own key, and a line starts the counter over from one. What is reported as
suppressed is therefore exact for the first line of a key only.
-/

namespace LiquidationBot

open Prefixes

/-- `LogRateLimiterConfig`. -/
structure LogRateLimiterConfig where
  intervalMs : ℚ
  maxKeys : Option ℚ

structure BucketState where
  count : Nat
  lastFlushMs : Int
  sampleKeys : List String
deriving DecidableEq

/-- What a bucket counts and notes. -/
def BucketState.tally (bucket : BucketState) : Throttle.Tally Int :=
  ⟨bucket.count, bucket.lastFlushMs⟩

structure LogRateLimiter where
  buckets : InsertionMap String BucketState
  intervalMs : ℚ
  maxKeys : ℚ

namespace LogRateLimiter

/-- A new limiter. -/
def new (config : LogRateLimiterConfig) : LogRateLimiter where
  buckets := .empty
  intervalMs := config.intervalMs
  maxKeys := config.maxKeys.getD 64

/-- The first of the buckets that were flushed longest ago. -/
def oldestBucket (entries : List (String × BucketState)) : Option (String × Int) :=
  entries.foldl (fun oldest entry =>
    match oldest with
    | none => some (entry.1, entry.2.lastFlushMs)
    | some (oldestKey, oldestMs) =>
        if entry.2.lastFlushMs < oldestMs then some (entry.1, entry.2.lastFlushMs)
        else some (oldestKey, oldestMs)) none

def evictOldestBucket (limiter : LogRateLimiter) : LogRateLimiter :=
  match oldestBucket limiter.buckets.entries with
  | none => limiter
  | some (oldestKey, _) => { limiter with buckets := limiter.buckets.delete oldestKey }

/-- The bucket of a key, opened if there is none. -/
def openBucket (limiter : LogRateLimiter) (key : String) (now : Int) :
    LogRateLimiter × BucketState :=
  match limiter.buckets.get? key with
  | some bucket => (limiter, bucket)
  | none =>
      let roomy :=
        if (limiter.buckets.size : ℚ) ≥ limiter.maxKeys then evictOldestBucket limiter else limiter
      let bucket : BucketState := ⟨0, now, []⟩
      ({ roomy with buckets := roomy.buckets.set key bucket }, bucket)

/-- Up to five details, each once. -/
def noteDetail (sampleKeys : List String) : Option String → List String
  | none => sampleKeys
  | some detailKey =>
      if sampleKeys.length < 5 ∧ detailKey ∉ sampleKeys then sampleKeys ++ [detailKey]
      else sampleKeys

/-- A call of `record`, at the time it reads. -/
structure LogCall where
  key : String
  detailKey : Option String
  now : Int

structure RecordAnswer where
  shouldLog : Bool
  suppressed : Nat
deriving DecidableEq

def record (limiter : LogRateLimiter) (call : LogCall) : LogRateLimiter × RecordAnswer :=
  let opened := openBucket limiter call.key call.now
  let bucket := opened.2
  let count := bucket.count + 1
  if ((call.now - bucket.lastFlushMs : Int) : ℚ) ≥ limiter.intervalMs then
    ({ opened.1 with
        buckets := opened.1.buckets.set call.key ⟨1, call.now, call.detailKey.toList⟩ },
      ⟨true, count - 1⟩)
  else
    ({ opened.1 with
        buckets := opened.1.buckets.set call.key
          ⟨count, bucket.lastFlushMs, noteDetail bucket.sampleKeys call.detailKey⟩ },
      ⟨false, 0⟩)

/-! ## Runs -/

def note (state : LogRateLimiter × List (LogCall × RecordAnswer)) (call : LogCall) :
    LogRateLimiter × List (LogCall × RecordAnswer) :=
  ((state.1.record call).1, state.2 ++ [(call, (state.1.record call).2)])

/-- The limiter after a run of calls, with the calls and their answers. -/
def traced (config : LogRateLimiterConfig) (calls : List LogCall) :
    LogRateLimiter × List (LogCall × RecordAnswer) :=
  calls.foldl note (new config, [])

/-- The calls of a key: their times, and what was reported as suppressed if a line was logged. -/
def entriesOf (key : String) (history : List (LogCall × RecordAnswer)) : List (Int × Option Nat) :=
  (history.filter (fun entry => entry.1.key = key)).map (fun entry =>
    (entry.1.now, if entry.2.shouldLog then some entry.2.suppressed else none))

def timesOf (key : String) (calls : List LogCall) : List Int :=
  (calls.filter (fun call => call.key = key)).map LogCall.now

def DueAfter (config : LogRateLimiterConfig) (elapsed : Int) : Prop :=
  (elapsed : ℚ) ≥ config.intervalMs

instance (config : LogRateLimiterConfig) : DecidablePred (DueAfter config) :=
  fun elapsed => inferInstanceAs (Decidable ((elapsed : ℚ) ≥ config.intervalMs))

/-- Every line tells how many calls of its key came since the line before it, or since the first
call of the key, and lines of one key are an interval apart. -/
structure CountsExactly (config : LogRateLimiterConfig) (calls : List LogCall) : Prop where
  suppressed : ∀ key, Throttle.Exact (entriesOf key (traced config calls).2)
  spaced : ∀ key, ((entriesOf key (traced config calls).2).filter Throttle.passed).Pairwise
    (fun earlier later => DueAfter config (later.1 - earlier.1))

/-! ## A bucket as a counter -/

variable {config : LogRateLimiterConfig}

theorem dueAfter_mono : ∀ elapsed more : Int, elapsed ≤ more → DueAfter config elapsed →
    DueAfter config more :=
  fun _ _ longer due => le_trans due (Int.cast_le.mpr longer)

theorem entriesOf_snoc (key : String) (history : List (LogCall × RecordAnswer)) (call : LogCall)
    (answer : RecordAnswer) : entriesOf key (history ++ [(call, answer)]) =
      if call.key = key then entriesOf key history ++
        [(call.now, if answer.shouldLog then some answer.suppressed else none)]
      else entriesOf key history := by
  by_cases same : call.key = key <;> simp [entriesOf, List.filter_append, same]

theorem timesOf_snoc (key : String) (calls : List LogCall) (call : LogCall) :
    timesOf key (calls ++ [call]) =
      if call.key = key then timesOf key calls ++ [call.now] else timesOf key calls := by
  by_cases same : call.key = key <;> simp [timesOf, List.filter_append, same]

theorem openBucket_of_room {limiter : LogRateLimiter} {key : String} (now : Int)
    (room : limiter.buckets.get? key = none → (limiter.buckets.size : ℚ) < limiter.maxKeys) :
    (openBucket limiter key now).2 = (limiter.buckets.get? key).getD ⟨0, now, []⟩ ∧
      (openBucket limiter key now).1.maxKeys = limiter.maxKeys ∧
      (openBucket limiter key now).1.intervalMs = limiter.intervalMs ∧
      ∀ other, other ≠ key →
        (openBucket limiter key now).1.buckets.get? other = limiter.buckets.get? other := by
  rw [openBucket]
  cases found : limiter.buckets.get? key with
  | some bucket => exact ⟨rfl, rfl, rfl, fun _ _ => rfl⟩
  | none =>
    dsimp only
    rw [if_neg (not_le.mpr (room found))]
    exact ⟨rfl, rfl, rfl, fun other different => InsertionMap.get?_set_other _ _ different⟩

/-- While there is room, a record advances the counter of its key alone. -/
theorem record_of_room {limiter : LogRateLimiter} (call : LogCall)
    (settings : limiter.intervalMs = config.intervalMs)
    (room : limiter.buckets.get? call.key = none → (limiter.buckets.size : ℚ) < limiter.maxKeys) :
    let tally := ((limiter.buckets.get? call.key).map BucketState.tally).getD ⟨0, call.now⟩
    let advanced := Throttle.advance (DueAfter config) 1 tally call.now
    (limiter.record call).1.intervalMs = limiter.intervalMs ∧
      (limiter.record call).1.maxKeys = limiter.maxKeys ∧
      (∀ key, ((limiter.record call).1.buckets.get? key).map BucketState.tally =
        if key = call.key then some advanced.1
        else (limiter.buckets.get? key).map BucketState.tally) ∧
      (if (limiter.record call).2.shouldLog then some (limiter.record call).2.suppressed
        else none) = advanced.2 := by
  intro tally advanced
  obtain ⟨bucket, sameKeys, sameInterval, others⟩ := openBucket_of_room call.now room
  have same : tally = (openBucket limiter call.key call.now).2.tally := by
    rw [bucket]
    simp only [tally]
    cases limiter.buckets.get? call.key <;> rfl
  have stored (key : String) (updated : BucketState) :
      (((openBucket limiter call.key call.now).1.buckets.set call.key updated).get? key).map
          BucketState.tally =
        if key = call.key then some updated.tally
        else (limiter.buckets.get? key).map BucketState.tally := by
    rw [InsertionMap.get?_set]
    split
    · rfl
    · next different => rw [others key different]
  rw [record]
  by_cases due : DueAfter config (call.now - tally.last)
  · have passes : advanced = (⟨1, call.now⟩, some tally.count) := if_pos due
    rw [DueAfter, same, ← settings] at due
    rw [passes, same]
    dsimp only [BucketState.tally] at due ⊢
    rw [if_pos due]
    exact ⟨sameInterval, sameKeys, fun key => stored key _, rfl⟩
  · have waits : advanced = (⟨tally.count + 1, tally.last⟩, none) := if_neg due
    rw [DueAfter, same, ← settings] at due
    rw [waits, same]
    dsimp only [BucketState.tally] at due ⊢
    rw [if_neg due]
    exact ⟨sameInterval, sameKeys, fun key => stored key _, rfl⟩

/-! ## All buckets -/

/-- Every bucket is the counter of its key, and every answer that counter's. -/
structure Follows (config : LogRateLimiterConfig) (calls : List LogCall)
    (state : LogRateLimiter × List (LogCall × RecordAnswer)) : Prop where
  intervalMs : state.1.intervalMs = config.intervalMs
  maxKeys : state.1.maxKeys = config.maxKeys.getD 64
  tallies : ∀ key, (state.1.buckets.get? key).map BucketState.tally =
    (Throttle.history (DueAfter config) 1 (timesOf key calls)).1
  answers : ∀ key, entriesOf key state.2 =
    Throttle.entries (DueAfter config) 1 (timesOf key calls)

theorem Follows.note {calls : List LogCall}
    {state : LogRateLimiter × List (LogCall × RecordAnswer)} (follows : Follows config calls state)
    (call : LogCall) (room : state.1.buckets.get? call.key = none →
      (state.1.buckets.size : ℚ) < state.1.maxKeys) :
    Follows config (calls ++ [call]) (LogRateLimiter.note state call) := by
  obtain ⟨interval, keys, tallies, answer⟩ := record_of_room call follows.intervalMs room
  refine ⟨interval.trans follows.intervalMs, keys.trans follows.maxKeys, fun key => ?_,
    fun key => ?_⟩
  · rw [LogRateLimiter.note, tallies, timesOf_snoc]
    by_cases same : key = call.key
    · subst same
      rw [if_pos rfl, if_pos rfl, Throttle.history_snoc, follows.tallies]
      rfl
    · rw [if_neg same, if_neg (Ne.symm same), follows.tallies]
  · rw [LogRateLimiter.note, entriesOf_snoc, timesOf_snoc, answer]
    by_cases same : call.key = key
    · subst same
      rw [if_pos rfl, if_pos rfl, Throttle.entries_snoc, follows.answers, follows.tallies]
      rfl
    · rw [if_neg same, if_neg same, follows.answers]

theorem key_mem_of_timesOf {key : String} {calls : List LogCall} (called : timesOf key calls ≠ []) :
    key ∈ calls.map LogCall.key := by
  obtain ⟨now, member⟩ := List.exists_mem_of_ne_nil _ called
  obtain ⟨call, among, _⟩ := List.mem_map.mp member
  obtain ⟨made, same⟩ := List.mem_filter.mp among
  exact List.mem_map.mpr ⟨call, made, of_decide_eq_true same⟩

theorem dedup_length_le {fewer more : List String} (subset : fewer ⊆ more) :
    fewer.dedup.length ≤ more.dedup.length := by
  apply (List.subperm_of_subset (List.nodup_dedup fewer) _).length_le
  intro key member
  exact List.mem_dedup.mpr (subset (List.mem_dedup.mp member))

/-- The buckets belong to keys that were called, so there is room for one more. -/
theorem Follows.room {calls : List LogCall} {state : LogRateLimiter × List (LogCall × RecordAnswer)}
    (follows : Follows config calls state) {call : LogCall}
    (few : (((calls ++ [call]).map LogCall.key).dedup.length : ℚ) ≤ config.maxKeys.getD 64)
    (absent : state.1.buckets.get? call.key = none) :
    (state.1.buckets.size : ℚ) < state.1.maxKeys := by
  have called : ∀ key ∈ state.1.buckets.keys, key ∈ calls.map LogCall.key := by
    intro key member
    apply key_mem_of_timesOf
    intro uncalled
    have tally := follows.tallies key
    rw [uncalled] at tally
    have absent := (InsertionMap.has_eq_false_iff _ _).mpr (Option.map_eq_none_iff.mp tally)
    rw [(InsertionMap.mem_keys_iff _ _).mp member] at absent
    cases absent
  have fresh : call.key ∉ state.1.buckets.keys := by
    rw [InsertionMap.mem_keys_iff, (InsertionMap.has_eq_false_iff _ _).mpr absent]
    exact Bool.false_ne_true
  have distinct : (call.key :: state.1.buckets.keys).Nodup :=
    List.nodup_cons.mpr ⟨fresh, state.1.buckets.distinct⟩
  have among : (call.key :: state.1.buckets.keys) ⊆
      ((calls ++ [call]).map LogCall.key).dedup := by
    intro key member
    rw [List.mem_dedup, List.map_append, List.mem_append]
    rcases List.mem_cons.mp member with rfl | stored
    · exact Or.inr (List.mem_singleton.mpr rfl)
    · exact Or.inl (called key stored)
  have length := (List.subperm_of_subset distinct among).length_le
  rw [List.length_cons, InsertionMap.keys, List.length_map] at length
  rw [follows.maxKeys]
  exact (Nat.cast_lt.mpr (Nat.lt_of_succ_le length)).trans_le few

/-- Induct on the calls from the end. -/
theorem follows_traced {calls : List LogCall}
    (few : ((calls.map LogCall.key).dedup.length : ℚ) ≤ config.maxKeys.getD 64) :
    Follows config calls (traced config calls) := by
  induction calls using List.reverseRecOn with
  | nil => exact ⟨rfl, rfl, fun _ => rfl, fun _ => rfl⟩
  | append_singleton calls call inductionHypothesis =>
    have fewer : ((calls.map LogCall.key).dedup.length : ℚ) ≤ config.maxKeys.getD 64 := by
      refine le_trans (Nat.cast_le.mpr (dedup_length_le ?_)) few
      rw [List.map_append]
      exact List.subset_append_left _ _
    have follows := inductionHypothesis fewer
    rw [traced, List.foldl_append]
    exact follows.note call (follows.room few)

theorem pairwise_timesOf {calls : List LogCall}
    (rising : calls.Pairwise (fun earlier later => earlier.now ≤ later.now)) (key : String) :
    (timesOf key calls).Pairwise (· ≤ ·) :=
  List.pairwise_map.mpr (rising.sublist List.filter_sublist)

/-- With room for every key, the lines count exactly as long as no key comes due again: an
interval after a call that came an interval after another. -/
theorem countsExactly_iff {calls : List LogCall}
    (rising : calls.Pairwise (fun earlier later => earlier.now ≤ later.now))
    (few : ((calls.map LogCall.key).dedup.length : ℚ) ≤ config.maxKeys.getD 64) :
    CountsExactly config calls ↔ ∀ key,
      EachStep (fun past now => ¬ Throttle.DueAgain (DueAfter config) past now)
        (timesOf key calls) := by
  have follows := follows_traced few
  have exactly (key : String) :
      Throttle.Exact (Throttle.entries (DueAfter config) 1 (timesOf key calls)) ↔
        EachStep (fun past now => ¬ Throttle.DueAgain (DueAfter config) past now)
          (timesOf key calls) :=
    Throttle.exact_iff dueAfter_mono Nat.one_ne_zero (pairwise_timesOf rising key)
  constructor
  · intro counts key
    rw [← exactly key, ← follows.answers key]
    exact counts.suppressed key
  · intro never
    refine ⟨fun key => ?_, fun key => ?_⟩
    · rw [follows.answers key]
      exact (exactly key).mpr (never key)
    · rw [follows.answers key]
      exact Throttle.spaced_entries dueAfter_mono (pairwise_timesOf rising key)

/-- Two keys, with room for both. -/
def mixedCalls : List LogCall :=
  [⟨"gap", none, 0⟩, ⟨"stale", some "0xa", 300⟩, ⟨"gap", some "0xb", 700⟩, ⟨"gap", none, 1000⟩]

theorem countsExactly_iff_mixed :
    mixedCalls.Pairwise (fun earlier later => earlier.now ≤ later.now) ∧
      ((mixedCalls.map LogCall.key).dedup.length : ℚ) ≤ 2 ∧
      (CountsExactly ⟨1000, some 2⟩ mixedCalls ↔ ∀ key,
        EachStep (fun past now => ¬ Throttle.DueAgain (DueAfter ⟨1000, some 2⟩) past now)
          (timesOf key mixedCalls)) := by
  have rising : mixedCalls.Pairwise (fun earlier later => earlier.now ≤ later.now) := by decide
  have few : ((mixedCalls.map LogCall.key).dedup.length : ℚ) ≤ 2 := by decide +kernel
  exact ⟨rising, few, countsExactly_iff rising few⟩

/-- Three calls, an interval apart each. -/
def steadyCalls : List LogCall := [⟨"gap", none, 0⟩, ⟨"gap", none, 1000⟩, ⟨"gap", none, 2000⟩]

/-- The second line reports a suppressed call where there was none since the first. -/
theorem logged_call_counted :
    steadyCalls.Pairwise (fun earlier later => earlier.now ≤ later.now) ∧
      ((steadyCalls.map LogCall.key).dedup.length : ℚ) ≤ 64 ∧
      ¬ CountsExactly ⟨1000, none⟩ steadyCalls := by
  refine ⟨by decide, by decide +kernel, fun counts => ?_⟩
  have second : entriesOf "gap" (traced ⟨1000, none⟩ steadyCalls).2 =
      [(0, none), (1000, some 1), (2000, some 1)] := by decide +kernel
  have exact := counts.suppressed "gap" [(0, none), (1000, some 1)] (2000, some 1)
    (by rw [second]; exact List.prefix_rfl) 1 rfl
  cases exact

end LogRateLimiter

end LiquidationBot
