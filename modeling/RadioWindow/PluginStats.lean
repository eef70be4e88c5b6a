import RadioWindow.PluginCalls

/-!
# What the plugin's statistics count

Every counter of the plugin's `stats` is zeroed by `RESET_STATS` and otherwise only moved by
its own recorder. So after any sequence of calls from the plugin as constructed, the counters
`GET_STATS` reports are totals over the calls since the last `RESET_STATS`, each modulo
`2^32`: `total_queued` the `recordQueueStats` calls, `sumQueueTime` their samples,
`total_dropped` and `queue_overflows` the other two recorders; `maxQueueTime` is the largest
sample since then, as a `uint32_t`. No call ever writes `total_delayed`, which stays 0.
`queuedPackets` is what the last call writing it wrote: `updateQueuedCount`, `RESET_STATS`, or
`CLEAR_QUEUE` with a radio present.
-/

namespace RadioWindow

def PluginOp.isReset : PluginOp → Bool
  | .handleCommand _ _ _ .resetStats => true
  | _ => false

def PluginOp.sample : PluginOp → Option Nat
  | .recordQueueStats queueTime => some queueTime
  | _ => none

def PluginOp.queuedWrite (hasRadio : Bool) : PluginOp → Option Nat
  | .updateQueuedCount count => some (word count)
  | .handleCommand _ _ _ .resetStats => some 0
  | .handleCommand _ _ _ .clearQueue => if hasRadio then some 0 else none
  | _ => none

def PluginOp.keep (since : List PluginOp) (op : PluginOp) : List PluginOp :=
  if op.isReset then [] else since ++ [op]

def sinceReset (ops : List PluginOp) : List PluginOp := ops.foldl PluginOp.keep []

/-- The six counters are the totals over the calls `since`, as `uint32_t`. -/
structure StatsCount (since : List PluginOp) (st : PluginStats) : Prop where
  totalQueued : st.totalQueued = word (since.filterMap PluginOp.sample).length
  sumQueueTime :
    st.sumQueueTime = word (((since.filterMap PluginOp.sample).map word).foldl (· + ·) 0)
  maxQueueTime : st.maxQueueTime = ((since.filterMap PluginOp.sample).map word).foldl max 0
  totalDropped : st.totalDropped = word (since.count .recordDroppedPacket)
  queueOverflows : st.queueOverflows = word (since.count .recordQueueOverflow)
  totalDelayed : st.totalDelayed = 0

theorem word_word_add (a b : Nat) : word (word a + b) = word (a + b) := Nat.mod_add_mod a _ b

theorem statsCount_zero : StatsCount [] PluginStats.zero := ⟨rfl, rfl, rfl, rfl, rfl, rfl⟩

namespace TimeWindowPlugin

variable (hasRadio : Bool)

theorem handleCommand_stats (config : Config) (now from_ : Nat) (t : TimeWindowPlugin)
    (cmd : PluginCommand) :
    (handleCommand config hasRadio now t from_ cmd).1.stats =
      if cmd = .resetStats then PluginStats.zero
      else if cmd = .clearQueue ∧ hasRadio = true then { t.stats with queuedPackets := 0 }
      else t.stats := by
  cases cmd <;> cases hasRadio <;> rfl

theorem statsCount_step {since : List PluginOp} (t : TimeWindowPlugin) (op : PluginOp)
    (hc : StatsCount since t.stats) : StatsCount (op.keep since) (step hasRadio t op).stats := by
  obtain ⟨h1, h2, h3, h4, h5, h6⟩ := hc
  cases op with
  | handleCommand config now from_ cmd =>
    rw [step, handleCommand_stats]
    by_cases hr : cmd = .resetStats
    · subst hr
      rw [if_pos rfl]
      exact statsCount_zero
    rw [if_neg hr]
    have hkeep : (PluginOp.handleCommand config now from_ cmd).keep since =
        since ++ [.handleCommand config now from_ cmd] := by
      cases cmd <;> first | exact absurd rfl hr | rfl
    have hc : StatsCount (since ++ [.handleCommand config now from_ cmd]) t.stats := by
      refine ⟨?_, ?_, ?_, ?_, ?_, h6⟩ <;> simp [List.filterMap_append, PluginOp.sample, *]
    rw [hkeep]
    split
    · exact ⟨hc.1, hc.2, hc.3, hc.4, hc.5, hc.6⟩
    · exact hc
  | _ =>
    refine ⟨?_, ?_, ?_, ?_, ?_, h6⟩ <;>
      simp [PluginOp.keep, PluginOp.isReset, step, recordQueueStats, recordDroppedPacket,
        recordQueueOverflow, updateQueuedCount, PluginOp.sample, List.filterMap_append,
        h1, h2, h3, h4, h5, word_word_add]

theorem statsCount_run :
    ∀ (ops : List PluginOp) (t : TimeWindowPlugin) (since : List PluginOp),
      StatsCount since t.stats →
        StatsCount (ops.foldl PluginOp.keep since) (run hasRadio t ops).stats
  | [], _, _, hc => hc
  | op :: ops, t, _, hc => statsCount_run ops _ _ (statsCount_step hasRadio t op hc)

theorem queuedPackets_step (t : TimeWindowPlugin) (op : PluginOp) :
    (step hasRadio t op).stats.queuedPackets =
      (op.queuedWrite hasRadio).getD t.stats.queuedPackets := by
  cases op with
  | handleCommand config now from_ cmd => cases cmd <;> cases hasRadio <;> rfl
  | _ => rfl

/-- From the plugin as constructed, after any sequence of calls: each counter `GET_STATS`
reports is its total over the calls since the last `RESET_STATS`, modulo `2^32`, the maximum
is the largest sample since then, `total_delayed` is 0, and `queuedPackets` is what the last
call writing it wrote. -/
theorem stats_count_since_reset (ops : List PluginOp) :
    let st := (run hasRadio initial ops).stats
    let samples := (sinceReset ops).filterMap PluginOp.sample
    st.totalQueued = word samples.length ∧
    st.sumQueueTime = word ((samples.map word).foldl (· + ·) 0) ∧
    st.maxQueueTime = (samples.map word).foldl max 0 ∧
    st.totalDropped = word ((sinceReset ops).count .recordDroppedPacket) ∧
    st.queueOverflows = word ((sinceReset ops).count .recordQueueOverflow) ∧
    st.totalDelayed = 0 ∧
    st.queuedPackets = (lastWrite (PluginOp.queuedWrite hasRadio) ops).getD 0 := by
  have hc := statsCount_run hasRadio ops initial [] statsCount_zero
  exact ⟨hc.1, hc.2, hc.3, hc.4, hc.5, hc.6,
    run_lastWrite hasRadio (fun t => t.stats.queuedPackets) _ (queuedPackets_step hasRadio)
      initial ops⟩

end TimeWindowPlugin

end RadioWindow
