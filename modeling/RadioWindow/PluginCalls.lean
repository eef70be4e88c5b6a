import RadioWindow.TimeWindowPlugin

/-!
# What a sequence of calls leaves in the plugin

`getCurrentWindowState` reads `isWindowActive`, which no call of the plugin writes, and the two
override flags, which only `FORCE_OPEN` and `FORCE_CLOSE` write. Nothing reads `overrideExpiry`
or the time. So after any sequence of calls the window state is the clock verdict and-ed with
the value the last force command forced: `FORCE_OPEN` cannot open a window the clock has
closed, and `FORCE_CLOSE` keeps it closed past its expiry. `sendStats` divides the queue time
by `queuedPackets`, the count `updateQueuedCount` last stored, and not by the number of samples
`recordQueueStats` has recorded.
-/

namespace RadioWindow

/-- What the last call of `ops` that writes a field writes there, where `w op` is what `op`
writes, if anything. -/
def lastWrite {α : Type} (w : PluginOp → Option α) : List PluginOp → Option α
  | [] => none
  | op :: ops => (lastWrite w ops).or (w op)

/-- The value a force command gives the override gate `!temporaryOverride || overrideActive`. -/
def PluginOp.forcedValue : PluginOp → Option Bool
  | .handleCommand _ _ _ (.forceOpen _) => some true
  | .handleCommand _ _ _ (.forceClose _) => some false
  | _ => none

namespace TimeWindowPlugin

variable (hasRadio : Bool)

theorem run_cons (t : TimeWindowPlugin) (op : PluginOp) (ops : List PluginOp) :
    run hasRadio t (op :: ops) = run hasRadio (step hasRadio t op) ops := rfl

theorem step_window (t : TimeWindowPlugin) (op : PluginOp) :
    (step hasRadio t op).isWindowActive = t.isWindowActive ∧
    (!(step hasRadio t op).temporaryOverride || (step hasRadio t op).overrideActive) =
      op.forcedValue.getD (!t.temporaryOverride || t.overrideActive) := by
  cases op with
  | handleCommand config now from_ cmd => cases cmd <;> cases hasRadio <;> exact ⟨rfl, rfl⟩
  | _ => exact ⟨rfl, rfl⟩

theorem run_isWindowActive (t : TimeWindowPlugin) (ops : List PluginOp) :
    (run hasRadio t ops).isWindowActive = t.isWindowActive := by
  induction ops generalizing t with
  | nil => rfl
  | cons op ops ih => exact (ih _).trans (step_window hasRadio t op).1

theorem run_lastWrite {α : Type} (f : TimeWindowPlugin → α) (w : PluginOp → Option α)
    (hstep : ∀ t op, f (step hasRadio t op) = (w op).getD (f t)) (t : TimeWindowPlugin)
    (ops : List PluginOp) : f (run hasRadio t ops) = (lastWrite w ops).getD (f t) := by
  induction ops generalizing t with
  | nil => rfl
  | cons op ops ih =>
    rw [run_cons, ih, hstep, lastWrite]
    cases lastWrite w ops <;> rfl

/-- After any sequence of calls, the window state is the clock verdict and-ed with the value the
last force command forced, whatever its duration and whenever the state is read; with no force
command it is what it was. -/
theorem getCurrentWindowState_run (t : TimeWindowPlugin) (ops : List PluginOp) :
    (run hasRadio t ops).getCurrentWindowState =
      (t.isWindowActive &&
        (lastWrite PluginOp.forcedValue ops).getD (!t.temporaryOverride || t.overrideActive)) := by
  have hgate := run_lastWrite hasRadio (fun t => !t.temporaryOverride || t.overrideActive)
    PluginOp.forcedValue (fun t op => (step_window hasRadio t op).2) t ops
  rw [getCurrentWindowState, run_isWindowActive, hgate]

end TimeWindowPlugin

/-- With the clock saying closed, `FORCE_OPEN` for 60 s leaves the window closed while the
override is unexpired; with the clock saying open, `FORCE_CLOSE` for 1 s still holds it closed
2 s on; and a duration of 4294968 s stamps an expiry of 704 ms. -/
theorem force_commands_ignore_clock_and_expiry :
    0 < word (0 + word (60 * 1000)) ∧
    (TimeWindowPlugin.run true { TimeWindowPlugin.initial with isWindowActive := false }
      [.handleCommand Config.night 0 1 (.forceOpen 60)]).getCurrentWindowState = false ∧
    TimeWindowPlugin.initial.isWindowActive = true ∧
    word (0 + word (1 * 1000)) ≤ 2000 ∧
    (TimeWindowPlugin.run true TimeWindowPlugin.initial
      [.handleCommand Config.night 0 1 (.forceClose 1),
        .handleCommand Config.night 2000 1 .getStatus]).getCurrentWindowState = false ∧
    (TimeWindowPlugin.run true TimeWindowPlugin.initial
      [.handleCommand Config.night 0 1 (.forceOpen 4294968)]).overrideExpiry = 704 := by
  decide

/-- Two samples of 10 ms each and a stored count of 1: `GET_STATS` reports two packets queued, a
maximum of 10 ms and an average of 20 ms, where the samples sum to 20 ms. -/
theorem reported_average_exceeds_maximum :
    (TimeWindowPlugin.run true TimeWindowPlugin.initial
      [.recordQueueStats 10, .recordQueueStats 10, .updateQueuedCount 1]).stats.sumQueueTime = 20 ∧
    (TimeWindowPlugin.handleCommand Config.night true 0
      (TimeWindowPlugin.run true TimeWindowPlugin.initial
        [.recordQueueStats 10, .recordQueueStats 10, .updateQueuedCount 1]) 1 .getStats).2 =
      [.stats 1 ⟨2, 0, 0, 20, 10, 0⟩] ∧
    20 / 2 ≠ 20 ∧ 10 < 20 := by
  decide

end RadioWindow
