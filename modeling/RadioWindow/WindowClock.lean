import RadioWindow.Basic

/-!
# The window clock

Two functions decide from the millisecond clock whether the daily window is open:
`isTimeWindowActive` of TimeWindow.cpp over a `TimeWindowConfig`, and
`RadioInterface::isOperationAllowed` of RadioInterfaceTime.cpp over `config.lora`. They split
the clock into hours and minutes differently but meet in the same minute of the day, and both
test it against the window with the same two-branch comparison. On valid bounds that test is
membership in the circular half-open interval from the start minute to the end minute.
-/

namespace RadioWindow

structure TimeWindowConfig where
  enabled : Bool
  startHour : Nat
  startMinute : Nat
  endHour : Nat
  endMinute : Nat
  packetExpirySecs : Nat
deriving DecidableEq, Repr

/-- The comparison both window functions make: same-day when `start ≤ stop`, wrapping past
midnight otherwise. -/
def windowContains (current start stop : Nat) : Bool :=
  if start ≤ stop then start ≤ current && current < stop
  else start ≤ current || current < stop

def isTimeInWindow (cfg : TimeWindowConfig) (hour minute : Nat) : Bool :=
  windowContains (hour * 60 + minute) (cfg.startHour * 60 + cfg.startMinute)
    (cfg.endHour * 60 + cfg.endMinute)

def isTimeWindowActive (cfg : TimeWindowConfig) (currentMillis : Nat) : Bool :=
  if !cfg.enabled then true
  else
    let currentSeconds := currentMillis / 1000
    isTimeInWindow cfg (currentSeconds / 3600 % 24) (currentSeconds / 60 % 60)

/-- `RadioInterface::isOperationAllowed` of RadioInterfaceTime.cpp, on the value `millis()`
returned. -/
def isOperationAllowed (config : Config) (ms : Nat) : Bool :=
  if !config.hasLora || !config.lora.timeWindowEnabled then true
  else
    let now := ms / 1000
    let daySeconds := now % (24 * 3600)
    let currentHour := daySeconds / 3600
    let currentMinute := daySeconds % 3600 / 60
    windowContains (currentHour * 60 + currentMinute)
      (config.lora.windowStartHour * 60 + config.lora.windowStartMinute)
      (config.lora.windowEndHour * 60 + config.lora.windowEndMinute)

def TimeWindowConfig.ofConfig (config : Config) : TimeWindowConfig where
  enabled := config.windowEnabled
  startHour := config.lora.windowStartHour
  startMinute := config.lora.windowStartMinute
  endHour := config.lora.windowEndHour
  endMinute := config.lora.windowEndMinute
  packetExpirySecs := config.lora.windowPacketExpireSecs

/-- Minute of the day: `(c - start) mod 1440 < (stop - start) mod 1440`. -/
def InCircularWindow (c start stop : Nat) : Prop :=
  ((c : Int) - start) % 1440 < ((stop : Int) - start) % 1440

instance (c start stop : Nat) : Decidable (InCircularWindow c start stop) :=
  inferInstanceAs (Decidable (_ < _))

def minuteOfDay (t : Nat) : Nat := t / 60000 % 1440

theorem hours_minutes_eq_minuteOfDay (t : Nat) :
    t / 1000 / 3600 % 24 * 60 + t / 1000 / 60 % 60 = minuteOfDay t := by
  have hm : t / 1000 / 60 = t / 60000 := by rw [Nat.div_div_eq_div_mul]
  have hh : t / 1000 / 3600 = t / 60000 / 60 := by
    rw [Nat.div_div_eq_div_mul, Nat.div_div_eq_div_mul]
  rw [hm, hh, minuteOfDay]
  omega

theorem daySeconds_eq_minuteOfDay (t : Nat) :
    t / 1000 % 86400 / 3600 * 60 + t / 1000 % 86400 % 3600 / 60 = minuteOfDay t := by
  have hm : t / 60000 = t / 1000 / 60 := by rw [Nat.div_div_eq_div_mul]
  rw [minuteOfDay, hm]
  omega

theorem windowContains_iff {c start stop : Nat} (hc : c < 1440) (hs : start < 1440)
    (he : stop < 1440) : windowContains c start stop = true ↔ InCircularWindow c start stop := by
  unfold windowContains InCircularWindow
  split <;> simp only [Bool.and_eq_true, Bool.or_eq_true, decide_eq_true_eq] <;> omega

theorem isTimeWindowActive_eq (cfg : TimeWindowConfig) (t : Nat) :
    isTimeWindowActive cfg t = (!cfg.enabled || windowContains (minuteOfDay t)
      (cfg.startHour * 60 + cfg.startMinute) (cfg.endHour * 60 + cfg.endMinute)) := by
  cases h : cfg.enabled <;> simp [isTimeWindowActive, isTimeInWindow, h,
    hours_minutes_eq_minuteOfDay]

theorem isOperationAllowed_eq (config : Config) (t : Nat) :
    isOperationAllowed config t = (!config.windowEnabled || windowContains (minuteOfDay t)
      (config.lora.windowStartHour * 60 + config.lora.windowStartMinute)
      (config.lora.windowEndHour * 60 + config.lora.windowEndMinute)) := by
  unfold isOperationAllowed Config.windowEnabled
  cases config.hasLora <;> cases config.lora.timeWindowEnabled <;>
    simp [daySeconds_eq_minuteOfDay]

theorem isTimeWindowActive_ofConfig (config : Config) (t : Nat) :
    isTimeWindowActive (TimeWindowConfig.ofConfig config) t = isOperationAllowed config t := by
  rw [isTimeWindowActive_eq, isOperationAllowed_eq]
  rfl

theorem minuteOfDay_lt (t : Nat) : minuteOfDay t < 1440 := Nat.mod_lt _ (by decide)

/-- Both window functions allow everything when the window is off, and otherwise answer
whether the minute of the day lies in the circular half-open window; so they agree. -/
theorem window_clock_circular (cfg : TimeWindowConfig) (config : Config) (t : Nat)
    (hcfg : cfg.startHour ≤ 23 ∧ cfg.startMinute ≤ 59 ∧ cfg.endHour ≤ 23 ∧ cfg.endMinute ≤ 59)
    (hconfig : config.lora.windowStartHour ≤ 23 ∧ config.lora.windowStartMinute ≤ 59 ∧
      config.lora.windowEndHour ≤ 23 ∧ config.lora.windowEndMinute ≤ 59) :
    (isTimeWindowActive cfg t = true ↔ cfg.enabled = false ∨
      InCircularWindow (minuteOfDay t) (cfg.startHour * 60 + cfg.startMinute)
        (cfg.endHour * 60 + cfg.endMinute)) ∧
    (isOperationAllowed config t = true ↔ config.windowEnabled = false ∨
      InCircularWindow (minuteOfDay t)
        (config.lora.windowStartHour * 60 + config.lora.windowStartMinute)
        (config.lora.windowEndHour * 60 + config.lora.windowEndMinute)) ∧
    isTimeWindowActive (TimeWindowConfig.ofConfig config) t = isOperationAllowed config t := by
  obtain ⟨h1, h2, h3, h4⟩ := hcfg
  obtain ⟨h5, h6, h7, h8⟩ := hconfig
  refine ⟨?_, ?_, isTimeWindowActive_ofConfig config t⟩
  · rw [isTimeWindowActive_eq, Bool.or_eq_true, Bool.not_eq_true',
      windowContains_iff (minuteOfDay_lt t) (by omega) (by omega)]
  · rw [isOperationAllowed_eq, Bool.or_eq_true, Bool.not_eq_true',
      windowContains_iff (minuteOfDay_lt t) (by omega) (by omega)]

theorem window_clock_circular_nine_to_five : (9 ≤ 23 ∧ 0 ≤ 59 ∧ 17 ≤ 23 ∧ 0 ≤ 59) ∧
    (9 ≤ 23 ∧ 0 ≤ 59 ∧ 17 ≤ 23 ∧ 0 ≤ 59) ∧
    ((isTimeWindowActive ⟨true, 9, 0, 17, 0, 3600⟩ 0 = true ↔ (true : Bool) = false ∨
      InCircularWindow (minuteOfDay 0) (9 * 60 + 0) (17 * 60 + 0)) ∧
    (isOperationAllowed ⟨true, ⟨true, 9, 0, 17, 0, 0, 32, 3600⟩⟩ 0 = true ↔
      Config.windowEnabled ⟨true, ⟨true, 9, 0, 17, 0, 0, 32, 3600⟩⟩ = false ∨
      InCircularWindow (minuteOfDay 0) (9 * 60 + 0) (17 * 60 + 0)) ∧
    isTimeWindowActive (TimeWindowConfig.ofConfig ⟨true, ⟨true, 9, 0, 17, 0, 0, 32, 3600⟩⟩) 0 =
      isOperationAllowed ⟨true, ⟨true, 9, 0, 17, 0, 0, 32, 3600⟩⟩ 0) :=
  ⟨by decide, by decide, window_clock_circular ⟨true, 9, 0, 17, 0, 3600⟩
    ⟨true, ⟨true, 9, 0, 17, 0, 0, 32, 3600⟩⟩ 0 (by decide) (by decide)⟩

/-- The window `22:00–04:00` wraps: open at `23:59` and `00:00`, closed at `04:00`. -/
example : isTimeWindowActive ⟨true, 22, 0, 4, 0, 3600⟩ (23 * 3600000 + 59 * 60000) = true ∧
    isTimeWindowActive ⟨true, 22, 0, 4, 0, 3600⟩ 0 = true ∧
    isTimeWindowActive ⟨true, 22, 0, 4, 0, 3600⟩ (4 * 3600000) = false := by decide

end RadioWindow
