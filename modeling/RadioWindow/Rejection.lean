import RadioWindow.ConfigSurface

/-!
# What a rejected configuration change leaves behind

Each of the four setting commands of `timeWindowCmd` checks its arguments before it writes, and
prints a usage or range error and returns on a bad one, so a rejected command leaves the config
as it was. `AdminModule::handleSetConfig` sets `has_lora` before it checks the payload, so a
payload it rejects with `INVALID_SETTINGS` still sets `has_lora`: the config is left as it was
exactly when `has_lora` was already set.
-/

namespace RadioWindow

/-- The usage and range errors the four setting commands of `timeWindowCmd` print. -/
def setterErrors : List String :=
  ["Usage: window set START_TIME END_TIME", invalidTimeErr,
   "Usage: window mode [drop|queue|receive]", "Invalid mode. Use: drop, queue, or receive",
   "Usage: window queue SIZE (1-100)", "Queue size must be between 1 and 100",
   "Usage: window expire SECONDS", "Expiry time must be positive"]

theorem setter_unchanged {c : Config × List String} {config : Config} {pre e : String} {P : Prop}
    (hc : c.1 = config ∨ ∃ line, c.2 = [line] ∧ pre.data <+: line.data ∧ P)
    (hno : ∀ x ∈ setterErrors, ¬pre.data <+: x.data) (he : c.2 = [e]) (herr : e ∈ setterErrors) :
    c.1 = config := by
  rcases hc with hc | ⟨line, hl, hpre, -⟩
  · exact hc
  · rw [hl, List.singleton_inj] at he
    exact absurd (he ▸ hpre) (hno e herr)

/-- A console command that prints a setter error leaves the config as it was, from every config
and for every argument vector; an admin payload rejected with `INVALID_SETTINGS` leaves it as it
was exactly when `has_lora` was already set, and otherwise only sets `has_lora`. -/
theorem setter_rejections_leave_config :
    (∀ (config : Config) (argv : List String) (e : String),
      (timeWindowCmd config argv).2 = [e] → e ∈ setterErrors →
      (timeWindowCmd config argv).1 = config) ∧
    (∀ (config : Config) (c : LoRaConfig),
      (AdminModule.handleSetConfig config c).2 = some .invalidSettings →
      (AdminModule.handleSetConfig config c).1 = { config with hasLora := true } ∧
      ((AdminModule.handleSetConfig config c).1 = config ↔ config.hasLora = true)) := by
  refine ⟨fun config argv e he herr => ?_, fun config c hrej => ?_⟩
  · rcases timeWindowCmd_cases config argv with h | h | h | h | h | h | h
    · exact h
    all_goals rw [h] at he ⊢
    · rw [List.singleton_inj] at he
      exact absurd herr (he ▸ by decide)
    · rw [List.singleton_inj] at he
      exact absurd herr (he ▸ by decide)
    · exact setter_unchanged (cmdSet_cases config argv) (by decide) he herr
    · exact setter_unchanged (cmdMode_cases config argv) (by decide) he herr
    · exact setter_unchanged (cmdQueue_cases config argv) (by decide) he herr
    · exact setter_unchanged (cmdExpire_cases config argv) (by decide) he herr
  · have h1 := (handleSetConfig_rejected config c).2 hrej
    refine ⟨h1, ?_⟩
    rw [h1]
    cases config
    simp

/-- `window set 25:00 23:00` is refused with the time error and changes nothing; a payload with
hour 24 is refused and only sets `has_lora`, which the night config already has. -/
theorem setter_rejections_leave_config_bad_hour :
    (timeWindowCmd Config.night ["window", "set", "25:00", "23:00"]).2 = [invalidTimeErr] ∧
    invalidTimeErr ∈ setterErrors ∧
    (timeWindowCmd Config.night ["window", "set", "25:00", "23:00"]).1 = Config.night ∧
    (AdminModule.handleSetConfig Config.night ⟨true, 24, 0, 23, 0, 1, 5, 3600⟩).2 =
      some .invalidSettings ∧
    (AdminModule.handleSetConfig Config.night ⟨true, 24, 0, 23, 0, 1, 5, 3600⟩).1 = Config.night :=
  ⟨by decide, by decide,
    setter_rejections_leave_config.1 _ _ invalidTimeErr (by decide) (by decide),
    by decide, ((setter_rejections_leave_config.2 _ _ (by decide)).2).2 rfl⟩

/-- From a config whose LoRa section is absent but enables the window, a payload enabling the
window at hour 24 is rejected with `INVALID_SETTINGS`, and yet the stored config has changed:
`has_lora` is now set, which turns the window on. -/
theorem rejected_payload_sets_has_lora :
    (AdminModule.handleSetConfig ⟨false, Config.night.lora⟩ ⟨true, 24, 0, 23, 0, 1, 5, 3600⟩).2 =
      some .invalidSettings ∧
    (AdminModule.handleSetConfig ⟨false, Config.night.lora⟩ ⟨true, 24, 0, 23, 0, 1, 5, 3600⟩).1 ≠
      ⟨false, Config.night.lora⟩ ∧
    (⟨false, Config.night.lora⟩ : Config).windowEnabled = false ∧
    (AdminModule.handleSetConfig ⟨false, Config.night.lora⟩
      ⟨true, 24, 0, 23, 0, 1, 5, 3600⟩).1.windowEnabled = true := by
  decide

end RadioWindow
