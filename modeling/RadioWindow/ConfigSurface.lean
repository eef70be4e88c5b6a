import RadioWindow.Basic

/-!
# The two configuration surfaces of the time window

`AdminModule::handleSetConfig` stores a LoRa payload sent over the mesh, and `timeWindowCmd`
runs a `window ...` command typed at the console. The console checks every value it sets.
The admin path checks only the four time fields, and only when the payload enables the window;
in `QUEUE_PACKETS` mode it puts the defaults 32 and 3600 in place of a zero queue size or expiry.
So console commands alone keep the time-window fields in range, and the admin path does not:
a payload out of range is stored as it is, and one stored with the window off is enabled later
by `window enable` without a check.
-/

namespace RadioWindow

/-! ## The C library calls of the console -/

/-- `isspace` in the C locale: space, and the characters 9 to 13. -/
def isCSpace (c : Char) : Bool := c.toNat = 32 || (9 ≤ c.toNat && c.toNat ≤ 13)

/-- The run of decimal digits at the head of a list of characters, read onto `acc`: its value,
its length, and what follows it. -/
def scanDigits : List Char → Nat → Nat → Nat × Nat × List Char
  | c :: cs, acc, n =>
    if c.isDigit then scanDigits cs (acc * 10 + (c.toNat - 48)) (n + 1) else (acc, n, c :: cs)
  | [], acc, n => (acc, n, [])

def longMin : Int := -2147483648

def longMax : Int := 2147483647

/-- `strtol(s, &end, 10)` of the embedded C library, which `atoi` and the `%d` of `sscanf` call:
white space, an optional sign and the longest run of digits, the value saturated to the range
of `long`, and what follows; `none` when no digit is read. -/
def strtol (s : List Char) : Option (Int × List Char) :=
  let (neg, s) : Bool × List Char :=
    match s.dropWhile isCSpace with
    | '-' :: r => (true, r)
    | '+' :: r => (false, r)
    | r => (false, r)
  let (v, n, rest) := scanDigits s 0 0
  if n = 0 then none else some (max longMin (min longMax (if neg then -(v : Int) else v)), rest)

/-- `atoi(s)`, that is `(int) strtol(s, NULL, 10)`: 0 when no digit is read. -/
def atoi (s : String) : Int := ((strtol s.toList).map (·.1)).getD 0

/-- `sscanf(s, "%d:%d", &h, &m) == 2`: the two numbers, when both conversions succeed. -/
def scanTime (s : String) : Option (Int × Int) :=
  match strtol s.toList with
  | some (h, ':' :: rest) => (strtol rest).map fun r => (h, r.1)
  | _ => none

/-- `printf("%0wd", v)`: the sign, then the digits padded with zeros to `w` characters in all. -/
def fmtD (w : Nat) (v : Int) : String :=
  let sign := if v < 0 then "-" else ""
  let digits := toString v.natAbs
  sign ++ String.mk (List.replicate (w - sign.length - digits.length) '0') ++ digits

/-- A `uint32_t` passed to `%d`: the `int` with the same bits. -/
def asInt (n : Nat) : Int := if word n < 2147483648 then word n else (word n : Int) - wordSize

/-! ## `timeWindowCmd` (TimeWindowCLI.cpp) -/

def parseTime (timeStr : String) : Option (Nat × Nat) :=
  match scanTime timeStr with
  | some (h, m) => if h < 0 ∨ h > 23 ∨ m < 0 ∨ m > 59 then none else some (h.toNat, m.toNat)
  | none => none

def invalidTimeErr : String := "Invalid time format. Use HH:MM (00:00-23:59)"

def usage : List String :=
  ["Usage:",
   "  window status         - Show current time window status",
   "  window enable         - Enable time window",
   "  window disable        - Disable time window",
   "  window set START END  - Set window time (HH:MM format)",
   "  window mode MODE      - Set mode (drop/queue/receive)",
   "  window queue SIZE     - Set queue size (1-100)",
   "  window expire SECS    - Set packet expiry time in seconds"]

def printTimeWindowStatus (config : Config) : List String :=
  if !config.hasLora || !config.lora.timeWindowEnabled then ["Time window: Disabled"]
  else
    let modeStr :=
      if config.lora.windowMode = dropPackets then "Drop packets"
      else if config.lora.windowMode = queuePackets then "Queue packets"
      else if config.lora.windowMode = receiveOnly then "Receive only"
      else "Unknown"
    ["Time window: Enabled",
     "Window: " ++ fmtD 2 (asInt config.lora.windowStartHour) ++ ":" ++
       fmtD 2 (asInt config.lora.windowStartMinute) ++ " - " ++
       fmtD 2 (asInt config.lora.windowEndHour) ++ ":" ++
       fmtD 2 (asInt config.lora.windowEndMinute),
     "Mode: " ++ modeStr] ++
    if config.lora.windowMode = queuePackets then
      ["Queue size: " ++ fmtD 0 (asInt config.lora.windowQueueSize) ++ " packets",
       "Packet expiry: " ++ fmtD 0 (asInt config.lora.windowPacketExpireSecs) ++ " seconds"]
    else []

def cmdSet (config : Config) (argv : List String) : Config × List String :=
  if argv.length ≠ 4 then (config, ["Usage: window set START_TIME END_TIME"])
  else
    match parseTime (argv.getD 2 ""), parseTime (argv.getD 3 "") with
    | some (startHour, startMinute), some (endHour, endMinute) =>
      ({ config with
          hasLora := true
          lora.windowStartHour := startHour
          lora.windowStartMinute := startMinute
          lora.windowEndHour := endHour
          lora.windowEndMinute := endMinute },
        ["Time window set to " ++ fmtD 2 startHour ++ ":" ++ fmtD 2 startMinute ++ " - " ++
          fmtD 2 endHour ++ ":" ++ fmtD 2 endMinute])
    | _, _ => (config, [invalidTimeErr])

def cmdMode (config : Config) (argv : List String) : Config × List String :=
  if argv.length ≠ 3 then (config, ["Usage: window mode [drop|queue|receive]"])
  else
    let mode := argv.getD 2 ""
    let setMode := fun m => ({ config with lora.windowMode := m },
      ["Time window mode set to: " ++ mode])
    if mode = "drop" then setMode dropPackets
    else if mode = "queue" then setMode queuePackets
    else if mode = "receive" then setMode receiveOnly
    else (config, ["Invalid mode. Use: drop, queue, or receive"])

def cmdQueue (config : Config) (argv : List String) : Config × List String :=
  if argv.length ≠ 3 then (config, ["Usage: window queue SIZE (1-100)"])
  else
    let size := atoi (argv.getD 2 "")
    if size < 1 ∨ size > 100 then (config, ["Queue size must be between 1 and 100"])
    else ({ config with lora.windowQueueSize := size.toNat },
      ["Queue size set to " ++ fmtD 0 size ++ " packets"])

def cmdExpire (config : Config) (argv : List String) : Config × List String :=
  if argv.length ≠ 3 then (config, ["Usage: window expire SECONDS"])
  else
    let secs := atoi (argv.getD 2 "")
    if secs < 1 then (config, ["Expiry time must be positive"])
    else ({ config with lora.windowPacketExpireSecs := secs.toNat },
      ["Packet expiry time set to " ++ fmtD 0 secs ++ " seconds"])

def timeWindowCmd (config : Config) (argv : List String) : Config × List String :=
  if argv.length < 2 then (config, usage)
  else
    let cmd := argv.getD 1 ""
    if cmd = "status" then (config, printTimeWindowStatus config)
    else if cmd = "enable" then
      ({ config with hasLora := true, lora.timeWindowEnabled := true }, ["Time window enabled"])
    else if cmd = "disable" then
      ({ config with lora.timeWindowEnabled := false }, ["Time window disabled"])
    else if cmd = "set" then cmdSet config argv
    else if cmd = "mode" then cmdMode config argv
    else if cmd = "queue" then cmdQueue config argv
    else if cmd = "expire" then cmdExpire config argv
    else (config, ["Unknown command. Use \x27window\x27 without arguments to see usage."])

example : timeWindowCmd Config.night ["window", "set", "9:05", "17:30"] =
    (⟨true, ⟨true, 9, 5, 17, 30, 1, 5, 3600⟩⟩, ["Time window set to 09:05 - 17:30"]) := by
  decide

/-! ## `AdminModule::handleSetConfig` for a LoRa payload -/

inductive RoutingError
  | invalidSettings
deriving DecidableEq, Repr

/-- `AdminModule::handleSetConfig` with a LoRa payload `c`: the config after it, and the error
reply it allocates, if any. `has_lora` is set before the payload is checked. -/
def AdminModule.handleSetConfig (config : Config) (c : LoRaConfig) :
    Config × Option RoutingError :=
  let config := { config with hasLora := true }
  if c.timeWindowEnabled then
    if c.windowStartHour ≥ 24 ∨ c.windowStartMinute ≥ 60 ∨ c.windowEndHour ≥ 24 ∨
        c.windowEndMinute ≥ 60 then (config, some .invalidSettings)
    else
      let c :=
        if c.windowMode = queuePackets then
          { c with
            windowQueueSize := if c.windowQueueSize = 0 then 32 else c.windowQueueSize
            windowPacketExpireSecs :=
              if c.windowPacketExpireSecs = 0 then 3600 else c.windowPacketExpireSecs }
        else c
      ({ config with lora := c }, none)
  else ({ config with lora := c }, none)

/-! ## Runs of configuration changes -/

inductive ConfigOp
  | setConfig (c : LoRaConfig)
  | cmd (argv : List String)
deriving DecidableEq, Repr

def ConfigOp.apply (config : Config) : ConfigOp → Config
  | .setConfig c => (AdminModule.handleSetConfig config c).1
  | .cmd argv => (timeWindowCmd config argv).1

def configRun (config : Config) (ops : List ConfigOp) : Config := ops.foldl ConfigOp.apply config

def LoRaConfig.TimesValid (l : LoRaConfig) : Prop :=
  l.windowStartHour ≤ 23 ∧ l.windowStartMinute ≤ 59 ∧ l.windowEndHour ≤ 23 ∧
    l.windowEndMinute ≤ 59

/-- The ranges the setters are to keep: a time of day at each end, one of the three modes, a
queue size in `1–100`, an expiry of at least one second. -/
def LoRaConfig.WindowValid (l : LoRaConfig) : Prop :=
  l.TimesValid ∧
    (l.windowMode = dropPackets ∨ l.windowMode = queuePackets ∨ l.windowMode = receiveOnly) ∧
    1 ≤ l.windowQueueSize ∧ l.windowQueueSize ≤ 100 ∧ 1 ≤ l.windowPacketExpireSecs

instance : DecidablePred LoRaConfig.TimesValid := fun _ => inferInstanceAs (Decidable (_ ∧ _))

instance : DecidablePred LoRaConfig.WindowValid := fun _ => inferInstanceAs (Decidable (_ ∧ _))

theorem parseTime_le {s : String} {h m : Nat} (hp : parseTime s = some (h, m)) :
    h ≤ 23 ∧ m ≤ 59 := by
  unfold parseTime at hp
  split at hp
  · split at hp
    · cases hp
    · simp only [Option.some.injEq, Prod.mk.injEq] at hp
      omega
  · cases hp

theorem timeWindowCmd_cases (config : Config) (argv : List String) :
    (timeWindowCmd config argv).1 = config ∨
    timeWindowCmd config argv =
      ({ config with hasLora := true, lora.timeWindowEnabled := true }, ["Time window enabled"]) ∨
    timeWindowCmd config argv =
      ({ config with lora.timeWindowEnabled := false }, ["Time window disabled"]) ∨
    timeWindowCmd config argv = cmdSet config argv ∨
    timeWindowCmd config argv = cmdMode config argv ∨
    timeWindowCmd config argv = cmdQueue config argv ∨
    timeWindowCmd config argv = cmdExpire config argv := by
  rw [timeWindowCmd]
  by_cases h1 : argv.length < 2
  · rw [if_pos h1]; exact .inl rfl
  rw [if_neg h1]
  by_cases h2 : argv.getD 1 "" = "status"
  · rw [if_pos h2]; exact .inl rfl
  rw [if_neg h2]
  by_cases h3 : argv.getD 1 "" = "enable"
  · rw [if_pos h3]; exact .inr (.inl rfl)
  rw [if_neg h3]
  by_cases h4 : argv.getD 1 "" = "disable"
  · rw [if_pos h4]; exact .inr (.inr (.inl rfl))
  rw [if_neg h4]
  by_cases h5 : argv.getD 1 "" = "set"
  · rw [if_pos h5]; exact .inr (.inr (.inr (.inl rfl)))
  rw [if_neg h5]
  by_cases h6 : argv.getD 1 "" = "mode"
  · rw [if_pos h6]; exact .inr (.inr (.inr (.inr (.inl rfl))))
  rw [if_neg h6]
  by_cases h7 : argv.getD 1 "" = "queue"
  · rw [if_pos h7]; exact .inr (.inr (.inr (.inr (.inr (.inl rfl)))))
  rw [if_neg h7]
  by_cases h8 : argv.getD 1 "" = "expire"
  · rw [if_pos h8]; exact .inr (.inr (.inr (.inr (.inr (.inr rfl)))))
  rw [if_neg h8]
  exact .inl rfl

theorem data_prefix_append (a b : String) : a.data <+: (a ++ b).data :=
  String.data_append a b ▸ List.prefix_append _ _

theorem cmdSet_cases (config : Config) (argv : List String) :
    (cmdSet config argv).1 = config ∨
      ∃ line, (cmdSet config argv).2 = [line] ∧ "Time window set to ".data <+: line.data ∧
        (config.lora.WindowValid → (cmdSet config argv).1.lora.WindowValid) := by
  unfold cmdSet
  by_cases hl : argv.length ≠ 4
  · rw [if_pos hl]; exact .inl rfl
  rw [if_neg hl]
  split
  · next hs he =>
    refine .inr ⟨_, rfl, ?_, fun hv => ⟨?_, hv.2⟩⟩
    · simp only [String.data_append, List.append_assoc, List.prefix_append]
    · exact ⟨(parseTime_le hs).1, (parseTime_le hs).2, (parseTime_le he).1, (parseTime_le he).2⟩
  · exact .inl rfl

theorem cmdMode_cases (config : Config) (argv : List String) :
    (cmdMode config argv).1 = config ∨
      ∃ line, (cmdMode config argv).2 = [line] ∧ "Time window mode set to: ".data <+: line.data ∧
        (config.lora.WindowValid → (cmdMode config argv).1.lora.WindowValid) := by
  unfold cmdMode
  by_cases hl : argv.length ≠ 3
  · rw [if_pos hl]; exact .inl rfl
  rw [if_neg hl]
  by_cases hdrop : argv.getD 2 "" = "drop"
  · rw [if_pos hdrop]
    exact .inr ⟨_, rfl, data_prefix_append _ _, fun hv => ⟨hv.1, .inl rfl, hv.2.2⟩⟩
  rw [if_neg hdrop]
  by_cases hqueue : argv.getD 2 "" = "queue"
  · rw [if_pos hqueue]
    exact .inr ⟨_, rfl, data_prefix_append _ _, fun hv => ⟨hv.1, .inr (.inl rfl), hv.2.2⟩⟩
  rw [if_neg hqueue]
  by_cases hreceive : argv.getD 2 "" = "receive"
  · rw [if_pos hreceive]
    exact .inr ⟨_, rfl, data_prefix_append _ _, fun hv => ⟨hv.1, .inr (.inr rfl), hv.2.2⟩⟩
  rw [if_neg hreceive]
  exact .inl rfl

theorem cmdQueue_cases (config : Config) (argv : List String) :
    (cmdQueue config argv).1 = config ∨
      ∃ line, (cmdQueue config argv).2 = [line] ∧ "Queue size set to ".data <+: line.data ∧
        (config.lora.WindowValid → (cmdQueue config argv).1.lora.WindowValid) := by
  unfold cmdQueue
  by_cases hl : argv.length ≠ 3
  · rw [if_pos hl]; exact .inl rfl
  rw [if_neg hl]
  dsimp only
  by_cases hs : atoi (argv.getD 2 "") < 1 ∨ atoi (argv.getD 2 "") > 100
  · rw [if_pos hs]; exact .inl rfl
  · rw [if_neg hs]
    refine .inr ⟨_, rfl, (data_prefix_append _ _).trans (data_prefix_append _ _), fun hv => ?_⟩
    refine ⟨hv.1, hv.2.1, ?_, ?_, hv.2.2.2.2⟩ <;> dsimp only <;> omega

theorem cmdExpire_cases (config : Config) (argv : List String) :
    (cmdExpire config argv).1 = config ∨
      ∃ line, (cmdExpire config argv).2 = [line] ∧ "Packet expiry time set to ".data <+: line.data ∧
        (config.lora.WindowValid → (cmdExpire config argv).1.lora.WindowValid) := by
  unfold cmdExpire
  by_cases hl : argv.length ≠ 3
  · rw [if_pos hl]; exact .inl rfl
  rw [if_neg hl]
  dsimp only
  by_cases hs : atoi (argv.getD 2 "") < 1
  · rw [if_pos hs]; exact .inl rfl
  · rw [if_neg hs]
    refine .inr ⟨_, rfl, (data_prefix_append _ _).trans (data_prefix_append _ _), fun hv => ?_⟩
    exact ⟨hv.1, hv.2.1, hv.2.2.1, hv.2.2.2.1, by dsimp only; omega⟩

theorem valid_of_setter_cases {c : Config × List String} {config : Config} {pre : String}
    (hc : c.1 = config ∨ ∃ line, c.2 = [line] ∧ pre.data <+: line.data ∧
      (config.lora.WindowValid → c.1.lora.WindowValid))
    (hv : config.lora.WindowValid) : c.1.lora.WindowValid := by
  rcases hc with h | ⟨_, _, _, h⟩
  exacts [h ▸ hv, h hv]

theorem timeWindowCmd_valid (config : Config) (argv : List String)
    (hv : config.lora.WindowValid) : (timeWindowCmd config argv).1.lora.WindowValid := by
  rcases timeWindowCmd_cases config argv with h | h | h | h | h | h | h <;> rw [h]
  · exact hv
  · exact hv
  · exact hv
  · exact valid_of_setter_cases (cmdSet_cases config argv) hv
  · exact valid_of_setter_cases (cmdMode_cases config argv) hv
  · exact valid_of_setter_cases (cmdQueue_cases config argv) hv
  · exact valid_of_setter_cases (cmdExpire_cases config argv) hv

theorem handleSetConfig_rejected (config : Config) (c : LoRaConfig) :
    ((AdminModule.handleSetConfig config c).2 = some .invalidSettings ↔
      c.timeWindowEnabled = true ∧ ¬c.TimesValid) ∧
    ((AdminModule.handleSetConfig config c).2 = some .invalidSettings →
      (AdminModule.handleSetConfig config c).1 = { config with hasLora := true }) := by
  have hv : c.TimesValid ↔ ¬(c.windowStartHour ≥ 24 ∨ c.windowStartMinute ≥ 60 ∨
      c.windowEndHour ≥ 24 ∨ c.windowEndMinute ≥ 60) := by
    simp only [LoRaConfig.TimesValid]; omega
  rw [hv, not_not]
  unfold AdminModule.handleSetConfig
  dsimp only
  cases c.timeWindowEnabled
  · simp
  · rw [if_pos rfl]
    split
    · next hbad => simp [hbad]
    · next hbad => simp [hbad]

theorem handleSetConfig_stores (config : Config) (c : LoRaConfig)
    (hok : (AdminModule.handleSetConfig config c).2 = none)
    (hc : c.windowMode ≠ queuePackets ∨ c.windowQueueSize ≠ 0 ∧ c.windowPacketExpireSecs ≠ 0) :
    (AdminModule.handleSetConfig config c).1 = { config with hasLora := true, lora := c } := by
  unfold AdminModule.handleSetConfig at hok ⊢
  dsimp only at hok ⊢
  by_cases hen : c.timeWindowEnabled = true
  · rw [if_pos hen] at hok ⊢
    split at hok
    · cases hok
    next hbad =>
      rw [if_neg hbad]
      by_cases hmode : c.windowMode = queuePackets
      · obtain ⟨hq, he⟩ := hc.resolve_left (not_not.2 hmode)
        simp only [if_pos hmode, hq, he, if_false]
      · rw [if_neg hmode]
  · rw [if_neg hen]

theorem configRun_cmds_valid : ∀ (argvs : List (List String)) (config : Config),
    config.lora.WindowValid → (configRun config (argvs.map .cmd)).lora.WindowValid
  | [], _, hv => hv
  | argv :: argvs, config, hv => configRun_cmds_valid argvs _ (timeWindowCmd_valid config argv hv)

/-- Runs of console commands from a config in range stay in range. The admin path rejects a
payload exactly when it enables the window at times that are not times of day, and stores every
other payload as it is, but for the `QUEUE_PACKETS` defaults: it never checks the mode, the
queue size or the expiry. So from the night config, which is in range, a payload that enables
the window in mode 7 with a queue of 500 and no expiry is stored as it is; and a payload with
the window off at hour 99 is stored, which `window enable` then turns on. -/
theorem admin_payload_enables_invalid_window :
    (∀ (config : Config) (argvs : List (List String)), config.lora.WindowValid →
      (configRun config (argvs.map .cmd)).lora.WindowValid) ∧
    (∀ (config : Config) (c : LoRaConfig),
      ((AdminModule.handleSetConfig config c).2 = some .invalidSettings ↔
        c.timeWindowEnabled = true ∧ ¬c.TimesValid) ∧
      ((AdminModule.handleSetConfig config c).2 = none →
        (c.windowMode ≠ queuePackets ∨ c.windowQueueSize ≠ 0 ∧ c.windowPacketExpireSecs ≠ 0) →
        (AdminModule.handleSetConfig config c).1 = { config with hasLora := true, lora := c })) ∧
    Config.night.lora.WindowValid ∧
    (configRun Config.night [.setConfig ⟨true, 21, 0, 23, 0, 7, 500, 0⟩]).windowEnabled = true ∧
    ¬(configRun Config.night [.setConfig ⟨true, 21, 0, 23, 0, 7, 500, 0⟩]).lora.WindowValid ∧
    (configRun Config.night
      [.setConfig ⟨false, 99, 0, 23, 0, 1, 5, 3600⟩, .cmd ["window", "enable"]]).windowEnabled =
        true ∧
    ¬(configRun Config.night
      [.setConfig ⟨false, 99, 0, 23, 0, 1, 5, 3600⟩,
        .cmd ["window", "enable"]]).lora.WindowValid :=
  ⟨fun config argvs hv => configRun_cmds_valid argvs config hv,
    fun config c => ⟨(handleSetConfig_rejected config c).1, handleSetConfig_stores config c⟩,
    by decide⟩

end RadioWindow
