import RadioWindow.Basic

/-!
# `TimeWindowPlugin` (TimeWindowPlugin.h, TimeWindowPlugin.cpp)

The plugin keeps a window verdict `isWindowActive`, an override (`temporaryOverride`,
`overrideActive`, `overrideExpiry`) that `FORCE_OPEN` and `FORCE_CLOSE` arm, and the file's
`stats`, seven `uint32_t` counters the radio layer feeds through `recordQueueStats`,
`recordDroppedPacket`, `recordQueueOverflow` and `updateQueuedCount`. `getCurrentWindowState`
combines the verdict with the override, and `sendStats` reports the counters with an average.
A command reads `millis()` only to stamp an override's expiry, so that reading is an argument of
the command; what it sends and its call into the radio come out as actions.
-/

namespace RadioWindow

structure PluginStats where
  totalQueued : Nat
  totalDropped : Nat
  totalDelayed : Nat
  queueOverflows : Nat
  maxQueueTime : Nat
  sumQueueTime : Nat
  queuedPackets : Nat
deriving DecidableEq, Repr

/-- `stats = {}`, and what `memset(&stats, 0, sizeof(stats))` leaves. -/
def PluginStats.zero : PluginStats := ⟨0, 0, 0, 0, 0, 0, 0⟩

/-- The plugin's members that its functions read and write, with the file's `stats`. -/
structure TimeWindowPlugin where
  isWindowActive : Bool
  temporaryOverride : Bool
  overrideActive : Bool
  overrideExpiry : Nat
  stats : PluginStats
deriving DecidableEq, Repr

/-- `meshtastic_TimeWindowCommand`: the command the switch of `handleCommand` names, with the
`duration` (seconds, `uint32_t`) the two `FORCE` commands read, or any other command value. -/
inductive PluginCommand
  | getStatus
  | getStats
  | forceOpen (duration : Nat)
  | forceClose (duration : Nat)
  | resetStats
  | clearQueue
  | other (command : Nat)
deriving DecidableEq, Repr

/-- The `type` of a received `meshtastic_TimeWindow`, with the `command` a `WINDOW_COMMAND`
carries, or any other type value. -/
inductive PluginMessage
  | windowStatus
  | windowStats
  | windowCommand (command : PluginCommand)
  | other (type : Nat)
deriving DecidableEq, Repr

/-- The `WINDOW_STATUS` reply of `sendStatus`, without `next_change`. -/
structure StatusMsg where
  isActive : Bool
  queuedPackets : Nat
  droppedPackets : Nat
  windowMode : Nat
deriving DecidableEq, Repr

structure StatsMsg where
  totalQueued : Nat
  totalDropped : Nat
  totalDelayed : Nat
  avgQueueTime : Nat
  maxQueueTime : Nat
  queueOverflows : Nat
deriving DecidableEq, Repr

/-- What a call hands to the rest of the firmware: a reply to node `dest`, or
`service.radio->clearPacketQueue()`. -/
inductive PluginAction
  | status (dest : Nat) (msg : StatusMsg)
  | stats (dest : Nat) (msg : StatsMsg)
  | clearPacketQueue
deriving DecidableEq, Repr

namespace TimeWindowPlugin

def initial : TimeWindowPlugin := ⟨true, false, false, 0, PluginStats.zero⟩

def getCurrentWindowState (t : TimeWindowPlugin) : Bool :=
  t.isWindowActive && (!t.temporaryOverride || t.overrideActive)

def sendStatus (config : Config) (t : TimeWindowPlugin) : StatusMsg :=
  ⟨t.isWindowActive, t.stats.queuedPackets, t.stats.totalDropped, config.lora.windowMode⟩

/-- The reply `sendStats` builds: the average divides by `queuedPackets`. -/
def sendStats (t : TimeWindowPlugin) : StatsMsg :=
  ⟨t.stats.totalQueued, t.stats.totalDropped, t.stats.totalDelayed,
    if t.stats.queuedPackets ≠ 0 then t.stats.sumQueueTime / t.stats.queuedPackets else 0,
    t.stats.maxQueueTime, t.stats.queueOverflows⟩

def recordQueueStats (t : TimeWindowPlugin) (queueTime : Nat) : TimeWindowPlugin :=
  { t with stats.totalQueued := word (t.stats.totalQueued + 1)
           stats.sumQueueTime := word (t.stats.sumQueueTime + word queueTime)
           stats.maxQueueTime := max t.stats.maxQueueTime (word queueTime) }

def recordDroppedPacket (t : TimeWindowPlugin) : TimeWindowPlugin :=
  { t with stats.totalDropped := word (t.stats.totalDropped + 1) }

def recordQueueOverflow (t : TimeWindowPlugin) : TimeWindowPlugin :=
  { t with stats.queueOverflows := word (t.stats.queueOverflows + 1) }

/-- `updateQueuedCount(count)`: the `size_t` stored in a `uint32_t`. -/
def updateQueuedCount (t : TimeWindowPlugin) (count : Nat) : TimeWindowPlugin :=
  { t with stats.queuedPackets := word count }

/-- `handleCommand(from, cmd)`: `now` is what `millis()` answers, `config` the global config
`sendStatus` reads, and `hasRadio` whether `service.radio` is set. -/
def handleCommand (config : Config) (hasRadio : Bool) (now : Nat) (t : TimeWindowPlugin)
    (from_ : Nat) : PluginCommand → TimeWindowPlugin × List PluginAction
  | .getStatus => (t, [.status from_ (sendStatus config t)])
  | .getStats => (t, [.stats from_ (sendStats t)])
  | .forceOpen duration =>
    ({ t with temporaryOverride := true, overrideActive := true,
              overrideExpiry := word (now + word (duration * 1000)) }, [])
  | .forceClose duration =>
    ({ t with temporaryOverride := true, overrideActive := false,
              overrideExpiry := word (now + word (duration * 1000)) }, [])
  | .resetStats => ({ t with stats := PluginStats.zero }, [])
  | .clearQueue =>
    if hasRadio then ({ t with stats.queuedPackets := 0 }, [.clearPacketQueue]) else (t, [])
  | .other _ => (t, [])

/-- `handleReceivedProtobuf(mp, decoded)`, for a packet from node `from_`: requests are answered,
a command goes to `handleCommand`, and the packet is always reported handled. -/
def handleReceivedProtobuf (config : Config) (hasRadio : Bool) (now : Nat) (t : TimeWindowPlugin)
    (from_ : Nat) : PluginMessage → TimeWindowPlugin × List PluginAction × Bool
  | .windowStatus => (t, [.status from_ (sendStatus config t)], true)
  | .windowStats => (t, [.stats from_ (sendStats t)], true)
  | .windowCommand cmd =>
    let r := handleCommand config hasRadio now t from_ cmd
    (r.1, r.2, true)
  | .other _ => (t, [], true)

end TimeWindowPlugin

/-- A call into the plugin: one of the four recorders, or a command from node `from_` received
when `millis()` answers `now`, under `config`. -/
inductive PluginOp
  | recordQueueStats (queueTime : Nat)
  | recordDroppedPacket
  | recordQueueOverflow
  | updateQueuedCount (count : Nat)
  | handleCommand (config : Config) (now from_ : Nat) (cmd : PluginCommand)
deriving DecidableEq, Repr

namespace TimeWindowPlugin

def step (hasRadio : Bool) (t : TimeWindowPlugin) : PluginOp → TimeWindowPlugin
  | .recordQueueStats q => t.recordQueueStats q
  | .recordDroppedPacket => t.recordDroppedPacket
  | .recordQueueOverflow => t.recordQueueOverflow
  | .updateQueuedCount n => t.updateQueuedCount n
  | .handleCommand config now from_ cmd => (handleCommand config hasRadio now t from_ cmd).1

def run (hasRadio : Bool) (t : TimeWindowPlugin) (ops : List PluginOp) : TimeWindowPlugin :=
  ops.foldl (step hasRadio) t

end TimeWindowPlugin

end RadioWindow
