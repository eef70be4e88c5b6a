import Mathlib.Data.List.Basic

/-!
# Words, packets and the configuration the time-window layer reads

Clock arithmetic in the firmware is `uint32_t` arithmetic: `word n` is the value a `uint32_t`
holds once assigned `n`, and `wsub a b` is the `uint32_t` difference `a - b`. A packet is the
part of a `meshtastic_MeshPacket` this layer reads; the whole record stands for the pointer.
What the code takes from headers outside this layer is a `Platform`, and what it asks of its
collaborators at run time (the clock, the radio) is an `Env`: every result holds for all of both.
-/

namespace RadioWindow

def wordSize : Nat := 4294967296

/-- The value a `uint32_t` holds once assigned `n`. -/
def word (n : Nat) : Nat := n % wordSize

def wsub (a b : Nat) : Nat := (word a + (wordSize - word b)) % wordSize

theorem word_lt (n : Nat) : word n < wordSize := Nat.mod_lt _ (by decide)

@[simp] theorem word_of_lt {n : Nat} (h : n < wordSize) : word n = n := Nat.mod_eq_of_lt h

theorem wsub_lt (a b : Nat) : wsub a b < wordSize := Nat.mod_lt _ (by decide)

theorem wsub_eq (a b : Nat) (ha : a < wordSize) (hb : b < wordSize) :
    wsub a b = (a + (wordSize - b)) % wordSize := by
  simp only [wsub, word_of_lt ha, word_of_lt hb]

/-- The `ErrorCode`s this layer returns or tests; `sendTo` may answer any code at all. -/
inductive ErrorCode
  | ok
  | noRadio
  | invalidConfig
  | invalidLength
  | other (code : Nat)
deriving DecidableEq, Repr

/-- The fields of a `meshtastic_MeshPacket` this layer reads. `decodedPortnum` is
`decoded.portnum` when `which_payload_variant` is the decoded tag, and `none` otherwise. -/
structure Packet where
  id : Nat
  payloadlen : Nat
  wantAck : Bool
  priority : Nat
  decodedPortnum : Option Nat
deriving DecidableEq, Repr

structure LoRaConfig where
  timeWindowEnabled : Bool
  windowStartHour : Nat
  windowStartMinute : Nat
  windowEndHour : Nat
  windowEndMinute : Nat
  windowMode : Nat
  windowQueueSize : Nat
  windowPacketExpireSecs : Nat
deriving DecidableEq, Repr

structure Config where
  hasLora : Bool
  lora : LoRaConfig
deriving DecidableEq, Repr

def dropPackets : Nat := 0

def queuePackets : Nat := 1

def receiveOnly : Nat := 2

/-- The radio layer reads the window only when the LoRa config is present and enables it. -/
def Config.windowEnabled (config : Config) : Bool := config.hasLora && config.lora.timeWindowEnabled

/-- What the code reads from headers that are not in this layer: `MAX_PACKETS_PER_CYCLE`,
`MIN_QUEUE_PROCESS_INTERVAL`, the generated enumerators `calculatePriority` compares against,
the radio's `beginSending`, and the score `getLastPriority()` reports for a dequeued packet. -/
structure Platform where
  maxPacketsPerCycle : Nat
  minQueueProcessInterval : Nat
  priorityReliable : Nat
  priorityAck : Nat
  positionApp : Nat
  emergencyApp : Nat
  beginSending : Packet → Nat
  lastPriority : Packet → Nat

/-- The collaborators as the code meets them: the `k`-th call of `millis()` answers `millis k`
and the `k`-th call of `sendTo` answers `sendTo k`. -/
structure Env where
  millis : Nat → Nat
  sendTo : Nat → ErrorCode

def Env.midnight : Env := ⟨fun _ => 0, fun _ => .ok⟩

def Platform.sample : Platform := ⟨4, 1000, 70, 120, 3, 11, fun p => p.payloadlen + 16, fun _ => 1⟩

def Config.night : Config := ⟨true, ⟨true, 21, 0, 23, 0, 1, 5, 3600⟩⟩

end RadioWindow
