import RadioWindow.PriorityPacketQueue
import RadioWindow.WindowClock

/-!
# The radio and what reaches its collaborators

`RadioInterface` holds the class member `packetQueue` and the flag `disabled`; each of the three
implementations of `send` (RadioInterface.cpp, RadioInterfaceQueue.cpp, RadioInterfaceTime.cpp)
adds file-scope state `σ`. The collaborators are seen through what reaches them: each read of
`millis()` advances `ticks`, each call of `sendPacket` is logged in `attempts` with its answer,
each packet whose bytes go to `sendTo` is logged in `sent`, and each `packetPool.release` in
`released`.
-/

namespace RadioWindow

/-- A `RadioInterface` with file-scope state `σ`, and the logs of its collaborators. -/
structure Radio (σ : Type) where
  statics : σ
  packetQueue : List QueuedPacket
  disabled : Bool
  ticks : Nat
  attempts : List (Packet × ErrorCode)
  sent : List Packet
  released : List Packet

/-- The calls a caller makes into the time-window layer, each under the configuration it
reads: `send`, a drain (`processQueuedPackets`), an eviction (`cleanExpired`, or
`cleanExpiredPackets`), and `clearPacketQueue`. -/
inductive Event
  | send (config : Config) (p : Packet)
  | drain (config : Config)
  | clean (config : Config)
  | clear
deriving DecidableEq, Repr

namespace Radio

variable {σ : Type} (env : Env) (k : Platform)

/-- The value the next `millis()` returns. -/
def clock (s : Radio σ) : Nat := word (env.millis s.ticks)

def tick (s : Radio σ) : Radio σ := { s with ticks := s.ticks + 1 }

def release (s : Radio σ) (ps : List Packet) : Radio σ := { s with released := s.released ++ ps }

/-- `config.has_lora && config.lora.time_window_enabled && !isOperationAllowed()`, with the read
of `millis()` that `isOperationAllowed` makes when the conjunction reaches it. -/
def outsideWindow (config : Config) (s : Radio σ) : Bool × Radio σ :=
  if config.windowEnabled then (!isOperationAllowed config (s.clock env), s.tick) else (false, s)

def sendPacketBody (s : Radio σ) (p : Packet) : Radio σ × ErrorCode :=
  if s.disabled then (s.release [p], .noRadio)
  else if p.payloadlen = 0 then (s.release [p], .invalidLength)
  else if k.beginSending p = 0 then (s, .invalidLength)
  else ({ s with sent := s.sent ++ [p] }, env.sendTo s.sent.length)

/-- `RadioInterface::sendPacket`, its call and answer logged in `attempts`. -/
def sendPacket (s : Radio σ) (p : Packet) : Radio σ × ErrorCode :=
  let r := sendPacketBody env k s p
  ({ r.1 with attempts := r.1.attempts ++ [(p, r.2)] }, r.2)

/-- `RadioInterface::canSleep` of RadioInterface.h: it asks about the class member `packetQueue`
only. -/
def canSleep (s : Radio σ) : Bool := s.packetQueue.isEmpty && true

@[simp] theorem tick_statics (s : Radio σ) : s.tick.statics = s.statics := rfl
@[simp] theorem tick_packetQueue (s : Radio σ) : s.tick.packetQueue = s.packetQueue := rfl
@[simp] theorem tick_attempts (s : Radio σ) : s.tick.attempts = s.attempts := rfl
@[simp] theorem tick_sent (s : Radio σ) : s.tick.sent = s.sent := rfl
@[simp] theorem tick_released (s : Radio σ) : s.tick.released = s.released := rfl
@[simp] theorem tick_disabled (s : Radio σ) : s.tick.disabled = s.disabled := rfl
@[simp] theorem tick_ticks (s : Radio σ) : s.tick.ticks = s.ticks + 1 := rfl
@[simp] theorem release_statics (s : Radio σ) (ps : List Packet) :
    (s.release ps).statics = s.statics := rfl
@[simp] theorem release_packetQueue (s : Radio σ) (ps : List Packet) :
    (s.release ps).packetQueue = s.packetQueue := rfl
@[simp] theorem release_attempts (s : Radio σ) (ps : List Packet) :
    (s.release ps).attempts = s.attempts := rfl
@[simp] theorem release_sent (s : Radio σ) (ps : List Packet) :
    (s.release ps).sent = s.sent := rfl
@[simp] theorem release_released (s : Radio σ) (ps : List Packet) :
    (s.release ps).released = s.released ++ ps := rfl
@[simp] theorem release_disabled (s : Radio σ) (ps : List Packet) :
    (s.release ps).disabled = s.disabled := rfl
@[simp] theorem release_ticks (s : Radio σ) (ps : List Packet) :
    (s.release ps).ticks = s.ticks := rfl

theorem sendPacket_cases (s : Radio σ) (p : Packet) :
    let r := sendPacket env k s p
    r.1.statics = s.statics ∧ r.1.packetQueue = s.packetQueue ∧ r.1.disabled = s.disabled ∧
    r.1.ticks = s.ticks ∧ r.1.attempts = s.attempts ++ [(p, r.2)] ∧
    ((r.1.released = s.released ++ [p] ∧ r.1.sent = s.sent ∧
        (s.disabled = true ∨ p.payloadlen = 0) ∧ r.2 ≠ .ok) ∨
      (r.1.released = s.released ∧ r.1.sent = s.sent ∧ r.2 = .invalidLength) ∨
      (r.1.released = s.released ∧ r.1.sent = s.sent ++ [p] ∧ s.disabled = false ∧
        r.2 = env.sendTo s.sent.length)) := by
  simp only [sendPacket, sendPacketBody]
  split
  · simp_all
  · split
    · simp_all
    · split <;> simp_all

@[simp] theorem sendPacket_statics (s : Radio σ) (p : Packet) :
    (sendPacket env k s p).1.statics = s.statics := (sendPacket_cases env k s p).1

@[simp] theorem sendPacket_packetQueue (s : Radio σ) (p : Packet) :
    (sendPacket env k s p).1.packetQueue = s.packetQueue := (sendPacket_cases env k s p).2.1

@[simp] theorem sendPacket_disabled (s : Radio σ) (p : Packet) :
    (sendPacket env k s p).1.disabled = s.disabled := (sendPacket_cases env k s p).2.2.1

@[simp] theorem sendPacket_ticks (s : Radio σ) (p : Packet) :
    (sendPacket env k s p).1.ticks = s.ticks := (sendPacket_cases env k s p).2.2.2.1

@[simp] theorem sendPacket_attempts (s : Radio σ) (p : Packet) :
    (sendPacket env k s p).1.attempts = s.attempts ++ [(p, (sendPacket env k s p).2)] :=
  (sendPacket_cases env k s p).2.2.2.2.1

theorem outsideWindow_frame (config : Config) (s : Radio σ) :
    (outsideWindow env config s).2 = s ∨ (outsideWindow env config s).2 = s.tick := by
  unfold outsideWindow; split <;> simp

theorem outsideWindow_fst (config : Config) (s : Radio σ) :
    (outsideWindow env config s).1 =
      (config.windowEnabled && !isOperationAllowed config (s.clock env)) := by
  unfold outsideWindow; split <;> simp_all

theorem outsideWindow_of_closed (config : Config) (s : Radio σ) (hen : config.windowEnabled = true)
    (hclosed : isOperationAllowed config (s.clock env) = false) :
    outsideWindow env config s = (true, s.tick) := by
  simp [outsideWindow, hen, hclosed]

end Radio

end RadioWindow
