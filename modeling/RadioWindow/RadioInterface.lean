import RadioWindow.Radio

/-!
# `send` over a `PacketQueue` (RadioInterface.cpp)

Outside the window, `send` drops, queues or refuses the packet by mode. Otherwise it drains
the queue and then sends the packet. The drain stops at the first failed attempt, putting the
failed packet back; it has no per-cycle budget. The file's queue is the `PacketQueue
packetQueue` of its anonymous namespace, with 32 entries and a 3600 s expiry whatever the
configuration says. RadioInterface.h also declares a member `std::vector<PacketQueueEntry>
packetQueue`, which under C++ name lookup shadows the file's queue inside member functions,
where it has no `enqueue` or `cleanExpired`; the model reads every `packetQueue` of the file as
the file-scope queue, as the file intends, and the member as `Radio.packetQueue`.
-/

namespace RadioWindow

namespace RadioInterface

variable (env : Env) (k : Platform)

def enqueue (s : Radio BoundedQueue) (p : Packet) : Radio BoundedQueue × Bool :=
  let r := PacketQueue.enqueue s.statics p (s.clock env)
  ({ s with statics := r.1, ticks := if r.2 then s.ticks + 1 else s.ticks }, r.2)

def dequeue (s : Radio BoundedQueue) : Radio BoundedQueue × Option Packet :=
  let r := PacketQueue.dequeue s.statics (s.clock env)
  ({ s with statics := r.1, ticks := if r.2.isSome then s.ticks + 1 else s.ticks }, r.2)

def cleanExpired (s : Radio BoundedQueue) : Radio BoundedQueue :=
  let r := PacketQueue.cleanExpired s.statics (s.clock env)
  { s.tick.release r.2 with statics := r.1 }

/-- The `while` loop of `processQueuedPackets`, for at most `n` more rounds. -/
def drainLoop : Nat → Radio BoundedQueue → Radio BoundedQueue
  | 0, s => s
  | n + 1, s =>
    if s.statics.packets = [] then s
    else
      let d := dequeue env s
      match d.2 with
      | none => drainLoop n d.1
      | some packet =>
        let t := Radio.sendPacket env k d.1 packet
        if t.2 ≠ .ok then
          let u := enqueue env t.1 packet
          if !u.2 then u.1.release [packet] else u.1
        else drainLoop n t.1

/-- `RadioInterface::processQueuedPackets`: each round takes one entry, so as many rounds as
there are entries after eviction drain the queue. -/
def processQueuedPackets (config : Config) (s : Radio BoundedQueue) : Radio BoundedQueue :=
  if !config.hasLora || !config.lora.timeWindowEnabled then s
  else
    let s := cleanExpired env s
    drainLoop env k s.statics.packets.length s

def sendOutside (config : Config) (s : Radio BoundedQueue) (p : Packet) :
    Radio BoundedQueue × ErrorCode :=
  if config.lora.windowMode = dropPackets then (s.release [p], .noRadio)
  else if config.lora.windowMode = queuePackets then
    let r := enqueue env s p
    if !r.2 then (r.1.release [p], .noRadio) else (r.1, .ok)
  else if config.lora.windowMode = receiveOnly then (s.release [p], .noRadio)
  else (s, .invalidConfig)

def send (config : Config) (s : Radio BoundedQueue) (p : Packet) :
    Radio BoundedQueue × ErrorCode :=
  let c := Radio.outsideWindow env config s
  if c.1 then sendOutside env config c.2 p
  else Radio.sendPacket env k (processQueuedPackets env k config c.2) p

def clearPacketQueue (s : Radio BoundedQueue) : Radio BoundedQueue :=
  let r := PacketQueue.clear s.statics
  { s.release r.2 with statics := r.1 }

def getQueueSize (s : Radio BoundedQueue) : Nat := s.statics.packets.length

def step (s : Radio BoundedQueue) : Event → Radio BoundedQueue
  | .send config p => (send env k config s p).1
  | .drain config => processQueuedPackets env k config s
  | .clean _ => cleanExpired env s
  | .clear => clearPacketQueue s

def run (s : Radio BoundedQueue) (evs : List Event) : Radio BoundedQueue :=
  evs.foldl (step env k) s

def initial (disabled : Bool) : Radio BoundedQueue :=
  ⟨PacketQueue.default, [], disabled, 0, [], [], []⟩

theorem processQueuedPackets_eq (config : Config) (s : Radio BoundedQueue) :
    processQueuedPackets env k config s =
      if config.windowEnabled then
        drainLoop env k (cleanExpired env s).statics.packets.length (cleanExpired env s)
      else s := by
  unfold processQueuedPackets Config.windowEnabled
  cases config.hasLora <;> cases config.lora.timeWindowEnabled <;> rfl

@[simp] theorem enqueue_packetQueue (s : Radio BoundedQueue) (p : Packet) :
    (enqueue env s p).1.packetQueue = s.packetQueue := rfl
@[simp] theorem enqueue_attempts (s : Radio BoundedQueue) (p : Packet) :
    (enqueue env s p).1.attempts = s.attempts := rfl
@[simp] theorem enqueue_sent (s : Radio BoundedQueue) (p : Packet) :
    (enqueue env s p).1.sent = s.sent := rfl
@[simp] theorem enqueue_released (s : Radio BoundedQueue) (p : Packet) :
    (enqueue env s p).1.released = s.released := rfl
@[simp] theorem enqueue_disabled (s : Radio BoundedQueue) (p : Packet) :
    (enqueue env s p).1.disabled = s.disabled := rfl
theorem enqueue_statics (s : Radio BoundedQueue) (p : Packet) :
    (enqueue env s p).1.statics = (PacketQueue.enqueue s.statics p (s.clock env)).1 := rfl
theorem enqueue_snd (s : Radio BoundedQueue) (p : Packet) :
    (enqueue env s p).2 = (PacketQueue.enqueue s.statics p (s.clock env)).2 := rfl

theorem enqueue_packets (s : Radio BoundedQueue) (p : Packet) :
    (enqueue env s p).1.statics.packets =
      if (enqueue env s p).2 then s.statics.packets ++ [⟨p, s.clock env⟩]
      else s.statics.packets := by
  rcases BoundedQueue.enqueue_spec fifo s.statics p (s.clock env) with ⟨-, he⟩ | ⟨-, h1, h2, -⟩
  · simp [enqueue_statics, enqueue_snd, PacketQueue.enqueue, he]
  · simp [enqueue_statics, enqueue_snd, PacketQueue.enqueue, h1, h2, fifo_push]

@[simp] theorem dequeue_packetQueue (s : Radio BoundedQueue) :
    (dequeue env s).1.packetQueue = s.packetQueue := rfl
@[simp] theorem dequeue_attempts (s : Radio BoundedQueue) :
    (dequeue env s).1.attempts = s.attempts := rfl
@[simp] theorem dequeue_sent (s : Radio BoundedQueue) : (dequeue env s).1.sent = s.sent := rfl
@[simp] theorem dequeue_released (s : Radio BoundedQueue) :
    (dequeue env s).1.released = s.released := rfl
@[simp] theorem dequeue_disabled (s : Radio BoundedQueue) :
    (dequeue env s).1.disabled = s.disabled := rfl
theorem dequeue_statics (s : Radio BoundedQueue) :
    (dequeue env s).1.statics = (PacketQueue.dequeue s.statics (s.clock env)).1 := rfl
theorem dequeue_snd (s : Radio BoundedQueue) :
    (dequeue env s).2 = (PacketQueue.dequeue s.statics (s.clock env)).2 := rfl

/-- A property of the radio that every primitive the file uses keeps: a read of the clock, a
release, the queue's four operations, and `sendPacket`. -/
structure Preserved (P : Radio BoundedQueue → Prop) : Prop where
  tick : ∀ s, P s → P s.tick
  release : ∀ s ps, P s → P (s.release ps)
  enqueue : ∀ s p, P s → P (enqueue env s p).1
  dequeue : ∀ s, P s → P (dequeue env s).1
  cleanExpired : ∀ s, P s → P (cleanExpired env s)
  sendPacket : ∀ s p, P s → P (Radio.sendPacket env k s p).1

namespace Preserved

variable {env k} {P : Radio BoundedQueue → Prop} (hP : Preserved env k P)
include hP

theorem outsideWindow (config : Config) (s : Radio BoundedQueue) (h : P s) :
    P (Radio.outsideWindow env config s).2 := by
  rcases Radio.outsideWindow_frame env config s with he | he <;> rw [he]
  exacts [h, hP.tick s h]

theorem drainLoop : ∀ (n : Nat) (s : Radio BoundedQueue), P s → P (drainLoop env k n s)
  | 0, s, h => h
  | n + 1, s, h => by
    have hd := hP.dequeue s h
    unfold RadioInterface.drainLoop
    by_cases hempty : s.statics.packets = []
    · rw [if_pos hempty]; exact h
    rw [if_neg hempty]
    dsimp only
    split
    · exact drainLoop n _ hd
    · next packet _ =>
      have ht := hP.sendPacket _ packet hd
      split
      · have hu := hP.enqueue _ packet ht
        split
        exacts [hP.release _ _ hu, hu]
      · exact drainLoop n _ ht

theorem processQueuedPackets (config : Config) (s : Radio BoundedQueue) (h : P s) :
    P (processQueuedPackets env k config s) := by
  unfold RadioInterface.processQueuedPackets
  split
  exacts [h, hP.drainLoop _ _ (hP.cleanExpired s h)]

theorem sendOutside (config : Config) (s : Radio BoundedQueue) (p : Packet) (h : P s) :
    P (sendOutside env config s p).1 := by
  unfold RadioInterface.sendOutside
  by_cases hdrop : config.lora.windowMode = dropPackets
  · rw [if_pos hdrop]; exact hP.release _ _ h
  rw [if_neg hdrop]
  by_cases hqueue : config.lora.windowMode = queuePackets
  · rw [if_pos hqueue]
    have hu := hP.enqueue _ p h
    dsimp only
    split
    exacts [hP.release _ _ hu, hu]
  rw [if_neg hqueue]
  split
  exacts [hP.release _ _ h, h]

theorem send (config : Config) (s : Radio BoundedQueue) (p : Packet) (h : P s) :
    P (send env k config s p).1 := by
  have ho := hP.outsideWindow config s h
  unfold RadioInterface.send
  dsimp only
  split
  · exact hP.sendOutside config _ p ho
  · exact hP.sendPacket _ p (hP.processQueuedPackets config _ ho)

theorem run (hclear : ∀ s, P s → P (clearPacketQueue s)) :
    ∀ (evs : List Event) (s : Radio BoundedQueue), P s → P (run env k s evs)
  | [], _, h => h
  | e :: evs, s, h => by
    refine run hclear evs _ ?_
    cases e with
    | send config p => exact hP.send config s p h
    | drain config => exact hP.processQueuedPackets config s h
    | clean => exact hP.cleanExpired s h
    | clear => exact hclear s h

end Preserved

theorem maxQueueSize_preserved (m : Nat) :
    Preserved env k (fun s => s.statics.maxQueueSize = m) where
  tick _ h := h
  release _ _ h := h
  enqueue s p h := (BoundedQueue.enqueue_maxQueueSize _ _ _ _).trans h
  dequeue s h := (BoundedQueue.dequeue_maxQueueSize _ _ _).trans h
  cleanExpired s h := ((PacketQueue.cleanExpired_spec _ _).2.2.2.1).trans h
  sendPacket s p h := by simpa using h

theorem sendOutside_spec (config : Config) (s : Radio BoundedQueue) (p : Packet) :
    (sendOutside env config s p).1.attempts = s.attempts ∧
    (sendOutside env config s p).1.sent = s.sent ∧
    ((sendOutside env config s p).1.statics.packets = s.statics.packets ∨
      config.lora.windowMode = queuePackets ∧
        ∃ t, (sendOutside env config s p).1.statics.packets = s.statics.packets ++ [⟨p, t⟩]) := by
  unfold sendOutside
  by_cases hdrop : config.lora.windowMode = dropPackets
  · rw [if_pos hdrop]; simp
  rw [if_neg hdrop]
  by_cases hqueue : config.lora.windowMode = queuePackets
  · rw [if_pos hqueue]
    have hq := enqueue_packets env s p
    cases hacc : (enqueue env s p).2 <;> simp_all
  rw [if_neg hqueue]
  split <;> simp

theorem send_of_closed (config : Config) (s : Radio BoundedQueue) (p : Packet)
    (hen : config.windowEnabled = true)
    (hclosed : isOperationAllowed config (s.clock env) = false) :
    send env k config s p = sendOutside env config s.tick p := by
  simp [send, Radio.outsideWindow_of_closed env config s hen hclosed]

end RadioInterface

end RadioWindow
