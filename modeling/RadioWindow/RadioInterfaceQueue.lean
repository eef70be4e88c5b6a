import RadioWindow.Radio

/-!
# `send` over a `PriorityPacketQueue` (RadioInterfaceQueue.cpp)

This implementation counts what it drops and sends in `QueueMetrics`. It drains at most once
every `MIN_QUEUE_PROCESS_INTERVAL` milliseconds, and a drain is budgeted: it stops after
`MAX_PACKETS_PER_CYCLE` transmissions, once 100 ms have passed since it began, or at the first
failed attempt, after putting that packet back. `clearPacketQueue` empties the queue and resets
the metrics.
-/

namespace RadioWindow

/-- `QueueMetrics` of RadioInterfaceQueue.cpp. Its three counters, like the queue's statistics,
are kept as exact totals since the last `reset`. -/
structure QueueMetrics where
  lastProcessTime : Nat
  highPriorityCount : Nat
  normalPriorityCount : Nat
  dropCount : Nat
deriving DecidableEq, Repr

/-- `QueueMetrics::reset`: the counters, not `lastProcessTime`. -/
def QueueMetrics.reset (m : QueueMetrics) : QueueMetrics :=
  { m with highPriorityCount := 0, normalPriorityCount := 0, dropCount := 0 }

/-- The file-scope state of RadioInterfaceQueue.cpp: `priorityQueue` and `metrics`. -/
structure QueueModule where
  priorityQueue : BoundedQueue
  metrics : QueueMetrics

namespace RadioInterfaceQueue

variable (env : Env) {k : Platform} (h : MaxDiscipline (entryPriority k))

def countDrop (s : Radio QueueModule) : Radio QueueModule :=
  { s with statics.metrics.dropCount := s.statics.metrics.dropCount + 1 }

def countSent (isHighPriority : Bool) (s : Radio QueueModule) : Radio QueueModule :=
  if isHighPriority then
    { s with statics.metrics.highPriorityCount := s.statics.metrics.highPriorityCount + 1 }
  else { s with statics.metrics.normalPriorityCount := s.statics.metrics.normalPriorityCount + 1 }

def enqueue (s : Radio QueueModule) (p : Packet) : Radio QueueModule × Bool :=
  let r := PriorityPacketQueue.enqueue h s.statics.priorityQueue p (s.clock env)
  ({ s with statics.priorityQueue := r.1, ticks := if r.2 then s.ticks + 1 else s.ticks }, r.2)

def dequeue (s : Radio QueueModule) : Radio QueueModule × Option Packet :=
  let r := PriorityPacketQueue.dequeue h s.statics.priorityQueue (s.clock env)
  ({ s with statics.priorityQueue := r.1, ticks := if r.2.isSome then s.ticks + 1 else s.ticks },
    r.2)

def cleanExpired (s : Radio QueueModule) : Radio QueueModule :=
  let r := PriorityPacketQueue.cleanExpired h s.statics.priorityQueue (s.clock env)
  { s.tick.release r.2 with statics.priorityQueue := r.1 }

/-- The `while` loop of `processQueuedPackets` begun at `startTime`, for at most `n` more
rounds, with `processed` transmissions so far. The condition reads `millis()` once the queue
is found non-empty. -/
def drainLoop (startTime : Nat) : Nat → Nat → Radio QueueModule → Radio QueueModule
  | 0, _, s => s
  | n + 1, processed, s =>
    if s.statics.priorityQueue.packets = [] then s
    else
      let now := s.clock env
      let s := s.tick
      if ¬(wsub now startTime < 100 ∧ processed < k.maxPacketsPerCycle) then s
      else
        let d := dequeue env h s
        match d.2 with
        | none => drainLoop startTime n processed d.1
        | some packet =>
          let isHighPriority := decide (k.lastPriority packet > 2)
          let t := Radio.sendPacket env k d.1 packet
          if t.2 = .ok then drainLoop startTime n (processed + 1) (countSent isHighPriority t.1)
          else
            let u := enqueue env h t.1 packet
            if !u.2 then (countDrop u.1).release [packet] else u.1

def processQueuedPackets (config : Config) (s : Radio QueueModule) : Radio QueueModule :=
  if !config.hasLora || !config.lora.timeWindowEnabled then s
  else
    let s := cleanExpired env h s
    drainLoop env h (s.clock env) s.statics.priorityQueue.packets.length 0 s.tick

def sendOutside (config : Config) (s : Radio QueueModule) (p : Packet) :
    Radio QueueModule × ErrorCode :=
  if config.lora.windowMode = dropPackets then ((countDrop s).release [p], .noRadio)
  else if config.lora.windowMode = queuePackets then
    let r := enqueue env h s p
    if !r.2 then ((countDrop r.1).release [p], .noRadio) else (r.1, .ok)
  else if config.lora.windowMode = receiveOnly then ((countDrop s).release [p], .noRadio)
  else (s, .invalidConfig)

def send (config : Config) (s : Radio QueueModule) (p : Packet) : Radio QueueModule × ErrorCode :=
  let c := Radio.outsideWindow env config s
  if c.1 then sendOutside env h config c.2 p
  else
    let s := c.2
    let now := s.clock env
    let s := s.tick
    let s :=
      if k.minQueueProcessInterval ≤ wsub now s.statics.metrics.lastProcessTime then
        let s := processQueuedPackets env h config s
        { s with statics.metrics.lastProcessTime := now }
      else s
    Radio.sendPacket env k s p

def clearPacketQueue (s : Radio QueueModule) : Radio QueueModule :=
  let r := PriorityPacketQueue.clear h s.statics.priorityQueue
  { s.release r.2 with statics := ⟨r.1, s.statics.metrics.reset⟩ }

def getQueueSize (s : Radio QueueModule) : Nat := s.statics.priorityQueue.packets.length

def step (s : Radio QueueModule) : Event → Radio QueueModule
  | .send config p => (send env h config s p).1
  | .drain config => processQueuedPackets env h config s
  | .clean _ => cleanExpired env h s
  | .clear => clearPacketQueue h s

def run (s : Radio QueueModule) (evs : List Event) : Radio QueueModule :=
  evs.foldl (step env h) s

def initial (disabled : Bool) : Radio QueueModule :=
  ⟨⟨PriorityPacketQueue.default, ⟨0, 0, 0, 0⟩⟩, [], disabled, 0, [], [], []⟩

theorem processQueuedPackets_eq (config : Config) (s : Radio QueueModule) :
    processQueuedPackets env h config s =
      if config.windowEnabled then
        drainLoop env h ((cleanExpired env h s).clock env)
          (cleanExpired env h s).statics.priorityQueue.packets.length 0 (cleanExpired env h s).tick
      else s := by
  unfold processQueuedPackets Config.windowEnabled
  cases config.hasLora <;> cases config.lora.timeWindowEnabled <;> rfl

@[simp] theorem countDrop_attempts (s : Radio QueueModule) :
    (countDrop s).attempts = s.attempts := rfl
@[simp] theorem countDrop_sent (s : Radio QueueModule) : (countDrop s).sent = s.sent := rfl
@[simp] theorem countDrop_released (s : Radio QueueModule) :
    (countDrop s).released = s.released := rfl
@[simp] theorem countDrop_priorityQueue (s : Radio QueueModule) :
    (countDrop s).statics.priorityQueue = s.statics.priorityQueue := rfl
@[simp] theorem enqueue_attempts (s : Radio QueueModule) (p : Packet) :
    (enqueue env h s p).1.attempts = s.attempts := rfl
@[simp] theorem enqueue_sent (s : Radio QueueModule) (p : Packet) :
    (enqueue env h s p).1.sent = s.sent := rfl
@[simp] theorem enqueue_released (s : Radio QueueModule) (p : Packet) :
    (enqueue env h s p).1.released = s.released := rfl
@[simp] theorem dequeue_sent (s : Radio QueueModule) : (dequeue env h s).1.sent = s.sent := rfl
@[simp] theorem dequeue_released (s : Radio QueueModule) :
    (dequeue env h s).1.released = s.released := rfl
@[simp] theorem dequeue_disabled (s : Radio QueueModule) :
    (dequeue env h s).1.disabled = s.disabled := rfl

@[simp] theorem countSent_attempts (isHighPriority : Bool) (s : Radio QueueModule) :
    (countSent isHighPriority s).attempts = s.attempts := by
  unfold countSent; split <;> rfl

@[simp] theorem countSent_priorityQueue (isHighPriority : Bool) (s : Radio QueueModule) :
    (countSent isHighPriority s).statics.priorityQueue = s.statics.priorityQueue := by
  unfold countSent; split <;> rfl

@[simp] theorem countSent_sent (isHighPriority : Bool) (s : Radio QueueModule) :
    (countSent isHighPriority s).sent = s.sent := by
  unfold countSent; split <;> rfl

@[simp] theorem countSent_released (isHighPriority : Bool) (s : Radio QueueModule) :
    (countSent isHighPriority s).released = s.released := by
  unfold countSent; split <;> rfl

@[simp] theorem countSent_disabled (isHighPriority : Bool) (s : Radio QueueModule) :
    (countSent isHighPriority s).disabled = s.disabled := by
  unfold countSent; split <;> rfl

@[simp] theorem countSent_ticks (isHighPriority : Bool) (s : Radio QueueModule) :
    (countSent isHighPriority s).ticks = s.ticks := by
  unfold countSent; split <;> rfl

theorem enqueue_packets (s : Radio QueueModule) (p : Packet) :
    (enqueue env h s p).1.statics.priorityQueue.packets =
      if (enqueue env h s p).2 then h.push ⟨p, s.clock env⟩ s.statics.priorityQueue.packets
      else s.statics.priorityQueue.packets := by
  rcases BoundedQueue.enqueue_spec h.toDiscipline s.statics.priorityQueue p (s.clock env) with
    ⟨-, he⟩ | ⟨-, h1, h2, -⟩
  · simp [enqueue, PriorityPacketQueue.enqueue, he]
  · simp [enqueue, PriorityPacketQueue.enqueue, h1, h2]

theorem sendOutside_spec (config : Config) (s : Radio QueueModule) (p : Packet) :
    (sendOutside env h config s p).1.attempts = s.attempts ∧
    (sendOutside env h config s p).1.sent = s.sent ∧
    ((sendOutside env h config s p).1.statics.priorityQueue.packets =
        s.statics.priorityQueue.packets ∨
      config.lora.windowMode = queuePackets ∧ ∃ t,
        (sendOutside env h config s p).1.statics.priorityQueue.packets =
          h.push ⟨p, t⟩ s.statics.priorityQueue.packets) := by
  unfold sendOutside
  by_cases hdrop : config.lora.windowMode = dropPackets
  · rw [if_pos hdrop]; simp
  rw [if_neg hdrop]
  by_cases hqueue : config.lora.windowMode = queuePackets
  · rw [if_pos hqueue]
    have hq := enqueue_packets env h s p
    cases hacc : (enqueue env h s p).2 <;> simp_all
    exact .inr ⟨_, rfl⟩
  rw [if_neg hqueue]
  split <;> simp

theorem send_of_closed (config : Config) (s : Radio QueueModule) (p : Packet)
    (hen : config.windowEnabled = true)
    (hclosed : isOperationAllowed config (s.clock env) = false) :
    send env h config s p = sendOutside env h config s.tick p := by
  simp [send, Radio.outsideWindow_of_closed env config s hen hclosed]


/-- A property of the radio that every primitive the file uses keeps: a read of the clock, a
release, the two metric counts, the queue's operations, `sendPacket`, and the stamp of the last
drain. -/
structure Preserved (P : Radio QueueModule → Prop) : Prop where
  tick : ∀ s, P s → P s.tick
  release : ∀ s ps, P s → P (s.release ps)
  countDrop : ∀ s, P s → P (countDrop s)
  countSent : ∀ b s, P s → P (countSent b s)
  enqueue : ∀ s p, P s → P (enqueue env h s p).1
  dequeue : ∀ s, P s → P (dequeue env h s).1
  cleanExpired : ∀ s, P s → P (cleanExpired env h s)
  sendPacket : ∀ s p, P s → P (Radio.sendPacket env k s p).1
  lastProcessTime : ∀ s t, P s → P { s with statics.metrics.lastProcessTime := t }

namespace Preserved

variable {env h} {P : Radio QueueModule → Prop} (hP : Preserved env h P)
include hP

theorem outsideWindow (config : Config) (s : Radio QueueModule) (hs : P s) :
    P (Radio.outsideWindow env config s).2 := by
  rcases Radio.outsideWindow_frame env config s with he | he <;> rw [he]
  exacts [hs, hP.tick s hs]

theorem drainLoop (startTime : Nat) :
    ∀ (n processed : Nat) (s : Radio QueueModule), P s → P (drainLoop env h startTime n processed s)
  | 0, _, _, hs => hs
  | n + 1, processed, s, hs => by
    have ht := hP.tick s hs
    have hd := hP.dequeue _ ht
    unfold RadioInterfaceQueue.drainLoop
    by_cases hempty : s.statics.priorityQueue.packets = []
    · rw [if_pos hempty]; exact hs
    rw [if_neg hempty]
    dsimp only
    by_cases hstop : ¬(wsub (s.clock env) startTime < 100 ∧ processed < k.maxPacketsPerCycle)
    · rw [if_pos hstop]; exact ht
    rw [if_neg hstop]
    split
    · exact drainLoop startTime n processed _ hd
    · next packet _ =>
      have hsp := hP.sendPacket _ packet hd
      split
      · exact drainLoop startTime n _ _ (hP.countSent _ _ hsp)
      · have hu := hP.enqueue _ packet hsp
        split
        exacts [hP.release _ _ (hP.countDrop _ hu), hu]

theorem processQueuedPackets (config : Config) (s : Radio QueueModule) (hs : P s) :
    P (processQueuedPackets env h config s) := by
  unfold RadioInterfaceQueue.processQueuedPackets
  split
  exacts [hs, hP.drainLoop _ _ _ _ (hP.tick _ (hP.cleanExpired s hs))]

theorem sendOutside (config : Config) (s : Radio QueueModule) (p : Packet) (hs : P s) :
    P (sendOutside env h config s p).1 := by
  unfold RadioInterfaceQueue.sendOutside
  by_cases hdrop : config.lora.windowMode = dropPackets
  · rw [if_pos hdrop]; exact hP.release _ _ (hP.countDrop _ hs)
  rw [if_neg hdrop]
  by_cases hqueue : config.lora.windowMode = queuePackets
  · rw [if_pos hqueue]
    have hu := hP.enqueue _ p hs
    dsimp only
    split
    exacts [hP.release _ _ (hP.countDrop _ hu), hu]
  rw [if_neg hqueue]
  split
  exacts [hP.release _ _ (hP.countDrop _ hs), hs]

theorem send (config : Config) (s : Radio QueueModule) (p : Packet) (hs : P s) :
    P (send env h config s p).1 := by
  have ho := hP.outsideWindow config s hs
  unfold RadioInterfaceQueue.send
  dsimp only
  split
  · exact hP.sendOutside config _ p ho
  · apply hP.sendPacket
    split
    · exact hP.lastProcessTime _ _ (hP.processQueuedPackets config _ (hP.tick _ ho))
    · exact hP.tick _ ho

theorem run : ∀ (evs : List Event) (s : Radio QueueModule),
    (Event.clear ∈ evs → ∀ s, P s → P (clearPacketQueue h s)) → P s → P (run env h s evs)
  | [], _, _, hs => hs
  | e :: evs, s, hclear, hs => by
    refine run evs _ (fun hm => hclear (List.mem_cons_of_mem _ hm)) ?_
    cases e with
    | send config p => exact hP.send config s p hs
    | drain config => exact hP.processQueuedPackets config s hs
    | clean => exact hP.cleanExpired s hs
    | clear => exact hclear (List.mem_cons_self _ _) s hs

end Preserved

end RadioInterfaceQueue

end RadioWindow
