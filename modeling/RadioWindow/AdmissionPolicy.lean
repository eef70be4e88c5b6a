import RadioWindow.RadioInterface
import RadioWindow.RadioInterfaceQueue

/-!
# The admission policy of the design, and the `send`s that carry it out

The design states admission as a verdict on each outbound packet: send it now when the window
is open; otherwise, by mode, discard it (outside the window, or transmission suppressed) or
queue it, a full queue discarding it. A discarded packet is released exactly once and a queued
one passes to the queue. `AdmissionPolicy.evaluate` is that verdict, written from the design;
`send` of RadioInterface.cpp and of RadioInterfaceQueue.cpp carry it out from every state, for
every mode of the enum.
-/

namespace RadioWindow

inductive WindowMode
  | dropPackets
  | queuePackets
  | receiveOnly
deriving DecidableEq, Repr

def WindowMode.ofNat? (n : Nat) : Option WindowMode :=
  if n = RadioWindow.dropPackets then some .dropPackets
  else if n = RadioWindow.queuePackets then some .queuePackets
  else if n = RadioWindow.receiveOnly then some .receiveOnly
  else none

inductive DiscardReason
  | outsideWindow
  | transmitSuppressed
  | queueFull
deriving DecidableEq, Repr

inductive Disposition
  | sendNow
  | enqueue
  | discard (reason : DiscardReason)
deriving DecidableEq, Repr

/-- Modelled from the spec: `AdmissionPolicy.evaluate(config, override, now, packet)`, with
the clock's verdict `isOpen` and whether the queue is `full`. -/
def AdmissionPolicy.evaluate (isOpen : Bool) (mode : WindowMode) (full : Bool) : Disposition :=
  if isOpen then .sendNow
  else
    match mode with
    | .dropPackets => .discard .outsideWindow
    | .receiveOnly => .discard .transmitSuppressed
    | .queuePackets => if full then .discard .queueFull else .enqueue

/-- A call of `send p` answering `r` carried out the verdict `d`, the radio going from `s` to
`s'` and its queue from `held` to `held'`. A packet sent now is the last one handed to
`sendPacket`, whose answer the call returns. A queued packet is pushed with a time stamp and is
answered `ERRNO_OK`; a discarded one is released once and answered `ERRNO_NO_RADIO`; in both
cases nothing reaches `sendPacket`, `sendTo` or the pool besides. -/
def Realizes {σ : Type} (push : QueuedPacket → List QueuedPacket → List QueuedPacket)
    (d : Disposition) (held held' : List QueuedPacket) (s s' : Radio σ) (p : Packet)
    (r : ErrorCode) : Prop :=
  match d with
  | .sendNow => ∃ pre, s'.attempts = s.attempts ++ pre ++ [(p, r)]
  | .enqueue =>
    r = .ok ∧ (∃ t, held' = push ⟨p, t⟩ held) ∧ s'.attempts = s.attempts ∧
      s'.released = s.released ∧ s'.sent = s.sent
  | .discard _ =>
    r = .noRadio ∧ held' = held ∧ s'.attempts = s.attempts ∧ s'.released = s.released ++ [p] ∧
      s'.sent = s.sent

theorem WindowMode.ofNat?_eq_some {n : Nat} {m : WindowMode} (h : WindowMode.ofNat? n = some m) :
    n = match m with
      | .dropPackets => RadioWindow.dropPackets
      | .queuePackets => RadioWindow.queuePackets
      | .receiveOnly => RadioWindow.receiveOnly := by
  unfold WindowMode.ofNat? at h
  split_ifs at h <;> cases h <;> assumption

theorem windowEnabled_of_not_allowed {config : Config} {t : Nat}
    (h : isOperationAllowed config t = false) : config.windowEnabled = true := by
  unfold isOperationAllowed at h
  simp only [Config.windowEnabled]
  split at h
  · cases h
  · simp_all

theorem Radio.outsideWindow_fst_eq {σ : Type} (env : Env) (config : Config) (s : Radio σ) :
    (Radio.outsideWindow env config s).1 = !isOperationAllowed config (s.clock env) := by
  rw [Radio.outsideWindow_fst]
  cases h : isOperationAllowed config (s.clock env)
  · simp [windowEnabled_of_not_allowed h]
  · simp

theorem Radio.sendPacket_last {σ : Type} (env : Env) (k : Platform) {a : List (Packet × ErrorCode)}
    {t : Radio σ} (p : Packet) (ht : a <+: t.attempts) :
    ∃ pre, (Radio.sendPacket env k t p).1.attempts =
      a ++ pre ++ [(p, (Radio.sendPacket env k t p).2)] := by
  obtain ⟨pre, hpre⟩ := ht
  exact ⟨pre, by rw [Radio.sendPacket_attempts, ← hpre]⟩

namespace RadioInterface

variable (env : Env) (k : Platform)

theorem attempts_prefix_preserved (a : List (Packet × ErrorCode)) :
    Preserved env k (fun t => a <+: t.attempts) where
  tick _ h := h
  release _ _ h := h
  enqueue _ _ h := h
  dequeue _ h := h
  cleanExpired _ h := h
  sendPacket s p h := by simpa using h.trans (List.prefix_append _ _)

/-- `send` of RadioInterface.cpp carries out the design's verdict on its packet. -/
theorem send_realizes (config : Config) (s : Radio BoundedQueue) (p : Packet) {m : WindowMode}
    (hm : WindowMode.ofNat? config.lora.windowMode = some m) :
    Realizes fifo.push
      (AdmissionPolicy.evaluate (isOperationAllowed config (s.clock env)) m
        (s.statics.maxQueueSize ≤ s.statics.packets.length))
      s.statics.packets (send env k config s p).1.statics.packets s (send env k config s p).1 p
      (send env k config s p).2 := by
  have hfst := Radio.outsideWindow_fst_eq env config s
  cases hopen : isOperationAllowed config (s.clock env)
  · have hc := Radio.outsideWindow_of_closed env config s (windowEnabled_of_not_allowed hopen) hopen
    simp only [send, hc, if_true, AdmissionPolicy.evaluate, Bool.false_eq_true, if_false]
    have hmode := WindowMode.ofNat?_eq_some hm
    cases m with
    | dropPackets => simp [Realizes, sendOutside, hmode]
    | receiveOnly => simp [Realizes, sendOutside, hmode, dropPackets, queuePackets, receiveOnly]
    | queuePackets =>
      have hq := enqueue_packets env s.tick p
      have hacc : (enqueue env s.tick p).2 = true ↔
          ¬s.statics.maxQueueSize ≤ s.statics.packets.length := by
        rw [enqueue_snd, Nat.not_le]; exact BoundedQueue.enqueue_accepts_iff fifo _ p _
      simp only [sendOutside, hmode, dropPackets, queuePackets]
      by_cases hfull : s.statics.maxQueueSize ≤ s.statics.packets.length
      · have hrej : (enqueue env s.tick p).2 = false := by simpa [hfull] using hacc
        simp [Realizes, hfull, hrej, hq]
      · simp [Realizes, hfull, hacc.2 hfull, hq]
  · have hP := attempts_prefix_preserved env k s.attempts
    simp only [send, hfst, hopen, Bool.not_true, Bool.false_eq_true, if_false,
      AdmissionPolicy.evaluate, if_true, Realizes]
    exact Radio.sendPacket_last env k p
      (hP.processQueuedPackets config _ (hP.outsideWindow config s List.prefix_rfl))

end RadioInterface

namespace RadioInterfaceQueue

variable (env : Env) {k : Platform} (h : MaxDiscipline (entryPriority k))

theorem attempts_prefix_preserved (a : List (Packet × ErrorCode)) :
    Preserved env h (fun t => a <+: t.attempts) where
  tick _ hs := hs
  release _ _ hs := hs
  countDrop _ hs := hs
  countSent b _ hs := by cases b <;> exact hs
  enqueue _ _ hs := hs
  dequeue _ hs := hs
  cleanExpired _ hs := hs
  sendPacket _ _ hs := by simpa using hs.trans (List.prefix_append _ _)
  lastProcessTime _ _ hs := hs

/-- `send` of RadioInterfaceQueue.cpp carries out the design's verdict on its packet. -/
theorem send_realizes (config : Config) (s : Radio QueueModule) (p : Packet) {m : WindowMode}
    (hm : WindowMode.ofNat? config.lora.windowMode = some m) :
    Realizes h.push
      (AdmissionPolicy.evaluate (isOperationAllowed config (s.clock env)) m
        (s.statics.priorityQueue.maxQueueSize ≤ s.statics.priorityQueue.packets.length))
      s.statics.priorityQueue.packets (send env h config s p).1.statics.priorityQueue.packets s
      (send env h config s p).1 p (send env h config s p).2 := by
  have hfst := Radio.outsideWindow_fst_eq env config s
  cases hopen : isOperationAllowed config (s.clock env)
  · have hc := Radio.outsideWindow_of_closed env config s (windowEnabled_of_not_allowed hopen) hopen
    simp only [send, hc, if_true, AdmissionPolicy.evaluate, Bool.false_eq_true, if_false]
    have hmode := WindowMode.ofNat?_eq_some hm
    cases m with
    | dropPackets => simp [Realizes, sendOutside, hmode]
    | receiveOnly => simp [Realizes, sendOutside, hmode, dropPackets, queuePackets, receiveOnly]
    | queuePackets =>
      have hq := enqueue_packets env h s.tick p
      have hacc : (enqueue env h s.tick p).2 = true ↔
          ¬s.statics.priorityQueue.maxQueueSize ≤ s.statics.priorityQueue.packets.length := by
        rw [Nat.not_le]; exact BoundedQueue.enqueue_accepts_iff h.toDiscipline _ p _
      simp only [sendOutside, hmode, dropPackets, queuePackets]
      by_cases hfull : s.statics.priorityQueue.maxQueueSize ≤ s.statics.priorityQueue.packets.length
      · have hrej : (enqueue env h s.tick p).2 = false := by simpa [hfull] using hacc
        simp [Realizes, hfull, hrej, hq]
      · simp [Realizes, hfull, hacc.2 hfull, hq]
        exact ⟨_, rfl⟩
  · have hP := attempts_prefix_preserved env h s.attempts
    have ho := hP.tick _ (hP.outsideWindow config s List.prefix_rfl)
    simp only [send, hfst, hopen, Bool.not_true, Bool.false_eq_true, if_false,
      AdmissionPolicy.evaluate, if_true, Realizes]
    apply Radio.sendPacket_last env k p
    split
    · exact hP.lastProcessTime _ _ (hP.processQueuedPackets config _ ho)
    · exact ho

end RadioInterfaceQueue

/-- Both `send`s that keep a queue carry out the design's admission verdict on their packet, from
every state, under every clock, radio and configuration whose mode is one of the enum: a packet
let through goes last to `sendPacket`, whose answer `send` returns; a queued one is pushed and
answered `ERRNO_OK`; a discarded one is released once and answered `ERRNO_NO_RADIO`. -/
theorem send_refines_admission_policy :
    (∀ (env : Env) (k : Platform) (config : Config) (s : Radio BoundedQueue) (p : Packet)
      (m : WindowMode), WindowMode.ofNat? config.lora.windowMode = some m →
      Realizes fifo.push
        (AdmissionPolicy.evaluate (isOperationAllowed config (s.clock env)) m
          (s.statics.maxQueueSize ≤ s.statics.packets.length))
        s.statics.packets (RadioInterface.send env k config s p).1.statics.packets s
        (RadioInterface.send env k config s p).1 p (RadioInterface.send env k config s p).2) ∧
    (∀ (env : Env) {k : Platform} (h : MaxDiscipline (entryPriority k)) (config : Config)
      (s : Radio QueueModule) (p : Packet) (m : WindowMode),
      WindowMode.ofNat? config.lora.windowMode = some m →
      Realizes h.push
        (AdmissionPolicy.evaluate (isOperationAllowed config (s.clock env)) m
          (s.statics.priorityQueue.maxQueueSize ≤ s.statics.priorityQueue.packets.length))
        s.statics.priorityQueue.packets
        (RadioInterfaceQueue.send env h config s p).1.statics.priorityQueue.packets s
        (RadioInterfaceQueue.send env h config s p).1 p
        (RadioInterfaceQueue.send env h config s p).2) :=
  ⟨fun env k config s p _ hm => RadioInterface.send_realizes env k config s p hm,
    fun env _ h config s p _ hm => RadioInterfaceQueue.send_realizes env h config s p hm⟩

/-- At midnight, outside the night window, the first packet is queued. -/
theorem send_refines_admission_policy_night :
    WindowMode.ofNat? Config.night.lora.windowMode = some .queuePackets ∧
    Realizes fifo.push .enqueue []
      (RadioInterface.send Env.midnight Platform.sample Config.night (RadioInterface.initial false)
        ⟨1, 8, false, 0, none⟩).1.statics.packets
      (RadioInterface.initial false)
      (RadioInterface.send Env.midnight Platform.sample Config.night (RadioInterface.initial false)
        ⟨1, 8, false, 0, none⟩).1 ⟨1, 8, false, 0, none⟩
      (RadioInterface.send Env.midnight Platform.sample Config.night (RadioInterface.initial false)
        ⟨1, 8, false, 0, none⟩).2 :=
  ⟨rfl, send_refines_admission_policy.1 Env.midnight Platform.sample Config.night
    (RadioInterface.initial false) ⟨1, 8, false, 0, none⟩ .queuePackets rfl⟩

end RadioWindow
