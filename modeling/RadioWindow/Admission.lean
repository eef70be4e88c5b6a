import RadioWindow.RadioInterface
import RadioWindow.RadioInterfaceQueue
import RadioWindow.RadioInterfaceTime

/-!
# Nothing is admitted while the window is closed

In each of the three implementations, a `send` made while the radio reads the window and the
clock says it is closed goes to the `switch` on the mode and to nothing else: no drain, no
`sendPacket`, no `sendTo`. Its queue gains at most the packet itself, and only in
`QUEUE_PACKETS` mode.
-/

namespace RadioWindow

/-- What a closed-window `send` may do to its queue: nothing, or add the packet with `push`,
which only `QUEUE_PACKETS` mode does. -/
def AppendsAtMost (push : QueuedPacket → List QueuedPacket → List QueuedPacket) (mode : Nat)
    (p : Packet) (before after : List QueuedPacket) : Prop :=
  (after = before ∨ mode = queuePackets ∧ ∃ t, after = push ⟨p, t⟩ before) ∧
  (mode = dropPackets ∨ mode = receiveOnly → after = before)

theorem appendsAtMost_of_or {push : QueuedPacket → List QueuedPacket → List QueuedPacket}
    {mode : Nat} {p : Packet} {before after : List QueuedPacket}
    (h : after = before ∨ mode = queuePackets ∧ ∃ t, after = push ⟨p, t⟩ before) :
    AppendsAtMost push mode p before after := by
  refine ⟨h, fun hm => h.resolve_right ?_⟩
  rintro ⟨rfl, -⟩
  simp [queuePackets, dropPackets, receiveOnly] at hm

/-- A `send` made while `config.has_lora` and `time_window_enabled` hold and
`isOperationAllowed()` is false reaches neither `sendPacket` nor `sendTo`, in each of the three
implementations, and its queue changes at most by gaining `p` in `QUEUE_PACKETS` mode. -/
theorem send_closed_admits_nothing (env : Env) (k : Platform)
    (h : MaxDiscipline (entryPriority k)) (config : Config) (p : Packet)
    (hlora : config.hasLora = true) (henabled : config.lora.timeWindowEnabled = true) :
    (∀ s : Radio BoundedQueue, isOperationAllowed config (s.clock env) = false →
      (RadioInterface.send env k config s p).1.attempts = s.attempts ∧
      (RadioInterface.send env k config s p).1.sent = s.sent ∧
      AppendsAtMost fifo.push config.lora.windowMode p s.statics.packets
        (RadioInterface.send env k config s p).1.statics.packets) ∧
    (∀ s : Radio QueueModule, isOperationAllowed config (s.clock env) = false →
      (RadioInterfaceQueue.send env h config s p).1.attempts = s.attempts ∧
      (RadioInterfaceQueue.send env h config s p).1.sent = s.sent ∧
      AppendsAtMost h.push config.lora.windowMode p s.statics.priorityQueue.packets
        (RadioInterfaceQueue.send env h config s p).1.statics.priorityQueue.packets) ∧
    (∀ (fuel : Nat) (s : Radio Unit), isOperationAllowed config (s.clock env) = false →
      ∃ r, RadioInterfaceTime.send env (fuel + 1) config s p = some r ∧
        r.1.attempts = s.attempts ∧ r.1.sent = s.sent ∧
        AppendsAtMost fifo.push config.lora.windowMode p s.packetQueue r.1.packetQueue) := by
  have hen : config.windowEnabled = true := by simp [Config.windowEnabled, hlora, henabled]
  refine ⟨fun s hc => ?_, fun s hc => ?_, fun fuel s hc => ?_⟩
  · obtain ⟨h1, h2, h3⟩ := RadioInterface.sendOutside_spec env config s.tick p
    rw [RadioInterface.send_of_closed env k config s p hen hc]
    exact ⟨h1, h2, appendsAtMost_of_or h3⟩
  · obtain ⟨h1, h2, h3⟩ := RadioInterfaceQueue.sendOutside_spec env h config s.tick p
    rw [RadioInterfaceQueue.send_of_closed env h config s p hen hc]
    exact ⟨h1, h2, appendsAtMost_of_or h3⟩
  · obtain ⟨h1, h2, h3⟩ := RadioInterfaceTime.sendOutside_spec env config s.tick p
    exact ⟨_, RadioInterfaceTime.send_of_closed env fuel config s p hen hc, h1, h2,
      appendsAtMost_of_or h3⟩

theorem send_closed_admits_nothing_night :
    Config.night.hasLora = true ∧ Config.night.lora.timeWindowEnabled = true ∧
    ((∀ s : Radio BoundedQueue, isOperationAllowed Config.night (s.clock Env.midnight) = false →
      (RadioInterface.send Env.midnight Platform.sample Config.night s
        ⟨1, 8, false, 0, none⟩).1.attempts = s.attempts ∧
      (RadioInterface.send Env.midnight Platform.sample Config.night s
        ⟨1, 8, false, 0, none⟩).1.sent = s.sent ∧
      AppendsAtMost fifo.push Config.night.lora.windowMode ⟨1, 8, false, 0, none⟩ s.statics.packets
        (RadioInterface.send Env.midnight Platform.sample Config.night s
          ⟨1, 8, false, 0, none⟩).1.statics.packets) ∧
    (∀ s : Radio QueueModule, isOperationAllowed Config.night (s.clock Env.midnight) = false →
      (RadioInterfaceQueue.send Env.midnight (firstMax (entryPriority Platform.sample))
        Config.night s ⟨1, 8, false, 0, none⟩).1.attempts = s.attempts ∧
      (RadioInterfaceQueue.send Env.midnight (firstMax (entryPriority Platform.sample))
        Config.night s ⟨1, 8, false, 0, none⟩).1.sent = s.sent ∧
      AppendsAtMost (firstMax (entryPriority Platform.sample)).push Config.night.lora.windowMode
        ⟨1, 8, false, 0, none⟩ s.statics.priorityQueue.packets
        (RadioInterfaceQueue.send Env.midnight (firstMax (entryPriority Platform.sample))
          Config.night s ⟨1, 8, false, 0, none⟩).1.statics.priorityQueue.packets) ∧
    (∀ (fuel : Nat) (s : Radio Unit),
      isOperationAllowed Config.night (s.clock Env.midnight) = false →
      ∃ r, RadioInterfaceTime.send Env.midnight (fuel + 1) Config.night s ⟨1, 8, false, 0, none⟩ =
          some r ∧
        r.1.attempts = s.attempts ∧ r.1.sent = s.sent ∧
        AppendsAtMost fifo.push Config.night.lora.windowMode ⟨1, 8, false, 0, none⟩ s.packetQueue
          r.1.packetQueue)) :=
  ⟨rfl, rfl, send_closed_admits_nothing Env.midnight Platform.sample
    (firstMax (entryPriority Platform.sample)) Config.night ⟨1, 8, false, 0, none⟩ rfl rfl⟩

end RadioWindow
