import RadioWindow.Admission

/-!
# Packet ownership in RadioInterface.cpp

Every other branch of `send` releases, queues or transmits its packet; the `default` branch of
the mode `switch` returns `ERRNO_INVALID_CONFIG` and does none of these, so the packet is lost.
The drain has the opposite slip: `sendPacket` itself releases a packet it refuses (radio
disabled, empty payload), and the drain then puts that packet back in the queue, from which a
later drain releases it again.
-/

namespace RadioWindow

namespace RadioInterface

variable (env : Env) (k : Platform)

theorem send_invalid_mode_loses_packet (config : Config) (s : Radio BoundedQueue) (p : Packet)
    (hen : config.windowEnabled = true) (hclosed : isOperationAllowed config (s.clock env) = false)
    (hmode : config.lora.windowMode ≠ dropPackets ∧ config.lora.windowMode ≠ queuePackets ∧
      config.lora.windowMode ≠ receiveOnly)
    (hfresh : p ∉ s.released ∧ p ∉ s.sent ∧ p ∉ s.statics.packets.map (·.packet)) :
    (send env k config s p).2 = .invalidConfig ∧ p ∉ (send env k config s p).1.released ∧
    p ∉ (send env k config s p).1.sent ∧
    p ∉ (send env k config s p).1.statics.packets.map (·.packet) := by
  rw [send_of_closed env k config s p hen hclosed]
  simp [sendOutside, hmode.1, hmode.2.1, hmode.2.2, hfresh]

end RadioInterface

/-- Ownership is not conserved by RadioInterface.cpp: from every state, a closed-window `send`
with a mode outside the three loses a packet held nowhere before, so with `window_mode` 3 the
packet handed to `send` is neither released, queued nor transmitted; and an empty packet
queued at night is released by the next drain and put back, so after two drains it has been
released twice. -/
theorem fifo_ownership_violated :
    (∀ (env : Env) (k : Platform) (config : Config) (s : Radio BoundedQueue) (p : Packet),
      config.windowEnabled = true → isOperationAllowed config (s.clock env) = false →
      config.lora.windowMode ≠ dropPackets ∧ config.lora.windowMode ≠ queuePackets ∧
        config.lora.windowMode ≠ receiveOnly →
      p ∉ s.released ∧ p ∉ s.sent ∧ p ∉ s.statics.packets.map (·.packet) →
      (RadioInterface.send env k config s p).2 = .invalidConfig ∧
        p ∉ (RadioInterface.send env k config s p).1.released ∧
        p ∉ (RadioInterface.send env k config s p).1.sent ∧
        p ∉ (RadioInterface.send env k config s p).1.statics.packets.map (·.packet)) ∧
    ((RadioInterface.send Env.midnight Platform.sample ⟨true, ⟨true, 21, 0, 23, 0, 3, 5, 3600⟩⟩
        (RadioInterface.initial false) ⟨1, 8, false, 0, none⟩).2 = .invalidConfig ∧
      (RadioInterface.send Env.midnight Platform.sample ⟨true, ⟨true, 21, 0, 23, 0, 3, 5, 3600⟩⟩
        (RadioInterface.initial false) ⟨1, 8, false, 0, none⟩).1.released = [] ∧
      (RadioInterface.send Env.midnight Platform.sample ⟨true, ⟨true, 21, 0, 23, 0, 3, 5, 3600⟩⟩
        (RadioInterface.initial false) ⟨1, 8, false, 0, none⟩).1.sent = [] ∧
      (RadioInterface.send Env.midnight Platform.sample ⟨true, ⟨true, 21, 0, 23, 0, 3, 5, 3600⟩⟩
        (RadioInterface.initial false) ⟨1, 8, false, 0, none⟩).1.statics.packets = []) ∧
    (RadioInterface.run Env.midnight Platform.sample (RadioInterface.initial false)
        [.send Config.night ⟨1, 0, false, 0, none⟩,
          .send ⟨true, ⟨true, 0, 0, 23, 0, 1, 5, 3600⟩⟩ ⟨2, 8, false, 0, none⟩]).released =
      [⟨1, 0, false, 0, none⟩] ∧
    ((RadioInterface.run Env.midnight Platform.sample (RadioInterface.initial false)
        [.send Config.night ⟨1, 0, false, 0, none⟩,
          .send ⟨true, ⟨true, 0, 0, 23, 0, 1, 5, 3600⟩⟩ ⟨2, 8, false, 0, none⟩]).statics.packets.map
        (·.packet)) = [⟨1, 0, false, 0, none⟩] ∧
    (RadioInterface.run Env.midnight Platform.sample (RadioInterface.initial false)
        [.send Config.night ⟨1, 0, false, 0, none⟩,
          .send ⟨true, ⟨true, 0, 0, 23, 0, 1, 5, 3600⟩⟩ ⟨2, 8, false, 0, none⟩,
          .send ⟨true, ⟨true, 0, 0, 23, 0, 1, 5, 3600⟩⟩ ⟨3, 8, false, 0, none⟩]).released =
      [⟨1, 0, false, 0, none⟩, ⟨1, 0, false, 0, none⟩] :=
  ⟨RadioInterface.send_invalid_mode_loses_packet, by decide⟩

end RadioWindow
