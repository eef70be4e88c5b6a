import RadioWindow.RadioInterface
import RadioWindow.RadioInterfaceQueue
import RadioWindow.RadioInterfaceTime

/-!
# `canSleep` and the queue `send` fills

`canSleep` of RadioInterface.h asks whether the class member `packetQueue` is empty. Only
RadioInterfaceTime.cpp queues into that member, and there a queued packet keeps the radio
awake. RadioInterface.cpp and RadioInterfaceQueue.cpp queue into a queue of their own file and
never touch the member, so from the start it stays empty and `canSleep` answers true whatever
their queues hold.
-/

namespace RadioWindow

namespace RadioInterface

variable (env : Env) (k : Platform)

theorem packetQueue_preserved (Q : List QueuedPacket) :
    Preserved env k (fun s => s.packetQueue = Q) where
  tick _ h := h
  release _ _ h := h
  enqueue _ _ h := h
  dequeue _ h := h
  cleanExpired _ h := h
  sendPacket s p h := (Radio.sendPacket_packetQueue env k s p).trans h

theorem run_packetQueue (s : Radio BoundedQueue) (evs : List Event) :
    (run env k s evs).packetQueue = s.packetQueue :=
  (packetQueue_preserved env k _).run (fun _ h => h) evs s rfl

end RadioInterface

namespace RadioInterfaceQueue

variable (env : Env) {k : Platform} (h : MaxDiscipline (entryPriority k))

theorem packetQueue_preserved (Q : List QueuedPacket) :
    Preserved env h (fun s => s.packetQueue = Q) where
  tick _ hs := hs
  release _ _ hs := hs
  countDrop _ hs := hs
  countSent _ _ hs := by unfold countSent; split <;> exact hs
  enqueue _ _ hs := hs
  dequeue _ hs := hs
  cleanExpired _ hs := hs
  sendPacket s p hs := (Radio.sendPacket_packetQueue env k s p).trans hs
  lastProcessTime _ _ hs := hs

theorem run_packetQueue (s : Radio QueueModule) (evs : List Event) :
    (run env h s evs).packetQueue = s.packetQueue :=
  (packetQueue_preserved env h _).run evs s (fun _ _ hs => hs) rfl

end RadioInterfaceQueue

/-- `canSleep` follows the queue `send` fills only in RadioInterfaceTime.cpp, where a packet
queued outside the window keeps the radio awake. After any sequence of calls from the start,
RadioInterface.cpp and RadioInterfaceQueue.cpp answer true whatever their queues hold. -/
theorem canSleep_reads_member_queue (env : Env) (k : Platform)
    (h : MaxDiscipline (entryPriority k)) (disabled : Bool) (evs : List Event) :
    Radio.canSleep (RadioInterface.run env k (RadioInterface.initial disabled) evs) = true ∧
    Radio.canSleep (RadioInterfaceQueue.run env h (RadioInterfaceQueue.initial disabled) evs) =
      true ∧
    ∀ (fuel : Nat) (config : Config) (s : Radio Unit) (p : Packet), config.windowEnabled = true →
      isOperationAllowed config (s.clock env) = false → config.lora.windowMode = queuePackets →
      s.packetQueue.length < config.lora.windowQueueSize →
      ∃ r, RadioInterfaceTime.send env (fuel + 1) config s p = some r ∧
        Radio.canSleep r.1 = false := by
  refine ⟨?_, ?_, fun fuel config s p hen hclosed hmode hroom => ?_⟩
  · simp [Radio.canSleep, RadioInterface.run_packetQueue, RadioInterface.initial]
  · simp [Radio.canSleep, RadioInterfaceQueue.run_packetQueue, RadioInterfaceQueue.initial]
  · refine ⟨_, RadioInterfaceTime.send_of_closed env fuel config s p hen hclosed, ?_⟩
    simp [RadioInterfaceTime.sendOutside, Radio.canSleep, hmode, dropPackets, queuePackets,
      Nat.not_le.2 hroom]

/-- At midnight the night configuration makes RadioInterfaceTime.cpp queue a packet into an
empty member queue, and the radio then stays awake. -/
theorem canSleep_reads_member_queue_midnight :
    Config.night.windowEnabled = true ∧
    isOperationAllowed Config.night
      ((⟨(), [], false, 0, [], [], []⟩ : Radio Unit).clock Env.midnight) = false ∧
    Config.night.lora.windowMode = queuePackets ∧
    (⟨(), [], false, 0, [], [], []⟩ : Radio Unit).packetQueue.length <
      Config.night.lora.windowQueueSize ∧
    ∃ r, RadioInterfaceTime.send Env.midnight 1 Config.night ⟨(), [], false, 0, [], [], []⟩
      ⟨1, 8, false, 0, none⟩ = some r ∧ Radio.canSleep r.1 = false :=
  ⟨by decide, by decide, rfl, by decide,
    (canSleep_reads_member_queue Env.midnight Platform.sample (firstMax _) false []).2.2 0
      Config.night _ _ (by decide) (by decide) rfl (by decide)⟩

/-- At midnight the night configuration makes RadioInterfaceQueue.cpp queue a packet, and the
radio still reports that it can sleep. -/
theorem can_sleep_with_packet_queued :
    RadioInterfaceQueue.getQueueSize (RadioInterfaceQueue.run Env.midnight
      (firstMax (entryPriority Platform.sample)) (RadioInterfaceQueue.initial false)
      [.send Config.night ⟨1, 8, false, 0, none⟩]) = 1 ∧
    Radio.canSleep (RadioInterfaceQueue.run Env.midnight
      (firstMax (entryPriority Platform.sample)) (RadioInterfaceQueue.initial false)
      [.send Config.night ⟨1, 8, false, 0, none⟩]) = true := by
  decide

end RadioWindow
