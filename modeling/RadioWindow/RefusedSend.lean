import RadioWindow.Conservation
import RadioWindow.Metrics

/-!
# What the radio does with a packet `sendPacket` refuses

`sendPacket` gives a packet back to the pool when the radio is disabled or the packet has no
payload, and answers an error. The drains of RadioInterface.cpp and RadioInterfaceQueue.cpp
take any error for a failed send and push the packet back into their queue, so a packet the
pool has taken back stays queued: such a drain adds a copy of the packet to what the radio
owns, and RadioInterfaceQueue.cpp does not count the release as a drop. After `disable()`
nothing reaches `sendTo` any more, along every run of either file.
-/

namespace RadioWindow

/-- `RadioInterface::disable()`: `disabled = true`, then the base `sleep()`, which does
nothing. -/
def Radio.disable {σ : Type} (s : Radio σ) : Radio σ := { s with disabled := true }

theorem Radio.sendPacket_refused {σ : Type} (env : Env) (k : Platform) (s : Radio σ) (p : Packet)
    (hrefuse : s.disabled = true ∨ p.payloadlen = 0) :
    (Radio.sendPacket env k s p).2 ≠ .ok ∧
      (Radio.sendPacket env k s p).1.released = s.released ++ [p] ∧
      (Radio.sendPacket env k s p).1.sent = s.sent := by
  rcases hrefuse with hd | hp
  · simp [Radio.sendPacket, Radio.sendPacketBody, hd]
  · by_cases hd : s.disabled <;> simp [Radio.sendPacket, Radio.sendPacketBody, hd, hp]

namespace RadioInterface

variable (env : Env) (k : Platform)

theorem sent_preserved_of_disabled (S : List Packet) :
    Preserved env k (fun t => t.disabled = true ∧ t.sent = S) where
  tick _ h := h
  release _ _ h := h
  enqueue _ _ h := h
  dequeue _ h := h
  cleanExpired _ h := h
  sendPacket s p h := ⟨by rw [Radio.sendPacket_disabled]; exact h.1,
    (Radio.sendPacket_refused env k s p (.inl h.1)).2.2.trans h.2⟩

theorem drain_refused (config : Config) (s : Radio BoundedQueue) (e : QueuedPacket)
    (rest : List QueuedPacket) (hen : config.windowEnabled = true)
    (hq : (cleanExpired env s).statics.packets = e :: rest)
    (hrefuse : s.disabled = true ∨ e.packet.payloadlen = 0) :
    (processQueuedPackets env k config s).released =
        (cleanExpired env s).released ++ [e.packet] ∧
      (∃ t, (processQueuedPackets env k config s).statics.packets = rest ++ [⟨e.packet, t⟩]) ∧
      (owned (processQueuedPackets env k config s)).Perm (owned s ++ [e.packet]) := by
  obtain ⟨hd, hr, hmax⟩ := dequeue_of_cons env _ hq
  obtain ⟨hok, hrel, hsent⟩ := Radio.sendPacket_refused env k (dequeue env (cleanExpired env s)).1
    e.packet (by simpa [cleanExpired] using hrefuse)
  have hts := Radio.sendPacket_statics env k (dequeue env (cleanExpired env s)).1 e.packet
  have hsize := (cleanExpired env s).statics.size_le
  rw [hq] at hsize
  obtain ⟨hacc, hpk⟩ := enqueue_of_lt env (Radio.sendPacket env k
    (dequeue env (cleanExpired env s)).1 e.packet).1 e.packet
    (by simp only [hts, hr, hmax, List.length_cons] at hsize ⊢; omega)
  have heq : processQueuedPackets env k config s = (enqueue env (Radio.sendPacket env k
      (dequeue env (cleanExpired env s)).1 e.packet).1 e.packet).1 := by
    rw [processQueuedPackets_eq, if_pos hen, hq, List.length_cons]
    simp [drainLoop, hq, hd, hok, hacc]
  have hown := (owned_cleanExpired env s).1
  rw [heq]
  refine ⟨by rw [enqueue_released, hrel, dequeue_released], ⟨_, by rw [hpk, hts, hr]⟩,
    (List.perm_iff_count.2 fun a => ?_).trans (hown.append_right _)⟩
  simp only [owned, hpk, hts, hr, enqueue_released, enqueue_sent, hrel, hsent, dequeue_released,
    dequeue_sent, hq, List.map_append, List.map_cons, List.map_nil, List.count_append,
    List.count_cons, List.count_nil]
  omega

end RadioInterface

namespace RadioInterfaceQueue

variable (env : Env) {k : Platform} (h : MaxDiscipline (entryPriority k))

theorem sent_preserved_of_disabled (S : List Packet) :
    Preserved env h (fun t => t.disabled = true ∧ t.sent = S) where
  tick _ hs := hs
  release _ _ hs := hs
  countDrop _ hs := hs
  countSent _ _ hs := by rw [countSent_disabled, countSent_sent]; exact hs
  enqueue _ _ hs := hs
  dequeue _ hs := hs
  cleanExpired _ hs := hs
  sendPacket s p hs := ⟨by rw [Radio.sendPacket_disabled]; exact hs.1,
    (Radio.sendPacket_refused env k s p (.inl hs.1)).2.2.trans hs.2⟩
  lastProcessTime _ _ hs := hs

theorem drain_refused (config : Config) (s : Radio QueueModule) (e : QueuedPacket)
    (rest : List QueuedPacket) (hen : config.windowEnabled = true)
    (hpop : h.pop (cleanExpired env h s).statics.priorityQueue.packets = some (e, rest))
    (htime : wsub ((cleanExpired env h s).tick.clock env) ((cleanExpired env h s).clock env) < 100)
    (hbudget : 0 < k.maxPacketsPerCycle)
    (hrefuse : s.disabled = true ∨ e.packet.payloadlen = 0) :
    (processQueuedPackets env h config s).released =
        (cleanExpired env h s).released ++ [e.packet] ∧
      (∃ t, (processQueuedPackets env h config s).statics.priorityQueue.packets =
        h.push ⟨e.packet, t⟩ rest) ∧
      (processQueuedPackets env h config s).statics.metrics = s.statics.metrics ∧
      (owned (processQueuedPackets env h config s)).Perm (owned s ++ [e.packet]) := by
  obtain ⟨hd, hr, hmax, -⟩ := dequeue_of_pop env h (cleanExpired env h s).tick.tick hpop
  obtain ⟨hok, hrel, hsent⟩ := Radio.sendPacket_refused env k
    (dequeue env h (cleanExpired env h s).tick.tick).1 e.packet
    (by simpa [cleanExpired] using hrefuse)
  have hts := Radio.sendPacket_statics env k (dequeue env h (cleanExpired env h s).tick.tick).1
    e.packet
  have hlen := h.length_pop hpop
  have hsize := (cleanExpired env h s).statics.priorityQueue.size_le
  obtain ⟨hacc, hpk⟩ := enqueue_of_lt env h (Radio.sendPacket env k
    (dequeue env h (cleanExpired env h s).tick.tick).1 e.packet).1 e.packet
    (by simp only [hts, hr, hmax, Radio.tick_statics]; omega)
  have hne : (cleanExpired env h s).statics.priorityQueue.packets ≠ [] := fun hnil =>
    absurd (hnil ▸ hpop) (by simp)
  have heq : processQueuedPackets env h config s = (enqueue env h (Radio.sendPacket env k
      (dequeue env h (cleanExpired env h s).tick.tick).1 e.packet).1 e.packet).1 := by
    rw [processQueuedPackets_eq, if_pos hen, hlen]
    simp [drainLoop, hne, htime, hbudget, hd, hok, hacc]
  have hown := (owned_cleanExpired env h s).1
  have hperm := (h.push_perm ⟨e.packet, (Radio.sendPacket env k
    (dequeue env h (cleanExpired env h s).tick.tick).1 e.packet).1.clock env⟩ rest).map
    (·.packet)
  have hpop' := (h.pop_perm hpop).map (·.packet)
  rw [heq]
  refine ⟨by rw [enqueue_released, hrel, dequeue_released]; rfl,
    ⟨_, by rw [hpk, hts, hr]⟩, by simp [hts], ?_⟩
  refine (List.perm_iff_count.2 fun a => ?_).trans (hown.append_right _)
  have h1 := hperm.count_eq a
  have h2 := hpop'.count_eq a
  simp only [owned, hpk, hts, hr, enqueue_released, enqueue_sent, hrel, hsent, dequeue_released,
    dequeue_sent, Radio.tick_released, Radio.tick_sent, Radio.tick_statics, List.map_cons,
    List.count_append, List.count_cons, List.count_nil] at h1 h2 ⊢
  omega

end RadioInterfaceQueue

/-- In either file, a drain whose first packet `sendPacket` refuses (the radio is disabled, or
the packet has no payload) hands it back to the pool and puts it back into the queue, so the
radio owns one copy more than before; RadioInterfaceQueue.cpp, within its cycle budget, also
leaves its metrics as they were, so the release is not counted as a drop. -/
theorem refused_packet_stays_queued :
    (∀ (env : Env) (k : Platform) (config : Config) (s : Radio BoundedQueue) (e : QueuedPacket)
      (rest : List QueuedPacket), config.windowEnabled = true →
      (RadioInterface.cleanExpired env s).statics.packets = e :: rest →
      (s.disabled = true ∨ e.packet.payloadlen = 0) →
      (RadioInterface.processQueuedPackets env k config s).released =
          (RadioInterface.cleanExpired env s).released ++ [e.packet] ∧
        (∃ t, (RadioInterface.processQueuedPackets env k config s).statics.packets =
          rest ++ [⟨e.packet, t⟩]) ∧
        (RadioInterface.owned (RadioInterface.processQueuedPackets env k config s)).Perm
          (RadioInterface.owned s ++ [e.packet])) ∧
    (∀ (env : Env) {k : Platform} (h : MaxDiscipline (entryPriority k)) (config : Config)
      (s : Radio QueueModule) (e : QueuedPacket) (rest : List QueuedPacket),
      config.windowEnabled = true →
      h.pop (RadioInterfaceQueue.cleanExpired env h s).statics.priorityQueue.packets =
        some (e, rest) →
      wsub ((RadioInterfaceQueue.cleanExpired env h s).tick.clock env)
        ((RadioInterfaceQueue.cleanExpired env h s).clock env) < 100 →
      0 < k.maxPacketsPerCycle → (s.disabled = true ∨ e.packet.payloadlen = 0) →
      (RadioInterfaceQueue.processQueuedPackets env h config s).released =
          (RadioInterfaceQueue.cleanExpired env h s).released ++ [e.packet] ∧
        (∃ t,
          (RadioInterfaceQueue.processQueuedPackets env h config s).statics.priorityQueue.packets =
            h.push ⟨e.packet, t⟩ rest) ∧
        (RadioInterfaceQueue.processQueuedPackets env h config s).statics.metrics =
          s.statics.metrics ∧
        (RadioInterfaceQueue.owned (RadioInterfaceQueue.processQueuedPackets env h config s)).Perm
          (RadioInterfaceQueue.owned s ++ [e.packet])) :=
  ⟨RadioInterface.drain_refused, fun env _ h => RadioInterfaceQueue.drain_refused env h⟩

/-- A packet with no payload, queued at night, is released by the first drain once the window
is open, and is still queued after it. -/
theorem refused_packet_stays_queued_empty_payload :
    let s := RadioInterface.run Env.midnight Platform.sample (RadioInterface.initial false)
      [.send Config.night ⟨1, 0, false, 0, none⟩]
    let config : Config := ⟨true, ⟨true, 0, 0, 23, 0, 1, 5, 3600⟩⟩
    config.windowEnabled = true ∧
    (RadioInterface.cleanExpired Env.midnight s).statics.packets =
      [⟨⟨1, 0, false, 0, none⟩, 0⟩] ∧
    ((RadioInterface.processQueuedPackets Env.midnight Platform.sample config s).released =
        (RadioInterface.cleanExpired Env.midnight s).released ++ [⟨1, 0, false, 0, none⟩] ∧
      (∃ t, (RadioInterface.processQueuedPackets Env.midnight Platform.sample config
        s).statics.packets = [] ++ [⟨⟨1, 0, false, 0, none⟩, t⟩]) ∧
      (RadioInterface.owned (RadioInterface.processQueuedPackets Env.midnight Platform.sample config
        s)).Perm (RadioInterface.owned s ++ [⟨1, 0, false, 0, none⟩])) :=
  ⟨rfl, by decide, refused_packet_stays_queued.1 Env.midnight Platform.sample
    ⟨true, ⟨true, 0, 0, 23, 0, 1, 5, 3600⟩⟩
    (RadioInterface.run Env.midnight Platform.sample (RadioInterface.initial false)
      [.send Config.night ⟨1, 0, false, 0, none⟩])
    ⟨⟨1, 0, false, 0, none⟩, 0⟩ [] rfl (by decide) (.inr rfl)⟩

/-- After `disable()`, whatever the calls, the clock, the configurations and the platform,
neither file hands another packet to `sendTo`. -/
theorem disabled_radio_sends_nothing :
    (∀ (env : Env) (k : Platform) (s : Radio BoundedQueue) (evs : List Event),
      (RadioInterface.run env k (Radio.disable s) evs).sent = s.sent) ∧
    (∀ (env : Env) {k : Platform} (h : MaxDiscipline (entryPriority k)) (s : Radio QueueModule)
      (evs : List Event), (RadioInterfaceQueue.run env h (Radio.disable s) evs).sent = s.sent) :=
  ⟨fun env k s evs => ((RadioInterface.sent_preserved_of_disabled env k s.sent).run
      (fun _ hs => hs) evs (Radio.disable s) ⟨rfl, rfl⟩).2,
   fun env _ h s evs => ((RadioInterfaceQueue.sent_preserved_of_disabled env h s.sent).run evs
      (Radio.disable s) (fun _ _ hs => hs) ⟨rfl, rfl⟩).2⟩

end RadioWindow
