import RadioWindow.Conservation

/-!
# What a drain delivers when nothing fails

When nothing fails, the loop of RadioInterface.cpp has no reason to stop early: it has no
per-cycle budget, and each round hands the front entry to `sendTo`. So a drain with the window
enabled releases the expired packets, hands every other packet held to `sendTo` exactly once, in
the order they were queued, and leaves the queue empty.

The loop of RadioInterfaceQueue.cpp is budgeted. While its clock readings stay within 100 ms of
the cycle's start, only `MAX_PACKETS_PER_CYCLE` stops it: it hands to `sendTo` the first
`min(MAX_PACKETS_PER_CYCLE, n)` entries the container pops, in non-increasing priority since
eviction has just rebuilt it in order, and keeps the others, none of which outranks a packet
sent.
-/

namespace RadioWindow

namespace RadioInterface

variable (env : Env) (k : Platform) (henv : ∀ n, env.sendTo n = .ok)
include henv

theorem drainLoop_delivers :
    ∀ (n : Nat) (s : Radio BoundedQueue), Sound k s → s.statics.packets.length ≤ n →
      (drainLoop env k n s).statics.packets = [] ∧
      (drainLoop env k n s).sent = s.sent ++ s.statics.packets.map (·.packet) ∧
      (drainLoop env k n s).released = s.released
  | 0, s, _, hn => by
    have hl : s.statics.packets = [] := List.length_eq_zero.1 (Nat.le_zero.1 hn)
    simp [drainLoop, hl]
  | n + 1, s, hs, hn => by
    cases hl : s.statics.packets with
    | nil => simp [drainLoop, hl]
    | cons e r =>
      obtain ⟨hd, hr, -⟩ := dequeue_of_cons env s hl
      obtain ⟨hok, hsent, hrel⟩ := Radio.sendPacket_of_transmittable env k (dequeue env s).1
        (by simpa using hs.1) (hs.2 e (hl ▸ List.mem_cons_self _ _)) henv
      have heq : drainLoop env k (n + 1) s =
          drainLoop env k n (Radio.sendPacket env k (dequeue env s).1 e.packet).1 := by
        simp [drainLoop, hl, hd, hok]
      have ht : Sound k (Radio.sendPacket env k (dequeue env s).1 e.packet).1 :=
        ⟨by simpa using hs.1, fun x hx => hs.2 x (by
          simp only [Radio.sendPacket_statics, hr] at hx; exact hl ▸ List.mem_cons_of_mem _ hx)⟩
      obtain ⟨h1, h2, h3⟩ := drainLoop_delivers n _ ht (by
        simp only [Radio.sendPacket_statics, hr]; rw [hl, List.length_cons] at hn; omega)
      rw [heq]
      refine ⟨h1, ?_, by rw [h3, hrel, dequeue_released]⟩
      simp only [h2, hsent, Radio.sendPacket_statics, hr, dequeue_sent, List.map_cons,
        List.append_assoc, List.singleton_append]

end RadioInterface

/-- With the window enabled, `sendTo` answering `ERRNO_OK` and only transmittable packets held,
`processQueuedPackets` of RadioInterface.cpp releases the expired packets, hands every other
packet held to `sendTo` exactly once, in the order they were queued, and leaves the queue
empty. -/
theorem fifo_drain_delivers_in_order :
    ∀ (env : Env) (k : Platform) (config : Config) (s : Radio BoundedQueue),
      config.hasLora = true → config.lora.timeWindowEnabled = true →
      (∀ n, env.sendTo n = .ok) → RadioInterface.Sound k s →
      let expired := isExpiredAt (s.clock env) (word (s.statics.packetExpirySeconds * 1000))
      let t := RadioInterface.processQueuedPackets env k config s
      t.statics.packets = [] ∧
      t.sent = s.sent ++ (s.statics.packets.filter (fun e => !expired e)).map (·.packet) ∧
      t.released = s.released ++ (s.statics.packets.filter expired).map (·.packet) := by
  intro env k config s hlora hen henv hs
  obtain ⟨h1, h2, -⟩ := PacketQueue.cleanExpired_spec s.statics (s.clock env)
  obtain ⟨-, hsub⟩ := RadioInterface.owned_cleanExpired env s
  obtain ⟨d1, d2, d3⟩ := RadioInterface.drainLoop_delivers env k henv _
    (RadioInterface.cleanExpired env s) ⟨hs.1, fun e he => hs.2 e (hsub he)⟩ le_rfl
  simp only [RadioInterface.processQueuedPackets, hlora, hen, Bool.not_true, Bool.or_false,
    Bool.false_eq_true, if_false]
  refine ⟨d1, ?_, ?_⟩
  · rw [d2]
    simp only [RadioInterface.cleanExpired, Radio.release_sent, Radio.tick_sent, h1]
  · rw [d3]
    simp only [RadioInterface.cleanExpired, Radio.release_released, Radio.tick_released, h2]

/-- Two packets queued at night both go out when the drain runs, the first queued first. -/
theorem fifo_drain_delivers_in_order_night :
    Config.night.hasLora = true ∧ Config.night.lora.timeWindowEnabled = true ∧
    (∀ n, Env.midnight.sendTo n = .ok) ∧
    RadioInterface.Sound Platform.sample
      (RadioInterface.run Env.midnight Platform.sample (RadioInterface.initial false)
        [.send Config.night ⟨1, 8, false, 0, none⟩, .send Config.night ⟨2, 8, false, 0, none⟩]) ∧
    (RadioInterface.processQueuedPackets Env.midnight Platform.sample Config.night
      (RadioInterface.run Env.midnight Platform.sample (RadioInterface.initial false)
        [.send Config.night ⟨1, 8, false, 0, none⟩,
          .send Config.night ⟨2, 8, false, 0, none⟩])).statics.packets = [] ∧
    (RadioInterface.processQueuedPackets Env.midnight Platform.sample Config.night
      (RadioInterface.run Env.midnight Platform.sample (RadioInterface.initial false)
        [.send Config.night ⟨1, 8, false, 0, none⟩,
          .send Config.night ⟨2, 8, false, 0, none⟩])).sent =
      [] ++ [⟨1, 8, false, 0, none⟩, ⟨2, 8, false, 0, none⟩] ∧
    (RadioInterface.processQueuedPackets Env.midnight Platform.sample Config.night
      (RadioInterface.run Env.midnight Platform.sample (RadioInterface.initial false)
        [.send Config.night ⟨1, 8, false, 0, none⟩,
          .send Config.night ⟨2, 8, false, 0, none⟩])).released = [] ++ [] :=
  ⟨rfl, rfl, fun _ => rfl, by decide,
    fifo_drain_delivers_in_order _ _ _ _ rfl rfl (fun _ => rfl) (by decide)⟩

namespace RadioInterfaceQueue

variable (env : Env) {k : Platform} (h : MaxDiscipline (entryPriority k))
  (henv : ∀ n, env.sendTo n = .ok)
include henv

theorem drainLoop_sends_top (startTime : Nat) :
    ∀ (n processed : Nat) (s : Radio QueueModule), Sound k s →
      h.Ordered s.statics.priorityQueue.packets → s.statics.priorityQueue.packets.length ≤ n →
      (∀ j, s.ticks ≤ j → j < s.ticks + 2 * n → wsub (word (env.millis j)) startTime < 100) →
      let m := min (k.maxPacketsPerCycle - processed) s.statics.priorityQueue.packets.length
      let t := drainLoop env h startTime n processed s
      t.sent = s.sent ++ (h.popOrder m s.statics.priorityQueue.packets).map (·.packet) ∧
        t.statics.priorityQueue.packets.length = s.statics.priorityQueue.packets.length - m ∧
        (∀ x ∈ t.statics.priorityQueue.packets, ∀ y ∈ h.popOrder m s.statics.priorityQueue.packets,
          entryPriority k x ≤ entryPriority k y) ∧
        t.statics.priorityQueue.packets ⊆ s.statics.priorityQueue.packets ∧
        t.released = s.released
  | 0, processed, s, _, _, hn, _ => by
    have hl : s.statics.priorityQueue.packets = [] := List.length_eq_zero.1 (Nat.le_zero.1 hn)
    simp [drainLoop, hl, Discipline.popOrder]
  | n + 1, processed, s, hs, ho, hn, hfast => by
    by_cases hl : s.statics.priorityQueue.packets = []
    · simp [drainLoop, hl, Discipline.popOrder]
    have htime : wsub (s.clock env) startTime < 100 := hfast s.ticks le_rfl (by omega)
    by_cases hmax : processed < k.maxPacketsPerCycle
    swap
    · have heq : drainLoop env h startTime (n + 1) processed s = s.tick := by
        simp [drainLoop, hl, hmax]
      have hm : min (k.maxPacketsPerCycle - processed) s.statics.priorityQueue.packets.length = 0 :=
        by omega
      simp [heq, hm, Discipline.popOrder]
    obtain ⟨⟨e, r⟩, hpop⟩ := Option.ne_none_iff_exists'.1 (mt (h.pop_eq_none _).1 hl)
    obtain ⟨hd, hr, -, -, hdt⟩ := dequeue_of_pop env h s.tick hpop
    have he : e ∈ s.statics.priorityQueue.packets :=
      (h.pop_perm hpop).symm.subset (List.mem_cons_self _ _)
    have hsub : r ⊆ s.statics.priorityQueue.packets := fun x hx =>
      (h.pop_perm hpop).symm.subset (List.mem_cons_of_mem _ hx)
    obtain ⟨hok, hsent, hrel⟩ := Radio.sendPacket_of_transmittable env k (dequeue env h s.tick).1
      (by simpa using hs.1) (hs.2 e he) henv
    have hts := Radio.sendPacket_statics env k (dequeue env h s.tick).1 e.packet
    have htk :
        (Radio.sendPacket env k (dequeue env h s.tick).1 e.packet).1.ticks = s.ticks + 2 := by
      rw [Radio.sendPacket_ticks, hdt]; rfl
    have heq : drainLoop env h startTime (n + 1) processed s =
        drainLoop env h startTime n (processed + 1)
          (countSent (decide (k.lastPriority e.packet > 2))
            (Radio.sendPacket env k (dequeue env h s.tick).1 e.packet).1) := by
      simp [drainLoop, hl, htime, hmax, hd, hok]
    have hlen := h.length_pop hpop
    obtain ⟨h1, h2, h3, h4, h5⟩ := drainLoop_sends_top startTime n (processed + 1)
      (countSent (decide (k.lastPriority e.packet > 2))
        (Radio.sendPacket env k (dequeue env h s.tick).1 e.packet).1)
      ((sound_countSent _ _).2 ⟨by simpa using hs.1, fun x hx => hs.2 x (hsub (by
        simpa [hts, hr] using hx))⟩)
      (by simp only [countSent_priorityQueue, hts, hr]; exact h.pop_ordered ho hpop)
      (by simp only [countSent_priorityQueue, hts, hr]; omega)
      (fun j hj1 hj2 => hfast j (by simp only [countSent_ticks, htk] at hj1; omega)
        (by simp only [countSent_ticks, htk] at hj1 hj2; omega))
    simp only [countSent_priorityQueue, countSent_sent, countSent_released, hts, hr]
      at h1 h2 h3 h4 h5
    have hm : min (k.maxPacketsPerCycle - processed) s.statics.priorityQueue.packets.length =
        min (k.maxPacketsPerCycle - (processed + 1)) r.length + 1 := by omega
    rw [heq, hm]
    simp only [Discipline.popOrder, hpop]
    refine ⟨?_, by rw [h2]; omega, fun x hx y hy => ?_, fun x hx => hsub (h4 hx), ?_⟩
    · rw [h1, hsent, dequeue_sent]
      simp
    · rcases List.mem_cons.1 hy with rfl | hy
      · exact h.pop_max ho hpop x (h4 hx)
      · exact h3 x hx y hy
    · rw [h5, hrel, dequeue_released, Radio.tick_released]

/-- With the window enabled, `sendTo` answering `ERRNO_OK`, only transmittable packets held and
every clock reading of the cycle within 100 ms of its start, `processQueuedPackets` of
RadioInterfaceQueue.cpp hands to `sendTo` the first `min(MAX_PACKETS_PER_CYCLE, n)` of the `n`
entries eviction leaves, in the container's pop order and so in non-increasing priority; it
keeps the others, none of which outranks a packet sent, and releases nothing beyond eviction. -/
theorem drain_sends_top_priorities (config : Config) (s : Radio QueueModule)
    (hen : config.windowEnabled = true) (hs : Sound k s)
    (hfast : let c := cleanExpired env h s
      ∀ j, c.ticks < j → j ≤ c.ticks + 2 * c.statics.priorityQueue.packets.length →
        wsub (word (env.millis j)) (c.clock env) < 100) :
    let held := (cleanExpired env h s).statics.priorityQueue.packets
    let sentNow := h.popOrder (min k.maxPacketsPerCycle held.length) held
    let t := processQueuedPackets env h config s
    t.sent = s.sent ++ sentNow.map (·.packet) ∧
      sentNow.Pairwise (fun a b => entryPriority k b ≤ entryPriority k a) ∧
      t.statics.priorityQueue.packets.length = held.length - min k.maxPacketsPerCycle held.length ∧
      (∀ x ∈ t.statics.priorityQueue.packets, ∀ y ∈ sentNow,
        entryPriority k x ≤ entryPriority k y) ∧
      t.statics.priorityQueue.packets ⊆ held ∧
      t.released = (cleanExpired env h s).released := by
  have hsc : Sound k (cleanExpired env h s).tick :=
    ⟨hs.1, fun e he => hs.2 e ((owned_cleanExpired env h s).2 he)⟩
  have ho : h.Ordered (cleanExpired env h s).tick.statics.priorityQueue.packets :=
    PriorityPacketQueue.cleanExpired_ordered h _ _
  obtain ⟨h1, h2, h3, h4, h5⟩ := drainLoop_sends_top env h henv ((cleanExpired env h s).clock env)
    _ 0 _ hsc ho le_rfl fun j hj1 hj2 => hfast j hj1 (by simp only [Radio.tick] at hj2; omega)
  rw [Nat.sub_zero] at h1 h2 h3
  rw [processQueuedPackets_eq, if_pos hen]
  exact ⟨h1, h.popOrder_sorted _ ho, h2, h3, h4, h5⟩

end RadioInterfaceQueue

/-- Of five packets of distinct priorities queued at night, a drain sends the four of highest
priority, highest first (scores 6, 4, 3, 2), and keeps the plain one. -/
theorem drain_sends_top_priorities_night :
    let h := firstMax (entryPriority Platform.sample)
    let s := RadioInterfaceQueue.run Env.midnight h (RadioInterfaceQueue.initial false)
      [.send Config.night ⟨1, 8, false, 0, none⟩, .send Config.night ⟨2, 8, true, 70, none⟩,
        .send Config.night ⟨3, 8, false, 120, none⟩, .send Config.night ⟨4, 8, false, 0, some 3⟩,
        .send Config.night ⟨5, 8, false, 70, none⟩]
    let k := Platform.sample
    let held := (RadioInterfaceQueue.cleanExpired Env.midnight h s).statics.priorityQueue.packets
    let sentNow := h.popOrder (min k.maxPacketsPerCycle held.length) held
    let t := RadioInterfaceQueue.processQueuedPackets Env.midnight h Config.night s
    Config.night.windowEnabled = true ∧ (∀ n, Env.midnight.sendTo n = .ok) ∧
    RadioInterfaceQueue.Sound k s ∧
    (t.sent = s.sent ++ sentNow.map (·.packet) ∧
      sentNow.Pairwise (fun a b => entryPriority k b ≤ entryPriority k a) ∧
      t.statics.priorityQueue.packets.length = held.length - min k.maxPacketsPerCycle held.length ∧
      (∀ x ∈ t.statics.priorityQueue.packets, ∀ y ∈ sentNow,
        entryPriority k x ≤ entryPriority k y) ∧
      t.statics.priorityQueue.packets ⊆ held ∧
      t.released = (RadioInterfaceQueue.cleanExpired Env.midnight h s).released) ∧
    t.sent.map (·.id) = [2, 5, 3, 4] :=
  ⟨rfl, fun _ => rfl, by decide,
    RadioInterfaceQueue.drain_sends_top_priorities Env.midnight _ (fun _ => rfl) Config.night _ rfl
      (by decide) (fun _ _ _ => show wsub (word 0) (word 0) < 100 by decide),
    by decide⟩

end RadioWindow
