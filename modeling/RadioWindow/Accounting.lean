import RadioWindow.Conservation

/-!
# Every packet RadioInterfaceQueue.cpp releases is counted

RadioInterfaceQueue.cpp releases a packet to the pool in four places: a drop outside the window
(`DROP_PACKETS`, `RECEIVE_ONLY`, or a full queue under `QUEUE_PACKETS`), a failed re-enqueue in
the drain, an eviction, and `clearPacketQueue`. The first two increment `metrics.dropCount`, an
eviction increments the queue's `expiredPackets`, and `clearPacketQueue` resets the metrics.
`sendPacket` releases too, but only a packet with no payload or on a disabled radio. So along
every run of an enabled radio without a clear, whatever `sendTo` answers and whatever modes the
configurations hold, as long as each packet handed to `send` has a payload, the packets released
are exactly those counted as drops or expiries.
-/

namespace RadioWindow

theorem Radio.sendPacket_released_of_payload {σ : Type} (env : Env) (k : Platform) (s : Radio σ)
    {p : Packet} (hdis : s.disabled = false) (hp : 0 < p.payloadlen) :
    (Radio.sendPacket env k s p).1.released = s.released := by
  rcases (Radio.sendPacket_cases env k s p).2.2.2.2.2 with ⟨-, -, hno, -⟩ | ⟨h, -⟩ | ⟨h, -⟩
  · rcases hno with hno | hno
    · simp [hdis] at hno
    · omega
  · exact h
  · exact h

namespace BoundedQueue

variable (d : Discipline)

theorem enqueue_frame (q : BoundedQueue) (p : Packet) (now : Nat) :
    (q.enqueue d p now).1.stats.expiredPackets = q.stats.expiredPackets ∧
      ∀ e ∈ (q.enqueue d p now).1.packets, e ∈ q.packets ∨ e.packet = p := by
  rcases enqueue_spec d q p now with ⟨-, he⟩ | ⟨-, -, hq, hs⟩
  · rw [he]; exact ⟨rfl, fun e he => .inl he⟩
  · refine ⟨by rw [hs], fun e he => ?_⟩
    rw [hq] at he
    rcases List.mem_cons.1 ((d.push_perm _ _).subset he) with rfl | he
    exacts [.inr rfl, .inl he]

theorem dequeue_frame (q : BoundedQueue) (now : Nat) :
    (q.dequeue d now).1.stats.expiredPackets = q.stats.expiredPackets ∧
      (q.dequeue d now).1.packets ⊆ q.packets ∧
      ∀ p, (q.dequeue d now).2 = some p → ∃ e ∈ q.packets, e.packet = p := by
  rcases hp : d.pop q.packets with _ | ⟨top, rest⟩
  · rw [dequeue_of_pop_none d q now hp]
    exact ⟨rfl, fun _ he => he, fun _ h => nomatch h⟩
  · obtain ⟨h1, h2, h3⟩ := dequeue_of_pop_some d q now hp
    have hperm := d.pop_perm hp
    refine ⟨by rw [h3], fun e he => ?_, fun p h => ?_⟩
    · rw [h2] at he
      exact hperm.symm.subset (List.mem_cons_of_mem _ he)
    · rw [h1, Option.some.injEq] at h
      exact ⟨top, hperm.symm.subset (List.mem_cons_self _ _), h⟩

end BoundedQueue

namespace RadioInterfaceQueue

/-- The radio is on, every packet it holds has a payload, and every packet released so far is
counted once: as a drop in `metrics`, or as an expiry in the queue's statistics. -/
structure DropsCounted (s : Radio QueueModule) : Prop where
  enabled : s.disabled = false
  payloads : ∀ e ∈ s.statics.priorityQueue.packets, 0 < e.packet.payloadlen
  counted : s.released.length =
    s.statics.metrics.dropCount + s.statics.priorityQueue.stats.expiredPackets

namespace DropsCounted

variable (env : Env) {s : Radio QueueModule} (hs : DropsCounted s)
include hs

theorem tick : DropsCounted s.tick := ⟨hs.1, hs.2, hs.3⟩

theorem countSent (b : Bool) : DropsCounted (countSent b s) :=
  ⟨(countSent_disabled b s).trans hs.1, by rw [countSent_priorityQueue]; exact hs.2, by
    have := hs.3; unfold RadioInterfaceQueue.countSent; split <;> exact this⟩

theorem lastProcessTime (t : Nat) : DropsCounted { s with statics.metrics.lastProcessTime := t } :=
  ⟨hs.1, hs.2, hs.3⟩

theorem drop (p : Packet) : DropsCounted ((RadioInterfaceQueue.countDrop s).release [p]) := by
  refine ⟨hs.1, hs.2, ?_⟩
  simp only [Radio.release_released, Radio.release_statics, RadioInterfaceQueue.countDrop,
    List.length_append, List.length_singleton, hs.3]
  omega

theorem enqueue {k : Platform} (h : MaxDiscipline (entryPriority k)) {p : Packet}
    (hp : 0 < p.payloadlen) :
    DropsCounted (RadioInterfaceQueue.enqueue env h s p).1 := by
  obtain ⟨h1, h2⟩ :=
    BoundedQueue.enqueue_frame h.toDiscipline s.statics.priorityQueue p (s.clock env)
  refine ⟨hs.1, fun e he => ?_, ?_⟩
  · rcases h2 e he with he | he
    exacts [hs.2 e he, he ▸ hp]
  · simpa only [RadioInterfaceQueue.enqueue_released, RadioInterfaceQueue.enqueue,
      PriorityPacketQueue.enqueue, h1] using hs.3

theorem dequeue {k : Platform} (h : MaxDiscipline (entryPriority k)) :
    DropsCounted (RadioInterfaceQueue.dequeue env h s).1 := by
  obtain ⟨h1, h2, -⟩ :=
    BoundedQueue.dequeue_frame h.toDiscipline s.statics.priorityQueue (s.clock env)
  exact ⟨hs.1, fun e he => hs.2 e (h2 he), by
    simpa only [RadioInterfaceQueue.dequeue_released, RadioInterfaceQueue.dequeue,
      PriorityPacketQueue.dequeue, h1] using hs.3⟩

theorem payload_of_dequeue {k : Platform} (h : MaxDiscipline (entryPriority k)) {p : Packet}
    (hp : (RadioInterfaceQueue.dequeue env h s).2 = some p) : 0 < p.payloadlen := by
  obtain ⟨e, he, rfl⟩ :=
    (BoundedQueue.dequeue_frame h.toDiscipline s.statics.priorityQueue (s.clock env)).2.2 p hp
  exact hs.2 e he

theorem sendPacket (k : Platform) {p : Packet} (hp : 0 < p.payloadlen) :
    DropsCounted (Radio.sendPacket env k s p).1 :=
  ⟨(Radio.sendPacket_disabled env k s p).trans hs.1, by rw [Radio.sendPacket_statics]; exact hs.2,
    by rw [Radio.sendPacket_released_of_payload env k s hs.1 hp, Radio.sendPacket_statics]
       exact hs.3⟩

theorem cleanExpired {k : Platform} (h : MaxDiscipline (entryPriority k)) :
    DropsCounted (RadioInterfaceQueue.cleanExpired env h s) := by
  obtain ⟨h1, h2, h3, -⟩ :=
    PriorityPacketQueue.cleanExpired_spec h s.statics.priorityQueue (s.clock env)
  have hlen := ((h.popOrder_perm _ s.statics.priorityQueue.packets le_rfl).filter
    (isExpiredAt (s.clock env)
      (word (s.statics.priorityQueue.packetExpirySeconds * 1000)))).length_eq
  refine ⟨hs.1, fun e he => hs.2 e (List.mem_filter.1 (h1.subset he)).1, ?_⟩
  simp only [RadioInterfaceQueue.cleanExpired, Radio.release_released, Radio.tick_released,
    Radio.release_statics, Radio.tick_statics, List.length_append, h2, h3, List.length_map, hlen,
    hs.3]
  omega

end DropsCounted

variable (env : Env) {k : Platform} (h : MaxDiscipline (entryPriority k))

theorem drainLoop_dropsCounted (startTime : Nat) :
    ∀ (n processed : Nat) (s : Radio QueueModule), DropsCounted s →
      DropsCounted (drainLoop env h startTime n processed s)
  | 0, _, _, hs => hs
  | n + 1, processed, s, hs => by
    have hd := hs.tick.dequeue env h
    unfold drainLoop
    by_cases hempty : s.statics.priorityQueue.packets = []
    · rw [if_pos hempty]; exact hs
    rw [if_neg hempty]
    dsimp only
    by_cases hstop : ¬(wsub (s.clock env) startTime < 100 ∧ processed < k.maxPacketsPerCycle)
    · rw [if_pos hstop]; exact hs.tick
    rw [if_neg hstop]
    split
    · exact drainLoop_dropsCounted startTime n processed _ hd
    · next packet hp =>
      have hpay := hs.tick.payload_of_dequeue env h hp
      have ht := hd.sendPacket env k hpay
      split
      · exact drainLoop_dropsCounted startTime n _ _ (ht.countSent _)
      · have hu := ht.enqueue env h hpay
        split
        exacts [hu.drop packet, hu]

theorem processQueuedPackets_dropsCounted (config : Config) (s : Radio QueueModule)
    (hs : DropsCounted s) : DropsCounted (processQueuedPackets env h config s) := by
  unfold processQueuedPackets
  split
  exacts [hs, drainLoop_dropsCounted env h _ _ _ _ (hs.cleanExpired env h).tick]

theorem send_dropsCounted (config : Config) (s : Radio QueueModule) {p : Packet}
    (hs : DropsCounted s) (hp : 0 < p.payloadlen) : DropsCounted (send env h config s p).1 := by
  have ho : DropsCounted (Radio.outsideWindow env config s).2 := by
    rcases Radio.outsideWindow_frame env config s with he | he <;> rw [he]
    exacts [hs, hs.tick]
  unfold send sendOutside
  dsimp only
  by_cases hc : (Radio.outsideWindow env config s).1 = true
  · rw [if_pos hc]
    by_cases hdrop : config.lora.windowMode = dropPackets
    · rw [if_pos hdrop]; exact ho.drop p
    rw [if_neg hdrop]
    by_cases hqueue : config.lora.windowMode = queuePackets
    · rw [if_pos hqueue]
      have hu := ho.enqueue env h hp
      split
      exacts [hu.drop p, hu]
    rw [if_neg hqueue]
    split
    exacts [ho.drop p, ho]
  · rw [if_neg hc]
    refine DropsCounted.sendPacket env ?_ k hp
    split
    · exact (processQueuedPackets_dropsCounted env h config _ ho.tick).lastProcessTime _
    · exact ho.tick

theorem run_dropsCounted :
    ∀ (evs : List Event) (s : Radio QueueModule), DropsCounted s → Event.clear ∉ evs →
      (∀ p ∈ evs.flatMap Event.handed, 0 < p.payloadlen) → DropsCounted (run env h s evs)
  | [], _, hs, _, _ => hs
  | e :: evs, s, hs, hclear, hpay => by
    refine run_dropsCounted evs _ ?_ (fun hm => hclear (List.mem_cons_of_mem _ hm))
      fun p hp => hpay p (by simp only [List.flatMap_cons, List.mem_append]; exact .inr hp)
    cases e with
    | send config p =>
      exact send_dropsCounted env h config s hs
        (hpay p (List.mem_append.2 (.inl (List.mem_singleton_self p))))
    | drain config => exact processQueuedPackets_dropsCounted env h config s hs
    | clean => exact hs.cleanExpired env h
    | clear => exact absurd (List.mem_cons_self _ _) hclear

end RadioInterfaceQueue

/-- In RadioInterfaceQueue.cpp the packets released to the pool are exactly those counted: along
every run of an enabled radio without `clearPacketQueue`, under any clock, radio answers,
configurations and platform, if every packet handed to `send` has a payload, the number of
packets released is `metrics.dropCount` plus the queue's `expiredPackets`, both as exact totals.
The firmware holds the two counters as `uint32_t`, so what it can read agrees with the number
released only modulo `2^32`: the `uint32_t` sum of the two words is that number's word. -/
theorem releases_counted_as_drops_or_expiries :
    ∀ (env : Env) {k : Platform} (h : MaxDiscipline (entryPriority k)) (evs : List Event),
      Event.clear ∉ evs → (∀ p ∈ evs.flatMap Event.handed, 0 < p.payloadlen) →
      let s := RadioInterfaceQueue.run env h (RadioInterfaceQueue.initial false) evs
      s.released.length =
        s.statics.metrics.dropCount + s.statics.priorityQueue.stats.expiredPackets ∧
      word s.released.length = word (word s.statics.metrics.dropCount +
        word s.statics.priorityQueue.stats.expiredPackets) :=
  fun env _ h evs hclear hpay =>
    have hc := (RadioInterfaceQueue.run_dropsCounted env h evs (RadioInterfaceQueue.initial false)
      ⟨rfl, fun _ he => (List.not_mem_nil _ he).elim, rfl⟩ hclear hpay).counted
    ⟨hc, by rw [hc, word, word, word, word, ← Nat.add_mod]⟩

/-- A packet dropped at night in `DROP_PACKETS` mode is released once and counted once. -/
theorem releases_counted_as_drops_or_expiries_night :
    let evs : List Event :=
      [.send ⟨true, ⟨true, 21, 0, 23, 0, 0, 5, 3600⟩⟩ ⟨1, 8, false, 0, none⟩]
    let s := RadioInterfaceQueue.run Env.midnight (firstMax (entryPriority Platform.sample))
      (RadioInterfaceQueue.initial false) evs
    Event.clear ∉ evs ∧ (∀ p ∈ evs.flatMap Event.handed, 0 < p.payloadlen) ∧
    (s.released.length =
        s.statics.metrics.dropCount + s.statics.priorityQueue.stats.expiredPackets ∧
      word s.released.length = word (word s.statics.metrics.dropCount +
        word s.statics.priorityQueue.stats.expiredPackets)) :=
  ⟨by decide, by decide, releases_counted_as_drops_or_expiries _ _ _ (by decide) (by decide)⟩

end RadioWindow
