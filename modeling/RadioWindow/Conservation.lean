import RadioWindow.AdmissionPolicy
import RadioWindow.Drain

/-!
# Packet ownership is conserved when nothing fails

Ownership goes wrong in RadioInterface.cpp only where a call fails: a mode outside the enum
leaves the packet with nobody, and a refused `sendPacket` releases a packet the drain then puts
back. When the radio is on, `sendTo` answers `ERRNO_OK`, every packet has a payload that
`beginSending` frames, and every mode is one of the enum, neither can happen: along every run
each packet handed to `send` is held by the queue, released to the pool or handed to `sendTo`,
and the three together are, as a multiset, exactly the packets handed to `send`.
-/

namespace RadioWindow

/-- A packet `sendPacket` hands to `sendTo`: it has a payload, and `beginSending` frames it. -/
def Transmittable (k : Platform) (p : Packet) : Prop := 0 < p.payloadlen ∧ k.beginSending p ≠ 0

instance (k : Platform) (p : Packet) : Decidable (Transmittable k p) :=
  inferInstanceAs (Decidable (0 < p.payloadlen ∧ k.beginSending p ≠ 0))

def Event.handed : Event → List Packet
  | .send _ p => [p]
  | _ => []

/-- A call the design foresees: a `send` of a transmittable packet under a mode of the enum. -/
def Event.Foreseen (k : Platform) : Event → Prop
  | .send config p => (WindowMode.ofNat? config.lora.windowMode).isSome ∧ Transmittable k p
  | _ => True

instance (k : Platform) : DecidablePred (Event.Foreseen k)
  | .send config p =>
    inferInstanceAs (Decidable ((WindowMode.ofNat? config.lora.windowMode).isSome ∧
      Transmittable k p))
  | .drain _ | .clean _ | .clear => isTrue True.intro

theorem Radio.sendPacket_of_transmittable {σ : Type} (env : Env) (k : Platform) (s : Radio σ)
    {p : Packet} (hdis : s.disabled = false) (hp : Transmittable k p)
    (henv : ∀ n, env.sendTo n = .ok) :
    (Radio.sendPacket env k s p).2 = .ok ∧ (Radio.sendPacket env k s p).1.sent = s.sent ++ [p] ∧
      (Radio.sendPacket env k s p).1.released = s.released := by
  simp [Radio.sendPacket, Radio.sendPacketBody, hdis, Nat.pos_iff_ne_zero.1 hp.1, hp.2, henv]

theorem map_filter_not_append_perm (f : QueuedPacket → Bool) (l : List QueuedPacket) :
    ((l.filter (fun e => !f e)).map (·.packet) ++ (l.filter f).map (·.packet)).Perm
      (l.map (·.packet)) := by
  rw [← List.map_append]
  exact (List.perm_append_comm.trans (List.filter_append_perm f l)).map _

theorem AdmissionPolicy.evaluate_closed_ne_sendNow (m : WindowMode) (full : Bool) :
    AdmissionPolicy.evaluate false m full ≠ .sendNow := by
  cases m <;> cases full <;> decide

theorem Realizes.owned_perm {σ : Type} {d : Discipline} {disp : Disposition}
    (hdisp : disp ≠ .sendNow) {held held' : List QueuedPacket} {s s' : Radio σ} {p : Packet}
    {r : ErrorCode} (h : Realizes d.push disp held held' s s' p r) :
    (held'.map (·.packet) ++ s'.released ++ s'.sent).Perm
        (held.map (·.packet) ++ s.released ++ s.sent ++ [p]) ∧
      ∀ e ∈ held', e ∈ held ∨ e.packet = p := by
  cases disp with
  | sendNow => exact absurd rfl hdisp
  | enqueue =>
    obtain ⟨-, ⟨t, rfl⟩, -, hrel, hsent⟩ := h
    have hpush := (d.push_perm ⟨p, t⟩ held).map (·.packet)
    refine ⟨List.perm_iff_count.2 fun a => ?_, fun e he => ?_⟩
    · have := hpush.count_eq a
      simp only [hrel, hsent, List.map_cons, List.count_append, List.count_cons,
        List.count_nil] at this ⊢
      omega
    · rcases List.mem_cons.1 ((d.push_perm _ _).subset he) with rfl | he
      exacts [.inr rfl, .inl he]
  | discard =>
    obtain ⟨-, rfl, -, hrel, hsent⟩ := h
    refine ⟨List.perm_iff_count.2 fun a => ?_, fun e he => .inl he⟩
    simp only [hrel, hsent, List.count_append]
    omega

namespace RadioInterface

variable (env : Env) (k : Platform)

/-- Every packet the radio of RadioInterface.cpp has taken: held by its queue, released to the
pool, or handed to `sendTo`. -/
def owned (s : Radio BoundedQueue) : List Packet :=
  s.statics.packets.map (·.packet) ++ s.released ++ s.sent

def Sound (s : Radio BoundedQueue) : Prop :=
  s.disabled = false ∧ ∀ e ∈ s.statics.packets, Transmittable k e.packet

instance : DecidablePred (Sound k) := fun s =>
  inferInstanceAs (Decidable (s.disabled = false ∧
    ∀ e ∈ s.statics.packets, Transmittable k e.packet))

theorem owned_cleanExpired (s : Radio BoundedQueue) :
    (owned (cleanExpired env s)).Perm (owned s) ∧
      (cleanExpired env s).statics.packets ⊆ s.statics.packets := by
  obtain ⟨h1, h2, -⟩ := PacketQueue.cleanExpired_spec s.statics (s.clock env)
  have hp := map_filter_not_append_perm
    (isExpiredAt (s.clock env) (word (s.statics.packetExpirySeconds * 1000))) s.statics.packets
  refine ⟨List.perm_iff_count.2 fun a => ?_, ?_⟩
  · have := hp.count_eq a
    simp only [owned, cleanExpired, Radio.release_released, Radio.tick_released,
      Radio.release_sent, Radio.tick_sent, h1, h2, List.count_append] at this ⊢
    omega
  · simp only [cleanExpired, h1]
    exact (List.filter_sublist _).subset

theorem owned_clearPacketQueue (s : Radio BoundedQueue) :
    (owned (clearPacketQueue s)).Perm (owned s) ∧ (clearPacketQueue s).statics.packets = [] := by
  have hnil : (PacketQueue.clear s.statics).1.packets = [] := rfl
  refine ⟨List.perm_iff_count.2 fun a => ?_, rfl⟩
  simp only [owned, clearPacketQueue, Radio.release_released, Radio.release_sent, hnil,
    PacketQueue.clear_released, List.count_append, List.map_nil, List.count_nil]
  omega

theorem disabled_preserved (b : Bool) : Preserved env k (fun t => t.disabled = b) where
  tick _ h := h
  release _ _ h := h
  enqueue _ _ h := h
  dequeue _ h := h
  cleanExpired _ h := h
  sendPacket _ _ h := by simpa using h

section Succeeding

variable (henv : ∀ n, env.sendTo n = .ok)
include henv

theorem drainLoop_owned :
    ∀ (n : Nat) (s : Radio BoundedQueue), Sound k s →
      (owned (drainLoop env k n s)).Perm (owned s) ∧ Sound k (drainLoop env k n s)
  | 0, _, hs => ⟨.rfl, hs⟩
  | n + 1, s, hs => by
    cases hl : s.statics.packets with
    | nil => simpa [drainLoop, hl] using hs
    | cons e r =>
      obtain ⟨hd, hr, -⟩ := dequeue_of_cons env s hl
      have he : Transmittable k e.packet := hs.2 e (hl ▸ List.mem_cons_self _ _)
      obtain ⟨hok, hsent, hrel⟩ :=
        Radio.sendPacket_of_transmittable env k (dequeue env s).1 (by simpa using hs.1) he henv
      have heq : drainLoop env k (n + 1) s =
          drainLoop env k n (Radio.sendPacket env k (dequeue env s).1 e.packet).1 := by
        simp [drainLoop, hl, hd, hok]
      have ht : Sound k (Radio.sendPacket env k (dequeue env s).1 e.packet).1 :=
        ⟨by simpa using hs.1, fun x hx => hs.2 x (by
          simp only [Radio.sendPacket_statics, hr] at hx; exact hl ▸ List.mem_cons_of_mem _ hx)⟩
      obtain ⟨h1, h2⟩ := drainLoop_owned n _ ht
      rw [heq]
      refine ⟨h1.trans (List.perm_iff_count.2 fun a => ?_), h2⟩
      simp only [owned, Radio.sendPacket_statics, hr, hsent, hrel, dequeue_released, dequeue_sent,
        hl, List.map_cons, List.count_append, List.count_cons, List.count_nil]
      omega

theorem processQueuedPackets_owned (config : Config) (s : Radio BoundedQueue) (hs : Sound k s) :
    (owned (processQueuedPackets env k config s)).Perm (owned s) ∧
      Sound k (processQueuedPackets env k config s) := by
  unfold processQueuedPackets
  split
  · exact ⟨.rfl, hs⟩
  · obtain ⟨h1, h2⟩ := owned_cleanExpired env s
    obtain ⟨h3, h4⟩ := drainLoop_owned env k henv _ (cleanExpired env s)
      ⟨hs.1, fun e he => hs.2 e (h2 he)⟩
    exact ⟨h3.trans h1, h4⟩

theorem send_owned (config : Config) (s : Radio BoundedQueue) (p : Packet) (hs : Sound k s)
    (hm : (WindowMode.ofNat? config.lora.windowMode).isSome) (hp : Transmittable k p) :
    (owned (send env k config s p).1).Perm (owned s ++ [p]) ∧
      Sound k (send env k config s p).1 := by
  obtain ⟨m, hm⟩ := Option.isSome_iff_exists.1 hm
  have hR := send_realizes env k config s p hm
  cases hopen : isOperationAllowed config (s.clock env)
  · rw [hopen] at hR
    obtain ⟨h1, h2⟩ := Realizes.owned_perm (AdmissionPolicy.evaluate_closed_ne_sendNow _ _) hR
    refine ⟨h1, (disabled_preserved env k false).send config s p hs.1, fun e he => ?_⟩
    rcases h2 e he with he | he
    exacts [hs.2 e he, he ▸ hp]
  · obtain ⟨ho, hoo⟩ : Sound k (Radio.outsideWindow env config s).2 ∧
        owned (Radio.outsideWindow env config s).2 = owned s := by
      rcases Radio.outsideWindow_frame env config s with h | h <;> rw [h] <;> exact ⟨hs, rfl⟩
    obtain ⟨h1, h2⟩ := processQueuedPackets_owned env k henv config _ ho
    obtain ⟨-, hsent, hrel⟩ := Radio.sendPacket_of_transmittable env k _ h2.1 hp henv
    simp only [send, Radio.outsideWindow_fst_eq, hopen, Bool.not_true, Bool.false_eq_true,
      if_false]
    refine ⟨List.perm_iff_count.2 fun a => ?_, (Radio.sendPacket_disabled env k _ p).trans h2.1,
      by rw [Radio.sendPacket_statics]; exact h2.2⟩
    have := (h1.trans (.of_eq hoo)).count_eq a
    simp only [owned, Radio.sendPacket_statics, hsent, hrel, List.count_append] at this ⊢
    omega

theorem step_owned (s : Radio BoundedQueue) (e : Event) (hs : Sound k s) (he : e.Foreseen k) :
    (owned (step env k s e)).Perm (owned s ++ e.handed) ∧ Sound k (step env k s e) := by
  cases e with
  | send config p => exact send_owned env k henv config s p hs he.1 he.2
  | drain config =>
    simpa only [step, Event.handed, List.append_nil] using
      processQueuedPackets_owned env k henv config s hs
  | clean =>
    obtain ⟨h1, h2⟩ := owned_cleanExpired env s
    exact ⟨by simpa only [Event.handed, List.append_nil] using h1, hs.1, fun e he => hs.2 e (h2 he)⟩
  | clear =>
    obtain ⟨h1, h2⟩ := owned_clearPacketQueue s
    refine ⟨by simpa only [Event.handed, List.append_nil] using h1, hs.1, fun e he => ?_⟩
    simp [step, h2] at he

theorem run_owned :
    ∀ (evs : List Event) (s : Radio BoundedQueue), Sound k s → (∀ e ∈ evs, e.Foreseen k) →
      (owned (run env k s evs)).Perm (owned s ++ evs.flatMap Event.handed) ∧
        Sound k (run env k s evs)
  | [], s, hs, _ => by simpa [run] using hs
  | e :: evs, s, hs, hevs => by
    obtain ⟨h1, h2⟩ := step_owned env k henv s e hs (hevs e (List.mem_cons_self _ _))
    obtain ⟨h3, h4⟩ := run_owned evs _ h2 fun e he => hevs e (List.mem_cons_of_mem _ he)
    refine ⟨h3.trans ?_, h4⟩
    simpa only [List.flatMap_cons, List.append_assoc] using h1.append_right _

end Succeeding

end RadioInterface

namespace RadioInterfaceQueue

def owned (s : Radio QueueModule) : List Packet :=
  s.statics.priorityQueue.packets.map (·.packet) ++ s.released ++ s.sent

def Sound (k : Platform) (s : Radio QueueModule) : Prop :=
  s.disabled = false ∧ ∀ e ∈ s.statics.priorityQueue.packets, Transmittable k e.packet

instance (k : Platform) : DecidablePred (Sound k) := fun s =>
  inferInstanceAs (Decidable (s.disabled = false ∧
    ∀ e ∈ s.statics.priorityQueue.packets, Transmittable k e.packet))

variable (env : Env) {k : Platform} (h : MaxDiscipline (entryPriority k))

theorem sound_countSent (b : Bool) (s : Radio QueueModule) :
    Sound k (countSent b s) ↔ Sound k s := by
  simp only [Sound, countSent_disabled, countSent_priorityQueue]

theorem disabled_preserved (b : Bool) : Preserved env h (fun t => t.disabled = b) where
  tick _ hs := hs
  release _ _ hs := hs
  countDrop _ hs := hs
  countSent _ _ hs := by simpa using hs
  enqueue _ _ hs := hs
  dequeue _ hs := hs
  cleanExpired _ hs := hs
  sendPacket _ _ hs := by simpa using hs
  lastProcessTime _ _ hs := hs

theorem owned_cleanExpired (s : Radio QueueModule) :
    (owned (cleanExpired env h s)).Perm (owned s) ∧
      (cleanExpired env h s).statics.priorityQueue.packets ⊆ s.statics.priorityQueue.packets := by
  obtain ⟨h1, h2, -⟩ :=
    PriorityPacketQueue.cleanExpired_spec h s.statics.priorityQueue (s.clock env)
  have hexp := ((h.popOrder_perm _ s.statics.priorityQueue.packets le_rfl).filter
    (isExpiredAt (s.clock env) (word (s.statics.priorityQueue.packetExpirySeconds * 1000)))).map
    (·.packet)
  have hp := map_filter_not_append_perm
    (isExpiredAt (s.clock env) (word (s.statics.priorityQueue.packetExpirySeconds * 1000)))
    s.statics.priorityQueue.packets
  refine ⟨List.perm_iff_count.2 fun a => ?_, fun e he => (List.mem_filter.1 (h1.subset he)).1⟩
  have := hp.count_eq a
  have := hexp.count_eq a
  have := (h1.map (·.packet)).count_eq a
  simp only [owned, cleanExpired, Radio.release_released, Radio.tick_released, Radio.release_sent,
    Radio.tick_sent, h2, List.count_append] at *
  omega

theorem owned_clearPacketQueue (s : Radio QueueModule) :
    (owned (clearPacketQueue h s)).Perm (owned s) ∧
      (clearPacketQueue h s).statics.priorityQueue.packets = [] := by
  have hrel := (BoundedQueue.clear_released_perm h.toDiscipline s.statics.priorityQueue).count_eq
  refine ⟨List.perm_iff_count.2 fun a => ?_, rfl⟩
  have := hrel a
  simp only [owned, clearPacketQueue, PriorityPacketQueue.clear, Radio.release_released,
    Radio.release_sent, BoundedQueue.clear_packets, List.count_append, List.map_nil,
    List.count_nil] at *
  omega

section Succeeding

variable (henv : ∀ n, env.sendTo n = .ok)
include henv

theorem drainLoop_owned (startTime : Nat) :
    ∀ (n processed : Nat) (s : Radio QueueModule), Sound k s →
      (owned (drainLoop env h startTime n processed s)).Perm (owned s) ∧
        Sound k (drainLoop env h startTime n processed s)
  | 0, _, _, hs => ⟨.rfl, hs⟩
  | n + 1, processed, s, hs => by
    by_cases hl : s.statics.priorityQueue.packets = []
    · simpa [drainLoop, hl] using hs
    by_cases hbudget : wsub (s.clock env) startTime < 100 ∧ processed < k.maxPacketsPerCycle
    swap
    · have heq : drainLoop env h startTime (n + 1) processed s = s.tick := by
        simp [drainLoop, hl, hbudget]
      exact heq ▸ ⟨.rfl, hs⟩
    obtain ⟨⟨e, r⟩, hpop⟩ := Option.ne_none_iff_exists'.1 (mt (h.pop_eq_none _).1 hl)
    obtain ⟨hd, hr, -, -⟩ := dequeue_of_pop env h s.tick hpop
    have hperm := h.pop_perm hpop
    obtain ⟨hok, hsent, hrel⟩ := Radio.sendPacket_of_transmittable env k (dequeue env h s.tick).1
      (by simpa using hs.1) (hs.2 e (hperm.symm.subset (List.mem_cons_self _ _))) henv
    obtain ⟨t, ht⟩ : ∃ t, Radio.sendPacket env k (dequeue env h s.tick).1 e.packet = t :=
      ⟨_, rfl⟩
    rw [ht] at hok hsent hrel
    have hts : t.1.statics = (dequeue env h s.tick).1.statics := by simp [← ht]
    have heq : drainLoop env h startTime (n + 1) processed s =
        drainLoop env h startTime n (processed + 1)
          (countSent (decide (k.lastPriority e.packet > 2)) t.1) := by
      simp [drainLoop, hl, hbudget, hd, ht, hok]
    have hsound : Sound k (countSent (decide (k.lastPriority e.packet > 2)) t.1) := by
      refine (sound_countSent _ _).2 ⟨by simpa [← ht] using hs.1, fun x hx => hs.2 x ?_⟩
      rw [hts, hr] at hx
      exact hperm.symm.subset (List.mem_cons_of_mem _ hx)
    obtain ⟨h1, h2⟩ := drainLoop_owned startTime n _ _ hsound
    rw [heq]
    refine ⟨h1.trans (List.perm_iff_count.2 fun a => ?_), h2⟩
    have := (hperm.map (·.packet)).count_eq a
    simp only [owned, countSent_priorityQueue, countSent_released, countSent_sent, hts, hr, hsent,
      hrel, dequeue_released, dequeue_sent,
      Radio.tick_released, Radio.tick_sent, List.map_cons, List.count_append, List.count_cons,
      List.count_nil] at this ⊢
    omega

theorem processQueuedPackets_owned (config : Config) (s : Radio QueueModule) (hs : Sound k s) :
    (owned (processQueuedPackets env h config s)).Perm (owned s) ∧
      Sound k (processQueuedPackets env h config s) := by
  unfold processQueuedPackets
  split
  · exact ⟨.rfl, hs⟩
  · obtain ⟨h1, h2⟩ := owned_cleanExpired env h s
    obtain ⟨h3, h4⟩ := drainLoop_owned env h henv _ _ _ (cleanExpired env h s).tick
      ⟨hs.1, fun e he => hs.2 e (h2 he)⟩
    exact ⟨h3.trans h1, h4⟩

theorem send_owned (config : Config) (s : Radio QueueModule) (p : Packet) (hs : Sound k s)
    (hm : (WindowMode.ofNat? config.lora.windowMode).isSome) (hp : Transmittable k p) :
    (owned (send env h config s p).1).Perm (owned s ++ [p]) ∧
      Sound k (send env h config s p).1 := by
  obtain ⟨m, hm⟩ := Option.isSome_iff_exists.1 hm
  have hR := send_realizes env h config s p hm
  cases hopen : isOperationAllowed config (s.clock env)
  · rw [hopen] at hR
    obtain ⟨h1, h2⟩ := Realizes.owned_perm (AdmissionPolicy.evaluate_closed_ne_sendNow _ _) hR
    refine ⟨h1, (disabled_preserved env h false).send config s p hs.1, fun e he => ?_⟩
    rcases h2 e he with he | he
    exacts [hs.2 e he, he ▸ hp]
  · obtain ⟨ho, hoo⟩ : Sound k (Radio.outsideWindow env config s).2 ∧
        owned (Radio.outsideWindow env config s).2 = owned s := by
      rcases Radio.outsideWindow_frame env config s with h' | h' <;> rw [h'] <;> exact ⟨hs, rfl⟩
    have hlast : ∀ u : Radio QueueModule, (owned u).Perm (owned s) → Sound k u →
        (owned (Radio.sendPacket env k u p).1).Perm (owned s ++ [p]) ∧
          Sound k (Radio.sendPacket env k u p).1 := by
      intro u hu hsu
      obtain ⟨-, hsent, hrel⟩ := Radio.sendPacket_of_transmittable env k u hsu.1 hp henv
      refine ⟨List.perm_iff_count.2 fun a => ?_, (Radio.sendPacket_disabled env k u p).trans hsu.1,
        by rw [Radio.sendPacket_statics]; exact hsu.2⟩
      have := hu.count_eq a
      simp only [owned, Radio.sendPacket_statics, hsent, hrel, List.count_append] at this ⊢
      omega
    simp only [send, Radio.outsideWindow_fst_eq, hopen, Bool.not_true, Bool.false_eq_true,
      if_false]
    split
    · obtain ⟨h1, h2⟩ :=
        processQueuedPackets_owned env h henv config (Radio.outsideWindow env config s).2.tick ho
      exact hlast _ (h1.trans (.of_eq hoo)) h2
    · exact hlast _ (.of_eq hoo) ho

theorem step_owned (s : Radio QueueModule) (e : Event) (hs : Sound k s) (he : e.Foreseen k) :
    (owned (step env h s e)).Perm (owned s ++ e.handed) ∧ Sound k (step env h s e) := by
  cases e with
  | send config p => exact send_owned env h henv config s p hs he.1 he.2
  | drain config =>
    simpa only [step, Event.handed, List.append_nil] using
      processQueuedPackets_owned env h henv config s hs
  | clean =>
    obtain ⟨h1, h2⟩ := owned_cleanExpired env h s
    exact ⟨by simpa only [Event.handed, List.append_nil] using h1, hs.1, fun e he => hs.2 e (h2 he)⟩
  | clear =>
    obtain ⟨h1, h2⟩ := owned_clearPacketQueue h s
    refine ⟨by simpa only [Event.handed, List.append_nil] using h1, hs.1, fun e he => ?_⟩
    simp [step, h2] at he

theorem run_owned :
    ∀ (evs : List Event) (s : Radio QueueModule), Sound k s → (∀ e ∈ evs, e.Foreseen k) →
      (owned (run env h s evs)).Perm (owned s ++ evs.flatMap Event.handed) ∧
        Sound k (run env h s evs)
  | [], s, hs, _ => by simpa [run] using hs
  | e :: evs, s, hs, hevs => by
    obtain ⟨h1, h2⟩ := step_owned env h henv s e hs (hevs e (List.mem_cons_self _ _))
    obtain ⟨h3, h4⟩ := run_owned evs _ h2 fun e he => hevs e (List.mem_cons_of_mem _ he)
    refine ⟨h3.trans ?_, h4⟩
    simpa only [List.flatMap_cons, List.append_assoc] using h1.append_right _

end Succeeding

end RadioInterfaceQueue

/-- When `sendTo` always answers `ERRNO_OK` and every `send` hands over a transmittable packet
under a mode of the enum, neither file loses or duplicates a packet: along every run from a
fresh radio, under any clock, configurations and platform, the packets the queue holds, those
released to the pool and those handed to `sendTo` are, as a multiset, exactly the packets
handed to `send`. -/
theorem ownership_conserved_when_nothing_fails :
    (∀ (env : Env) (k : Platform) (evs : List Event), (∀ n, env.sendTo n = .ok) →
      (∀ e ∈ evs, e.Foreseen k) →
      (RadioInterface.owned (RadioInterface.run env k (RadioInterface.initial false) evs)).Perm
        (evs.flatMap Event.handed)) ∧
    (∀ (env : Env) {k : Platform} (h : MaxDiscipline (entryPriority k)) (evs : List Event),
      (∀ n, env.sendTo n = .ok) → (∀ e ∈ evs, e.Foreseen k) →
      (RadioInterfaceQueue.owned
        (RadioInterfaceQueue.run env h (RadioInterfaceQueue.initial false) evs)).Perm
        (evs.flatMap Event.handed)) :=
  ⟨fun env k evs henv hevs =>
    (RadioInterface.run_owned env k henv evs _
      ⟨rfl, fun _ he => (List.not_mem_nil _ he).elim⟩ hevs).1,
   fun env _ h evs henv hevs =>
    (RadioInterfaceQueue.run_owned env h henv evs _
      ⟨rfl, fun _ he => (List.not_mem_nil _ he).elim⟩ hevs).1⟩

/-- At night a packet is queued, a drain at night keeps it, and both files still own it once. -/
theorem ownership_conserved_when_nothing_fails_night :
    (∀ n, Env.midnight.sendTo n = .ok) ∧
    (∀ e ∈ [Event.send Config.night ⟨1, 8, false, 0, none⟩, .drain Config.night],
      e.Foreseen Platform.sample) ∧
    (RadioInterface.owned (RadioInterface.run Env.midnight Platform.sample
      (RadioInterface.initial false)
      [.send Config.night ⟨1, 8, false, 0, none⟩, .drain Config.night])).Perm
      [⟨1, 8, false, 0, none⟩] ∧
    (RadioInterfaceQueue.owned (RadioInterfaceQueue.run Env.midnight
      (firstMax (entryPriority Platform.sample)) (RadioInterfaceQueue.initial false)
      [.send Config.night ⟨1, 8, false, 0, none⟩, .drain Config.night])).Perm
      [⟨1, 8, false, 0, none⟩] :=
  ⟨fun _ => rfl, by decide,
    ownership_conserved_when_nothing_fails.1 _ _ _ (fun _ => rfl) (by decide),
    ownership_conserved_when_nothing_fails.2 _ _ _ (fun _ => rfl) (by decide)⟩

end RadioWindow
