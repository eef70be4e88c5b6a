import RadioWindow.RadioInterface
import RadioWindow.RadioInterfaceQueue

/-!
# One drain cycle

After eviction, `processQueuedPackets` takes entries off the queue in the order the container
yields them and hands each to `sendPacket`, and at the first failure pushes the packet back
and stops. `DrainCycle` states this as a relation between the round the loop is at, the entries
held before and after the loop, the calls logged, and the entries that went out; both loops
refine it. A cycle stops exactly when the queue is empty or its budget is spent at the round
it has reached: the loop of RadioInterfaceQueue.cpp spends it after `MAX_PACKETS_PER_CYCLE`
transmissions or once 100 ms have passed; the loop of RadioInterface.cpp has none.
-/

namespace RadioWindow

/-- One drain cycle over the container `d`, from round `i`: from the entries held, to the entries
held after, with the `sendPacket` calls it logs and the entries that went out. `spent i` says
that the budget stops the loop at round `i`. The cycle stops on an empty queue or a spent
budget; otherwise it takes the entry `d` yields first, which either goes out with `ERRNO_OK`,
the cycle going on to the next round, or fails and is pushed back with a new time stamp, which
ends the cycle. -/
inductive DrainCycle (d : Discipline) (spent : Nat → Prop) :
    Nat → List QueuedPacket → List QueuedPacket → List (Packet × ErrorCode) → List QueuedPacket →
      Prop
  | stop {i : Nat} {l : List QueuedPacket} : l = [] ∨ spent i → DrainCycle d spent i l l [] []
  | fail {i : Nat} {l r : List QueuedPacket} {e : QueuedPacket} {res : ErrorCode} (t : Nat) :
      ¬spent i → d.pop l = some (e, r) → res ≠ .ok →
      DrainCycle d spent i l (d.push ⟨e.packet, t⟩ r) [(e.packet, res)] []
  | send {i : Nat} {l r after okSent : List QueuedPacket} {e : QueuedPacket}
      {logged : List (Packet × ErrorCode)} :
      ¬spent i → d.pop l = some (e, r) → DrainCycle d spent (i + 1) r after logged okSent →
      DrainCycle d spent i l after ((e.packet, .ok) :: logged) (e :: okSent)

namespace DrainCycle

variable {d : Discipline} {spent : Nat → Prop} {i : Nat} {l after okSent : List QueuedPacket}
  {logged : List (Packet × ErrorCode)}

theorem packets_perm (hc : DrainCycle d spent i l after logged okSent) :
    (okSent.map (·.packet) ++ after.map (·.packet)).Perm (l.map (·.packet)) := by
  induction hc with
  | stop => rfl
  | @fail _ l r e _ t _ hp =>
    have hpush := (d.push_perm ⟨e.packet, t⟩ r).map (·.packet)
    have hpop := (d.pop_perm hp).map (·.packet)
    simp only [List.map_cons] at hpush hpop
    exact hpush.trans hpop.symm
  | send _ hp _ ih => exact (ih.cons _).trans ((d.pop_perm hp).map _).symm

theorem attempts_prefix (hc : DrainCycle d spent i l after logged okSent) :
    logged.map (·.1) <+: (d.popOrder l.length l).map (·.packet) := by
  induction hc with
  | stop => exact List.nil_prefix
  | fail t _ hp => simp [d.popOrder_of_pop hp]
  | send _ hp _ ih => simpa [d.popOrder_of_pop hp] using ih

theorem logged_eq (hc : DrainCycle d spent i l after logged okSent) :
    logged = okSent.map (fun e => (e.packet, .ok)) ∨
      ∃ p res, res ≠ .ok ∧ logged = okSent.map (fun e => (e.packet, .ok)) ++ [(p, res)] := by
  induction hc with
  | stop => exact .inl rfl
  | fail t _ _ hres => exact .inr ⟨_, _, hres, rfl⟩
  | send _ _ _ ih =>
    rcases ih with ih | ⟨p, res, hres, ih⟩
    · exact .inl (by simp [ih])
    · exact .inr ⟨p, res, hres, by simp [ih]⟩

theorem okSent_length_le {M : Nat} (hM : ∀ j, M ≤ j → spent j)
    (hc : DrainCycle d spent i l after logged okSent) (hi : i ≤ M) : i + okSent.length ≤ M := by
  induction hc with
  | stop => simpa using hi
  | fail => simpa using hi
  | send hs _ _ ih =>
    have hlt := Nat.lt_of_not_le (mt (hM _) hs)
    have := ih (by omega)
    simp only [List.length_cons]
    omega

theorem after_eq_nil (hc : DrainCycle d (fun _ => False) i l after logged okSent)
    (hok : logged = okSent.map (fun e => (e.packet, .ok))) : after = [] := by
  induction hc with
  | stop h => simpa using h
  | fail t _ hp hres => simp_all
  | send _ hp _ ih => exact ih (by simpa using hok)

end DrainCycle

namespace RadioInterface

variable (env : Env) (k : Platform)

theorem dequeue_of_cons (s : Radio BoundedQueue) {e : QueuedPacket} {r : List QueuedPacket}
    (h : s.statics.packets = e :: r) :
    (dequeue env s).2 = some e.packet ∧ (dequeue env s).1.statics.packets = r ∧
      (dequeue env s).1.statics.maxQueueSize = s.statics.maxQueueSize :=
  have hd := BoundedQueue.dequeue_of_pop_some fifo s.statics (s.clock env)
    (show fifo.pop s.statics.packets = some (e, r) by rw [h]; rfl)
  ⟨hd.1, hd.2.1, BoundedQueue.dequeue_maxQueueSize _ _ _⟩

theorem enqueue_of_lt (s : Radio BoundedQueue) (p : Packet)
    (hlen : s.statics.packets.length < s.statics.maxQueueSize) :
    (enqueue env s p).2 = true ∧
      (enqueue env s p).1.statics.packets = s.statics.packets ++ [⟨p, s.clock env⟩] := by
  have hacc := (BoundedQueue.enqueue_accepts_iff fifo s.statics p (s.clock env)).2 hlen
  have hq := enqueue_packets env s p
  simp_all [enqueue_snd, PacketQueue.enqueue]

theorem drainLoop_cycle : ∀ (n i : Nat) (s : Radio BoundedQueue), s.statics.packets.length ≤ n →
    ∃ logged okSent, (drainLoop env k n s).attempts = s.attempts ++ logged ∧
      DrainCycle fifo (fun _ => False) i s.statics.packets (drainLoop env k n s).statics.packets
        logged okSent
  | 0, _, s, hn =>
    ⟨[], [], by simp [drainLoop], .stop (.inl (List.length_eq_zero.1 (Nat.le_zero.1 hn)))⟩
  | n + 1, i, s, hn => by
    cases hl : s.statics.packets with
    | nil =>
      exact ⟨[], [], by simp [drainLoop, hl], by simpa [drainLoop, hl] using .stop (.inl rfl)⟩
    | cons e r =>
      obtain ⟨hd, hr, hmax⟩ := dequeue_of_cons env s hl
      obtain ⟨t, ht⟩ : ∃ t, Radio.sendPacket env k (dequeue env s).1 e.packet = t := ⟨_, rfl⟩
      have hts : t.1.statics = (dequeue env s).1.statics := by simp [← ht]
      have hta : t.1.attempts = s.attempts ++ [(e.packet, t.2)] := by simp [← ht]
      have hsize := s.statics.size_le
      rw [hl] at hn hsize
      by_cases hok : t.2 = .ok
      · have heq : drainLoop env k (n + 1) s = drainLoop env k n t.1 := by
          simp [drainLoop, hl, hd, ht, hok]
        obtain ⟨logged, okSent, h1, h2⟩ :=
          drainLoop_cycle n (i + 1) t.1 (by rw [hts, hr]; exact Nat.le_of_succ_le_succ hn)
        refine ⟨(e.packet, .ok) :: logged, e :: okSent, by simp [heq, h1, hta, hok], ?_⟩
        rw [hts, hr] at h2
        rw [heq]
        exact .send not_false (by rfl) h2
      · obtain ⟨hacc, hq⟩ := enqueue_of_lt env t.1 e.packet
          (by simp only [hts, hr, hmax, List.length_cons] at hsize ⊢; omega)
        have heq : drainLoop env k (n + 1) s = (enqueue env t.1 e.packet).1 := by
          simp [drainLoop, hl, hd, ht, hok, hacc]
        refine ⟨[(e.packet, t.2)], [], by simp [heq, hta], ?_⟩
        rw [heq, hq, hts, hr]
        exact .fail _ not_false (by rfl) hok

end RadioInterface

namespace RadioInterfaceQueue

/-- The loop condition of RadioInterfaceQueue.cpp failing on its budget at round `i`, whose read
of `millis()` is the `base + 2 * i`-th: `MAX_PACKETS_PER_CYCLE` packets went out, or 100 ms
have passed since `startTime`. -/
def budgetSpent (env : Env) (k : Platform) (startTime base i : Nat) : Prop :=
  k.maxPacketsPerCycle ≤ i ∨ 100 ≤ wsub (word (env.millis (base + 2 * i))) startTime

variable (env : Env) {k : Platform} (h : MaxDiscipline (entryPriority k))

theorem dequeue_of_pop (s : Radio QueueModule) {e : QueuedPacket} {r : List QueuedPacket}
    (hp : h.pop s.statics.priorityQueue.packets = some (e, r)) :
    (dequeue env h s).2 = some e.packet ∧ (dequeue env h s).1.statics.priorityQueue.packets = r ∧
      (dequeue env h s).1.statics.priorityQueue.maxQueueSize =
        s.statics.priorityQueue.maxQueueSize ∧
      (dequeue env h s).1.attempts = s.attempts ∧ (dequeue env h s).1.ticks = s.ticks + 1 :=
  have hd := BoundedQueue.dequeue_of_pop_some h.toDiscipline _ (s.clock env) hp
  ⟨hd.1, hd.2.1, BoundedQueue.dequeue_maxQueueSize _ _ _, rfl,
    by simp only [dequeue, PriorityPacketQueue.dequeue, hd.1, Option.isSome_some, if_true]⟩

theorem enqueue_of_lt (s : Radio QueueModule) (p : Packet)
    (hlen : s.statics.priorityQueue.packets.length < s.statics.priorityQueue.maxQueueSize) :
    (enqueue env h s p).2 = true ∧ (enqueue env h s p).1.statics.priorityQueue.packets =
      h.push ⟨p, s.clock env⟩ s.statics.priorityQueue.packets := by
  have hacc : (enqueue env h s p).2 = true :=
    (BoundedQueue.enqueue_accepts_iff h.toDiscipline _ p (s.clock env)).2 hlen
  have hq := enqueue_packets env h s p
  simp_all

/-- The loop of RadioInterfaceQueue.cpp is a drain cycle under `budgetSpent`, from the round
`processed`, when its `millis()` reads are counted from `base`. -/
theorem drainLoop_cycle (startTime base : Nat) : ∀ (n processed : Nat) (s : Radio QueueModule),
    s.ticks = base + 2 * processed → s.statics.priorityQueue.packets.length ≤ n →
    ∃ logged okSent, (drainLoop env h startTime n processed s).attempts = s.attempts ++ logged ∧
      DrainCycle h.toDiscipline (budgetSpent env k startTime base) processed
        s.statics.priorityQueue.packets
        (drainLoop env h startTime n processed s).statics.priorityQueue.packets logged okSent
  | 0, _, s, _, hn =>
    ⟨[], [], by simp [drainLoop], .stop (.inl (List.length_eq_zero.1 (Nat.le_zero.1 hn)))⟩
  | n + 1, processed, s, hb, hn => by
    by_cases hl : s.statics.priorityQueue.packets = []
    · exact ⟨[], [], by simp [drainLoop, hl], by simpa [drainLoop, hl] using .stop (.inl rfl)⟩
    have hclock : s.clock env = word (env.millis (base + 2 * processed)) := by rw [Radio.clock, hb]
    by_cases hbudget : wsub (s.clock env) startTime < 100 ∧ processed < k.maxPacketsPerCycle
    swap
    · have heq : drainLoop env h startTime (n + 1) processed s = s.tick := by
        simp [drainLoop, hl, hbudget]
      have hsp : budgetSpent env k startTime base processed := by
        rw [budgetSpent, ← hclock]; omega
      exact ⟨[], [], by simp [heq], by simpa [heq] using .stop (.inr hsp)⟩
    have hns : ¬budgetSpent env k startTime base processed := by
      rw [budgetSpent, ← hclock]; omega
    obtain ⟨⟨e, r⟩, hpop⟩ := Option.ne_none_iff_exists'.1 (mt (h.pop_eq_none _).1 hl)
    obtain ⟨hd, hr, hmax, hda, hdt⟩ := dequeue_of_pop env h s.tick hpop
    obtain ⟨t, ht⟩ : ∃ t, Radio.sendPacket env k (dequeue env h s.tick).1 e.packet = t :=
      ⟨_, rfl⟩
    have hts : t.1.statics = (dequeue env h s.tick).1.statics := by simp [← ht]
    have hta : t.1.attempts = s.attempts ++ [(e.packet, t.2)] := by simp [← ht, hda]
    have hlen := h.length_pop hpop
    have hsize := s.statics.priorityQueue.size_le
    by_cases hok : t.2 = .ok
    · have heq : drainLoop env h startTime (n + 1) processed s =
          drainLoop env h startTime n (processed + 1)
            (countSent (decide (k.lastPriority e.packet > 2)) t.1) := by
        simp [drainLoop, hl, hbudget, hd, ht, hok]
      have htk : (countSent (decide (k.lastPriority e.packet > 2)) t.1).ticks =
          base + 2 * (processed + 1) := by
        rw [countSent_ticks, ← ht, Radio.sendPacket_ticks, hdt, Radio.tick_ticks, hb]; omega
      obtain ⟨logged, okSent, h1, h2⟩ := drainLoop_cycle startTime base n (processed + 1)
        (countSent (decide (k.lastPriority e.packet > 2)) t.1) htk
        (by simp only [countSent_priorityQueue, hts, hr]; omega)
      refine ⟨(e.packet, .ok) :: logged, e :: okSent, by simp [heq, h1, hta, hok], ?_⟩
      rw [heq]
      simp only [countSent_priorityQueue, hts, hr] at h2
      exact .send hns hpop h2
    · obtain ⟨hacc, hq⟩ := enqueue_of_lt env h t.1 e.packet
        (by simp only [hts, hr, hmax, Radio.tick_statics]; omega)
      have heq :
          drainLoop env h startTime (n + 1) processed s = (enqueue env h t.1 e.packet).1 := by
        simp [drainLoop, hl, hbudget, hd, ht, hok, hacc]
      refine ⟨[(e.packet, t.2)], [], by simp [heq, hta], ?_⟩
      rw [heq, hq, hts, hr]
      exact .fail _ hns hpop hok

end RadioInterfaceQueue

/-- A drain with the window read runs one drain cycle over the queue eviction leaves: with no
budget in RadioInterface.cpp, and in RadioInterfaceQueue.cpp under `budgetSpent` with the
start time and the reads of `millis()` the loop makes, so that it stops before the queue is
empty only once `MAX_PACKETS_PER_CYCLE` packets went out or 100 ms have passed, and sends at
most `MAX_PACKETS_PER_CYCLE`. With the window not read, a drain changes nothing, and evicts
nothing. -/
theorem drain_cycle_effect :
    (∀ (env : Env) (k : Platform) (config : Config) (s : Radio BoundedQueue),
      config.windowEnabled = true →
      ∃ logged okSent,
        (RadioInterface.processQueuedPackets env k config s).attempts = s.attempts ++ logged ∧
        DrainCycle fifo (fun _ => False) 0 (RadioInterface.cleanExpired env s).statics.packets
          (RadioInterface.processQueuedPackets env k config s).statics.packets logged okSent) ∧
    (∀ (env : Env) {k : Platform} (h : MaxDiscipline (entryPriority k)) (config : Config)
      (s : Radio QueueModule), config.windowEnabled = true →
      let c := RadioInterfaceQueue.cleanExpired env h s
      ∃ logged okSent,
        (RadioInterfaceQueue.processQueuedPackets env h config s).attempts = s.attempts ++ logged ∧
        okSent.length ≤ k.maxPacketsPerCycle ∧
        DrainCycle h.toDiscipline
          (RadioInterfaceQueue.budgetSpent env k (c.clock env) (c.ticks + 1)) 0
          c.statics.priorityQueue.packets
          (RadioInterfaceQueue.processQueuedPackets env h config s).statics.priorityQueue.packets
          logged okSent) ∧
    (∀ (env : Env) (k : Platform) (config : Config) (s : Radio BoundedQueue),
      config.windowEnabled = false → RadioInterface.processQueuedPackets env k config s = s) ∧
    (∀ (env : Env) {k : Platform} (h : MaxDiscipline (entryPriority k)) (config : Config)
      (s : Radio QueueModule), config.windowEnabled = false →
      RadioInterfaceQueue.processQueuedPackets env h config s = s) := by
  refine ⟨fun env k config s hen => ?_, fun env k h config s hen => ?_,
    fun env k config s hen => ?_, fun env k h config s hen => ?_⟩
  · rw [RadioInterface.processQueuedPackets_eq, if_pos hen]
    exact RadioInterface.drainLoop_cycle env k _ 0 _ le_rfl
  · rw [RadioInterfaceQueue.processQueuedPackets_eq, if_pos hen]
    obtain ⟨logged, okSent, ha, hc⟩ := RadioInterfaceQueue.drainLoop_cycle env h
      ((RadioInterfaceQueue.cleanExpired env h s).clock env)
      ((RadioInterfaceQueue.cleanExpired env h s).ticks + 1) _ 0
      (RadioInterfaceQueue.cleanExpired env h s).tick rfl le_rfl
    exact ⟨logged, okSent, ha,
      (Nat.zero_add _).symm.trans_le (hc.okSent_length_le (fun _ => .inl) (Nat.zero_le _)), hc⟩
  · rw [RadioInterface.processQueuedPackets_eq, hen]; rfl
  · rw [RadioInterfaceQueue.processQueuedPackets_eq, hen]; rfl

/-- The drain of two packets queued at night is a drain cycle over them. -/
theorem drain_cycle_effect_night :
    Config.night.windowEnabled = true ∧
    ∃ logged okSent,
      (RadioInterface.processQueuedPackets Env.midnight Platform.sample Config.night
        (RadioInterface.run Env.midnight Platform.sample (RadioInterface.initial false)
          [.send Config.night ⟨1, 8, false, 0, none⟩,
            .send Config.night ⟨2, 8, false, 0, none⟩])).attempts = [] ++ logged ∧
      DrainCycle fifo (fun _ => False) 0
        [⟨⟨1, 8, false, 0, none⟩, 0⟩, ⟨⟨2, 8, false, 0, none⟩, 0⟩]
        (RadioInterface.processQueuedPackets Env.midnight Platform.sample Config.night
          (RadioInterface.run Env.midnight Platform.sample (RadioInterface.initial false)
            [.send Config.night ⟨1, 8, false, 0, none⟩,
              .send Config.night ⟨2, 8, false, 0, none⟩])).statics.packets logged okSent :=
  ⟨rfl, drain_cycle_effect.1 _ _ _ _ rfl⟩

/-- RadioInterface.cpp's drain has no budget: five packets queued at night all go out in one
drain once the window opens, one more than the sample platform's `MAX_PACKETS_PER_CYCLE`. -/
theorem fifo_drain_exceeds_cycle_budget :
    Platform.sample.maxPacketsPerCycle = 4 ∧
    (RadioInterface.run Env.midnight Platform.sample (RadioInterface.initial false)
      ((List.range 5).map (fun i => .send Config.night ⟨i, 8, false, 0, none⟩) ++
        [.drain ⟨true, ⟨true, 0, 0, 23, 0, 1, 5, 3600⟩⟩])).sent.length = 5 := by
  decide

end RadioWindow
