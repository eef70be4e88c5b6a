import RadioWindow.QueueStatistics
import RadioWindow.RadioInterfaceTime

/-!
# Eviction removes exactly the expired entries

An entry is expired at `now` when `(now - enqueue_time) mod 2^32 ≥ E * 1000`. While `E * 1000`
fits a `uint32_t` the threshold the code computes is exact, and the `uint32_t` difference is
that residue, so the three eviction loops test exactly this. `PacketQueue::cleanExpired`
keeps the young entries in order; `PriorityPacketQueue::cleanExpired` releases the expired ones in
pop order and pushes the young ones into a fresh container, which is ordered, so its pops still
come out best first; `RadioInterface::cleanExpiredPackets` does the same as the first, without
a counter, but only while the radio reads the window.
-/

namespace RadioWindow

/-- The exact eviction test, `(now - enqueue_time) mod 2^32 ≥ E * 1000` on integers. -/
def Expired (E now : Nat) (e : QueuedPacket) : Prop :=
  (E * 1000 : Int) ≤ ((now : Int) - e.enqueueTime) % 4294967296

instance (E now : Nat) : DecidablePred (Expired E now) :=
  fun _ => inferInstanceAs (Decidable (_ ≤ _))

theorem wsub_cast (a b : Nat) : (wsub a b : Int) = ((a : Int) - b) % 4294967296 := by
  simp only [wsub, word, wordSize]
  omega

theorem isExpiredAt_eq (E now : Nat) (hE : E * 1000 < wordSize) :
    isExpiredAt now (word (E * 1000)) = fun e => decide (Expired E now e) := by
  funext e
  have := wsub_cast now e.enqueueTime
  simp only [isExpiredAt, word_of_lt hE, Expired, decide_eq_decide]
  omega

/-- Eviction in the three loops. `PacketQueue::cleanExpired` keeps the young entries in order,
releases each expired packet once and counts it; `PriorityPacketQueue::cleanExpired` releases the
expired packets once each, in the order the container pops them, counts them, and keeps the
same multiset of young entries in a rebuilt container that is ordered and pops best first;
`RadioInterface::cleanExpiredPackets` keeps the young entries in order and releases the others
while the radio reads the window, and otherwise changes nothing. -/
theorem eviction_removes_expired :
    (∀ (q : BoundedQueue) (now : Nat), q.packetExpirySeconds * 1000 < wordSize →
      (PacketQueue.cleanExpired q now).1.packets =
        q.packets.filter (fun e => !decide (Expired q.packetExpirySeconds now e)) ∧
      (PacketQueue.cleanExpired q now).2 =
        (q.packets.filter (fun e => decide (Expired q.packetExpirySeconds now e))).map (·.packet) ∧
      (PacketQueue.cleanExpired q now).1.stats = { q.stats with expiredPackets :=
        q.stats.expiredPackets +
          (q.packets.filter (fun e => decide (Expired q.packetExpirySeconds now e))).length }) ∧
    (∀ {k : Platform} (h : MaxDiscipline (entryPriority k)) (q : BoundedQueue) (now : Nat),
      q.packetExpirySeconds * 1000 < wordSize →
      (PriorityPacketQueue.cleanExpired h q now).1.packets.Perm
        (q.packets.filter (fun e => !decide (Expired q.packetExpirySeconds now e))) ∧
      (PriorityPacketQueue.cleanExpired h q now).2 =
        ((h.popOrder q.packets.length q.packets).filter
          (fun e => decide (Expired q.packetExpirySeconds now e))).map (·.packet) ∧
      (PriorityPacketQueue.cleanExpired h q now).2.Perm
        ((q.packets.filter (fun e => decide (Expired q.packetExpirySeconds now e))).map
          (·.packet)) ∧
      (PriorityPacketQueue.cleanExpired h q now).1.stats = { q.stats with expiredPackets :=
        q.stats.expiredPackets +
          (q.packets.filter (fun e => decide (Expired q.packetExpirySeconds now e))).length } ∧
      h.Ordered (PriorityPacketQueue.cleanExpired h q now).1.packets ∧
      (h.popOrder (PriorityPacketQueue.cleanExpired h q now).1.packets.length
        (PriorityPacketQueue.cleanExpired h q now).1.packets).Pairwise
          (fun a b => entryPriority k b ≤ entryPriority k a)) ∧
    (∀ (env : Env) (config : Config) (s : Radio Unit),
      config.lora.windowPacketExpireSecs * 1000 < wordSize →
      (config.windowEnabled = true →
        (RadioInterfaceTime.cleanExpiredPackets env config s).packetQueue =
          s.packetQueue.filter
            (fun e => !decide (Expired config.lora.windowPacketExpireSecs (s.clock env) e)) ∧
        (RadioInterfaceTime.cleanExpiredPackets env config s).released = s.released ++
          (s.packetQueue.filter
            (fun e => decide (Expired config.lora.windowPacketExpireSecs (s.clock env) e))).map
            (·.packet)) ∧
      (config.windowEnabled = false →
        RadioInterfaceTime.cleanExpiredPackets env config s = s)) := by
  refine ⟨fun q now hE => ?_, fun h q now hE => ?_,
    fun env config s hE => ⟨fun hen => ?_, fun hen => ?_⟩⟩
  · obtain ⟨h1, h2, h3, -⟩ := PacketQueue.cleanExpired_spec q now
    rw [isExpiredAt_eq _ _ hE] at h1 h2 h3
    exact ⟨h1, h2, h3⟩
  · obtain ⟨h1, h2, h3, -⟩ := PriorityPacketQueue.cleanExpired_spec h q now
    rw [isExpiredAt_eq _ _ hE] at h1 h2 h3
    have ho := PriorityPacketQueue.cleanExpired_ordered h q now
    exact ⟨h1, h2, h2 ▸ ((h.popOrder_perm _ _ le_rfl).filter _).map _, h3, ho,
      h.popOrder_sorted _ ho⟩
  · simp only [Config.windowEnabled, Bool.and_eq_true] at hen
    simp [RadioInterfaceTime.cleanExpiredPackets, hen, expireLoop_eq, isExpiredAt_eq _ _ hE]
  · simp only [Config.windowEnabled, Bool.and_eq_false_iff] at hen
    rcases hen with hen | hen <;> simp [RadioInterfaceTime.cleanExpiredPackets, hen]

/-- With a one-second expiry, at 5000 ms a packet queued at 0 ms is released and one queued at
4500 ms stays. -/
theorem eviction_removes_expired_one_second :
    (PacketQueue.enqueue (PacketQueue.enqueue (BoundedQueue.new 4 1) ⟨1, 8, false, 0, none⟩ 0).1
      ⟨2, 8, false, 0, none⟩ 4500).1.packetExpirySeconds * 1000 < wordSize ∧
    (PacketQueue.cleanExpired (PacketQueue.enqueue (PacketQueue.enqueue (BoundedQueue.new 4 1)
      ⟨1, 8, false, 0, none⟩ 0).1 ⟨2, 8, false, 0, none⟩ 4500).1 5000).2 =
      [⟨1, 8, false, 0, none⟩] := by
  refine ⟨by decide, ?_⟩
  rw [(eviction_removes_expired.1 _ 5000 (by decide)).2.1]
  decide

/-- With the window off, `cleanExpiredPackets` keeps an entry an hour and six minutes old
although the configured expiry is an hour. -/
theorem cleanExpiredPackets_keeps_expired_when_off :
    Expired 3600 4000000 ⟨⟨1, 8, false, 0, none⟩, 0⟩ ∧
    (RadioInterfaceTime.cleanExpiredPackets ⟨fun _ => 4000000, fun _ => .ok⟩
      { Config.night with hasLora := false }
      ⟨(), [⟨⟨1, 8, false, 0, none⟩, 0⟩], false, 0, [], [], []⟩).packetQueue =
      [⟨⟨1, 8, false, 0, none⟩, 0⟩] := by
  decide

end RadioWindow
