import RadioWindow.QueueStatistics
import RadioWindow.RadioInterface
import RadioWindow.RadioInterfaceQueue

/-!
# Counters only count up, except at `clearPacketQueue`

The queue's `totalQueued`, `expiredPackets` and `queueOverflows` are only ever incremented:
no operation of either queue class, `clear` included, lowers them, so along every run of
either radio they never decrease. The metrics of RadioInterfaceQueue.cpp are incremented too,
but `clearPacketQueue` calls `metrics.reset()`, which sets `dropCount`, `highPriorityCount` and
`normalPriorityCount` back to zero; they never decrease along a run without a clear.
The counters are exact totals: the `uint32_t` the code holds is the total while fewer than
`2^32` increments have been made.
-/

namespace RadioWindow

structure QueueStats.CountersLe (a b : QueueStats) : Prop where
  totalQueued : a.totalQueued ≤ b.totalQueued
  expiredPackets : a.expiredPackets ≤ b.expiredPackets
  queueOverflows : a.queueOverflows ≤ b.queueOverflows

structure QueueMetrics.CountersLe (a b : QueueMetrics) : Prop where
  highPriorityCount : a.highPriorityCount ≤ b.highPriorityCount
  normalPriorityCount : a.normalPriorityCount ≤ b.normalPriorityCount
  dropCount : a.dropCount ≤ b.dropCount

theorem QueueStats.CountersLe.refl (a : QueueStats) : a.CountersLe a := ⟨le_rfl, le_rfl, le_rfl⟩

theorem QueueStats.CountersLe.trans {a b c : QueueStats} (h₁ : a.CountersLe b)
    (h₂ : b.CountersLe c) : a.CountersLe c :=
  ⟨h₁.1.trans h₂.1, h₁.2.trans h₂.2, h₁.3.trans h₂.3⟩

theorem QueueMetrics.CountersLe.trans {a b c : QueueMetrics} (h₁ : a.CountersLe b)
    (h₂ : b.CountersLe c) : a.CountersLe c :=
  ⟨h₁.1.trans h₂.1, h₁.2.trans h₂.2, h₁.3.trans h₂.3⟩

namespace BoundedQueue

variable (d : Discipline)

theorem countersLe_enqueue (q : BoundedQueue) (p : Packet) (now : Nat) :
    q.stats.CountersLe (q.enqueue d p now).1.stats := by
  rcases enqueue_spec d q p now with ⟨-, he⟩ | ⟨-, -, -, hs⟩
  · rw [he]; exact ⟨le_rfl, le_rfl, Nat.le_succ _⟩
  · rw [hs]; exact ⟨Nat.le_succ _, le_rfl, le_rfl⟩

theorem countersLe_dequeue (q : BoundedQueue) (now : Nat) :
    q.stats.CountersLe (q.dequeue d now).1.stats := by
  rcases hp : d.pop q.packets with _ | ⟨top, rest⟩
  · rw [dequeue_of_pop_none d q now hp]; exact .refl _
  · rw [(dequeue_of_pop_some d q now hp).2.2]; exact ⟨le_rfl, le_rfl, le_rfl⟩

end BoundedQueue

theorem QueueClass.countersLe_cleanExpired (c : QueueClass) (q : BoundedQueue) (now : Nat) :
    q.stats.CountersLe (c.cleanExpired q now).1.stats := by
  rw [c.cleanExpired_stats]; exact ⟨le_rfl, Nat.le_add_right _ _, le_rfl⟩

variable (env : Env) (k : Platform)

theorem RadioInterface.countersLe_preserved (c : QueueStats) :
    RadioInterface.Preserved env k (fun s => c.CountersLe s.statics.stats) where
  tick _ h := h
  release _ _ h := h
  enqueue s p h := h.trans (BoundedQueue.countersLe_enqueue fifo _ _ _)
  dequeue s h := h.trans (BoundedQueue.countersLe_dequeue fifo _ _)
  cleanExpired s h := h.trans (QueueClass.packetQueue.countersLe_cleanExpired _ _)
  sendPacket s p h := by simpa using h

variable {k} (h : MaxDiscipline (entryPriority k))

theorem RadioInterfaceQueue.statsLe_preserved (c : QueueStats) :
    RadioInterfaceQueue.Preserved env h (fun s => c.CountersLe s.statics.priorityQueue.stats) where
  tick _ hs := hs
  release _ _ hs := hs
  countDrop _ hs := hs
  countSent b s hs := by cases b <;> exact hs
  enqueue s p hs := hs.trans (BoundedQueue.countersLe_enqueue h.toDiscipline _ _ _)
  dequeue s hs := hs.trans (BoundedQueue.countersLe_dequeue h.toDiscipline _ _)
  cleanExpired s hs := hs.trans ((QueueClass.priorityPacketQueue h).countersLe_cleanExpired _ _)
  sendPacket s p hs := by simpa using hs
  lastProcessTime _ _ hs := hs

theorem RadioInterfaceQueue.metricsLe_preserved (m : QueueMetrics) :
    RadioInterfaceQueue.Preserved env h (fun s => m.CountersLe s.statics.metrics) where
  tick _ hs := hs
  release _ _ hs := hs
  countDrop _ hs := ⟨hs.1, hs.2, Nat.le_succ_of_le hs.3⟩
  countSent b s hs := by
    cases b
    exacts [⟨hs.1, Nat.le_succ_of_le hs.2, hs.3⟩, ⟨Nat.le_succ_of_le hs.1, hs.2, hs.3⟩]
  enqueue _ _ hs := hs
  dequeue _ hs := hs
  cleanExpired _ hs := hs
  sendPacket s p hs := by simpa using hs
  lastProcessTime _ _ hs := ⟨hs.1, hs.2, hs.3⟩

/-- Along every run of either file, under any configurations, the queue's `totalQueued`,
`expiredPackets` and `queueOverflows` never decrease; in RadioInterfaceQueue.cpp the metrics'
counters never decrease along a run without `clearPacketQueue`. `clearPacketQueue` releases
the packets held and keeps the queue's counters, but in RadioInterfaceQueue.cpp it resets the
metrics. -/
theorem counters_monotone_until_clear :
    (∀ (env : Env) (k : Platform) (s : Radio BoundedQueue) (evs : List Event),
      s.statics.stats.CountersLe (RadioInterface.run env k s evs).statics.stats) ∧
    (∀ (env : Env) {k : Platform} (h : MaxDiscipline (entryPriority k)) (s : Radio QueueModule)
      (evs : List Event),
      s.statics.priorityQueue.stats.CountersLe
        (RadioInterfaceQueue.run env h s evs).statics.priorityQueue.stats ∧
      (Event.clear ∉ evs →
        s.statics.metrics.CountersLe (RadioInterfaceQueue.run env h s evs).statics.metrics)) ∧
    (∀ s : Radio BoundedQueue,
      (RadioInterface.clearPacketQueue s).statics.stats = s.statics.stats ∧
      (RadioInterface.clearPacketQueue s).released =
        s.released ++ s.statics.packets.map (·.packet)) ∧
    (∀ {k : Platform} (h : MaxDiscipline (entryPriority k)) (s : Radio QueueModule),
      (RadioInterfaceQueue.clearPacketQueue h s).statics.priorityQueue.stats =
        s.statics.priorityQueue.stats ∧
      (RadioInterfaceQueue.clearPacketQueue h s).statics.metrics = s.statics.metrics.reset ∧
      ∃ ps, (RadioInterfaceQueue.clearPacketQueue h s).released = s.released ++ ps ∧
        ps.Perm (s.statics.priorityQueue.packets.map (·.packet))) := by
  refine ⟨fun env k s evs => ?_, fun env k h s evs => ⟨?_, fun hno => ?_⟩,
    fun s => ⟨rfl, ?_⟩, fun h s => ⟨rfl, rfl, _, rfl, BoundedQueue.clear_released_perm _ _⟩⟩
  · exact (RadioInterface.countersLe_preserved env k _).run (fun _ hs => hs) evs s (.refl _)
  · exact (RadioInterfaceQueue.statsLe_preserved env h _).run evs s (fun _ _ hs => hs) (.refl _)
  · exact (RadioInterfaceQueue.metricsLe_preserved env h _).run evs s (absurd · hno)
      ⟨le_rfl, le_rfl, le_rfl⟩
  · simp [RadioInterface.clearPacketQueue, PacketQueue.clear_released]

/-- A run without a clear that drops a packet at night in `DROP_PACKETS` mode, queues another,
and sends it once the window opens: both the drop count and the normal-priority count move up
from zero. -/
theorem counters_monotone_until_clear_night :
    let evs : List Event :=
      [.send ⟨true, ⟨true, 21, 0, 23, 0, 0, 5, 3600⟩⟩ ⟨1, 8, false, 0, none⟩,
        .send Config.night ⟨2, 8, false, 0, none⟩, .drain ⟨true, ⟨true, 0, 0, 23, 0, 1, 5, 3600⟩⟩]
    let t := RadioInterfaceQueue.run Env.midnight (firstMax (entryPriority Platform.sample))
      (RadioInterfaceQueue.initial false) evs
    Event.clear ∉ evs ∧
    (RadioInterfaceQueue.initial false).statics.metrics.CountersLe t.statics.metrics ∧
    t.statics.metrics.dropCount = 1 ∧ t.statics.metrics.normalPriorityCount = 1 :=
  ⟨by decide, (counters_monotone_until_clear.2.1 _ _ _ _).2 (by decide), by decide, by decide⟩

/-- In RadioInterfaceQueue.cpp a packet dropped at night is counted, and `clearPacketQueue`
(the plugin's `CLEAR_QUEUE`) sets the count back to zero. -/
theorem clear_resets_drop_count :
    (RadioInterfaceQueue.run Env.midnight (firstMax (entryPriority Platform.sample))
      (RadioInterfaceQueue.initial false)
      [.send ⟨true, ⟨true, 21, 0, 23, 0, 0, 5, 3600⟩⟩ ⟨1, 8, false, 0, none⟩]
      ).statics.metrics.dropCount = 1 ∧
    (RadioInterfaceQueue.run Env.midnight (firstMax (entryPriority Platform.sample))
      (RadioInterfaceQueue.initial false)
      [.send ⟨true, ⟨true, 21, 0, 23, 0, 0, 5, 3600⟩⟩ ⟨1, 8, false, 0, none⟩,
        .clear]).statics.metrics.dropCount = 0 := by
  decide

end RadioWindow
