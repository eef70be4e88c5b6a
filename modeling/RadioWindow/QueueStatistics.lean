import RadioWindow.PriorityPacketQueue

/-!
# Queue statistics under churn

Over any sequence of `enqueue`, `dequeue`, `cleanExpired` and `clear` on a fresh queue of
either class, every packet ever accepted is still held, was returned by `dequeue`, was
evicted, or was released by `clear`; the overflow counter counts the rejected enqueues; and
the average queue time never exceeds the maximum. The two classes differ only in their
container and their `cleanExpired`, and the statistics see only that `cleanExpired` removes
some entries and counts exactly those, so a `QueueClass` packages that much and the run
invariant is proved once for both.
-/

namespace RadioWindow

/-- A queue class: its container, and a `cleanExpired` that removes entries and counts them. -/
structure QueueClass where
  discipline : Discipline
  cleanExpired : BoundedQueue → Nat → BoundedQueue × List Packet
  cleanExpired_length : ∀ q now,
    (cleanExpired q now).1.packets.length + (cleanExpired q now).2.length = q.packets.length
  cleanExpired_stats : ∀ q now, (cleanExpired q now).1.stats =
    { q.stats with expiredPackets := q.stats.expiredPackets + (cleanExpired q now).2.length }

theorem length_filter_add_not {α : Type} (p : α → Bool) (l : List α) :
    (l.filter p).length + (l.filter (fun x => !p x)).length = l.length := by
  simpa using (List.filter_append_perm p l).length_eq

def QueueClass.packetQueue : QueueClass where
  discipline := fifo
  cleanExpired := PacketQueue.cleanExpired
  cleanExpired_length q now := by
    obtain ⟨h1, h2, -⟩ := PacketQueue.cleanExpired_spec q now
    rw [h1, h2, List.length_map, Nat.add_comm]
    exact length_filter_add_not _ _
  cleanExpired_stats q now := by
    obtain ⟨-, h2, h3, -⟩ := PacketQueue.cleanExpired_spec q now
    rw [h3, h2, List.length_map]

def QueueClass.priorityPacketQueue {k : Platform} (h : MaxDiscipline (entryPriority k)) :
    QueueClass where
  discipline := h.toDiscipline
  cleanExpired := PriorityPacketQueue.cleanExpired h
  cleanExpired_length q now := by
    obtain ⟨h1, h2, -⟩ := PriorityPacketQueue.cleanExpired_spec h q now
    rw [h1.length_eq, h2, List.length_map,
      ((h.popOrder_perm _ _ le_rfl).filter _).length_eq, Nat.add_comm]
    exact length_filter_add_not _ _
  cleanExpired_stats q now := by
    obtain ⟨-, h2, h3, -⟩ := PriorityPacketQueue.cleanExpired_spec h q now
    rw [h3, h2, List.length_map, ((h.popOrder_perm _ _ le_rfl).filter _).length_eq]

inductive QueueOp
  | enqueue (p : Packet) (now : Nat)
  | dequeue (now : Nat)
  | cleanExpired (now : Nat)
  | clear
deriving DecidableEq, Repr

/-- What the caller has seen come back: packets returned by `dequeue`, packets released by
`clear`, and enqueues answered `false`. -/
structure Tally where
  dequeued : Nat
  cleared : Nat
  rejected : Nat
deriving DecidableEq, Repr

namespace QueueClass

variable (c : QueueClass)

def step (qt : BoundedQueue × Tally) : QueueOp → BoundedQueue × Tally
  | .enqueue p now =>
    let r := qt.1.enqueue c.discipline p now
    (r.1, if r.2 then qt.2 else { qt.2 with rejected := qt.2.rejected + 1 })
  | .dequeue now =>
    let r := qt.1.dequeue c.discipline now
    (r.1, if r.2.isSome then { qt.2 with dequeued := qt.2.dequeued + 1 } else qt.2)
  | .cleanExpired now => ((c.cleanExpired qt.1 now).1, qt.2)
  | .clear =>
    let r := qt.1.clear c.discipline
    (r.1, { qt.2 with cleared := qt.2.cleared + r.2.length })

def run (q : BoundedQueue) (ops : List QueueOp) : BoundedQueue × Tally :=
  ops.foldl c.step (q, ⟨0, 0, 0⟩)

end QueueClass

/-- The run invariant: accepted packets are accounted for, overflows are the rejections, the
total queue time is at most `maxQueueTime` per dequeued packet, and the two counters that grow
by calls have grown by at most `n`, the number of calls. -/
def StatsConsistent (n : Nat) (qt : BoundedQueue × Tally) : Prop :=
  qt.1.stats.totalQueued =
      qt.1.packets.length + qt.2.dequeued + qt.1.stats.expiredPackets + qt.2.cleared ∧
    qt.1.stats.queueOverflows = qt.2.rejected ∧
    qt.1.stats.totalQueueTime ≤ qt.2.dequeued * qt.1.stats.maxQueueTime ∧
    qt.1.stats.totalQueued + qt.1.stats.queueOverflows ≤ n

theorem statsConsistent_new (m e : Nat) :
    StatsConsistent 0 (BoundedQueue.new m e, ⟨0, 0, 0⟩) := by
  simp [StatsConsistent, QueueStats.zero]

theorem totalQueueTime_step {T d M qt : Nat} (h : T ≤ d * M) :
    T + qt ≤ (d + 1) * max M qt := by
  have h1 : d * M ≤ d * max M qt := Nat.mul_le_mul_left _ (le_max_left _ _)
  have h2 : qt ≤ max M qt := le_max_right _ _
  rw [Nat.succ_mul]
  omega

theorem statsConsistent_step (c : QueueClass) {n : Nat} {qt : BoundedQueue × Tally}
    (h : StatsConsistent n qt) (op : QueueOp) : StatsConsistent (n + 1) (c.step qt op) := by
  obtain ⟨h1, h2, h3, h4⟩ := h
  cases op with
  | enqueue p now =>
    rcases BoundedQueue.enqueue_spec c.discipline qt.1 p now with ⟨-, he⟩ | ⟨-, ha, hp, hs⟩
    · simp only [QueueClass.step, he]
      exact ⟨h1, by simp [h2], h3, by simp; omega⟩
    · simp only [QueueClass.step, ha, if_true, hp, hs, StatsConsistent, c.discipline.length_push]
      omega
  | dequeue now =>
    cases hp : c.discipline.pop qt.1.packets with
    | none =>
      simp only [QueueClass.step, BoundedQueue.dequeue_of_pop_none _ _ _ hp, Option.isSome_none,
        Bool.false_eq_true, if_false, Prod.mk.eta]
      exact ⟨h1, h2, h3, by omega⟩
    | some tr =>
      obtain ⟨hr, hq, hs⟩ := BoundedQueue.dequeue_of_pop_some c.discipline qt.1 now hp
      have hl := c.discipline.length_pop hp
      simp only [QueueClass.step, hr, hq, hs, Option.isSome_some, if_true, StatsConsistent]
      exact ⟨by omega, h2, totalQueueTime_step h3, by omega⟩
  | cleanExpired now =>
    have hl := c.cleanExpired_length qt.1 now
    simp only [QueueClass.step, StatsConsistent, c.cleanExpired_stats]
    exact ⟨by omega, h2, h3, by omega⟩
  | clear =>
    have hl := (BoundedQueue.clear_released_perm c.discipline qt.1).length_eq
    simp only [List.length_map] at hl
    simp only [QueueClass.step, StatsConsistent, BoundedQueue.clear_packets,
      BoundedQueue.clear_stats, List.length_nil, hl]
    exact ⟨by omega, h2, h3, by omega⟩

theorem statsConsistent_run (c : QueueClass) :
    ∀ (ops : List QueueOp) (n : Nat) (qt : BoundedQueue × Tally), StatsConsistent n qt →
      StatsConsistent (n + ops.length) (ops.foldl c.step qt)
  | [], n, qt, h => h
  | op :: ops, n, qt, h => by
    simpa [Nat.add_assoc, Nat.add_comm 1] using
      statsConsistent_run c ops (n + 1) _ (statsConsistent_step c h op)

/-- The words the firmware holds after a run, as the caller has seen the run: every accepted
packet is held, returned by `dequeue`, evicted or released by `clear`; the overflows are the
rejected enqueues; and the average queue time is at most the maximum. -/
def StatsWords (r : BoundedQueue × Tally) : Prop :=
  word r.1.stats.totalQueued =
      r.1.packets.length + r.2.dequeued + word r.1.stats.expiredPackets + r.2.cleared ∧
    word r.1.stats.queueOverflows = r.2.rejected ∧
    r.1.stats.getAvgQueueTime ≤ r.1.stats.maxQueueTime

/-- Below `2^32` calls the counters hold their exact totals, so the invariant is read off on
the words. -/
theorem statsWords_run (c : QueueClass) (maxSize expirySeconds : Nat) (ops : List QueueOp)
    (hops : ops.length < wordSize) :
    StatsWords (c.run (BoundedQueue.new maxSize expirySeconds) ops) := by
  have hr : StatsConsistent ops.length (c.run (BoundedQueue.new maxSize expirySeconds) ops) := by
    simpa using statsConsistent_run c ops 0 _ (statsConsistent_new maxSize expirySeconds)
  generalize c.run (BoundedQueue.new maxSize expirySeconds) ops = r at hr ⊢
  obtain ⟨h1, h2, h3, h4⟩ := hr
  have hq : word r.1.stats.totalQueued = r.1.stats.totalQueued := word_of_lt (by omega)
  refine ⟨by rw [hq, word_of_lt (by omega)]; exact h1, by rw [word_of_lt (by omega)]; exact h2, ?_⟩
  unfold QueueStats.getAvgQueueTime
  split
  · exact Nat.zero_le _
  · rw [hq]
    apply Nat.div_le_of_le_mul
    calc word r.1.stats.totalQueueTime ≤ r.1.stats.totalQueueTime := Nat.mod_le _ _
      _ ≤ r.2.dequeued * r.1.stats.maxQueueTime := h3
      _ ≤ r.1.stats.totalQueued * r.1.stats.maxQueueTime := Nat.mul_le_mul_right _ (by omega)

/-- On a `PacketQueue` or a `PriorityPacketQueue` created empty, after any fewer than `2^32`
calls of `enqueue`, `dequeue`, `cleanExpired` and `clear`, at any clock values: `totalQueued`
is the size plus the packets dequeued, expired and cleared, `queueOverflows` is the number of
rejected enqueues, and `getAvgQueueTime() ≤ maxQueueTime`. -/
theorem queue_statistics_consistent (maxSize expirySeconds : Nat) (ops : List QueueOp)
    (hops : ops.length < wordSize) :
    StatsWords (QueueClass.packetQueue.run (BoundedQueue.new maxSize expirySeconds) ops) ∧
    ∀ {k : Platform} (h : MaxDiscipline (entryPriority k)),
      StatsWords
        ((QueueClass.priorityPacketQueue h).run (BoundedQueue.new maxSize expirySeconds) ops) :=
  ⟨statsWords_run _ _ _ ops hops, fun _ => statsWords_run _ _ _ ops hops⟩

theorem queue_statistics_consistent_churn :
    [QueueOp.enqueue ⟨1, 8, false, 0, none⟩ 0, .enqueue ⟨2, 8, false, 0, none⟩ 5000, .dequeue 9000,
      .cleanExpired 3700000, .clear].length < wordSize ∧
    StatsWords (QueueClass.packetQueue.run (BoundedQueue.new 1 3600)
      [.enqueue ⟨1, 8, false, 0, none⟩ 0, .enqueue ⟨2, 8, false, 0, none⟩ 5000, .dequeue 9000,
        .cleanExpired 3700000, .clear]) ∧
    ∀ {k : Platform} (h : MaxDiscipline (entryPriority k)),
      StatsWords ((QueueClass.priorityPacketQueue h).run (BoundedQueue.new 1 3600)
        [.enqueue ⟨1, 8, false, 0, none⟩ 0, .enqueue ⟨2, 8, false, 0, none⟩ 5000, .dequeue 9000,
          .cleanExpired 3700000, .clear]) :=
  ⟨by decide, queue_statistics_consistent 1 3600 _ (by decide)⟩

end RadioWindow
