import RadioWindow.Drain

/-!
# What the queue accessors report

RadioInterface.cpp and RadioInterfaceQueue.cpp answer `getQueueStats`, `isQueueFull` and the
average queue time from their file's queue; RadioInterfaceQueue.cpp adds `getQueueMetrics`,
whose three counters its drain and its `send` keep. A drain moves them only by what it
transmits: each attempt of its own that `sendPacket` answers `ERRNO_OK` counts once, as high
priority when `getLastPriority()` is above 2 and as normal otherwise. Its drop branch never
runs, since the packet a failed attempt returns always fits back into the queue it was just
taken from.
-/

namespace RadioWindow

/-- The words a `QueueStats` of exact totals holds. -/
def QueueStats.held (s : QueueStats) : QueueStats :=
  ⟨word s.totalQueued, word s.expiredPackets, word s.queueOverflows, word s.totalQueueTime,
    word s.maxQueueTime⟩

/-- `RadioInterface::QueueMetrics`, as `getQueueMetrics()` fills it. -/
structure QueueMetricsReport where
  highPriorityCount : Nat
  normalPriorityCount : Nat
  dropCount : Nat
  avgQueueTime : Nat
deriving DecidableEq, Repr

namespace RadioInterface

variable (env : Env)

def getQueueStats (s : Radio BoundedQueue) : QueueStats := s.statics.stats.held

def isQueueFull (s : Radio BoundedQueue) : Bool :=
  decide (s.statics.maxQueueSize ≤ getQueueSize s)

def getAvgQueueTime (s : Radio BoundedQueue) : Nat := s.statics.stats.getAvgQueueTime

theorem isQueueFull_iff (s : Radio BoundedQueue) (p : Packet) :
    isQueueFull s = true ↔ (enqueue env s p).2 = false := by
  rw [isQueueFull, getQueueSize, enqueue_snd, PacketQueue.enqueue, decide_eq_true_iff,
    ← Bool.not_eq_true, BoundedQueue.enqueue_accepts_iff]
  omega

end RadioInterface

namespace RadioInterfaceQueue

variable (env : Env) {k : Platform} (h : MaxDiscipline (entryPriority k))

def isQueueFull (s : Radio QueueModule) : Bool :=
  decide (s.statics.priorityQueue.maxQueueSize ≤ getQueueSize s)

def getQueueStats (s : Radio QueueModule) : QueueStats := s.statics.priorityQueue.stats.held

def getQueueMetrics (s : Radio QueueModule) : QueueMetricsReport :=
  ⟨word s.statics.metrics.highPriorityCount, word s.statics.metrics.normalPriorityCount,
    word s.statics.metrics.dropCount, s.statics.priorityQueue.stats.getAvgQueueTime⟩

theorem isQueueFull_iff (s : Radio QueueModule) (p : Packet) :
    isQueueFull s = true ↔ (enqueue env h s p).2 = false := by
  rw [isQueueFull, getQueueSize, enqueue, decide_eq_true_iff, ← Bool.not_eq_true]
  exact not_congr (BoundedQueue.enqueue_accepts_iff _ _ _ _) |>.trans (by omega) |>.symm

@[simp] theorem enqueue_metrics (s : Radio QueueModule) (p : Packet) :
    (enqueue env h s p).1.statics.metrics = s.statics.metrics := rfl

@[simp] theorem dequeue_metrics (s : Radio QueueModule) :
    (dequeue env h s).1.statics.metrics = s.statics.metrics := rfl

@[simp] theorem cleanExpired_metrics (s : Radio QueueModule) :
    (cleanExpired env h s).statics.metrics = s.statics.metrics := rfl

def highSent (k : Platform) (a : Packet × ErrorCode) : Bool :=
  a.2 == .ok && decide (k.lastPriority a.1 > 2)

def normalSent (k : Platform) (a : Packet × ErrorCode) : Bool :=
  a.2 == .ok && !decide (k.lastPriority a.1 > 2)

/-- The counts a sequence of attempts adds to the metrics. -/
def QueueMetrics.count (k : Platform) (m : QueueMetrics) (logged : List (Packet × ErrorCode)) :
    QueueMetrics :=
  { m with
    highPriorityCount := m.highPriorityCount + logged.countP (highSent k)
    normalPriorityCount := m.normalPriorityCount + logged.countP (normalSent k) }

@[simp] theorem QueueMetrics.count_nil (k : Platform) (m : QueueMetrics) :
    QueueMetrics.count k m [] = m := rfl

theorem countSent_metrics (b : Bool) (s : Radio QueueModule) (p : Packet)
    (hb : b = decide (k.lastPriority p > 2)) :
    (countSent b s).statics.metrics = QueueMetrics.count k s.statics.metrics [(p, .ok)] := by
  subst hb
  unfold countSent
  by_cases hp : k.lastPriority p > 2 <;> simp [hp, QueueMetrics.count, highSent, normalSent]

theorem QueueMetrics.count_append (k : Platform) (m : QueueMetrics)
    (l₁ l₂ : List (Packet × ErrorCode)) :
    QueueMetrics.count k (QueueMetrics.count k m l₁) l₂ = QueueMetrics.count k m (l₁ ++ l₂) := by
  simp [QueueMetrics.count, List.countP_append, Nat.add_assoc]

theorem drainLoop_metrics (startTime : Nat) : ∀ (n processed : Nat) (s : Radio QueueModule),
    ∃ logged, (drainLoop env h startTime n processed s).attempts = s.attempts ++ logged ∧
      (drainLoop env h startTime n processed s).statics.metrics =
        QueueMetrics.count k s.statics.metrics logged
  | 0, _, s => ⟨[], by simp [drainLoop], rfl⟩
  | n + 1, processed, s => by
    by_cases hl : s.statics.priorityQueue.packets = []
    · exact ⟨[], by simp [drainLoop, hl], by simp [drainLoop, hl]⟩
    by_cases hbudget : wsub (s.clock env) startTime < 100 ∧ processed < k.maxPacketsPerCycle
    swap
    · have heq : drainLoop env h startTime (n + 1) processed s = s.tick := by
        simp [drainLoop, hl, hbudget]
      exact ⟨[], by simp [heq], by simp [heq]⟩
    obtain ⟨⟨e, r⟩, hpop⟩ := Option.ne_none_iff_exists'.1 (mt (h.pop_eq_none _).1 hl)
    obtain ⟨hd, hr, hmax, hda⟩ := dequeue_of_pop env h s.tick hpop
    obtain ⟨t, ht⟩ : ∃ t, Radio.sendPacket env k (dequeue env h s.tick).1 e.packet = t :=
      ⟨_, rfl⟩
    have hts : t.1.statics = (dequeue env h s.tick).1.statics := by simp [← ht]
    have hta : t.1.attempts = s.attempts ++ [(e.packet, t.2)] := by simp [← ht, hda]
    have htm : t.1.statics.metrics = s.statics.metrics := by rw [hts]; rfl
    by_cases hok : t.2 = .ok
    · have heq : drainLoop env h startTime (n + 1) processed s =
          drainLoop env h startTime n (processed + 1)
            (countSent (decide (k.lastPriority e.packet > 2)) t.1) := by
        simp [drainLoop, hl, hbudget, hd, ht, hok]
      obtain ⟨logged, h1, h2⟩ := drainLoop_metrics startTime n (processed + 1)
        (countSent (decide (k.lastPriority e.packet > 2)) t.1)
      refine ⟨(e.packet, .ok) :: logged, by simp [heq, h1, hta, hok], ?_⟩
      rw [heq, h2, countSent_metrics _ _ e.packet rfl, htm, QueueMetrics.count_append,
        List.singleton_append]
    · have hlen := h.length_pop hpop
      have hsize := s.statics.priorityQueue.size_le
      obtain ⟨hacc, -⟩ := enqueue_of_lt env h t.1 e.packet
        (by simp only [hts, hr, hmax, Radio.tick_statics]; omega)
      have heq :
          drainLoop env h startTime (n + 1) processed s = (enqueue env h t.1 e.packet).1 := by
        simp [drainLoop, hl, hbudget, hd, ht, hok, hacc]
      refine ⟨[(e.packet, t.2)], by simp [heq, hta], ?_⟩
      rw [heq, enqueue_metrics, htm]
      simp [QueueMetrics.count, highSent, normalSent, hok]

/-- A drain moves the metrics only by what it transmits: the attempts it logs that went out
count once each, as high priority when `getLastPriority()` scores the packet above 2 and as
normal otherwise; `dropCount` and `lastProcessTime` stay, whatever the queue, the clock and the
answers of `sendTo`. -/
theorem drain_counts_sent_by_priority (config : Config) (s : Radio QueueModule) :
    ∃ logged, (processQueuedPackets env h config s).attempts = s.attempts ++ logged ∧
      (processQueuedPackets env h config s).statics.metrics =
        { s.statics.metrics with
          highPriorityCount := s.statics.metrics.highPriorityCount + logged.countP (highSent k)
          normalPriorityCount :=
            s.statics.metrics.normalPriorityCount + logged.countP (normalSent k) } := by
  rw [processQueuedPackets_eq]
  by_cases hen : config.windowEnabled = true
  · rw [if_pos hen]
    obtain ⟨logged, h1, h2⟩ := drainLoop_metrics env h ((cleanExpired env h s).clock env)
      (cleanExpired env h s).statics.priorityQueue.packets.length 0 (cleanExpired env h s).tick
    exact ⟨logged, h1, h2⟩
  · rw [if_neg hen]
    exact ⟨[], by simp, rfl⟩

end RadioInterfaceQueue

end RadioWindow
