import RadioWindow.Basic

/-!
# Bounded packet queues

`PacketQueue` (PacketQueue.h) and `PriorityPacketQueue` (PriorityPacketQueue.h) have the same
data, the same statistics and the same `enqueue`, `dequeue` and `clear`; they differ in their
container (a vector in arrival order, a `std::priority_queue`) and in `cleanExpired`. A
`Discipline` is a container's `push` and `pop`, and the shared operations take one.

The statistics counters are only ever incremented or added to, so each is kept as the exact
total it received; the `uint32_t` the firmware holds is its `word`, and reads go through `word`.
-/

namespace RadioWindow

structure QueueStats where
  totalQueued : Nat
  expiredPackets : Nat
  queueOverflows : Nat
  totalQueueTime : Nat
  maxQueueTime : Nat
deriving DecidableEq, Repr

def QueueStats.zero : QueueStats := ⟨0, 0, 0, 0, 0⟩

/-- `getAvgQueueTime`, on the words the counters hold. -/
def QueueStats.getAvgQueueTime (s : QueueStats) : Nat :=
  if word s.totalQueued = 0 then 0 else word s.totalQueueTime / word s.totalQueued

/-- An entry of either queue; `PacketQueueEntry` of RadioInterface.h has the same two fields.
The priority queue's entry also caches its packet's `calculatePriority` score, which is a
function of the packet and is recomputed from it here. -/
structure QueuedPacket where
  packet : Packet
  enqueueTime : Nat
deriving DecidableEq, Repr

/-- A container: where `push` puts an entry, and which entry `pop` takes off. -/
structure Discipline where
  push : QueuedPacket → List QueuedPacket → List QueuedPacket
  pop : List QueuedPacket → Option (QueuedPacket × List QueuedPacket)
  push_perm : ∀ e l, (push e l).Perm (e :: l)
  pop_eq_none : ∀ l, pop l = none ↔ l = []
  pop_perm : ∀ {l e r}, pop l = some (e, r) → l.Perm (e :: r)

namespace Discipline

variable (d : Discipline)

theorem length_push (e : QueuedPacket) (l : List QueuedPacket) :
    (d.push e l).length = l.length + 1 := (d.push_perm e l).length_eq

theorem length_pop {l : List QueuedPacket} {e : QueuedPacket} {r : List QueuedPacket}
    (h : d.pop l = some (e, r)) : l.length = r.length + 1 := (d.pop_perm h).length_eq

@[simp] theorem pop_nil : d.pop [] = none := (d.pop_eq_none []).2 rfl

/-- The entries in the order successive `pop`s return them, for at most `n` pops. -/
def popOrder : Nat → List QueuedPacket → List QueuedPacket
  | 0, _ => []
  | n + 1, l =>
    match d.pop l with
    | none => []
    | some (e, r) => e :: popOrder n r

theorem popOrder_perm : ∀ (n : Nat) (l : List QueuedPacket), l.length ≤ n →
    (d.popOrder n l).Perm l
  | 0, l, h => by simp_all [popOrder]
  | n + 1, l, h => by
    cases hp : d.pop l with
    | none => simp [popOrder, hp, (d.pop_eq_none l).1 hp]
    | some er =>
      have hl := d.length_pop hp
      simp only [popOrder, hp]
      exact ((popOrder_perm n er.2 (by omega)).cons er.1).trans (d.pop_perm hp).symm

theorem popOrder_of_pop {l : List QueuedPacket} {e : QueuedPacket} {r : List QueuedPacket}
    (h : d.pop l = some (e, r)) : d.popOrder l.length l = e :: d.popOrder r.length r := by
  rw [d.length_pop h]
  simp [popOrder, h]

theorem mem_of_mem_popOrder : ∀ {n : Nat} {l : List QueuedPacket} {x : QueuedPacket},
    x ∈ d.popOrder n l → x ∈ l
  | 0, _, _, h => by simp [popOrder] at h
  | n + 1, l, x, h => by
    cases hp : d.pop l with
    | none => simp [popOrder, hp] at h
    | some er =>
      simp only [popOrder, hp, List.mem_cons] at h
      have hl := (d.pop_perm hp).symm
      rcases h with rfl | h
      · exact hl.subset (List.mem_cons_self _ _)
      · exact hl.subset (List.mem_cons_of_mem _ (mem_of_mem_popOrder h))

end Discipline

/-- The data both queue classes hold. `size_le` is the bound `enqueue` enforces: no value
breaking it can be built, so every queue below is one the class could reach. -/
structure BoundedQueue where
  packets : List QueuedPacket
  stats : QueueStats
  maxQueueSize : Nat
  packetExpirySeconds : Nat
  size_le : packets.length ≤ maxQueueSize

namespace BoundedQueue

variable (d : Discipline)

def new (maxSize expirySeconds : Nat) : BoundedQueue :=
  ⟨[], QueueStats.zero, maxSize, expirySeconds, Nat.zero_le _⟩

/-- `enqueue`; `now` is what `millis()` answers once the size check has passed. -/
def enqueue (q : BoundedQueue) (packet : Packet) (now : Nat) : BoundedQueue × Bool :=
  if h : q.maxQueueSize ≤ q.packets.length then
    ({ q with stats := { q.stats with queueOverflows := q.stats.queueOverflows + 1 } }, false)
  else
    ({ q with
        packets := d.push ⟨packet, now⟩ q.packets
        stats := { q.stats with totalQueued := q.stats.totalQueued + 1 }
        size_le := by rw [d.length_push]; omega }, true)

/-- `dequeue`; `now` is what `millis()` answers when the queue is not empty. -/
def dequeue (q : BoundedQueue) (now : Nat) : BoundedQueue × Option Packet :=
  match h : d.pop q.packets with
  | none => (q, none)
  | some (top, rest) =>
    let queueTime := wsub now top.enqueueTime / 1000
    ({ q with
        packets := rest
        stats := { q.stats with
          totalQueueTime := q.stats.totalQueueTime + queueTime
          maxQueueTime := max q.stats.maxQueueTime queueTime }
        size_le := by have := d.length_pop h; have := q.size_le; omega }, some top.packet)

/-- `clear`: every held packet is released, in the order the container yields them, and the
statistics stay. -/
def clear (q : BoundedQueue) : BoundedQueue × List Packet :=
  ({ q with packets := [], size_le := Nat.zero_le _ },
    (d.popOrder q.packets.length q.packets).map (·.packet))

@[simp] theorem new_packets (m e : Nat) : (new m e).packets = [] := rfl

@[simp] theorem new_stats (m e : Nat) : (new m e).stats = QueueStats.zero := rfl

@[simp] theorem enqueue_maxQueueSize (q : BoundedQueue) (p : Packet) (now : Nat) :
    (q.enqueue d p now).1.maxQueueSize = q.maxQueueSize := by
  unfold enqueue; split <;> rfl

@[simp] theorem enqueue_packetExpirySeconds (q : BoundedQueue) (p : Packet) (now : Nat) :
    (q.enqueue d p now).1.packetExpirySeconds = q.packetExpirySeconds := by
  unfold enqueue; split <;> rfl

theorem enqueue_spec (q : BoundedQueue) (p : Packet) (now : Nat) :
    (q.maxQueueSize ≤ q.packets.length ∧ q.enqueue d p now =
      ({ q with stats := { q.stats with queueOverflows := q.stats.queueOverflows + 1 } }, false)) ∨
    (q.packets.length < q.maxQueueSize ∧ (q.enqueue d p now).2 = true ∧
      (q.enqueue d p now).1.packets = d.push ⟨p, now⟩ q.packets ∧
      (q.enqueue d p now).1.stats = { q.stats with totalQueued := q.stats.totalQueued + 1 }) := by
  unfold enqueue
  split
  · exact .inl ⟨by omega, rfl⟩
  · exact .inr ⟨by omega, rfl, rfl, rfl⟩

theorem enqueue_accepts_iff (q : BoundedQueue) (p : Packet) (now : Nat) :
    (q.enqueue d p now).2 = true ↔ q.packets.length < q.maxQueueSize := by
  rcases enqueue_spec d q p now with ⟨h, he⟩ | ⟨h, he, -⟩
  · simp only [he, Bool.false_eq_true, false_iff]; omega
  · simp [he, h]

@[simp] theorem dequeue_maxQueueSize (q : BoundedQueue) (now : Nat) :
    (q.dequeue d now).1.maxQueueSize = q.maxQueueSize := by
  unfold dequeue; split <;> rfl

@[simp] theorem dequeue_packetExpirySeconds (q : BoundedQueue) (now : Nat) :
    (q.dequeue d now).1.packetExpirySeconds = q.packetExpirySeconds := by
  unfold dequeue; split <;> rfl

theorem dequeue_of_pop_none (q : BoundedQueue) (now : Nat) (h : d.pop q.packets = none) :
    q.dequeue d now = (q, none) := by
  unfold dequeue; split <;> simp_all

theorem dequeue_of_pop_some (q : BoundedQueue) (now : Nat) {top : QueuedPacket}
    {rest : List QueuedPacket} (h : d.pop q.packets = some (top, rest)) :
    (q.dequeue d now).2 = some top.packet ∧ (q.dequeue d now).1.packets = rest ∧
    (q.dequeue d now).1.stats = { q.stats with
      totalQueueTime := q.stats.totalQueueTime + wsub now top.enqueueTime / 1000
      maxQueueTime := max q.stats.maxQueueTime (wsub now top.enqueueTime / 1000) } := by
  unfold dequeue; split <;> simp_all

theorem dequeue_empty (q : BoundedQueue) (now : Nat) (h : q.packets = []) :
    q.dequeue d now = (q, none) := dequeue_of_pop_none d q now (by simp [h])

@[simp] theorem clear_packets (q : BoundedQueue) : (q.clear d).1.packets = [] := rfl

@[simp] theorem clear_stats (q : BoundedQueue) : (q.clear d).1.stats = q.stats := rfl

@[simp] theorem clear_maxQueueSize (q : BoundedQueue) :
    (q.clear d).1.maxQueueSize = q.maxQueueSize := rfl

theorem clear_released_perm (q : BoundedQueue) :
    (q.clear d).2.Perm (q.packets.map (·.packet)) :=
  (d.popOrder_perm _ _ le_rfl).map _

end BoundedQueue

end RadioWindow
