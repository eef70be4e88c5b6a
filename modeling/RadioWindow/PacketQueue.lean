import RadioWindow.BoundedQueue

/-!
# `PacketQueue`: arrival order

The container of PacketQueue.h is a vector: `enqueue` appends, `dequeue` takes the front.
`cleanExpired` erases while it iterates, releasing each entry at least `packetExpirySeconds`
seconds old. The same loop, with the configured expiry and no counter, is
`RadioInterface::cleanExpiredPackets` of RadioInterfaceTime.cpp; both go through `expireLoop`.
-/

namespace RadioWindow

/-- The vector of PacketQueue.h: `emplace_back` at the end, `front` and `erase(begin())`. -/
def fifo : Discipline where
  push e l := l ++ [e]
  pop
    | [] => none
    | e :: r => some (e, r)
  push_perm e l := List.perm_append_singleton e l
  pop_eq_none l := by cases l <;> simp
  pop_perm := by
    intro l e r h
    cases l with
    | nil => cases h
    | cons x xs => cases h; rfl

@[simp] theorem fifo_push (e : QueuedPacket) (l : List QueuedPacket) : fifo.push e l = l ++ [e] :=
  rfl

@[simp] theorem fifo_pop_cons (e : QueuedPacket) (l : List QueuedPacket) :
    fifo.pop (e :: l) = some (e, l) := rfl

theorem fifo_popOrder : ∀ (n : Nat) (l : List QueuedPacket), l.length ≤ n → fifo.popOrder n l = l
  | 0, [], _ => rfl
  | n + 1, [], _ => rfl
  | n + 1, e :: l, h => by
    simp only [Discipline.popOrder, fifo_pop_cons, fifo_popOrder n l (by simpa using h)]

/-- Whether an entry has waited at least `threshold` milliseconds at `now`, measured as the
code measures it, on `uint32_t`. -/
def isExpiredAt (now threshold : Nat) (e : QueuedPacket) : Bool :=
  threshold ≤ wsub now e.enqueueTime

/-- The erase-while-iterating loop over a vector of entries: the entries kept, and the packets
released, in iteration order. -/
def expireLoop (now threshold : Nat) : List QueuedPacket → List QueuedPacket × List Packet
  | [] => ([], [])
  | e :: rest =>
    let r := expireLoop now threshold rest
    if threshold ≤ wsub now e.enqueueTime then (r.1, e.packet :: r.2) else (e :: r.1, r.2)

theorem expireLoop_eq (now threshold : Nat) (l : List QueuedPacket) :
    expireLoop now threshold l = (l.filter (fun e => !isExpiredAt now threshold e),
      (l.filter (isExpiredAt now threshold)).map (·.packet)) := by
  induction l with
  | nil => rfl
  | cons e l ih =>
    by_cases h : threshold ≤ wsub now e.enqueueTime <;>
      simp [expireLoop, ih, h, isExpiredAt, List.filter_cons]

theorem expireLoop_length_le (now threshold : Nat) (l : List QueuedPacket) :
    (expireLoop now threshold l).1.length ≤ l.length := by
  rw [expireLoop_eq]; exact List.length_filter_le _ _

namespace PacketQueue

/-- The queue RadioInterface.cpp declares, `PacketQueue packetQueue;`: 32 entries, 3600 s. -/
def default : BoundedQueue := BoundedQueue.new 32 3600

def enqueue (q : BoundedQueue) (packet : Packet) (now : Nat) : BoundedQueue × Bool :=
  q.enqueue fifo packet now

def dequeue (q : BoundedQueue) (now : Nat) : BoundedQueue × Option Packet := q.dequeue fifo now

def clear (q : BoundedQueue) : BoundedQueue × List Packet := q.clear fifo

/-- `PacketQueue::cleanExpired`; `now` is what `millis()` answers. The counter is bumped once
per erased entry. -/
def cleanExpired (q : BoundedQueue) (now : Nat) : BoundedQueue × List Packet :=
  let r := expireLoop now (word (q.packetExpirySeconds * 1000)) q.packets
  ({ q with
      packets := r.1
      stats := { q.stats with expiredPackets := q.stats.expiredPackets + r.2.length }
      size_le := (expireLoop_length_le _ _ _).trans q.size_le }, r.2)

theorem clear_released (q : BoundedQueue) : (clear q).2 = q.packets.map (·.packet) := by
  simp [clear, BoundedQueue.clear, fifo_popOrder _ _ le_rfl]

theorem cleanExpired_spec (q : BoundedQueue) (now : Nat) :
    (cleanExpired q now).1.packets =
      q.packets.filter (fun e => !isExpiredAt now (word (q.packetExpirySeconds * 1000)) e) ∧
    (cleanExpired q now).2 =
      (q.packets.filter (isExpiredAt now (word (q.packetExpirySeconds * 1000)))).map (·.packet) ∧
    (cleanExpired q now).1.stats = { q.stats with expiredPackets := q.stats.expiredPackets +
      (q.packets.filter (isExpiredAt now (word (q.packetExpirySeconds * 1000)))).length } ∧
    (cleanExpired q now).1.maxQueueSize = q.maxQueueSize ∧
    (cleanExpired q now).1.packetExpirySeconds = q.packetExpirySeconds := by
  simp [cleanExpired, expireLoop_eq]

end PacketQueue

end RadioWindow
