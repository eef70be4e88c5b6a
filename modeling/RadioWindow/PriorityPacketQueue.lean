import RadioWindow.PacketQueue

/-!
# `PriorityPacketQueue`: a `std::priority_queue` of scored entries

An entry's score is `calculatePriority` of its packet, and `operator<` compares scores only.
The library keeps its container in heap order and promises that `top` is an entry no other
entry outranks; which of several equal entries that is is its own choice. A `MaxDiscipline` is
any container with an order invariant that `push` and `pop` keep and under which `pop` takes
such an entry, and every result here holds for all of them. `cleanExpired` cannot erase in
place: it pops every entry, releases the expired ones and pushes the others into a fresh queue,
which is therefore ordered whatever the old one was.
-/

namespace RadioWindow

/-- `QueuedPacket::calculatePriority` of PriorityPacketQueue.h (the packet pointer is never
null here). -/
def calculatePriority (k : Platform) (p : Packet) : Nat :=
  let priority := 1 + (if p.wantAck then 2 else 0)
  let priority := priority +
    (if p.priority = k.priorityReliable then 3 else if p.priority = k.priorityAck then 2 else 0)
  match p.decodedPortnum with
  | some portnum =>
    priority + (if portnum = k.positionApp then 1 else 0) +
      (if portnum = k.emergencyApp then 4 else 0)
  | none => priority

/-- The score `operator<` compares, cached in the entry at construction. -/
def entryPriority (k : Platform) (e : QueuedPacket) : Nat := calculatePriority k e.packet

/-- A `std::priority_queue` under a strict order on `score`. `Ordered` is the container's order
invariant (the heap property of the library's binary heap): the empty container has it, `push`
and `pop` keep it, and on a container that has it `pop` removes the `top`, an entry no other
entry outranks. -/
structure MaxDiscipline (score : QueuedPacket → Nat) extends Discipline where
  Ordered : List QueuedPacket → Prop
  ordered_nil : Ordered []
  push_ordered : ∀ e {l}, Ordered l → Ordered (push e l)
  pop_ordered : ∀ {l e r}, Ordered l → pop l = some (e, r) → Ordered r
  pop_max : ∀ {l e r}, Ordered l → pop l = some (e, r) → ∀ x ∈ r, score x ≤ score e

namespace MaxDiscipline

variable {score : QueuedPacket → Nat} (h : MaxDiscipline score)

theorem popOrder_sorted : ∀ (n : Nat) {l : List QueuedPacket}, h.Ordered l →
    (h.popOrder n l).Pairwise (fun a b => score b ≤ score a)
  | 0, _, _ => List.Pairwise.nil
  | n + 1, l, hl => by
    cases hp : h.pop l with
    | none => simp [Discipline.popOrder, hp]
    | some er =>
      simp only [Discipline.popOrder, hp, List.pairwise_cons]
      exact ⟨fun x hx => h.pop_max hl hp x (h.mem_of_mem_popOrder hx),
        popOrder_sorted n (h.pop_ordered hl hp)⟩

end MaxDiscipline

section FirstMax

variable (score : QueuedPacket → Nat)

def insertByScore (e : QueuedPacket) : List QueuedPacket → List QueuedPacket
  | [] => [e]
  | x :: xs => if score x < score e then e :: x :: xs else x :: insertByScore e xs

theorem insertByScore_perm (e : QueuedPacket) :
    ∀ l : List QueuedPacket, (insertByScore score e l).Perm (e :: l)
  | [] => List.Perm.refl _
  | x :: xs => by
    by_cases hx : score x < score e
    · rw [insertByScore, if_pos hx]
    · rw [insertByScore, if_neg hx]
      exact ((insertByScore_perm e xs).cons x).trans (List.Perm.swap e x xs)

theorem insertByScore_sorted (e : QueuedPacket) : ∀ {l : List QueuedPacket},
    l.Pairwise (fun a b => score b ≤ score a) →
    (insertByScore score e l).Pairwise (fun a b => score b ≤ score a)
  | [], _ => List.pairwise_singleton _ e
  | x :: xs, hl => by
    obtain ⟨hx, hxs⟩ := List.pairwise_cons.1 hl
    by_cases hlt : score x < score e
    · rw [insertByScore, if_pos hlt]
      refine List.pairwise_cons.2 ⟨?_, hl⟩
      simp only [List.mem_cons, forall_eq_or_imp]
      exact ⟨hlt.le, fun y hy => (hx y hy).trans hlt.le⟩
    · rw [insertByScore, if_neg hlt]
      refine List.pairwise_cons.2 ⟨fun y hy => ?_, insertByScore_sorted e hxs⟩
      rcases List.mem_cons.1 ((insertByScore_perm score e xs).subset hy) with rfl | hy
      · omega
      · exact hx y hy

/-- One such container: a list sorted by score, `push` inserting behind the
entries of at least the same score and `pop` taking the head. Ties leave in the order they were
pushed; that is this container's choice, not the library's. -/
def firstMax : MaxDiscipline score where
  push := insertByScore score
  pop := fifo.pop
  push_perm := insertByScore_perm score
  pop_eq_none := fifo.pop_eq_none
  pop_perm := fifo.pop_perm
  Ordered := List.Pairwise fun a b => score b ≤ score a
  ordered_nil := List.Pairwise.nil
  push_ordered := insertByScore_sorted score
  pop_ordered := by
    rintro (_ | ⟨x, xs⟩) e r hl hp
    · cases hp
    · cases hp; exact hl.of_cons
  pop_max := by
    rintro (_ | ⟨x, xs⟩) e r hl hp
    · cases hp
    · cases hp; exact fun _ => List.rel_of_pairwise_cons hl

end FirstMax

/-- The drain of `cleanExpired` for at most `n` pops: every entry popped, the expired ones
released in pop order, the others pushed into `temp`. -/
def rebuildLoop (d : Discipline) (now threshold : Nat) :
    Nat → List QueuedPacket → List QueuedPacket → List QueuedPacket × List Packet
  | 0, _, temp => (temp, [])
  | n + 1, packets, temp =>
    match d.pop packets with
    | none => (temp, [])
    | some (top, rest) =>
      if threshold ≤ wsub now top.enqueueTime then
        let r := rebuildLoop d now threshold n rest temp
        (r.1, top.packet :: r.2)
      else rebuildLoop d now threshold n rest (d.push top temp)

theorem rebuildLoop_spec (d : Discipline) (now threshold : Nat) :
    ∀ (n : Nat) (packets temp : List QueuedPacket), packets.length ≤ n →
    (rebuildLoop d now threshold n packets temp).1.Perm
      (packets.filter (fun e => !isExpiredAt now threshold e) ++ temp) ∧
    (rebuildLoop d now threshold n packets temp).2 =
      ((d.popOrder n packets).filter (isExpiredAt now threshold)).map (·.packet)
  | 0, packets, temp, h => by
    rw [List.length_eq_zero.1 (Nat.le_zero.1 h)]; exact ⟨List.Perm.refl _, rfl⟩
  | n + 1, packets, temp, h => by
    cases hp : d.pop packets with
    | none =>
      rw [(d.pop_eq_none packets).1 hp]
      simp [rebuildLoop, Discipline.popOrder]
    | some tr =>
      obtain ⟨top, rest⟩ := tr
      have hl := d.length_pop hp
      have hperm := (d.pop_perm hp).filter (fun e => !isExpiredAt now threshold e)
      by_cases hx : threshold ≤ wsub now top.enqueueTime
      · obtain ⟨ih1, ih2⟩ := rebuildLoop_spec d now threshold n rest temp (by omega)
        simp only [rebuildLoop, hp, hx, if_true, Discipline.popOrder]
        refine ⟨ih1.trans ?_, ?_⟩
        · refine List.Perm.append_right _ (hperm.trans ?_).symm
          simp [List.filter_cons, isExpiredAt, hx]
        · simp [ih2, List.filter_cons, isExpiredAt, hx]
      · obtain ⟨ih1, ih2⟩ := rebuildLoop_spec d now threshold n rest (d.push top temp) (by omega)
        simp only [rebuildLoop, hp, hx, if_false, Discipline.popOrder]
        refine ⟨ih1.trans ?_, ?_⟩
        · have hkeep : (packets.filter (fun e => !isExpiredAt now threshold e)).Perm
              (top :: rest.filter (fun e => !isExpiredAt now threshold e)) := by
            refine hperm.trans ?_
            simp [List.filter_cons, isExpiredAt, hx]
          refine ((List.Perm.append_left _ (d.push_perm top temp)).trans ?_)
          exact List.perm_middle.trans (hkeep.append_right temp).symm
        · simp [ih2, List.filter_cons, isExpiredAt, hx]

theorem rebuildLoop_length_le (d : Discipline) (now threshold : Nat) (l : List QueuedPacket) :
    (rebuildLoop d now threshold l.length l []).1.length ≤ l.length := by
  have h := ((rebuildLoop_spec d now threshold _ l [] le_rfl).1).length_eq
  simp only [List.length_append, List.length_nil, Nat.add_zero] at h
  exact h ▸ List.length_filter_le _ _

theorem rebuildLoop_ordered {score : QueuedPacket → Nat} (h : MaxDiscipline score)
    (now threshold : Nat) : ∀ (n : Nat) (packets : List QueuedPacket) {temp : List QueuedPacket},
    h.Ordered temp → h.Ordered (rebuildLoop h.toDiscipline now threshold n packets temp).1
  | 0, _, _, ht => ht
  | n + 1, packets, temp, ht => by
    cases hp : h.pop packets with
    | none => simpa only [rebuildLoop, hp] using ht
    | some tr =>
      obtain ⟨top, rest⟩ := tr
      by_cases hx : threshold ≤ wsub now top.enqueueTime
      · simp only [rebuildLoop, hp, hx, if_true]
        exact rebuildLoop_ordered h now threshold n rest ht
      · simp only [rebuildLoop, hp, hx, if_false]
        exact rebuildLoop_ordered h now threshold n rest (h.push_ordered top ht)

namespace PriorityPacketQueue

variable {k : Platform} (h : MaxDiscipline (entryPriority k))

def default : BoundedQueue := BoundedQueue.new 32 3600

def enqueue (q : BoundedQueue) (packet : Packet) (now : Nat) : BoundedQueue × Bool :=
  q.enqueue h.toDiscipline packet now

def dequeue (q : BoundedQueue) (now : Nat) : BoundedQueue × Option Packet :=
  q.dequeue h.toDiscipline now

def clear (q : BoundedQueue) : BoundedQueue × List Packet := q.clear h.toDiscipline

def cleanExpired (q : BoundedQueue) (now : Nat) : BoundedQueue × List Packet :=
  let r := rebuildLoop h.toDiscipline now (word (q.packetExpirySeconds * 1000))
    q.packets.length q.packets []
  ({ q with
      packets := r.1
      stats := { q.stats with expiredPackets := q.stats.expiredPackets + r.2.length }
      size_le := (rebuildLoop_length_le _ _ _ _).trans q.size_le }, r.2)

theorem cleanExpired_spec (q : BoundedQueue) (now : Nat) :
    (cleanExpired h q now).1.packets.Perm
      (q.packets.filter (fun e => !isExpiredAt now (word (q.packetExpirySeconds * 1000)) e)) ∧
    (cleanExpired h q now).2 = ((h.popOrder q.packets.length q.packets).filter
      (isExpiredAt now (word (q.packetExpirySeconds * 1000)))).map (·.packet) ∧
    (cleanExpired h q now).1.stats = { q.stats with expiredPackets := q.stats.expiredPackets +
      (q.packets.filter (isExpiredAt now (word (q.packetExpirySeconds * 1000)))).length } ∧
    (cleanExpired h q now).1.maxQueueSize = q.maxQueueSize ∧
    (cleanExpired h q now).1.packetExpirySeconds = q.packetExpirySeconds := by
  obtain ⟨h1, h2⟩ := rebuildLoop_spec h.toDiscipline now (word (q.packetExpirySeconds * 1000))
    q.packets.length q.packets [] le_rfl
  have hcount := ((h.popOrder_perm _ q.packets le_rfl).filter
    (isExpiredAt now (word (q.packetExpirySeconds * 1000)))).length_eq
  refine ⟨by simpa using h1, h2, ?_, rfl, rfl⟩
  simp only [cleanExpired, h2, List.length_map, hcount]

theorem cleanExpired_ordered (q : BoundedQueue) (now : Nat) :
    h.Ordered (cleanExpired h q now).1.packets :=
  rebuildLoop_ordered h _ _ _ _ h.ordered_nil

end PriorityPacketQueue

end RadioWindow
