import RadioWindow.Eviction
import RadioWindow.ConfigSurface
import RadioWindow.RadioInterface
import RadioWindow.RadioInterfaceQueue

/-!
# Where the expiry threshold comes from

Three loops evict, and none evicts at `window_packet_expire_secs * 1000` milliseconds as an
integer. The queues the two queued `send`s fill are built with the default 3600 s and never
read the configuration, so they evict at 3600000 ms whatever it says.
`RadioInterface::cleanExpiredPackets` and `QueuedPacket::isExpired` of TimeWindow.h do read an
expiry, but multiply it by 1000 on `uint32_t`: from 4294968 s on, which `window expire` and the
admin path both accept, the threshold wraps to a few milliseconds.
-/

namespace RadioWindow

namespace TimeWindow

/-- `QueuedPacket` of TimeWindow.h: an entry that reads its expiry through `config`. -/
structure QueuedPacket where
  packet : Packet
  enqueueTime : Nat
  config : TimeWindowConfig
deriving DecidableEq, Repr

/-- `QueuedPacket::isExpired` of TimeWindow.h: both sides on `uint32_t`. -/
def QueuedPacket.isExpired (e : QueuedPacket) (now : Nat) : Bool :=
  word (e.config.packetExpirySecs * 1000) ≤ wsub now e.enqueueTime

end TimeWindow

namespace RadioInterface

variable (env : Env) (k : Platform)

theorem packetExpirySeconds_preserved (E : Nat) :
    Preserved env k (fun s => s.statics.packetExpirySeconds = E) where
  tick _ h := h
  release _ _ h := h
  enqueue s p h := (BoundedQueue.enqueue_packetExpirySeconds _ _ _ _).trans h
  dequeue s h := (BoundedQueue.dequeue_packetExpirySeconds _ _ _).trans h
  cleanExpired s h := ((PacketQueue.cleanExpired_spec _ _).2.2.2.2).trans h
  sendPacket s p h := by simpa using h

theorem run_cleanExpired_threshold (disabled : Bool) (evs : List Event) :
    (cleanExpired env (run env k (initial disabled) evs)).statics.packets =
      (run env k (initial disabled) evs).statics.packets.filter fun e =>
        !decide (3600000 ≤ wsub ((run env k (initial disabled) evs).clock env) e.enqueueTime) := by
  have hE : (run env k (initial disabled) evs).statics.packetExpirySeconds = 3600 :=
    (packetExpirySeconds_preserved env k 3600).run (fun _ h => h) evs _ rfl
  simp only [cleanExpired, (PacketQueue.cleanExpired_spec _ _).1, hE, isExpiredAt]
  rfl

end RadioInterface

namespace RadioInterfaceQueue

variable (env : Env) {k : Platform} (h : MaxDiscipline (entryPriority k))

theorem packetExpirySeconds_preserved (E : Nat) :
    Preserved env h (fun s => s.statics.priorityQueue.packetExpirySeconds = E) where
  tick _ hs := hs
  release _ _ hs := hs
  countDrop _ hs := hs
  countSent _ _ hs := by simpa using hs
  enqueue s p hs := (BoundedQueue.enqueue_packetExpirySeconds _ _ _ _).trans hs
  dequeue s hs := (BoundedQueue.dequeue_packetExpirySeconds _ _ _).trans hs
  cleanExpired s hs := ((PriorityPacketQueue.cleanExpired_spec h _ _).2.2.2.2).trans hs
  sendPacket s p hs := by simpa using hs
  lastProcessTime _ _ hs := hs

theorem run_cleanExpired_threshold (disabled : Bool) (evs : List Event) :
    (cleanExpired env h (run env h (initial disabled) evs)).statics.priorityQueue.packets.Perm
      ((run env h (initial disabled) evs).statics.priorityQueue.packets.filter fun e =>
        !decide (3600000 ≤ wsub ((run env h (initial disabled) evs).clock env) e.enqueueTime)) := by
  have hE : (run env h (initial disabled) evs).statics.priorityQueue.packetExpirySeconds = 3600 :=
    (packetExpirySeconds_preserved env h 3600).run evs _ (fun _ _ hs => hs) rfl
  have := (PriorityPacketQueue.cleanExpired_spec h
    (run env h (initial disabled) evs).statics.priorityQueue
    ((run env h (initial disabled) evs).clock env)).1
  rw [hE] at this
  exact this

end RadioInterfaceQueue

/-- An expiry of 4294968 s, which `window expire` accepts, wraps to a threshold of 704 ms: an
entry one second old is evicted by `cleanExpiredPackets` and reported expired by
`QueuedPacket::isExpired`. After every run from the start, the queues of RadioInterface.cpp and
RadioInterfaceQueue.cpp evict at 3600000 ms whatever the configurations hold, so with 60 s
configured they keep an entry two minutes old through an eviction. -/
theorem expiry_threshold_wraps_or_ignores_config :
    (∀ (env : Env) (k : Platform) (disabled : Bool) (evs : List Event),
      (RadioInterface.cleanExpired env
        (RadioInterface.run env k (RadioInterface.initial disabled) evs)).statics.packets =
        (RadioInterface.run env k (RadioInterface.initial disabled) evs).statics.packets.filter
          fun e => !decide (3600000 ≤
            wsub ((RadioInterface.run env k (RadioInterface.initial disabled) evs).clock env)
              e.enqueueTime)) ∧
    (∀ (env : Env) {k : Platform} (h : MaxDiscipline (entryPriority k)) (disabled : Bool)
      (evs : List Event),
      (RadioInterfaceQueue.cleanExpired env h (RadioInterfaceQueue.run env h
        (RadioInterfaceQueue.initial disabled) evs)).statics.priorityQueue.packets.Perm
        ((RadioInterfaceQueue.run env h (RadioInterfaceQueue.initial disabled)
          evs).statics.priorityQueue.packets.filter fun e => !decide (3600000 ≤
            wsub ((RadioInterfaceQueue.run env h (RadioInterfaceQueue.initial disabled) evs).clock
              env) e.enqueueTime))) ∧
    1000 < 4294968 * 1000 ∧
    (timeWindowCmd Config.night ["window", "expire", "4294968"]).1.lora.windowPacketExpireSecs =
      4294968 ∧
    (RadioInterfaceTime.cleanExpiredPackets ⟨fun _ => 1000, fun _ => .ok⟩
      (timeWindowCmd Config.night ["window", "expire", "4294968"]).1
      ⟨(), [⟨⟨1, 8, false, 0, none⟩, 0⟩], false, 0, [], [], []⟩).released =
      [⟨1, 8, false, 0, none⟩] ∧
    TimeWindow.QueuedPacket.isExpired
      ⟨⟨1, 8, false, 0, none⟩, 0, ⟨true, 21, 0, 23, 0, 4294968⟩⟩ 1000 = true ∧
    60 * 1000 ≤ 120000 ∧
    (RadioInterface.run ⟨fun n => if n < 2 then 0 else 120000, fun _ => .ok⟩ Platform.sample
      (RadioInterface.initial false)
      [.send ⟨true, ⟨true, 21, 0, 23, 0, 1, 5, 60⟩⟩ ⟨1, 8, false, 0, none⟩,
        .clean ⟨true, ⟨true, 21, 0, 23, 0, 1, 5, 60⟩⟩]).statics.packets =
      [⟨⟨1, 8, false, 0, none⟩, 0⟩] ∧
    (RadioInterfaceQueue.run ⟨fun n => if n < 2 then 0 else 120000, fun _ => .ok⟩
      (firstMax (entryPriority Platform.sample)) (RadioInterfaceQueue.initial false)
      [.send ⟨true, ⟨true, 21, 0, 23, 0, 1, 5, 60⟩⟩ ⟨1, 8, false, 0, none⟩,
        .clean ⟨true, ⟨true, 21, 0, 23, 0, 1, 5, 60⟩⟩]).statics.priorityQueue.packets =
      [⟨⟨1, 8, false, 0, none⟩, 0⟩] :=
  ⟨RadioInterface.run_cleanExpired_threshold, RadioInterfaceQueue.run_cleanExpired_threshold,
    by decide⟩

end RadioWindow
