import RadioWindow.Ownership

/-!
# The queue's capacity in RadioInterface.cpp

The file's queue is `PacketQueue packetQueue;`, built with the default bound 32, and nothing
ever hands it `window_queue_size`. So in every run the queue admits a closed-window packet
exactly when it holds fewer than 32, whatever size the configuration asks for; with a
configured size of 5, six packets are held after six sends.
-/

namespace RadioWindow

namespace RadioInterface

variable (env : Env) (k : Platform)

theorem sendOutside_queue_ok_iff (config : Config) (s : Radio BoundedQueue) (p : Packet)
    (hmode : config.lora.windowMode = queuePackets) :
    (sendOutside env config s p).2 = .ok ↔ s.statics.packets.length < s.statics.maxQueueSize := by
  rw [← BoundedQueue.enqueue_accepts_iff fifo s.statics p (s.clock env)]
  simp only [sendOutside, hmode, dropPackets, queuePackets]
  cases hacc : (enqueue env s p).2 <;> simp_all [enqueue_snd, PacketQueue.enqueue]

theorem run_send_admitted_iff (disabled : Bool) (evs : List Event) (config : Config)
    (p : Packet) (hen : config.windowEnabled = true)
    (hclosed : isOperationAllowed config ((run env k (initial disabled) evs).clock env) = false)
    (hmode : config.lora.windowMode = queuePackets) :
    (send env k config (run env k (initial disabled) evs) p).2 = .ok ↔
      (run env k (initial disabled) evs).statics.packets.length < 32 := by
  have hmax : (run env k (initial disabled) evs).statics.maxQueueSize = 32 :=
    (maxQueueSize_preserved env k 32).run (fun _ h => h) evs _ rfl
  rw [send_of_closed env k config _ p hen hclosed, sendOutside_queue_ok_iff env config _ p hmode]
  simp [hmax]

end RadioInterface

/-- After every run from the start, a closed-window `QUEUE_PACKETS` send in RadioInterface.cpp
is admitted exactly when fewer than 32 packets are held, whatever `window_queue_size` says; so
with `window_queue_size` 5, six closed-window sends leave six packets in the queue. -/
theorem fifo_capacity_ignores_config :
    (∀ (env : Env) (k : Platform) (disabled : Bool) (evs : List Event) (config : Config)
      (p : Packet), config.windowEnabled = true →
      isOperationAllowed config
        ((RadioInterface.run env k (RadioInterface.initial disabled) evs).clock env) = false →
      config.lora.windowMode = queuePackets →
      ((RadioInterface.send env k config
          (RadioInterface.run env k (RadioInterface.initial disabled) evs) p).2 = .ok ↔
        (RadioInterface.run env k (RadioInterface.initial disabled) evs).statics.packets.length <
          32)) ∧
    Config.night.lora.windowQueueSize = 5 ∧
    RadioInterface.getQueueSize (RadioInterface.run Env.midnight Platform.sample
      (RadioInterface.initial false)
      ((List.range 6).map fun i => .send Config.night ⟨i, 8, false, 0, none⟩)) = 6 :=
  ⟨RadioInterface.run_send_admitted_iff, by decide⟩

end RadioWindow
