import RadioWindow.Delivery

/-!
# RadioInterface.cpp keeps the order of `send`

RadioInterface.cpp queues at the back of a FIFO and, with the window open, drains the whole
queue before it transmits the packet in hand. So while every `send` is made with the window
enabled and nothing fails, packets reach `sendTo` in the order they were handed to `send`: the
packets sent are a sublist of the packets handed over, the expired and the discarded left out.
The invariant is that what has reached `sendTo`, followed by what the queue holds, is such a
sublist. A `send` with the window disabled skips the drain, and its packet overtakes the
queued ones.
-/

namespace RadioWindow

def Event.sendsWithWindow : Event → Bool
  | .send config _ => config.windowEnabled
  | _ => true

namespace RadioInterface

variable (env : Env) (k : Platform)

/-- The packets handed to `sendTo`, then those the queue holds, front first. -/
def sentThenHeld (s : Radio BoundedQueue) : List Packet :=
  s.sent ++ s.statics.packets.map (·.packet)

theorem sentThenHeld_cleanExpired (s : Radio BoundedQueue) :
    (sentThenHeld (cleanExpired env s)).Sublist (sentThenHeld s) := by
  obtain ⟨h1, -⟩ := PacketQueue.cleanExpired_spec s.statics (s.clock env)
  simp only [sentThenHeld, cleanExpired, Radio.release_sent, Radio.tick_sent, h1]
  exact ((List.filter_sublist _).map _).append_left _

theorem sentThenHeld_clearPacketQueue (s : Radio BoundedQueue) :
    (sentThenHeld (clearPacketQueue s)).Sublist (sentThenHeld s) := by
  rw [sentThenHeld, (owned_clearPacketQueue s).2, List.map_nil, List.append_nil]
  exact List.sublist_append_left _ _

section Succeeding

variable (henv : ∀ n, env.sendTo n = .ok)
include henv

theorem processQueuedPackets_sentThenHeld (config : Config) (hen : config.windowEnabled = true)
    (s : Radio BoundedQueue) (hs : Sound k s) :
    (processQueuedPackets env k config s).statics.packets = [] ∧
      (sentThenHeld (processQueuedPackets env k config s)).Sublist (sentThenHeld s) := by
  have hsub := (owned_cleanExpired env s).2
  obtain ⟨d1, d2, -⟩ := drainLoop_delivers env k henv _ (cleanExpired env s)
    ⟨hs.1, fun e he => hs.2 e (hsub he)⟩ le_rfl
  rw [processQueuedPackets_eq, if_pos hen]
  refine ⟨d1, ?_⟩
  have heq : sentThenHeld (drainLoop env k (cleanExpired env s).statics.packets.length
      (cleanExpired env s)) = sentThenHeld (cleanExpired env s) := by
    rw [sentThenHeld, sentThenHeld, d1, d2, List.map_nil, List.append_nil]
  exact heq ▸ sentThenHeld_cleanExpired env s

theorem send_sentThenHeld (config : Config) (hen : config.windowEnabled = true)
    (s : Radio BoundedQueue) (p : Packet) (hs : Sound k s)
    (hm : (WindowMode.ofNat? config.lora.windowMode).isSome) (hp : Transmittable k p) :
    (sentThenHeld (send env k config s p).1).Sublist (sentThenHeld s ++ [p]) := by
  obtain ⟨m, hm⟩ := Option.isSome_iff_exists.1 hm
  have hR := send_realizes env k config s p hm
  cases hopen : isOperationAllowed config (s.clock env)
  · rw [hopen] at hR
    have hne := AdmissionPolicy.evaluate_closed_ne_sendNow m
      (s.statics.maxQueueSize ≤ s.statics.packets.length)
    revert hR hne
    cases AdmissionPolicy.evaluate false m (s.statics.maxQueueSize ≤ s.statics.packets.length) with
    | sendNow => exact fun _ hne => absurd rfl hne
    | enqueue =>
      rintro ⟨-, ⟨t, ht⟩, -, -, hsent⟩ -
      rw [sentThenHeld, ht, hsent, fifo_push, List.map_append, ← List.append_assoc]
      rfl
    | discard =>
      rintro ⟨-, hheld, -, -, hsent⟩ -
      rw [sentThenHeld, hheld, hsent]
      exact List.sublist_append_left _ _
  · obtain ⟨ho, hoo⟩ : Sound k (Radio.outsideWindow env config s).2 ∧
        sentThenHeld (Radio.outsideWindow env config s).2 = sentThenHeld s := by
      rcases Radio.outsideWindow_frame env config s with h | h <;> rw [h] <;> exact ⟨hs, rfl⟩
    obtain ⟨h1, h2⟩ := processQueuedPackets_sentThenHeld env k henv config hen _ ho
    have hsound := (processQueuedPackets_owned env k henv config _ ho).2
    obtain ⟨-, hsent, -⟩ := Radio.sendPacket_of_transmittable env k _ hsound.1 hp henv
    simp only [send, Radio.outsideWindow_fst_eq, hopen, Bool.not_true, Bool.false_eq_true,
      if_false]
    rw [sentThenHeld, Radio.sendPacket_statics, hsent, h1, List.map_nil, List.append_nil]
    rw [sentThenHeld, h1, List.map_nil, List.append_nil, hoo] at h2
    exact h2.append_right [p]

theorem step_sentThenHeld (s : Radio BoundedQueue) (e : Event) (hs : Sound k s)
    (he : e.Foreseen k) (hw : e.sendsWithWindow = true) :
    (sentThenHeld (step env k s e)).Sublist (sentThenHeld s ++ e.handed) := by
  cases e with
  | send config p => exact send_sentThenHeld env k henv config hw s p hs he.1 he.2
  | drain config =>
    simp only [Event.handed, List.append_nil, step]
    cases hen : config.windowEnabled
    · rw [processQueuedPackets_eq, hen]
      exact List.Sublist.refl _
    · exact (processQueuedPackets_sentThenHeld env k henv config hen s hs).2
  | clean => simpa only [Event.handed, List.append_nil] using sentThenHeld_cleanExpired env s
  | clear => simpa only [Event.handed, List.append_nil] using sentThenHeld_clearPacketQueue s

theorem run_sentThenHeld :
    ∀ (evs : List Event) (s : Radio BoundedQueue), Sound k s → (∀ e ∈ evs, e.Foreseen k) →
      (∀ e ∈ evs, e.sendsWithWindow = true) →
      (sentThenHeld (run env k s evs)).Sublist (sentThenHeld s ++ evs.flatMap Event.handed)
  | [], s, _, _, _ => by simp [run]
  | e :: evs, s, hs, hf, hw => by
    have hfe := hf e (List.mem_cons_self _ _)
    have h1 := step_sentThenHeld env k henv s e hs hfe (hw e (List.mem_cons_self _ _))
    have h2 := run_sentThenHeld evs (step env k s e) (step_owned env k henv s e hs hfe).2
      (fun e he => hf e (List.mem_cons_of_mem _ he)) (fun e he => hw e (List.mem_cons_of_mem _ he))
    rw [List.flatMap_cons, ← List.append_assoc]
    exact h2.trans (h1.append_right _)

end Succeeding

end RadioInterface

/-- When `sendTo` answers `ERRNO_OK`, every `send` hands over a transmittable packet under a
mode of the enum and is made with the window enabled, RadioInterface.cpp hands packets to
`sendTo` in the order they were handed to `send`, along every run from a fresh radio, under
any clock and platform. The window condition cannot be dropped: with it left out, some run
hands `sendTo` a packet ahead of one handed to `send` before it. -/
theorem fifo_sends_in_handed_order :
    (∀ (env : Env) (k : Platform) (evs : List Event), (∀ n, env.sendTo n = .ok) →
      (∀ e ∈ evs, e.Foreseen k) → (∀ e ∈ evs, e.sendsWithWindow = true) →
      (RadioInterface.run env k (RadioInterface.initial false) evs).sent.Sublist
        (evs.flatMap Event.handed)) ∧
    ¬∀ (env : Env) (k : Platform) (evs : List Event), (∀ n, env.sendTo n = .ok) →
      (∀ e ∈ evs, e.Foreseen k) →
      (RadioInterface.run env k (RadioInterface.initial false) evs).sent.Sublist
        (evs.flatMap Event.handed) := by
  refine ⟨fun env k evs henv hf hw => ?_, fun hall => ?_⟩
  · have h := RadioInterface.run_sentThenHeld env k henv evs (RadioInterface.initial false)
      ⟨rfl, fun _ he => (List.not_mem_nil _ he).elim⟩ hf hw
    exact (List.sublist_append_left _ _).trans (by simpa [RadioInterface.sentThenHeld] using h)
  · have h := hall Env.midnight Platform.sample
      [.send Config.night ⟨1, 8, false, 0, none⟩,
        .send ⟨true, ⟨false, 21, 0, 23, 0, 1, 5, 3600⟩⟩ ⟨2, 8, false, 0, none⟩,
        .drain Config.night] (fun _ => rfl) (by decide)
    revert h
    decide

/-- Two packets queued at night and drained go out in the order they were handed over. -/
theorem fifo_sends_in_handed_order_night :
    (∀ n, Env.midnight.sendTo n = .ok) ∧
    (∀ e ∈ [Event.send Config.night ⟨1, 8, false, 0, none⟩,
      .send Config.night ⟨2, 8, false, 0, none⟩, .drain Config.night],
      e.Foreseen Platform.sample) ∧
    (∀ e ∈ [Event.send Config.night ⟨1, 8, false, 0, none⟩,
      .send Config.night ⟨2, 8, false, 0, none⟩, .drain Config.night],
      e.sendsWithWindow = true) ∧
    (RadioInterface.run Env.midnight Platform.sample (RadioInterface.initial false)
      [.send Config.night ⟨1, 8, false, 0, none⟩, .send Config.night ⟨2, 8, false, 0, none⟩,
        .drain Config.night]).sent.Sublist
      [⟨1, 8, false, 0, none⟩, ⟨2, 8, false, 0, none⟩] :=
  ⟨fun _ => rfl, by decide, by decide,
    fifo_sends_in_handed_order.1 _ _ _ (fun _ => rfl) (by decide) (by decide)⟩

end RadioWindow
