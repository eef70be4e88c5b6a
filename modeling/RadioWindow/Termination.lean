import RadioWindow.RadioInterfaceTime

/-!
# `send` of RadioInterfaceTime.cpp does not return

The last statement of this `send` is `return RadioInterface::send(p);`, a call of itself on the
same packet. Whenever the window lets the packet through, which it always does when the window
is off, that call reaches the same statement again, so no amount of fuel reaches an answer.
The sibling implementation in RadioInterface.cpp ends with `return sendPacket(p);`.
-/

namespace RadioWindow

namespace RadioInterfaceTime

variable (env : Env)

/-- If every clock reading says the window is open, `send` never answers, from any state and
on any fuel: each call ends by calling `send` again. -/
theorem send_diverges_of_open (config : Config)
    (hopen : ∀ t, isOperationAllowed config (word (env.millis t)) = true) :
    ∀ (fuel : Nat) (s : Radio Unit) (p : Packet), send env fuel config s p = none
  | 0, _, _ => rfl
  | fuel + 1, s, p => by
    have ho : isOperationAllowed config (s.clock env) = true := hopen s.ticks
    unfold send
    split
    · simp only [ho, Bool.not_true, Bool.false_eq_true, if_false]
      split
      · rfl
      · exact send_diverges_of_open config hopen fuel _ p
    · exact send_diverges_of_open config hopen fuel s p

end RadioInterfaceTime

/-- Without a LoRa configuration, `send` of RadioInterfaceTime.cpp never returns: for every
configuration, clock, radio, state, packet and fuel, the fuel runs out first. -/
theorem time_send_never_returns (env : Env) (config : Config) (s : Radio Unit) (p : Packet)
    (fuel : Nat) : RadioInterfaceTime.send env fuel { config with hasLora := false } s p = none :=
  RadioInterfaceTime.send_diverges_of_open env _ (fun _ => by simp [isOperationAllowed]) fuel s p

end RadioWindow
