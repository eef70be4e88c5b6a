import RadioWindow.Radio

/-!
# `send` over the member vector (RadioInterfaceTime.cpp)

This implementation queues into the class member `packetQueue` and bounds it by the configured
`window_queue_size`. Its drain hands each queued packet back to `RadioInterface::send`, and its
`send` ends by calling `RadioInterface::send(p)` on the same packet: the calls recurse. The
model therefore runs on fuel, one unit per call and per round of the drain, and answers `none`
when the fuel runs out.
-/

namespace RadioWindow

namespace RadioInterfaceTime

variable (env : Env)

/-- `RadioInterface::cleanExpiredPackets`: the erase-while-iterating loop over the member
vector, against the configured expiry computed on `uint32_t`. -/
def cleanExpiredPackets (config : Config) (s : Radio Unit) : Radio Unit :=
  if !config.hasLora || !config.lora.timeWindowEnabled then s
  else
    let r := expireLoop (s.clock env) (word (config.lora.windowPacketExpireSecs * 1000))
      s.packetQueue
    { s.tick.release r.2 with packetQueue := r.1 }

def sendOutside (config : Config) (s : Radio Unit) (p : Packet) : Radio Unit × ErrorCode :=
  if config.lora.windowMode = dropPackets then (s.release [p], .noRadio)
  else if config.lora.windowMode = queuePackets then
    if config.lora.windowQueueSize ≤ s.packetQueue.length then (s.release [p], .noRadio)
    else ({ s.tick with packetQueue := s.packetQueue ++ [⟨p, s.clock env⟩] }, .ok)
  else if config.lora.windowMode = receiveOnly then (s.release [p], .noRadio)
  else (s, .invalidConfig)

mutual

/-- `RadioInterface::send`, on `fuel`. -/
def send : Nat → Config → Radio Unit → Packet → Option (Radio Unit × ErrorCode)
  | 0, _, _, _ => none
  | fuel + 1, config, s, p =>
    if config.hasLora && config.lora.timeWindowEnabled then
      if !isOperationAllowed config (s.clock env) then some (sendOutside env config s.tick p)
      else
        match processQueuedPackets fuel config s.tick with
        | none => none
        | some s => send fuel config s p
    else send fuel config s p

def processQueuedPackets : Nat → Config → Radio Unit → Option (Radio Unit)
  | 0, _, _ => none
  | fuel + 1, config, s =>
    if !config.hasLora || !config.lora.timeWindowEnabled then some s
    else if !isOperationAllowed config (s.clock env) then some s.tick
    else drainLoop fuel config (cleanExpiredPackets env config s.tick)

/-- The `while` loop of `processQueuedPackets`, on `fuel`: send the front entry's packet, and
erase the front entry when that succeeds. -/
def drainLoop : Nat → Config → Radio Unit → Option (Radio Unit)
  | 0, _, _ => none
  | fuel + 1, config, s =>
    match s.packetQueue with
    | [] => some s
    | qp :: _ =>
      match send fuel config s qp.packet with
      | none => none
      | some (s, result) =>
        if result = .ok then drainLoop fuel config { s with packetQueue := s.packetQueue.drop 1 }
        else some s

end

theorem sendOutside_spec (config : Config) (s : Radio Unit) (p : Packet) :
    (sendOutside env config s p).1.attempts = s.attempts ∧
    (sendOutside env config s p).1.sent = s.sent ∧
    ((sendOutside env config s p).1.packetQueue = s.packetQueue ∨
      config.lora.windowMode = queuePackets ∧
        ∃ t, (sendOutside env config s p).1.packetQueue = s.packetQueue ++ [⟨p, t⟩]) := by
  unfold sendOutside
  by_cases hdrop : config.lora.windowMode = dropPackets
  · rw [if_pos hdrop]; simp
  rw [if_neg hdrop]
  by_cases hqueue : config.lora.windowMode = queuePackets
  · rw [if_pos hqueue]
    split <;> simp [hqueue]
  rw [if_neg hqueue]
  split <;> simp

theorem send_of_closed (fuel : Nat) (config : Config) (s : Radio Unit) (p : Packet)
    (hen : config.windowEnabled = true)
    (hclosed : isOperationAllowed config (s.clock env) = false) :
    send env (fuel + 1) config s p = some (sendOutside env config s.tick p) := by
  simp only [Config.windowEnabled] at hen
  simp [send, hen, hclosed]

end RadioInterfaceTime

end RadioWindow
