import BleSwarm.Transport.Calls
import BleSwarm.Transport.Performs.Handlers

/-!
# The power of the adapters

What a transport knows of the power of its adapters is written where a state of theirs is
reported and where the service was added. No other handler touches it, and no call of the
owner but the opening.
-/

namespace BleSwarm

/-- The part of the radio that a power cycle is about. -/
structure Power where
  serverState : AdapterState
  centralState : AdapterState
  serviceAdded : Bool
  radioWasDown : Bool
  radioCycled : Bool
  healing : Bool
  deriving DecidableEq

namespace Core

variable {env : Env} {scope : Scope} {c c' : Core}

def power (c : Core) : Power where
  serverState := c.radio.serverState
  centralState := c.radio.centralState
  serviceAdded := c.radio.serviceAdded
  radioWasDown := c.radio.radioWasDown
  radioCycled := c.radio.radioCycled
  healing := c.radio.healing

theorem power_congr (radio : c'.radio = c.radio) : c'.power = c.power := by simp only [power, radio]

theorem power_ite {p : Prop} [Decidable p] {a b : Core} {power : Power} (ha : a.power = power)
    (hb : b.power = power) : (if p then a else b).power = power := by
  split
  · exact ha
  · exact hb

theorem power_foldl {α : Type*} {f : Core → α → Core} (step : ∀ c a, (f c a).power = c.power)
    (c : Core) (as : List α) : (as.foldl f c).power = c.power := by
  induction as generalizing c with
  | nil => rfl
  | cons a as ih => exact (ih (f c a)).trans (step c a)

/-! Scanning, advertising and the listener. -/

theorem startScan_power (env : Env) (c : Core) : (c.startScan env).power = c.power := by
  unfold startScan
  exact power_ite rfl (power_ite rfl rfl)

theorem stopScan_power (c : Core) : c.stopScan.power = c.power := power_ite rfl rfl

theorem onScanTimer_power (env : Env) (c : Core) : (c.onScanTimer env).power = c.power := by
  have stopped : { c with radio.scanTimer := none }.power = c.power := rfl
  refine power_ite rfl (power_ite rfl (power_ite (power_ite ?_ ?_) ?_))
  · exact (stopScan_power _).trans stopped
  · exact (startScan_power env _).trans stopped
  · exact (startScan_power env _).trans ((stopScan_power _).trans stopped)

theorem setOnline_power (env : Env) (c : Core) (online : Bool) :
    (c.setOnline env online).power = c.power :=
  power_ite rfl (power_ite rfl (power_ite (startScan_power env _) rfl))

theorem maybeAdvertise_power (c : Core) : c.maybeAdvertise.power = c.power := power_ite rfl rfl

theorem publish_power (env : Env) (c : Core) : (c.publish env).power = c.power := power_ite rfl rfl

theorem unpublish_power (env : Env) (c : Core) : (c.unpublish env).power = c.power := by
  unfold unpublish
  split
  · rfl
  · exact power_ite rfl rfl

theorem cycle_power (env : Env) (c : Core) : (c.cycle env).power = c.power :=
  (publish_power env _).trans (unpublish_power env c)

theorem maybeCycle_power (env : Env) (c : Core) : (c.maybeCycle env).power = c.power :=
  power_ite rfl (cycle_power env { c with server.cyclePending := false })

theorem startServer_power (env : Env) (c : Core) : (c.startServer env).power = c.power := by
  have hosted : (if c.radio.serviceAdded then c
      else c.issue (.addService (env.cfg.toServiceUUID none))).power = c.power := power_ite rfl rfl
  exact power_ite rfl (power_ite rfl (power_ite rfl (power_ite ((publish_power env _).trans hosted) hosted)))

theorem onState_power (c : Core) (raw : AdapterState) : (c.onState raw).power = c.power :=
  power_ite rfl rfl

theorem Proceeds.power (h : Proceeds env scope c c') : c'.power = c.power := by
  induction h with
  | trans _ _ ih ih' => exact ih'.trans ih
  | rest same =>
    simp only [watched, Prod.mk.injEq] at same
    exact power_congr same.1
  | maybeCycle c serves due => exact maybeCycle_power env c
  | startScan c => exact startScan_power env c
  | stopScan c => exact stopScan_power c
  | onScanTimer c => exact onScanTimer_power env c
  | _ => rfl

/-! The handlers that do more. -/

theorem onServiceAdd_power (c : Core) :
    c.onServiceAdd.power = { c.power with serviceAdded := true } :=
  maybeAdvertise_power { c with radio.serviceAdded := true }

theorem onConnOpen_power (env : Env) (c : Core) (r : Ref) (key : Bytes) :
    (c.onConnOpen env r key).power = c.power := by
  have noted : ∀ c : Core, (c.notePeerKey r).power = c.power := by
    intro c
    simp only [notePeerKey]
    split <;> rfl
  simp only [onConnOpen, track]
  split
  · split
    · exact noted _
    · split <;> exact noted _
  · rfl

theorem reapAllSessions_power (c : Core) : c.reapAllSessions.power = c.power := by
  obtain ⟨sessions, streams, eq⟩ := reapAllSessions_eq c
  rw [eq]
  rfl

/-- A power cycle is noted, and the service is gone. -/
theorem onRadioDown_power (c : Core) : c.onRadioDown.power =
    { c.power with serviceAdded := false, radioWasDown := true, radioCycled := true } :=
  reapAllSessions_power _

theorem onServerState_power (env : Env) (c : Core) (s : AdapterState) :
    (c.onServerState env s).power =
      if isDown s then { c.power with
        serverState := s, serviceAdded := false, radioWasDown := true, radioCycled := true }
      else { c.power with serverState := s } := by
  have noted :
      ({ c with radio.serverState := s }.onState s).power = { c.power with serverState := s } :=
    onState_power _ s
  simp only [onServerState]
  split
  · rename_i on
    subst on
    exact (startServer_power env _).trans noted
  · split
    · exact (onRadioDown_power _).trans (by rw [noted])
    · exact noted

/-- The central scans, heals or goes down. -/
theorem onCentralState_power (env : Env) (c : Core) (s : AdapterState) :
    (c.onCentralState env s).power =
      if isDown s then { c.power with
        centralState := s, serviceAdded := false, radioWasDown := true, radioCycled := true }
      else if s = .poweredOn && c.radio.radioWasDown && !c.radio.healing && !env.halted then
        { c.power with centralState := s, radioWasDown := false, healing := true }
      else { c.power with centralState := s } := by
  let noted : Core := { c with radio.centralState := s }.onState s
  have power : noted.power = { c.power with centralState := s } := onState_power _ s
  have wasDown :
      noted.radio.radioWasDown = c.radio.radioWasDown := congrArg Power.radioWasDown power
  have healing : noted.radio.healing = c.radio.healing := congrArg Power.healing power
  have run : c.onCentralState env s =
      if s = .poweredOn then
        if noted.radio.radioWasDown then noted.scheduleSelfHeal env else noted.startScan env
      else if isDown s then noted.onRadioDown else noted := rfl
  rw [run]
  by_cases on : s = .poweredOn
  · subst on
    have up : isDown .poweredOn = false := rfl
    simp only [up, if_true, scheduleSelfHeal, wasDown, healing]
    cases c.radio.radioWasDown
    · exact (startScan_power env noted).trans power
    · cases c.radio.healing
      · cases env.halted
        · exact congrArg (fun power : Power => { power with radioWasDown := false, healing := true }) power
        · exact power
      · exact power
  · rw [if_neg on]
    split
    · exact (onRadioDown_power noted).trans (by rw [power])
    · simpa [on] using power

/-! The calls. -/

theorem sayGoodbye_power (env : Env) (c : Core) : (c.sayGoodbye env).power = c.power := by
  have said : Performs env {} c (c.sayGoodbye env) := sayGoodbye_performs c
  exact said.proceeds.power

theorem teardown_power (env : Env) (c : Core) : (c.teardown env).power = c.power := by
  have parted : c.disconnectDevices.power = c.power := by
    refine power_foldl (fun c (d : Device) => ?_) c _
    split <;> rfl
  have silent : ∀ c : Core, (c.silence env).power = c.power := fun c =>
    have stopped :
        ∀ c : Core, (if env.life.opened then c.issue .stopAdvertising else c).power = c.power :=
      fun _ => power_ite rfl rfl
    (stopped _).trans (stopScan_power c)
  have unpublished : ∀ c : Core,
      (if env.cfg.platform = .mac then c.unpublish env else c).power = c.power :=
    fun c => power_ite (unpublish_power env c) rfl
  let quiet : Core := c.disconnectDevices.dropDevices.silence env
  have dropped : quiet.forget.power = quiet.power := reapAllSessions_power _
  exact (unpublished _).trans (dropped.trans ((silent _).trans parted))

theorem doResume_power (env : Env) (c : Core) : (c.doResume env).power = c.power := by
  have cycled : ∀ c : Core, (if env.cfg.pipe = .l2cap then c.cycle env else c).power = c.power :=
    fun c => power_ite (cycle_power env c) rfl
  refine power_ite rfl ?_
  exact (startScan_power env _).trans ((maybeAdvertise_power _).trans (cycled _))

theorem doOpen_power (env : Env) (c : Core) (server central : AdapterState) :
    (c.doOpen env server central).power =
      { c.power with serverState := server, centralState := central } :=
  (startScan_power env _).trans (startServer_power env _)

end Core

namespace Transport

open BleSwarm.Core

variable (t : Transport) (now : Nat) (native : Native)

/-- An event that reports no adapter and no service. -/
def Unpowered : Event → Prop
  | .serverState _ | .centralState _ | .serviceAdd => False
  | _ => True

theorem handle_power (env : Env) {e : Event} (other : Unpowered e) :
    (t.handle env e).core.power = t.core.power := by
  cases e with
  | serverState s => exact other.elim
  | centralState s => exact other.elim
  | serviceAdd => exact other.elim
  | connOpen r key => exact onConnOpen_power env _ r key
  | _ => exact (handle_proceeds t env (by simp [Special])).power

theorem input_power {i : Input} (other : Unpowered i.event) :
    (t.input i).core.power = t.core.power := by
  simp only [input]
  split
  · exact handle_power (t.begin i.native) _ other
  · rfl

theorem suspend_power : (t.suspend now native).core.power = t.core.power := sayGoodbye_power _ _

theorem drained_power (call : Nat) : (t.drained call now native).core.power = t.core.power := by
  simp only [drained]
  split
  · exact teardown_power _ (t.begin native).core
  · rfl

theorem resume_power : (t.resume now).core.power = t.core.power := by
  simp only [resume]
  split
  · rfl
  · exact doResume_power _ (t.begin {}).core

theorem setOnline_power (online : Bool) : (t.setOnline online now).core.power = t.core.power :=
  Core.setOnline_power _ (t.begin {}).core online

theorem setTopic_power (topic : Option Bytes) : (t.setTopic topic).1.core.power = t.core.power := by
  simp only [setTopic, Core.setTopic]
  split <;> rfl

end Transport

end BleSwarm
