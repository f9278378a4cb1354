import BleSwarm.Transport.Traces.Handlers

/-!
# What each step begins

Power cycles and the owner's calls begin nothing. So whatever a step begins traces back to
what its event brings.
-/

namespace BleSwarm.Core

variable {env : Env} {ev : Evidence} {c c' c'' : Core}

theorem startCentralSession_stream (env : Env) (c : Core) (p : Ref) :
    ((c.startCentralSession env p).peripheral p).stream = (c.peripheral p).stream := by
  have slots : (c.startCentralSession env p).peripheral p =
      { c.peripheral p with session := some c.central.sessions.next, char := true } :=
    Function.update_self _ _ _
  rw [slots]

/-! Power cycles and the lifecycle. -/

theorem destroyPeers_noneBegins (c : Core) : NoneBegins c c.destroyPeers := by
  have destroyed : ∀ (l : Links) (r : Ref), l.conns.Alike Conn.identity (l.destroy r).conns := by
    intro l r
    have keep : ∀ conn : Conn, Conn.identity { conn with destroyed := true } = conn.identity :=
      fun _ => rfl
    exact .modify l.conns r keep
  have related : ∀ (l : Links) (rs : List Ref),
      l.conns.Alike Conn.identity (rs.foldl Links.destroy l).conns := by
    intro l rs
    induction rs generalizing l with
    | nil => exact .refl _ l.conns
    | cons r rs ih => exact (destroyed l r).trans (ih (l.destroy r))
  exact links_noneBegins c (related c.links _)

theorem clearPeers_noneBegins (c : Core) : NoneBegins c { c with links.peers := ∅ } :=
  links_noneBegins c (.refl _ _)

theorem onRadioDown_noneBegins (c : Core) : NoneBegins c c.onRadioDown := by
  have reset : ∀ c : Core, NoneBegins c { c with gatt := c.gatt.reset } :=
    fun c => gatt_noneBegins c (NotifyQueue.reset_passes c.gatt)
  unfold onRadioDown
  refine NoneBegins.andThen (f := fun c => { c with gatt := c.gatt.reset }) ?_ reset
  refine NoneBegins.andThen (NoneBegins.andThen ?_ destroyPeers_noneBegins)
    reapAllSessions_noneBegins
  exact .still rfl

theorem onServerState_noneBegins (s : AdapterState) (c : Core) :
    NoneBegins c (c.onServerState env s) := by
  have noted := (radio_radioOnly c { c.radio with serverState := s }).trans (onState_radioOnly _ s)
  refine .ite ?_ (.ite ?_ noted.noneBegins)
  · exact (noted.trans (startServer_radioOnly env _)).noneBegins
  · exact noted.noneBegins.andThen onRadioDown_noneBegins

theorem onCentralState_noneBegins (s : AdapterState) (c : Core) :
    NoneBegins c (c.onCentralState env s) := by
  have noted := (radio_radioOnly c { c.radio with centralState := s }).trans (onState_radioOnly _ s)
  refine .ite (.ite ?_ ?_) (.ite ?_ noted.noneBegins)
  · exact (noted.trans (scheduleSelfHeal_radioOnly env _)).noneBegins
  · exact (noted.trans (startScan_radioOnly env _)).noneBegins
  · exact noted.noneBegins.andThen onRadioDown_noneBegins

theorem forget_noneBegins (c : Core) : NoneBegins c c.forget := by
  have reset : ∀ c : Core,
      NoneBegins c { c with gatt := c.gatt.reset, server.cyclePending := false } :=
    fun c => (gatt_noneBegins c (NotifyQueue.reset_passes c.gatt)).trans (.still rfl)
  exact (((destroyPeers_noneBegins c).andThen clearPeers_noneBegins).andThen
    reapAllSessions_noneBegins).andThen reset

theorem teardown_noneBegins (c : Core) : NoneBegins c (c.teardown env) := by
  have parted : NoneBegins c c.disconnectDevices := by
    refine .foldl (fun c (d : Device) => ?_) c _
    split
    · exact .issue c trivial
    · exact .refl c
  have silenced : ∀ c : Core, NoneBegins c (c.silence env) :=
    fun c => (silence_radioOnly env c).noneBegins
  have unpublished : ∀ c : Core,
      RadioOnly c (if env.cfg.platform = .mac then c.unpublish env else c) :=
    fun c => .ite (unpublish_radioOnly env c) (.refl c)
  have ended : ∀ c : Core, RadioOnly c ({ c with radio.state := .off }.issue .emitUpdate) :=
    fun c => (radio_radioOnly c { c.radio with state := .off }).trans (issue_radioOnly _ rfl)
  exact (((parted.trans (dial_noneBegins _ _)).andThen silenced).andThen forget_noneBegins).trans
    ((unpublished _).trans (ended _)).noneBegins

theorem doClose_noneBegins (c : Core) : NoneBegins c (c.doClose env) := by
  have scan : ∀ c : Core, NoneBegins c (c.issue .stopScan) := fun c => .issue c trivial
  have advertising : ∀ c : Core, NoneBegins c (c.issue .stopAdvertising) :=
    fun c => .issue c trivial
  have stopped : ∀ c : Core, NoneBegins c
      (if env.life.opened then (c.issue .stopScan).issue .stopAdvertising else c) :=
    fun c => .ite ((scan c).andThen advertising) (.refl c)
  have untimed : ∀ (c : Core) (rs : List Ref), NoneBegins c
      (rs.foldl (fun c r => c.setSession r fun s => { s with pipeTimer := none }) c) := by
    intro c rs
    refine .foldl (fun c r => .of_performs env (setSession_performs r ?_ c rfl)) c rs
    exact fun _ => rfl
  have reset : ∀ c : Core, NoneBegins c { c with gatt := c.gatt.reset, radio.state := .off } :=
    fun c => (gatt_noneBegins c (NotifyQueue.reset_passes c.gatt)).trans (.still rfl)
  have emptied : ∀ c : Core, NoneBegins c { c with server.table := ∅ } :=
    fun c => sessions_noneBegins c (fun _ _ none => by cases none) (.refl _ _)
  have cleared : NoneBegins c { { c with radio.scanTimer := none }.clearDeviceTimers with
    dial.devices := ∅ } := .still rfl
  exact (((((cleared.andThen stopped).andThen destroyPeers_noneBegins).andThen
    clearPeers_noneBegins).andThen fun c => untimed c _).andThen emptied).andThen reset

theorem Calls.noneBegins (h : Calls env c c') : NoneBegins c c' := by
  induction h with
  | trans _ _ ih ih' => exact ih.trans ih'
  | skip c => exact .refl c
  | doOpen c server central opened => exact (doOpen_radioOnly env c server central).noneBegins
  | beginSuspend c suspended =>
    have stopped : NoneBegins c { c with radio.scanTimer := none }.clearDeviceTimers := .still rfl
    exact stopped.trans (.of_performs env (sayGoodbye_performs _))
  | teardown c => exact teardown_noneBegins c
  | doResume c live => exact (doResume_radioOnly env c).noneBegins
  | doClose c closing => exact doClose_noneBegins c
  | setOnline c online => exact (setOnline_radioOnly env c online).noneBegins
  | setTopic c topic =>
    unfold Core.setTopic
    dsimp only
    split
    · exact .refl c
    · exact radio_noneBegins c _

end BleSwarm.Core

namespace BleSwarm.Transport

open BleSwarm.Core

/-- What an event brings from outside is evidence. -/
def Attested (ev : Evidence) (t : Transport) : Event → Prop
  | .writeRequests requests => ∀ req ∈ requests, ev.written req.1
  | .notify p data => ev.notified p data
  | .channelPublish psm => ev.published psm
  | .notifyState p isNotifying =>
    isNotifying = true → (t.listeners p).notifyState ≠ 0 →
      ∀ st, (t.core.peripheral p).stream = some st → ev.reused st
  | _ => True

variable {env : Env} {ev : Evidence}

/-- However many handlers there are, none binds a stream. -/
theorem onNotifyState_traces (t : Transport) (p : Ref) (isNotifying : Bool) (n : Nat)
    (clear : isNotifying = true → n ≠ 0 →
      ∀ st, (t.core.peripheral p).stream = some st → ev.reused st) :
    Traces env ev t.core ((fun t => onNotifyState env t p isNotifying)^[n] t).core := by
  induction n generalizing t with
  | zero => exact .refl t.core
  | succ n ih =>
    rw [Function.iterate_succ_apply]
    cases isNotifying with
    | true =>
      let started : Transport := t.startCentralSession env p
      have clear := clear rfl (Nat.succ_ne_zero n)
      have start : Traces env ev t.core started.core := .start t.core clear
      refine start.trans (ih started fun _ _ st bound => clear st ?_)
      exact (startCentralSession_stream env t.core p).symm.trans bound
    | false =>
      let aborted : Transport := t.withCore fun c => c.abortDial env p
      have abort : Traces env ev t.core aborted.core := .performs (abortDial_performs p t.core rfl rfl)
      exact abort.trans (ih aborted nofun)

theorem handle_traces (t : Transport) {e : Event} (attested : Attested ev t e) :
    Traces env ev t.core (t.handle env e).core := by
  cases e with
  | serverState s => exact .noneBegins (onServerState_noneBegins s t.core)
  | centralState s => exact .noneBegins (onCentralState_noneBegins s t.core)
  | serviceAdd => exact .noneBegins (onServiceAdd_radioOnly t.core).noneBegins
  | connOpen r key => exact .noneBegins (onConnOpen_noneBegins r key t.core)
  | channelPublish psm => exact .listen t.core attested
  | writeRequests requests => exact onWriteRequests_traces attested t.core
  | channelData ch data => exact onChannelData_traces ch data t.core
  | resumeOpen a => exact resumeOpen_traces a t.core
  | resumeAccept a => exact resumeAccept_traces a t.core
  | notifyState p isNotifying =>
    exact onNotifyState_traces (t.setListeners p fun l => { l with notifyState := 0 }) p isNotifying
      (t.listeners p).notifyState attested
  | notify p data => exact .iterate (fun c => onCentralNotify_traces attested c) _ _
  | _ =>
    exact .noneBegins
      ((handle_performs t env (by simp [Special]) (by simp)).noneBegins rfl rfl rfl)

/-- What a step brings from outside is evidence. -/
def Brings (ev : Evidence) (t : Transport) : Action → Prop
  | .input i => Attested ev t i.event
  | _ => True

theorem brings_all (t : Transport) (a : Action) : Brings .all t a := by
  cases a with
  | input i =>
    obtain ⟨now, native, event⟩ := i
    cases event with
    | writeRequests requests => exact fun _ _ => trivial
    | notifyState p isNotifying => exact fun _ _ _ _ => trivial
    | _ => trivial
  | _ => trivial

/-- A step traces back to what it brings, from where the outputs of the last were collected. -/
theorem act_traces (t : Transport) {a : Action} (brings : Brings ev t a) :
    ∃ env : Env, env.cfg = t.cfg ∧ Traces env ev (t.begin env.native).core (t.act a).core := by
  rcases t.act_split a with ⟨i, rfl, -, run⟩ | ⟨i, rfl, -, run⟩ | ⟨-, env, cfg, -, -, calls⟩
  · exact ⟨t.env i.now i.native, rfl, by rw [run]; exact .refl _⟩
  · refine ⟨t.env i.now i.native, rfl, ?_⟩
    rw [run]
    exact handle_traces (t.begin i.native) brings
  · exact ⟨env, cfg, .noneBegins calls.noneBegins⟩

end BleSwarm.Transport
