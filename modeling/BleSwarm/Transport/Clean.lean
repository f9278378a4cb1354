import BleSwarm.Transport.Attuned
import BleSwarm.Transport.Ledger
import BleSwarm.Transport.Outbound.Step
import BleSwarm.Transport.Rotation
import BleSwarm.Transport.Strays
import BleSwarm.Transport.Suspended

/-!
# What a suspend leaves behind

The first half of `suspend` takes the timers of scanning and dialing away, the second half
what is tracked. Between them runs what the native layer delivers, and none of it arms again
what was cleared, because every handler asks whether the transport is halted.
-/

namespace BleSwarm

namespace Core

variable {env : Env} {c c' : Core}

/-! The scan timer. -/

theorem RadioSteps.dormant (h : RadioSteps env c c') (halted : env.halted = true)
    (untimed : c.radio.scanTimer = none) : c'.radio.scanTimer = none := by
  induction h with
  | trans _ _ ih ih' => exact ih' (ih untimed)
  | rest same => rw [(Prod.mk.inj same).1, untimed]
  | startScan c =>
    unfold Core.startScan
    rw [if_pos halted]
    exact untimed
  | stopScan c =>
    unfold Core.stopScan
    split <;> exact untimed
  | armScanRestart c live =>
    rw [halted] at live
    cases live
  | onScanTimer c =>
    unfold Core.onScanTimer
    dsimp only
    rw [if_pos halted]
  | maybeAdvertise c =>
    unfold Core.maybeAdvertise
    split <;> exact untimed
  | _ => exact untimed

theorem onRadioDown_scanTimer (c : Core) : c.onRadioDown.radio.scanTimer = c.radio.scanTimer := by
  obtain ⟨_, _, eq⟩ := onRadioDown_eq c
  rw [eq]

theorem onServerState_dormant (s : AdapterState) (halted : env.halted = true)
    (untimed : c.radio.scanTimer = none) : (c.onServerState env s).radio.scanTimer = none := by
  let noted := { c with radio.serverState := s }.onState s
  have notes : RadioSteps env c noted := (RadioSteps.serverState c s).trans (onState_radioSteps _ s)
  have told : noted.radio.scanTimer = none := notes.dormant halted untimed
  simp only [onServerState]
  split
  · exact (startServer_radioSteps noted).dormant halted told
  · split
    · rw [onRadioDown_scanTimer]
      exact told
    · exact told

theorem onCentralState_dormant (s : AdapterState) (halted : env.halted = true)
    (untimed : c.radio.scanTimer = none) : (c.onCentralState env s).radio.scanTimer = none := by
  let noted := { c with radio.centralState := s }.onState s
  have notes : RadioSteps env { c with radio.centralState := s } noted := onState_radioSteps _ s
  have told : noted.radio.scanTimer = none := notes.dormant halted untimed
  have heals : noted.scheduleSelfHeal env = noted := by simp [scheduleSelfHeal, halted]
  simp only [onCentralState]
  split
  · split
    · exact (congrArg (fun c => c.radio.scanTimer) heals).trans told
    · exact (RadioSteps.startScan noted).dormant halted told
  · split
    · rw [onRadioDown_scanTimer]
      exact told
    · exact told

/-! The teardown. -/

theorem disconnectDevices_radio (c : Core) : c.disconnectDevices.radio = c.radio := by
  refine Runs.foldl_related (R := fun c c' : Core => c'.radio = c.radio) (fun c => rfl)
    (fun h h' => h'.trans h) (fun c (d : Device) => ?_) c _
  cases d.peripheral <;> rfl

theorem silence_radio (env : Env) (c : Core) :
    (c.silence env).radio = { c.radio with scanning := false, advertising := false } := by
  have stopped : c.stopScan.radio = { c.radio with scanning := false } := by
    unfold stopScan
    split
    · rfl
    · rename_i idle
      have idle : c.radio.scanning = false := by simpa using idle
      rw [← idle]
  have told : (if env.life.opened then c.stopScan.issue .stopAdvertising else c.stopScan).radio =
      c.stopScan.radio := by
    split <;> rfl
  simp only [silence, told, stopped]

theorem forget_radio (c : Core) : c.forget.radio = c.radio := by
  obtain ⟨_, _, reaped⟩ := reapAllSessions_eq { c.destroyPeers with links.peers := ∅ }
  have run : c.forget.radio = { c.destroyPeers with links.peers := ∅ }.reapAllSessions.radio := rfl
  rw [run, reaped]
  rfl

theorem unpublish_radio (env : Env) (c : Core) : (c.unpublish env).radio = c.radio := by
  unfold unpublish
  split
  · rfl
  · dsimp only
    split <;> rfl

theorem teardown_radio (env : Env) (c : Core) : (c.teardown env).radio =
    { c.radio with scanning := false, advertising := false, state := .off } := by
  let parted : Core := c.disconnectDevices.dropDevices
  have parts : parted.radio = c.radio := disconnectDevices_radio c
  have unpublished : ∀ c : Core,
      (if env.cfg.platform = .mac then c.unpublish env else c).radio = c.radio := by
    intro c
    split
    · exact unpublish_radio env c
    · rfl
  have dropped : (if env.cfg.platform = .mac then (parted.silence env).forget.unpublish env
      else (parted.silence env).forget).radio = { c.radio with scanning := false, advertising := false } := by
    rw [unpublished, forget_radio, silence_radio, parts]
  exact congrArg (fun radio : Radio => { radio with state := .off }) dropped

theorem teardown_gatt (env : Env) (c : Core) : ∃ g : NotifyQueue, (c.teardown env).gatt = g.reset := by
  have unpublished : ∀ c : Core,
      (if env.cfg.platform = .mac then c.unpublish env else c).gatt = c.gatt :=
    fun c => (RadioOnly.ite (unpublish_radioOnly env c) (.refl c)).gatt
  exact ⟨_, unpublished _⟩

/-! The scan timer of a halted transport. -/

theorem Calls.dormant (h : Calls env c c') (halted : env.halted = true)
    (untimed : c.radio.scanTimer = none) : c'.radio.scanTimer = none := by
  induction h with
  | trans _ _ ih ih' => exact ih' (ih untimed)
  | skip c => exact untimed
  | doOpen c server central opened =>
    exact (doOpen_radioSteps c server central).dormant halted untimed
  | beginSuspend c suspended =>
    let unarmed : Core := { c with radio.scanTimer := none }
    have said : RadioSteps env unarmed (c.beginSuspend env) := .after (sayGoodbye_radioSteps _) rfl
    exact said.dormant halted rfl
  | teardown c => rw [teardown_radio, untimed]
  | doResume c live =>
    rw [halted] at live
    cases live
  | doClose c closing => rw [doClose_eq]
  | setOnline c online => exact (setOnline_radioSteps c online).dormant halted untimed
  | setTopic c topic =>
    unfold Core.setTopic
    dsimp only
    split
    · exact untimed
    · exact untimed

end Core

/-- No dial is in flight, and no discovery waits for the next window. -/
structure Outbound.Dormant (o : Outbound) : Prop where
  dials : ∀ id, o.timers id = none
  window : o.dialTimer = none
  held : o.candidates = ∅

namespace Core

variable {env : Env} {o o' : Outbound}

theorem Drops.dormant (h : Drops o o') (dormant : o.Dormant) : o'.Dormant := by
  have dials : ∀ id, o'.timers id = none := by
    rcases h.timers with same | gone
    · rw [same]
      exact dormant.dials
    · exact gone
  rcases h.held with ⟨candidates, dialTimer⟩ | ⟨candidates, dialTimer⟩
  · exact ⟨dials, dialTimer.trans dormant.window, candidates.trans dormant.held⟩
  · exact ⟨dials, dialTimer, candidates⟩

/-- A halted transport neither dials nor holds. -/
theorem Moves.dormant {fate : Option (Ref × Fate)} (h : Moves env o fate o')
    (halted : env.halted = true) (dormant : o.Dormant) : o'.Dormant := by
  have ended : ∀ k id, Function.update o.timers k none id = none := by
    intro k id
    rw [Function.update_apply]
    split
    · rfl
    · exact dormant.dials id
  cases h with
  | settles _ _ settles =>
    cases settles with
    | stays => exact dormant
    | ends p f cool fails cooldown => exact ⟨ended _, dormant.window, dormant.held⟩
    | binds p sess => exact ⟨ended _, dormant.window, dormant.held⟩
  | holds _ holds =>
    obtain ⟨_, _, -, -, still⟩ := holds
    rw [still halted dormant.held dormant.window]
    exact dormant
  | dials q o₁ _ live =>
    rw [halted] at live
    cases live

/-- No timer of scanning or dialing is armed. -/
structure Dormant (c : Core) : Prop where
  scan : c.radio.scanTimer = none
  outbound : c.outbound.Dormant

/-- Nothing is tracked or queued, no timer is armed, and nothing is on the air. -/
structure Clean (c : Core) : Prop where
  peers : c.links.peers = ∅
  sessions : c.server.table = ∅
  devices : c.dial.devices = ∅
  strays : c.dial.strays = []
  queue : c.gatt.queue = []
  dormant : c.Dormant
  pipes : ∀ r, (c.session r).pipeTimer = none
  retry : c.gatt.retry = none
  scanning : c.radio.scanning = false
  advertising : c.radio.advertising = false
  cyclePending : c.server.cyclePending = false

end Core

namespace Transport

open BleSwarm.Core

variable {t : Transport}

theorem handle_dormant (env : Env) (e : Event) (halted : env.halted = true)
    (untimed : t.core.radio.scanTimer = none) :
    (t.handle env e).core.radio.scanTimer = none := by
  cases e with
  | serverState s => exact onServerState_dormant s halted untimed
  | centralState s => exact onCentralState_dormant s halted untimed
  | serviceAdd => exact (onServiceAdd_radioSteps t.core).dormant halted untimed
  | connOpen r key => exact (onConnOpen_radioSteps r key t.core).dormant halted untimed
  | _ => exact (handle_proceeds t env (by simp [Special])).radioSteps.dormant halted untimed

/-- No step of a halted transport arms a timer of scanning or dialing. -/
theorem act_dormant (a : Action) (halted : t.halted = true) (after : (t.act a).halted = true)
    (dormant : t.core.Dormant) : (t.act a).core.Dormant := by
  have scan : (t.act a).core.radio.scanTimer = none := by
    rcases t.act_split a with ⟨i, rfl, -, run⟩ | ⟨i, rfl, -, run⟩ | ⟨-, env, -, stays, -, calls⟩
    · rw [run]
      exact dormant.scan
    · rw [run]
      exact handle_dormant (t := t.begin i.native) _ _ halted dormant.scan
    · exact calls.dormant (stays.trans after) dormant.scan
  have begun : t.outset.Dormant := ⟨dormant.outbound.dials, dormant.outbound.window, dormant.outbound.held⟩
  rcases t.act_outbound a with ⟨i, rfl, moves⟩ | ⟨-, drops⟩
  · exact ⟨scan, moves.dormant halted begun⟩
  · exact ⟨scan, drops.dormant begun⟩

/-- The first half of a suspend clears the timers before it says goodbye. -/
theorem act_suspend (t : Transport) (now : Nat) (native : Native) :
    (t.act (.suspend now native)).core.Dormant := by
  let env : Env := { cfg := t.cfg, life := { t.life with suspended := true }, now, native }
  let unarmed : Core := { (t.begin native).core with radio.scanTimer := none }
  have run : (t.act (.suspend now native)).core = unarmed.clearDeviceTimers.sayGoodbye env := rfl
  have halted : env.halted = true := by simp [Env.halted, env]
  have said : RadioSteps env unarmed (unarmed.clearDeviceTimers.sayGoodbye env) :=
    .after (sayGoodbye_radioSteps _) rfl
  have stays : SameDials unarmed.clearDeviceTimers (unarmed.clearDeviceTimers.sayGoodbye env) :=
    .of_performs env (sayGoodbye_performs _)
  have cleared : (unarmed.clearDeviceTimers.sayGoodbye env).outbound = unarmed.outbound.cleared :=
    Eq.trans stays (clearDeviceTimers_outbound unarmed)
  rw [run]
  refine ⟨said.dormant halted rfl, ?_⟩
  rw [cleared]
  exact ⟨fun id => rfl, rfl, rfl⟩

/-- Nothing else suspends a transport. -/
theorem act_unsuspended {a : Action} (other : ∀ now native, a ≠ .suspend now native)
    (running : t.life.suspended = false) : (t.act a).life.suspended = false := by
  cases a with
  | suspend now native => exact absurd rfl (other now native)
  | close now =>
    simp only [act, close]
    split
    · exact running
    · split
      · exact running
      · exact running
  | resume now => simp [act]
  | _ => simpa [act] using running

/-- While a transport is suspended no timer of scanning or dialing is armed. -/
theorem act_rests (a : Action) (rests : t.life.suspended = true → t.core.Dormant)
    (suspended : (t.act a).life.suspended = true) : (t.act a).core.Dormant := by
  by_cases suspends : ∃ now native, a = .suspend now native
  · obtain ⟨now, native, rfl⟩ := suspends
    exact t.act_suspend now native
  · have before : t.life.suspended = true := by
      by_contra running
      have running := act_unsuspended (fun now native here => suspends ⟨now, native, here⟩)
        (Bool.not_eq_true _ ▸ running)
      exact absurd (running.symm.trans suspended) (by simp)
    have halts : ∀ t : Transport, t.life.suspended = true → t.halted = true := by
      intro t suspended
      simp [halted, suspended]
    exact act_dormant a (halts t before) (halts _ suspended) (rests before)

/-- There is no timer in any record. -/
theorem timers_eq_nil_of_dormant {c : Core} (dormant : c.outbound.Dormant) :
    c.dial.devices.values.filterMap Device.timer = [] := by
  refine List.filterMap_eq_nil_iff.mpr fun device mem => ?_
  obtain ⟨id, entry⟩ := OrderedMap.exists_of_mem_values mem
  have untimed := dormant.dials id
  simp only [outbound, entry] at untimed
  exact untimed

/-- Where no dial is in flight the end of a drain leaves no timer. -/
theorem left_of_dormant (a : Action) (dormant : t.core.outbound.Dormant) : t.left a = [] := by
  cases a with
  | drained call now native =>
    simp only [left]
    split
    · exact timers_eq_nil_of_dormant dormant
    · rfl
  | _ => rfl

/-- The second half of a suspend takes the rest. It leaves the dial timers that had outlived
their records. -/
theorem act_drained {call now : Nat} {native : Native} (pending : call ∈ t.life.drains)
    (booked : Booked t.cfg (t.act (.drained call now native)).core) (dormant : t.core.Dormant) :
    (t.act (.drained call now native)).core.Clean ↔ t.core.dial.strays = [] := by
  let env := t.env now native
  have run : (t.act (.drained call now native)).core = (t.begin native).core.teardown env :=
    drained_core pending
  have begun : (t.begin native).core.outbound.Dormant :=
    ⟨dormant.outbound.dials, dormant.outbound.window, dormant.outbound.held⟩
  have still : (t.begin native).core.dial.devices.values.filterMap Device.timer = [] :=
    timers_eq_nil_of_dormant begun
  have strays := teardown_strays env (t.begin native).core
  rw [still, List.append_nil] at strays
  rw [run] at booked ⊢
  have radio := teardown_radio env (t.begin native).core
  have sessions := teardown_empty env (t.begin native).core
  obtain ⟨g, reset⟩ := teardown_gatt env (t.begin native).core
  refine ⟨fun clean => strays.symm.trans clean.strays, fun none => ?_⟩
  exact {
    peers := teardown_peers _ _
    sessions := sessions
    devices := teardown_devices _ _
    strays := strays.trans none
    queue := by rw [reset]; rfl
    dormant := ⟨by rw [radio]; exact dormant.scan, (teardown_drops _).dormant begun⟩
    pipes := fun r => booked.unarmed r fun id => by rw [sessions]; simp
    retry := by rw [reset]; rfl
    scanning := by rw [radio]
    advertising := by rw [radio]
    cyclePending := teardown_unheld _ _ }

/-- What a suspended transport relies on until its drain ends. -/
structure Resting (cfg : Config) (t : Transport) : Prop where
  configured : t.cfg = cfg
  booked : Booked cfg t.core
  rests : t.life.suspended = true → t.core.Dormant

theorem act_resting {cfg : Config} (a : Action) (h : t.Resting cfg) : (t.act a).Resting cfg := by
  obtain ⟨rfl, booked, rests⟩ := h
  exact ⟨act_cfg t a, (act_books t a).booked booked, act_rests a rests⟩

end Transport

end BleSwarm
