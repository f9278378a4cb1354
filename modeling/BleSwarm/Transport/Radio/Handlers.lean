import BleSwarm.Transport.Radio
import BleSwarm.Transport.Performs.Handlers

/-!
# Every handler is made of the few moves

The elementary changes of the handlers are moves of the radio, and so are the handlers
that do more, up to the step that delivers an event while the adapters stay on.
-/

namespace BleSwarm.Core

variable {env : Env} {scope : Scope} {c c' c'' : Core}

/-! The listener and the service. -/

theorem publish_radioSteps (c : Core) : RadioSteps env c (c.publish env) :=
  .ite (.refl c) (.issue c rfl)

theorem unpublish_radioSteps (c : Core) : RadioSteps env c (c.unpublish env) := by
  unfold unpublish
  split
  · exact .refl c
  · exact (RadioSteps.ite (.issue c rfl) (.refl c)).trans (.rest rfl)

theorem cycle_radioSteps (c : Core) : RadioSteps env c (c.cycle env) :=
  (unpublish_radioSteps c).andThen publish_radioSteps

theorem maybeCycle_radioSteps (c : Core) : RadioSteps env c (c.maybeCycle env) :=
  .ite (.rest rfl) (.after (cycle_radioSteps _) rfl)

theorem Proceeds.radioSteps (h : Proceeds env scope c c') : RadioSteps env c c' := by
  induction h with
  | trans _ _ ih ih' => exact ih.trans ih'
  | rest same =>
    simp only [watched, Prod.mk.injEq] at same
    exact .rest (congrArg₂ Prod.mk same.1 same.2.2.2.2.2.2.2.2)
  | @issue c command idle =>
    refine .issue c ?_
    cases command <;> first | rfl | cases idle
  | connect c p live => exact .issue c rfl
  | sendOpen c p id payload starts => exact .issue c rfl
  | maybeCycle c serves due => exact maybeCycle_radioSteps c
  | note c state huntUntil online => exact .note c state huntUntil online
  | startScan c => exact .startScan c
  | stopScan c => exact .stopScan c
  | armScanRestart c live => exact .armScanRestart c live
  | onScanTimer c => exact .onScanTimer c
  | _ => exact .rest rfl

theorem startServer_radioSteps (c : Core) : RadioSteps env c (c.startServer env) := by
  have hosted : RadioSteps env c
      (if c.radio.serviceAdded then c else c.issue (.addService (env.cfg.toServiceUUID none))) :=
    .ite (.refl c) (.issue c rfl)
  have published := hosted.andThen publish_radioSteps
  exact .ite (.refl c) (.ite (.refl c) (.ite (.refl c) (.ite published hosted)))

theorem onServiceAdd_radioSteps (c : Core) : RadioSteps env c c.onServiceAdd :=
  (RadioSteps.addService c).andThen .maybeAdvertise

theorem onState_radioSteps (c : Core) (raw : AdapterState) : RadioSteps env c (c.onState raw) :=
  .ite (.refl c) ((RadioSteps.state c raw.toApp).trans (.issue _ rfl))

theorem setOnline_radioSteps (c : Core) (online : Bool) :
    RadioSteps env c (c.setOnline env online) := by
  have noted : RadioSteps env c { c with radio.online := online } :=
    .note c c.radio.state c.radio.huntUntil online
  unfold setOnline
  refine .ite (.refl c) ?_
  dsimp only
  split
  · exact noted
  · rename_i running
    have live : env.halted = false := by
      cases halted : env.halted with
      | true => simp [halted] at running
      | false => rfl
    exact .ite (noted.andThen .startScan) (noted.trans (.armScanRestart _ live))

/-! Links. -/

theorem notePeerKey_radioSteps (r : Ref) (c : Core) : RadioSteps env c (c.notePeerKey r) := by
  simp only [notePeerKey]
  split <;> exact .rest rfl

theorem track_radioSteps (r : Ref) (c : Core) : RadioSteps env c (c.track env r) := by
  have noted : RadioSteps env c (c.notePeerKey r) := notePeerKey_radioSteps r c
  have tracked := noted.trans (.rest rfl : RadioSteps env (c.notePeerKey r)
    { c.notePeerKey r with links := (c.notePeerKey r).links.track env.cfg.publicKey r })
  exact .ite noted (.ite tracked (tracked.trans (.issue _ rfl)))

theorem onConnOpen_radioSteps (r : Ref) (key : Bytes) (c : Core) :
    RadioSteps env c (c.onConnOpen env r key) :=
  .ite (.after (track_radioSteps r _) rfl) (.refl c)

/-! Adapter states, as long as no power cycle is on. -/

theorem onServerState_radioSteps {s : AdapterState} (up : isDown s = false) (c : Core) :
    RadioSteps env c (c.onServerState env s) := by
  have noted : RadioSteps env c ({ c with radio.serverState := s }.onState s) :=
    .trans (.serverState c s) (onState_radioSteps _ s)
  refine .ite (noted.andThen startServer_radioSteps) ?_
  simp only [up]
  exact noted

theorem onCentralState_radioSteps (fresh : c.radio.radioWasDown = false) :
    RadioSteps env c (c.onCentralState env .poweredOn) := by
  have noted : RadioSteps env c ({ c with radio.centralState := .poweredOn }.onState .poweredOn) :=
    .trans (.powered c) (onState_radioSteps _ _)
  have same : ({ c with radio.centralState := .poweredOn }.onState .poweredOn).radio.radioWasDown =
      c.radio.radioWasDown := by
    unfold onState
    split <;> rfl
  have scans : c.onCentralState env .poweredOn =
      ({ c with radio.centralState := .poweredOn }.onState .poweredOn).startScan env := by
    unfold onCentralState
    rw [if_pos rfl, if_neg]
    rw [same, fresh]
    exact Bool.false_ne_true
  rw [scans]
  exact noted.andThen .startScan

end BleSwarm.Core

namespace BleSwarm.Transport

open BleSwarm.Core

/-- No state but `poweredOn` is reported. -/
def Powered : Event → Prop
  | .serverState s | .centralState s => s = .poweredOn
  | _ => True

/-- Every event while the adapters stay on. -/
theorem handle_radioSteps {t : Transport} {env : Env} (fresh : t.core.radio.radioWasDown = false)
    {e : Event} (powered : Powered e) : RadioSteps env t.core (t.handle env e).core := by
  cases e with
  | serverState s =>
    obtain rfl : s = .poweredOn := powered
    exact onServerState_radioSteps (s := .poweredOn) rfl _
  | centralState s =>
    obtain rfl : s = .poweredOn := powered
    exact onCentralState_radioSteps fresh
  | serviceAdd => exact onServiceAdd_radioSteps _
  | connOpen r key => exact onConnOpen_radioSteps r key _
  | _ => exact (handle_proceeds t env (by simp [Special])).radioSteps

end BleSwarm.Transport
