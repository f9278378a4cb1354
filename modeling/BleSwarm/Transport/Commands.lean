import BleSwarm.Transport.Calls
import BleSwarm.Transport.Performs.Handlers
import BleSwarm.Transport.Tracking

/-!
# The commands a step issues

Radio work is asked for by a few operations, most of which look at `_halted` first, and
an OPEN only by the start of a central session. The exceptions are a service that is
added and a stream that is bound: neither looks.
-/

namespace BleSwarm

/-- The commands that make the radio work. -/
def Command.startsRadio : Command → Bool
  | .startScan _ | .startAdvertising _ | .addService _ | .publishChannel | .connect _ => true
  | _ => false

/-- The server is asked to host a service. -/
def Command.hosts : Command → Bool
  | .addService _ => true
  | _ => false

/-- An OPEN frame for a peripheral. -/
def Command.opens : Command → Option Ref
  | .send p frame _ => if frame.head? = some typeOpen then some p else none
  | _ => none

namespace Core

variable {env : Env} {scope : Scope} {c c' c'' : Core} {P Q : Command → Prop}

/-- Each command that is new satisfies `P`. -/
def Issues (P : Command → Prop) (c c' : Core) : Prop :=
  ∀ command ∈ c'.out, command ∈ c.out ∨ P command

namespace Issues

theorem of_same (out : c'.out = c.out) : Issues P c c' := fun _ mem => .inl (out ▸ mem)

theorem refl (c : Core) : Issues P c c := .of_same rfl

theorem trans (h : Issues P c c') (h' : Issues P c' c'') : Issues P c c'' :=
  fun command mem => (h' command mem).elim (h command) .inr

theorem mono (h : Issues P c c') (weaker : ∀ command, P command → Q command) : Issues Q c c' :=
  fun command mem => (h command mem).imp_right (weaker command)

theorem ite {p : Prop} [Decidable p] {a b : Core} (ha : Issues P c a) (hb : Issues P c b) :
    Issues P c (if p then a else b) := by
  split
  · exact ha
  · exact hb

theorem foldl {α : Type*} {f : Core → α → Core} (step : ∀ c a, Issues P c (f c a)) (c : Core)
    (as : List α) : Issues P c (as.foldl f c) :=
  Runs.foldl_related refl trans step c as

theorem issue (c : Core) {command : Command} (new : P command) : Issues P c (c.issue command) := by
  intro other mem
  rcases List.mem_append.mp mem with old | last
  · exact .inl old
  · rw [List.mem_singleton.mp last]
    exact .inr new

/-- An operation after a change that issues nothing. -/
theorem after (h : Issues P c' c'') (same : c'.out = c.out) : Issues P c c'' :=
  (Issues.of_same same).trans h

end Issues

/-- No OPEN unless `starts`, no service unless `hosts`, and no radio work if `halted`. -/
structure Mild (halted starts hosts : Bool) (command : Command) : Prop where
  unopened : starts = false → command.opens = none
  unhosted : hosts = false → command.hosts = false
  idle : halted = true → command.startsRadio = false

theorem Mild.of_live {starts hosts : Bool} {command : Command} (sends : command.opens = none)
    (asks : command.hosts = false) : Mild false starts hosts command :=
  ⟨fun _ => sends, fun _ => asks, fun halted => by cases halted⟩

theorem Mild.of_idle {halted starts hosts : Bool} {command : Command} (idle : command.idle = true) :
    Mild halted starts hosts command := by
  cases command with
  | send p frame withResponse =>
    exact ⟨fun _ => by simpa [Command.idle, Command.opens] using idle, fun _ => rfl, fun _ => rfl⟩
  | _ => first | exact ⟨fun _ => rfl, fun _ => rfl, fun _ => rfl⟩ | cases idle

variable {halted starts hosts : Bool}

/-! Scanning, advertising and the listener. -/

theorem startScan_issues (c : Core) :
    Issues (Mild env.halted starts hosts) c (c.startScan env) := by
  unfold startScan
  split
  · exact .refl c
  · rename_i live
    refine .ite (.refl c) ?_
    exact .after (.issue _ ⟨fun _ => rfl, fun _ => rfl, fun halted => absurd halted live⟩)
      (rfl : { c with radio.scanning := true }.out = c.out)

theorem stopScan_issues (c : Core) : Issues (Mild halted starts hosts) c c.stopScan :=
  .ite (.after (.issue _ (.of_idle rfl)) (rfl : { c with radio.scanning := false }.out = c.out)) (.refl c)

theorem onScanTimer_issues (c : Core) :
    Issues (Mild env.halted starts hosts) c (c.onScanTimer env) := by
  have stopped :
      Issues (Mild env.halted starts hosts) c { c with radio.scanTimer := none } := .of_same rfl
  have armed : ∀ c : Core, Issues (Mild env.halted starts hosts) c (c.armScanRestart env) :=
    fun _ => .of_same rfl
  refine stopped.trans (.ite (.refl _) (.ite (armed _) (.ite (.ite ?_ ?_) ?_)))
  · exact (stopScan_issues _).trans (armed _)
  · exact startScan_issues _
  · exact (stopScan_issues _).trans (startScan_issues _)

theorem setOnline_issues (c : Core) (online : Bool) :
    Issues (Mild env.halted starts hosts) c (c.setOnline env online) := by
  have noted :
      Issues (Mild env.halted starts hosts) c { c with radio.online := online } := .of_same rfl
  have armed : ∀ c : Core, Issues (Mild env.halted starts hosts) c (c.armScanRestart env) :=
    fun _ => .of_same rfl
  exact .ite (.refl c) (.ite noted (.ite (noted.trans (startScan_issues _)) (noted.trans (armed _))))

/-- The advertisement starts without a look at the lifecycle. -/
theorem maybeAdvertise_issues (c : Core) : Issues (Mild false starts hosts) c c.maybeAdvertise :=
  .ite (.refl c)
    (.after (.issue _ (.of_live rfl rfl)) (rfl : { c with radio.advertising := true }.out = c.out))

theorem publish_issues (c : Core) : Issues (Mild false starts hosts) c (c.publish env) :=
  .ite (.refl c) (.issue c (.of_live rfl rfl))

theorem unpublish_issues (c : Core) : Issues (Mild halted starts hosts) c (c.unpublish env) := by
  unfold unpublish
  split
  · exact .refl c
  · exact Issues.trans (.ite (.issue c (.of_idle rfl)) (.refl c)) (.of_same rfl)

theorem cycle_issues (c : Core) : Issues (Mild false starts hosts) c (c.cycle env) :=
  (unpublish_issues c).trans (publish_issues _)

theorem maybeCycle_issues (c : Core) : Issues (Mild false starts hosts) c (c.maybeCycle env) :=
  .ite (.of_same rfl) (.after (cycle_issues _) rfl)

theorem startServer_issues (c : Core) :
    Issues (Mild env.halted starts true) c (c.startServer env) := by
  unfold startServer
  split
  · exact .refl c
  · rename_i live
    rw [Bool.eq_false_iff.mpr live]
    have asked : Mild false starts true (.addService (env.cfg.toServiceUUID none)) :=
      ⟨fun _ => rfl, by simp, by simp⟩
    have hosted : Issues (Mild false starts true) c
        (if c.radio.serviceAdded then c else c.issue (.addService (env.cfg.toServiceUUID none))) :=
      .ite (.refl c) (.issue c asked)
    exact .ite (.refl c) (.ite (.refl c) (.ite (hosted.trans (publish_issues _)) hosted))

theorem onServiceAdd_issues (c : Core) : Issues (Mild false starts hosts) c c.onServiceAdd :=
  .after (maybeAdvertise_issues _) rfl

theorem onState_issues (c : Core) (raw : AdapterState) :
    Issues (Mild halted starts hosts) c (c.onState raw) :=
  .ite (.refl c) (.after (.issue _ (.of_idle rfl)) (rfl : { c with radio.state := raw.toApp }.out = c.out))

theorem scheduleSelfHeal_issues (c : Core) :
    Issues (Mild halted starts hosts) c (c.scheduleSelfHeal env) := by
  let healed : Core := { c with radio.radioWasDown := false, radio.healing := true }
  have told : Issues (Mild halted starts hosts) healed (healed.issue .emitRadioCycled) :=
    .issue _ ⟨fun _ => rfl, fun _ => rfl, fun _ => rfl⟩
  exact .ite (.refl c) (.ite (.refl c) (.after told rfl))

/-! What the handlers of ordinary events issue. -/

/-- On a halted transport a rotation that is held stays held, and no radio work starts but
the one that such a rotation is. -/
theorem Proceeds.issues (h : Proceeds env scope c c')
    (still : env.halted = true → scope.binds = true → c.server.cyclePending = false) :
    Issues (Mild env.halted scope.starts hosts) c c' ∧
      (env.halted = true → c.server.cyclePending = false → c'.server.cyclePending = false) := by
  induction h with
  | trans _ _ ih ih' =>
    obtain ⟨issues, pending⟩ := ih still
    obtain ⟨issues', pending'⟩ := ih' fun halted binds => pending halted (still halted binds)
    exact ⟨issues.trans issues', fun halted => pending' halted ∘ pending halted⟩
  | rest same =>
    simp only [watched, Prod.mk.injEq] at same
    obtain ⟨-, -, -, -, -, pending, -, -, out⟩ := same
    exact ⟨.of_same out, fun _ => pending.trans⟩
  | issue c idle => exact ⟨.issue c (.of_idle idle), fun _ => id⟩
  | connect c p live =>
    rw [live]
    exact ⟨.issue c (.of_live rfl rfl), fun _ => id⟩
  | sendOpen c p id payload opening =>
    refine ⟨.issue c ⟨fun idle => ?_, fun _ => rfl, fun _ => rfl⟩, fun _ same => same⟩
    rw [opening] at idle
    cases idle
  | maybeCycle c serves due =>
    have live : env.halted = false := by
      rcases due with ⟨-, live⟩ | ⟨binds, pending⟩
      · exact live
      · by_contra halted
        rw [still (by simpa using halted) binds] at pending
        cases pending
    rw [live]
    exact ⟨maybeCycle_issues c, fun halted => by cases halted⟩
  | startScan c => exact ⟨startScan_issues c, fun _ => (startScan_radioOnly env c).pending.trans⟩
  | stopScan c => exact ⟨stopScan_issues c, fun _ => (stopScan_radioOnly c).pending.trans⟩
  | onScanTimer c =>
    exact ⟨onScanTimer_issues c, fun _ => (onScanTimer_radioOnly env c).pending.trans⟩
  | _ => exact ⟨.of_same rfl, fun _ => id⟩

/-- Whatever the flags say, nothing is hosted, and no OPEN is sent but by who starts sessions. -/
theorem Proceeds.mild (h : Proceeds env scope c c') :
    Issues (Mild false scope.starts false) c c' := by
  have live : ∀ {c c' : Core}, Issues (Mild env.halted scope.starts false) c c' →
      Issues (Mild false scope.starts false) c c' :=
    fun issues => issues.mono fun _ mild => ⟨mild.unopened, mild.unhosted, by simp⟩
  induction h with
  | trans _ _ ih ih' => exact ih.trans ih'
  | rest same =>
    simp only [watched, Prod.mk.injEq] at same
    obtain ⟨-, -, -, -, -, -, -, -, out⟩ := same
    exact .of_same out
  | issue c idle => exact .issue c (.of_idle idle)
  | connect c p live => exact .issue c (.of_live rfl rfl)
  | sendOpen c p id payload starts =>
    refine .issue c ⟨fun idle => ?_, fun _ => rfl, by simp⟩
    rw [starts] at idle
    cases idle
  | maybeCycle c serves due => exact maybeCycle_issues c
  | startScan c => exact live (startScan_issues c)
  | stopScan c => exact stopScan_issues c
  | onScanTimer c => exact live (onScanTimer_issues c)
  | _ => exact .of_same rfl

/-- Whoever serves nothing holds and releases no rotation. -/
theorem Proceeds.pending (h : Proceeds env scope c c') (idle : scope.serves = false) :
    c'.server.cyclePending = c.server.cyclePending := by
  induction h with
  | trans _ _ ih ih' => exact ih'.trans ih
  | rest same =>
    simp only [watched, Prod.mk.injEq] at same
    obtain ⟨-, -, -, -, -, pending, -, -, -⟩ := same
    exact pending
  | maybeCycle c serves due => simp [idle] at serves
  | startScan c => exact (startScan_radioOnly env c).pending
  | stopScan c => exact (stopScan_radioOnly c).pending
  | onScanTimer c => exact (onScanTimer_radioOnly env c).pending
  | _ => rfl

/-- Only the server's pipe of l2cap holds a rotation. -/
theorem Proceeds.unpending (h : Proceeds env scope c c') (gatt : env.cfg.pipe = .gatt)
    (none : c.server.cyclePending = false) : c'.server.cyclePending = false := by
  induction h with
  | trans _ _ ih ih' => exact ih' (ih none)
  | rest same =>
    simp only [watched, Prod.mk.injEq] at same
    obtain ⟨-, -, -, -, -, pending, -, -, -⟩ := same
    exact pending.trans none
  | maybeCycle c serves due =>
    rcases due with ⟨l2cap, -⟩ | ⟨-, pending⟩
    · simp [gatt] at l2cap
    · simp [none] at pending
  | startScan c => exact (startScan_radioOnly env c).pending.trans none
  | stopScan c => exact (stopScan_radioOnly c).pending.trans none
  | onScanTimer c => exact (onScanTimer_radioOnly env c).pending.trans none
  | _ => exact none

/-! What the other events issue. -/

theorem onRadioDown_rest (c : Core) : c.onRadioDown.out = c.out ∧
    c.onRadioDown.server.cyclePending = c.server.cyclePending := by
  obtain ⟨_, _, eq⟩ := onRadioDown_eq c
  rw [eq]
  exact ⟨rfl, rfl⟩

theorem onServerState_issues (c : Core) (s : AdapterState) :
    Issues (Mild env.halted starts true) c (c.onServerState env s) := by
  have noted :
      Issues (Mild env.halted starts true) c ({ c with radio.serverState := s }.onState s) :=
    .after (onState_issues _ s) rfl
  refine noted.trans (.ite (startServer_issues _) (.ite ?_ (.refl _)))
  exact .of_same (onRadioDown_rest _).1

theorem onCentralState_issues (c : Core) (s : AdapterState) :
    Issues (Mild env.halted starts hosts) c (c.onCentralState env s) := by
  have noted :
      Issues (Mild env.halted starts hosts) c ({ c with radio.centralState := s }.onState s) :=
    .after (onState_issues _ s) rfl
  refine noted.trans (.ite (.ite ?_ ?_) (.ite ?_ (.refl _)))
  · exact scheduleSelfHeal_issues _
  · exact startScan_issues _
  · exact .of_same (onRadioDown_rest _).1

theorem notePeerKey_out (r : Ref) (c : Core) : (c.notePeerKey r).out = c.out := by
  simp only [notePeerKey]
  split <;> rfl

theorem onConnOpen_issues (r : Ref) (key : Bytes) (c : Core) :
    Issues (Mild halted starts hosts) c (c.onConnOpen env r key) := by
  have tracked : ∀ c : Core, Issues (Mild halted starts hosts) c (c.track env r) := by
    intro c
    have noted :
        Issues (Mild halted starts hosts) c (c.notePeerKey r) := .of_same (notePeerKey_out r c)
    refine .ite noted (.ite (noted.trans (.of_same rfl)) ?_)
    exact noted.trans (.after (.issue _ (.of_idle rfl)) (rfl : { c.notePeerKey r with
      links := (c.notePeerKey r).links.track env.cfg.publicKey r }.out = _))
  exact .ite (.after (tracked _) rfl) (.refl c)

/-! What the calls issue. -/

theorem sayGoodbye_issues (c : Core) : Issues (Mild halted starts hosts) c (c.sayGoodbye env) := by
  have said :
      ∀ (c : Core) (id : Hex), Issues (Mild halted starts hosts) c (c.notifyClose env id none) :=
    fun _ _ => .of_same rfl
  refine (Issues.foldl said c _).trans (.foldl (fun c (d : Device) => ?_) _ _)
  split
  · exact .refl c
  · split
    · refine .ite (.issue c (.of_idle ?_)) (.refl c)
      simp [Command.idle, typeClose, typeOpen]
    · exact .refl c

theorem disconnectDevices_issues (c : Core) :
    Issues (Mild halted starts hosts) c c.disconnectDevices := by
  refine .foldl (fun c (d : Device) => ?_) c _
  split
  · exact .issue c (.of_idle rfl)
  · exact .refl c

theorem silence_issues (c : Core) : Issues (Mild halted starts hosts) c (c.silence env) := by
  have stopped : ∀ c : Core, Issues (Mild halted starts hosts) c
      (if env.life.opened then c.issue .stopAdvertising else c) :=
    fun c => .ite (.issue c (.of_idle rfl)) (.refl c)
  exact ((stopScan_issues c).trans (stopped _)).trans (.of_same rfl)

theorem teardown_issues (c : Core) : Issues (Mild halted starts hosts) c (c.teardown env) := by
  have parted :
      Issues (Mild halted starts hosts) c c.disconnectDevices.dropDevices :=
    (disconnectDevices_issues c).trans (.of_same rfl)
  have forgets : ∀ c : Core, Issues (Mild halted starts hosts) c c.forget := by
    intro c
    obtain ⟨_, _, eq⟩ := forget_eq c
    have out : c.forget.out = c.out := by rw [eq]
    exact .of_same out
  have unpublished : ∀ c : Core, Issues (Mild halted starts hosts) c
      (if env.cfg.platform = .mac then c.unpublish env else c) :=
    fun c => .ite (unpublish_issues c) (.refl c)
  have ended : ∀ c : Core,
      Issues (Mild halted starts hosts) c ({ c with radio.state := .off }.issue .emitUpdate) :=
    fun c => .after (.issue _ (.of_idle rfl)) rfl
  exact (((parted.trans (silence_issues _)).trans (forgets _)).trans (unpublished _)).trans (ended _)

theorem doResume_issues (c : Core) : Issues (Mild false starts hosts) c (c.doResume env) := by
  let fresh : Core := { c with radio.advertising := false, radio.huntUntil := env.now + huntWindow }
  have cycled : Issues (Mild false starts hosts) fresh
      (if env.cfg.pipe = .l2cap then fresh.cycle env else fresh) :=
    .ite (cycle_issues fresh) (.refl fresh)
  have scans : ∀ c : Core, Issues (Mild false starts hosts) c (c.startScan env) := fun c =>
    (startScan_issues c).mono fun command mild =>
      ⟨mild.unopened, mild.unhosted, fun halted => by cases halted⟩
  have ended : ∀ (c : Core) state,
      Issues (Mild false starts hosts) c ({ c with radio.state := state }.issue .emitUpdate) :=
    fun c _ => .after (.issue _ (.of_idle rfl)) rfl
  refine .ite (.of_same rfl) (.after ?_ (rfl : fresh.out = c.out))
  exact ((cycled.trans (maybeAdvertise_issues _)).trans (scans _)).trans (ended _ _)

theorem doOpen_issues (c : Core) (server central : AdapterState) :
    Issues (Mild env.halted starts true) c (c.doOpen env server central) := by
  let made : Core := { c with radio.serverState := server, radio.centralState := central }
  have started : Issues (Mild env.halted starts true) made ((made.startServer env).startScan env) :=
    (startServer_issues made).trans (startScan_issues _)
  exact .after (started.trans (.of_same rfl)) rfl

theorem doClose_issues (c : Core) : Issues (Mild halted starts hosts) c (c.doClose env) := by
  intro command mem
  rw [doClose_eq] at mem
  refine (List.mem_append.mp mem).imp_right fun new => .of_idle ?_
  split at new
  · rcases List.mem_pair.mp new with rfl | rfl <;> rfl
  · cases new

/-- No call but a resume starts radio work on a transport it leaves halted. -/
theorem Calls.issues (h : Calls env c c') : Issues (Mild env.halted starts true) c c' := by
  induction h with
  | trans _ _ ih ih' => exact ih.trans ih'
  | skip c => exact .refl c
  | doOpen c server central opened => exact doOpen_issues c server central
  | beginSuspend c suspended => exact .after (sayGoodbye_issues _) rfl
  | teardown c => exact teardown_issues c
  | doResume c live =>
    rw [live]
    exact doResume_issues c
  | doClose c closing => exact doClose_issues c
  | setOnline c online => exact setOnline_issues c online
  | setTopic c topic =>
    unfold Core.setTopic
    dsimp only
    split <;> exact .of_same rfl

end Core

end BleSwarm
