import BleSwarm.Transport.Listener.Step

/-!
# The rotation that is held

`_maybeCycle` holds the rotation of the listener as long as a session waits for its
channel. A session that is bound or reaped on a live transport lets it go. The pipe timer
and the mass reaps take sessions out of the table without asking, and a transport that is
halted does not rotate: there the last waiting session may leave with the rotation still held.
-/

namespace BleSwarm.Core

variable {env : Env} {c c' : Core}

/-- A rotation is held for a session that waits. -/
def Held (c : Core) : Prop := c.server.cyclePending = true → c.pendingSession = true

theorem Held.of_none (none : c.server.cyclePending = false) : Held c :=
  fun pending => absurd (none.symm.trans pending) (by simp)

theorem Tends.held (h : Tends c c') (held : Held c) : Held c' := by
  intro pending
  rw [h.waits]
  exact held (h.pending.symm.trans pending)

theorem held_of_quiet (h : Quiet c c') (pending : c'.server.cyclePending = c.server.cyclePending)
    (held : Held c) : Held c' := by
  intro still
  simp only [pendingSession, session, h.table, h.sessions]
  exact held (pending.symm.trans still)

/-- A change of state that is no power-off. -/
theorem onServerState_quiet {s : AdapterState} (up : isDown s = false) (c : Core) :
    Quiet c (c.onServerState env s) := by
  have noted : Quiet c ({ c with radio.serverState := s }.onState s) :=
    ((radio_radioOnly c _).trans (onState_radioOnly _ s)).quiet
  refine noted.trans (.ite (startServer_radioOnly env _).quiet ?_)
  rw [up]
  exact .refl _

theorem onCentralState_quiet {s : AdapterState} (up : isDown s = false) (c : Core) :
    Quiet c (c.onCentralState env s) := by
  have noted : Quiet c ({ c with radio.centralState := s }.onState s) :=
    ((radio_radioOnly c _).trans (onState_radioOnly _ s)).quiet
  refine noted.trans (.ite (RadioOnly.quiet (.ite ?_ (startScan_radioOnly env _))) ?_)
  · exact scheduleSelfHeal_radioOnly env _
  rw [up]
  exact .refl _

/-- Among the sessions of a table one waits. -/
theorem waits_of_entry {id : Hex} {r : Ref} (entry : c.server.table.get? id = some r)
    (waits : (c.session r).stream = none) : c.pendingSession = true :=
  List.any_eq_true.mpr ⟨r, OrderedMap.mem_values entry, by simp [waits]⟩

theorem Promised.held {id : Hex} {psm : Nat} (h : Promised env c id psm c') : Held c' := by
  intro _
  have entry : c'.server.table.get? id = some c.server.sessions.next := by
    rw [h.table, OrderedMap.get?_set_self]
  exact waits_of_entry entry h.stream

theorem Seated.waits {r : Ref} (h : Seated env c r c') : c'.pendingSession = !c.othersBound r := by
  simp only [pendingSession, othersBound, List.not_all_eq_any_not, h.table]
  refine congrArg (fun p => c.server.table.values.any p) (funext fun k => ?_)
  by_cases same : k = r
  · subst same
    have bound := h.stream
    cases stream : (c'.session k).stream with
    | none => exact absurd stream bound
    | some st => simp
  · rw [h.others k same]
    cases (c.session k).stream <;> simp [same]

theorem Seated.held {r : Ref} (h : Seated env c r c') : Held c' := by
  intro pending
  rw [h.pending] at pending
  rw [h.waits]
  exact (Bool.and_eq_true_iff.mp pending).2

/-- On a live transport the end of a session settles what is held. -/
theorem Ended.held {id : Hex} (h : Ended env c id c') (l2cap : env.cfg.pipe = .l2cap)
    (live : env.halted = false) : Held c' := by
  intro pending
  rw [h.pending] at pending
  rw [h.waits]
  simpa [l2cap, live] using pending

/-- The rotation that is held on a transport that is halted, and the one that is not. -/
theorem Ended.held_iff {id : Hex} (h : Ended env c id c') (halted : env.halted = true)
    (held : c.server.cyclePending = true) : Held c' ↔ c.waitsBut id = true := by
  have pending : c'.server.cyclePending = true := by
    rw [h.pending]
    simpa [halted] using held
  rw [← h.waits]
  exact ⟨fun here => here pending, fun waits _ => waits⟩

/-- One frame, on a transport that is live or holds nothing. -/
theorem onWriteRequest_held (l2cap : env.cfg.pipe = .l2cap) (running : env.life.suspended = false)
    (req : Bytes × Bool) (held : Held c) (idle : env.halted = true → c.server.cyclePending = false) :
    Held (c.onWriteRequests env [req]) ∧
      (env.halted = true → (c.onWriteRequests env [req]).server.cyclePending = false) := by
  rcases onWriteRequest_cases l2cap running c req with
    ⟨id, -, -, ended⟩ | ⟨id, psm, -, -, -, promised⟩ | ⟨-, -, tends⟩
  · cases live : env.halted
    · exact ⟨ended.held l2cap live, fun halted => absurd halted (by simp)⟩
    · have none : (c.onWriteRequests env [req]).server.cyclePending = false := by
        rw [ended.pending]
        simpa [live] using idle live
      exact ⟨.of_none none, fun _ => none⟩
  · exact ⟨promised.held, fun halted => promised.pending.trans (idle halted)⟩
  · exact ⟨tends.held held, fun halted => tends.pending.trans (idle halted)⟩

theorem onWriteRequests_held (l2cap : env.cfg.pipe = .l2cap) (running : env.life.suspended = false)
    (requests : List (Bytes × Bool)) (held : Held c)
    (idle : env.halted = true → c.server.cyclePending = false) :
    Held (c.onWriteRequests env requests) := by
  induction requests generalizing c with
  | nil => exact held
  | cons req requests ih =>
    obtain ⟨first, still⟩ := onWriteRequest_held l2cap running req held idle
    exact ih first still

theorem teardown_unheld (env : Env) (c : Core) : (c.teardown env).server.cyclePending = false := by
  simp only [teardown]
  split
  · exact (unpublish_radioOnly env _).pending.trans rfl
  · rfl

theorem empty_waits (empty : c.server.table = ∅) : c.pendingSession = false := by
  simp [pendingSession, empty]

theorem onRadioDown_held (c : Core) : Held c.onRadioDown ↔ c.server.cyclePending = false := by
  have waits : c.onRadioDown.pendingSession = false := by
    apply empty_waits
    simp only [onRadioDown]
    rfl
  rw [Held, (onRadioDown_rest c).2, waits]
  simp

end BleSwarm.Core

namespace BleSwarm.Transport

open BleSwarm.Core

/-- After the step a rotation is held only for a session that waits. -/
def Rotates (t : Transport) (a : Action) : Prop :=
  (t.act a).core.server.cyclePending = true → (t.act a).core.pendingSession = true

/-- The step takes the last session that waits out of the table behind the listener's back. -/
def strands (t : Transport) : Action → Bool
  | .input i =>
    t.life.opened &&
      match i.event with
      | .pipeTimeout r =>
        t.core.timesOut (t.env i.now i.native) r && !t.core.waitsBut (t.core.session r).id
      | .serverState s | .centralState s => isDown s
      | .streamClose st => t.halted && (t.core.closes? st).any fun id => !t.core.waitsBut id
      | _ => false
  | .close _ => t.life.opened && !t.life.closing
  | _ => false

/-- None does so while a rotation is held. -/
def Releases (t : Transport) (a : Action) : Prop :=
  t.core.server.cyclePending = true → t.strands a = false

instance (t : Transport) (a : Action) : Decidable (t.Rotates a) := inferInstanceAs (Decidable (_ → _))

instance (t : Transport) (a : Action) : Decidable (t.Releases a) := inferInstanceAs (Decidable (_ → _))

/-- What every run keeps whose steps all rotate or hold for a session that waits. -/
structure Holding (t : Transport) : Prop where
  l2cap : t.cfg.pipe = .l2cap
  booked : Booked t.cfg t.core
  held : Held t.core
  running : t.core.server.cyclePending = true → t.life.opened = true ∧ t.life.closing = false ∧
    t.life.closed = false

/-- The events that take no session out of the table behind the listener's back. -/
theorem handle_held {t : Transport} {env : Env} (l2cap : env.cfg.pipe = .l2cap) (held : Held t.core)
    (idle : env.halted = true → env.life.suspended = false → t.core.server.cyclePending = false)
    {e : Event} (untimed : ∀ r, e ≠ .pipeTimeout r) (up : ∀ s, e = .serverState s ∨ e = .centralState s →
      isDown s = false) (closes : ∀ st, e = .streamClose st → t.core.closes? st ≠ none → env.halted = false) :
    Held (t.handle env e).core := by
  cases e with
  | pipeTimeout r => exact absurd rfl (untimed r)
  | writeRequests requests =>
    cases suspended : env.life.suspended
    · exact onWriteRequests_held l2cap suspended requests held fun halted => idle halted suspended
    · exact (onWriteRequests_suspended suspended requests t.core).held held
  | serverState s =>
    have tends : Quiet t.core (t.handle env (.serverState s)).core :=
      onServerState_quiet (up s (.inl rfl)) t.core
    exact held_of_quiet tends (onServerState_pending env t.core s) held
  | centralState s =>
    exact held_of_quiet (onCentralState_quiet (up s (.inr rfl)) t.core)
      (onCentralState_pending env t.core s) held
  | serviceAdd =>
    have only := onServiceAdd_radioOnly t.core
    exact held_of_quiet only.quiet only.pending held
  | connOpen r key => exact (onConnOpen_tends env t.core r key).held held
  | streamClose st =>
    rcases onStreamClose_cases env t.core st with ⟨id, here, ended⟩ | ⟨none, tends⟩
    · exact ended.held l2cap (closes st rfl (by simp [here]))
    · exact tends.held held
  | resumeAccept a =>
    rcases resumeAccept_seats env t.core a with ⟨r, rest, -, seated⟩ | ⟨-, tends⟩
    · exact seated.held
    · exact tends.held held
  | channelPublish psm => exact held
  | _ => exact ((handle_performs t env (by simp [Special]) (by simp)).tends rfl).held held

/-- Nothing is held that was not, once the transport is halted. -/
theorem handle_unheld {t : Transport} {env : Env} (halted : env.halted = true)
    (none : t.core.server.cyclePending = false) (e : Event) :
    (t.handle env e).core.server.cyclePending = false := by
  have ordinary : ¬ Special e → (t.handle env e).core.server.cyclePending = false := by
    intro ordinary
    have stays : Issues (Mild env.halted (scopeOf env.cfg.pipe e).starts false) t.core _ ∧ _ :=
      (handle_proceeds t env ordinary).issues fun _ _ => none
    exact stays.2 halted none
  cases e with
  | serverState s => exact (onServerState_pending env _ s).trans none
  | centralState s => exact (onCentralState_pending env _ s).trans none
  | serviceAdd => exact (onServiceAdd_radioOnly _).pending.trans none
  | connOpen r key => exact (onConnOpen_pending env _ r key).trans none
  | _ => exact ordinary (by simp [Special])

/-! The events that may strand a rotation, on a transport that has opened. -/

theorem pipeTimeout_rotates_iff {t : Transport} (h : t.Holding) {i : Input} (opened : t.life.opened = true)
    {r : Ref} (event : i.event = .pipeTimeout r) : t.Rotates (.input i) ↔ t.Releases (.input i) := by
  have booked : Booked t.cfg (t.begin i.native).core := (begin_quiet t i.native).books.booked h.booked
  have strands : t.strands (.input i) =
      (t.core.timesOut (t.env i.now i.native) r && !t.core.waitsBut (t.core.session r).id) := by
    simp [strands, opened, event]
  have run : (t.act (.input i)).core = (t.begin i.native).core.onPipeTimeout (t.env i.now i.native) r := by
    rw [act_input opened, event]
    rfl
  rw [Rotates, Releases, strands, run]
  rcases onPipeTimeout_cases (t.env i.now i.native) booked r with ⟨due, -, -, left⟩ | ⟨early, same⟩
  · have due : t.core.timesOut (t.env i.now i.native) r = true := due
    have pending : ((t.begin i.native).core.onPipeTimeout (t.env i.now i.native) r).server.cyclePending =
        t.core.server.cyclePending := left.pending
    have waits : ((t.begin i.native).core.onPipeTimeout (t.env i.now i.native) r).pendingSession =
        t.core.waitsBut (t.core.session r).id := left.waits.trans (leave_waits _ _ r)
    rw [pending, waits, due]
    simp
  · have early : t.core.timesOut (t.env i.now i.native) r = false := early
    rw [same, early]
    exact ⟨fun _ _ => rfl, fun _ => h.held⟩

theorem down_rotates_iff {t : Transport} {i : Input} (opened : t.life.opened = true)
    {s : AdapterState} (down : isDown s = true) (event : i.event = .serverState s ∨ i.event = .centralState s) :
    t.Rotates (.input i) ↔ t.Releases (.input i) := by
  have strands : t.strands (.input i) = true := by
    rcases event with event | event
    · simp [strands, opened, event, down]
    · simp [strands, opened, event, down]
  obtain ⟨told, run, pending⟩ : ∃ told : Core, (t.act (.input i)).core = told.onRadioDown ∧
      told.server.cyclePending = t.core.server.cyclePending := by
    have off : s ≠ .poweredOn := by
      rintro rfl
      cases down
    rcases event with event | event
    · refine ⟨_, ?_, (onState_tends { (t.begin i.native).core with radio.serverState := s } s).pending⟩
      rw [act_input opened, event]
      exact (if_neg off).trans (if_pos down)
    · refine ⟨_, ?_, (onState_tends { (t.begin i.native).core with radio.centralState := s } s).pending⟩
      rw [act_input opened, event]
      exact (if_neg off).trans (if_pos down)
  have rotates : t.Rotates (.input i) ↔ Held told.onRadioDown := by
    rw [Rotates, run]
    rfl
  rw [rotates, onRadioDown_held, pending, Releases, strands]
  simp

theorem streamClose_rotates_iff {t : Transport} (h : t.Holding) {i : Input} (opened : t.life.opened = true)
    {st : Ref} (event : i.event = .streamClose st) : t.Rotates (.input i) ↔ t.Releases (.input i) := by
  have strands : t.strands (.input i) =
      (t.halted && (t.core.closes? st).any fun id => !t.core.waitsBut id) := by
    simp [strands, opened, event]
  have run : (t.act (.input i)).core = (t.begin i.native).core.onStreamClose (t.env i.now i.native) st := by
    rw [act_input opened, event]
    rfl
  rw [Rotates, Releases, strands, run]
  rcases onStreamClose_cases (t.env i.now i.native) (t.begin i.native).core st with
    ⟨id, closes, ended⟩ | ⟨spared, tends⟩
  · have closes : t.core.closes? st = some id := closes
    rw [closes]
    cases live : t.halted
    · exact ⟨fun _ _ => rfl, fun _ => ended.held h.l2cap live⟩
    · cases held : t.core.server.cyclePending
      · have none : ((t.begin i.native).core.onStreamClose (t.env i.now i.native) st).server.cyclePending =
            false := by
          have halted : (t.env i.now i.native).halted = true := live
          rw [ended.pending, halted, Bool.not_true, Bool.and_false]
          exact held
        exact ⟨fun _ held => absurd held (by simp), fun _ => Held.of_none none⟩
      · have iff := ended.held_iff live held
        refine Iff.trans iff ?_
        have same : (t.begin i.native).core.waitsBut id = t.core.waitsBut id := rfl
        rw [same]
        simp
  · have spared : t.core.closes? st = none := spared
    rw [spared]
    exact ⟨fun _ _ => by simp, fun _ => tends.held h.held⟩

/-- A transport that holds a rotation is halted by a suspend at most. -/
theorem Holding.unheld {t : Transport} (h : t.Holding) (halted : t.halted = true)
    (running : t.life.suspended = false) : t.core.server.cyclePending = false := by
  by_contra pending
  obtain ⟨-, closing, closed⟩ := h.running (Bool.eq_true_of_not_eq_false pending)
  have live : t.halted = false := by simp [Transport.halted, running, closing, closed]
  exact absurd (live.symm.trans halted) (by simp)

theorem input_rotates_iff {t : Transport} (h : t.Holding) (i : Input) :
    t.Rotates (.input i) ↔ t.Releases (.input i) := by
  cases opened : t.life.opened
  · rw [Rotates, act_input_unopened opened]
    have idle : t.Releases (.input i) := fun _ => by simp [strands, opened]
    exact ⟨fun _ => idle, fun _ => h.held⟩
  · have others : ∀ e, i.event = e → (∀ r, e ≠ .pipeTimeout r) →
        (∀ s, e = .serverState s ∨ e = .centralState s → isDown s = false) →
        (∀ st, e ≠ .streamClose st) → (t.Rotates (.input i) ↔ t.Releases (.input i)) := by
      intro e event untimed up closes
      have spares : t.strands (.input i) = false := by
        simp only [strands, event]
        cases e with
        | pipeTimeout r => exact absurd rfl (untimed r)
        | streamClose st => exact absurd rfl (closes st)
        | serverState s => simp [up s (.inl rfl)]
        | centralState s => simp [up s (.inr rfl)]
        | _ => simp
      have idle : (t.env i.now i.native).halted = true → (t.env i.now i.native).life.suspended = false →
          (t.begin i.native).core.server.cyclePending = false := h.unheld
      have kept : Held ((t.begin i.native).handle (t.env i.now i.native) e).core :=
        handle_held (t := t.begin i.native) h.l2cap h.held idle untimed up
          fun st here => absurd here (closes st)
      have rotates : t.Rotates (.input i) := by
        rw [Rotates, act_input opened, event]
        exact kept
      exact ⟨fun _ _ => spares, fun _ => rotates⟩
    cases event : i.event with
    | pipeTimeout r => exact pipeTimeout_rotates_iff h opened event
    | streamClose st => exact streamClose_rotates_iff h opened event
    | serverState s =>
      cases down : isDown s
      · exact others _ event (by simp) (by simp [down]) (by simp)
      · exact down_rotates_iff opened down (.inl event)
    | centralState s =>
      cases down : isDown s
      · exact others _ event (by simp) (by simp [down]) (by simp)
      · exact down_rotates_iff opened down (.inr event)
    | _ => exact others _ event (by simp) (by simp) (by simp)

/-- A close empties the table with whatever is held. -/
theorem close_rotates_iff {t : Transport} (h : t.Holding) (now : Nat) :
    t.Rotates (.close now) ↔ t.Releases (.close now) := by
  by_cases ends : t.life.opened = true ∧ t.life.closing = false
  · obtain ⟨opened, running⟩ := ends
    have waits : (t.act (.close now)).core.pendingSession = false := by
      rw [act_close running opened, doClose_eq]
      exact empty_waits rfl
    have same : (t.act (.close now)).core.server.cyclePending = t.core.server.cyclePending := by
      rw [act_close running opened, doClose_eq]
      rfl
    rw [Rotates, Releases, waits, same]
    simp [strands, opened, running]
  · have spares : t.strands (.close now) = false := by
      simpa [strands] using ends
    have same : (t.act (.close now)).core = (t.begin {}).core := by
      simp only [act, close]
      split
      · rfl
      · rename_i running
        split
        · rename_i opened
          exact absurd ⟨opened, by simpa using running⟩ ends
        · rfl
    rw [Rotates, same]
    exact ⟨fun _ _ => spares, fun _ => h.held⟩

/-- The other calls hold nothing, or what is held as it was. -/
theorem call_rotates {t : Transport} (h : t.Holding) {a : Action} (call : ∀ i, a ≠ .input i)
    (runs : ∀ now, a ≠ .close now) : t.Rotates a := by
  cases held : t.core.server.cyclePending
  · obtain ⟨env, -, -, -, calls⟩ := t.act_calls call
    exact Held.of_none (calls.unpending held)
  · have opened := (h.running held).1
    cases a with
    | input i => exact absurd rfl (call i)
    | close now => exact absurd rfl (runs now)
    | «open» server central now =>
      simp only [Rotates, act, runOpen, begin_life, opened, if_true]
      exact h.held
    | suspend now native =>
      exact held_of_quiet (beginSuspend_quiet _ (t.begin native).core)
        (sayGoodbye_pending _ _) h.held
    | drained id now native =>
      simp only [Rotates, act, drained]
      split
      · exact Held.of_none (teardown_unheld _ _)
      · exact h.held
    | resume now =>
      simp only [Rotates, act, resume]
      split
      · exact h.held
      · exact held_of_quiet (doResume_radioOnly _ (t.begin {}).core).quiet
          (doResume_radioOnly _ _).pending h.held
    | setOnline online now =>
      exact held_of_quiet (setOnline_radioOnly _ (t.begin {}).core online).quiet
        (setOnline_radioOnly _ _ online).pending
        h.held
    | setTopic topic =>
      simp only [Rotates, act, setTopic, Core.setTopic]
      split
      · exact h.held
      · exact h.held

theorem rotates_iff {t : Transport} (h : t.Holding) (a : Action) : t.Rotates a ↔ t.Releases a := by
  cases a with
  | input i => exact input_rotates_iff h i
  | close now => exact close_rotates_iff h now
  | _ => exact ⟨fun _ _ => rfl, fun _ => call_rotates h (by simp) (by simp)⟩

/-- A step that leaves a rotation held found the transport running, and left it so. -/
theorem act_running {t : Transport} (h : t.Holding) {a : Action} (rotates : t.Rotates a)
    (held : (t.act a).core.server.cyclePending = true) :
    (t.act a).life.opened = true ∧ (t.act a).life.closing = false ∧ (t.act a).life.closed = false := by
  by_cases event : ∃ i, a = .input i
  · obtain ⟨i, rfl⟩ := event
    have life : (t.act (.input i)).life = t.life := input_life t i
    rw [life]
    cases before : t.core.server.cyclePending
    · cases opened : t.life.opened
      · rw [act_input_unopened opened] at held
        exact absurd (before.symm.trans held) (by simp)
      · by_contra ends
        have halted : (t.env i.now i.native).halted = true := by
          by_contra live
          simp only [env_halted, Transport.halted, Bool.not_eq_true, Bool.or_eq_false_iff] at live
          exact ends ⟨rfl, live.1.2, live.2⟩
        have none := handle_unheld (t := t.begin i.native) halted before i.event
        rw [act_input opened] at held
        exact absurd (none.symm.trans held) (by simp)
    · exact h.running before
  · have call : ∀ i, a ≠ .input i := fun i here => event ⟨i, here⟩
    have before : t.core.server.cyclePending = true := by
      by_contra none
      obtain ⟨env, -, -, -, calls⟩ := t.act_calls call
      have still := calls.unpending (Bool.eq_false_iff.mpr none)
      exact absurd (still.symm.trans held) (by simp)
    obtain ⟨opened, closing, closed⟩ := h.running before
    cases a with
    | input i => exact absurd rfl (call i)
    | close now =>
      have strands := (close_rotates_iff h now).mp rotates before
      simp [Transport.strands, opened, closing] at strands
    | «open» server central now => simp [act, runOpen, opened, closing, closed]
    | _ => simpa [act, opened, closing] using closed

theorem act_holding {t : Transport} (h : t.Holding) {a : Action} (rotates : t.Rotates a) :
    (t.act a).Holding where
  l2cap := by rw [act_cfg, h.l2cap]
  booked := by
    rw [act_cfg]
    exact (act_books t a).booked h.booked
  held := rotates
  running := act_running h rotates

/-- On the l2cap pipe a rotation is held only for a session that waits, exactly in the runs in
which, while one is held, no radio goes down, no close comes, no pipe timer fires of the only
session that waits and no such session is reaped on a halted transport. -/
theorem rotation_held_iff (cfg : Config) (topic : Option Bytes) (online : Bool)
    (ids : Ref → PeripheralId) (actions : List Action) :
    Runs.Each act Rotates (create { cfg with pipe := .l2cap } topic online ids) actions ↔
      Runs.Each act Releases (create { cfg with pipe := .l2cap } topic online ids) actions := by
  have same : ∀ (t : Transport) a, t.Holding → (t.Rotates a ↔ t.Releases a) :=
    fun _ a h => rotates_iff h a
  refine Runs.each_iff same (fun _ _ h rotates => act_holding h rotates) ?_ actions
  exact ⟨rfl, create_booked _ topic online ids, fun held => absurd held (by simp [create]),
    fun held => absurd held (by simp [create])⟩

/-- The remote asks for a session on the l2cap pipe. -/
def asksChannel (id : Bytes) (remote : Bytes) : Bytes :=
  encodeFrame typeOpen (toHex id) (encodeKeyPayload remote pipeL2cap none)

/-- Two sessions wait, one is closed and the pipe timer of the other fires. -/
theorem rotation_lost_by_timeout :
    let cfg := Config.plain (List.replicate 32 1) .l2cap .ios
    let remote := List.replicate 32 2
    ¬ Runs.Each act Rotates (create cfg none false id)
      (startThen [.channelPublish 128,
          .writeRequests [(asksChannel (List.replicate 8 7) remote, false)],
          .writeRequests [(asksChannel (List.replicate 8 8) remote, false)],
          .writeRequests [(encodeFrame typeClose (toHex (List.replicate 8 7)) [], false)]] ++
        [.input { now := 21000, event := .pipeTimeout 1 }]) := by
  decide +kernel

end BleSwarm.Transport
