import BleSwarm.Transport.Commands
import BleSwarm.Transport.Yield

/-!
# Radio work of a halted transport

Every path to the radio looks at `_halted` but two. A service that was added is
advertised at once, and a stream that is bound lets go of a rotation of the listener
that was held for its session.
-/

namespace BleSwarm.Core

variable {env : Env} {scope : Scope} {c c' : Core} {halted starts hosts : Bool}

/-! The rotation that a session holds. -/

theorem onServerState_pending (env : Env) (c : Core) (s : AdapterState) :
    (c.onServerState env s).server.cyclePending = c.server.cyclePending := by
  have noted : RadioOnly c ({ c with radio.serverState := s }.onState s) :=
    (radio_radioOnly c _).trans (onState_radioOnly _ s)
  simp only [onServerState]
  split
  · exact (noted.trans (startServer_radioOnly env _)).pending
  · split
    · exact (onRadioDown_rest _).2.trans noted.pending
    · exact noted.pending

theorem onCentralState_pending (env : Env) (c : Core) (s : AdapterState) :
    (c.onCentralState env s).server.cyclePending = c.server.cyclePending := by
  have noted : RadioOnly c ({ c with radio.centralState := s }.onState s) :=
    (radio_radioOnly c _).trans (onState_radioOnly _ s)
  simp only [onCentralState]
  split
  · exact (noted.trans (.ite (scheduleSelfHeal_radioOnly env _)
      (startScan_radioOnly env _))).pending
  · split
    · exact (onRadioDown_rest _).2.trans noted.pending
    · exact noted.pending

theorem onConnOpen_pending (env : Env) (c : Core) (r : Ref) (key : Bytes) :
    (c.onConnOpen env r key).server.cyclePending = c.server.cyclePending := by
  have noted : ∀ c : Core, (c.notePeerKey r).server = c.server := by
    intro c
    simp only [notePeerKey]
    split <;> rfl
  simp only [onConnOpen, track]
  split
  · split
    · exact congrArg Server.cyclePending (noted _)
    · split <;> exact congrArg Server.cyclePending (noted _)
  · rfl

theorem sayGoodbye_pending (env : Env) (c : Core) :
    (c.sayGoodbye env).server.cyclePending = c.server.cyclePending := by
  have said : Performs env {} c (c.sayGoodbye env) := sayGoodbye_performs c
  exact said.proceeds.pending rfl

/-- The calls hold no rotation. -/
theorem Calls.unpending (h : Calls env c c') (none : c.server.cyclePending = false) :
    c'.server.cyclePending = false := by
  induction h with
  | trans _ _ ih ih' => exact ih' (ih none)
  | skip c => exact none
  | doOpen c server central opened =>
    exact (doOpen_radioOnly env c server central).pending.trans none
  | beginSuspend c suspended => exact (sayGoodbye_pending env _).trans none
  | teardown c =>
    simp only [Core.teardown]
    split
    · exact (unpublish_radioOnly env _).pending.trans rfl
    · rfl
  | doResume c live => exact (doResume_radioOnly env c).pending.trans none
  | doClose c closing => rwa [doClose_eq]
  | setOnline c online => exact (setOnline_radioOnly env c online).pending.trans none
  | setTopic c topic =>
    unfold Core.setTopic
    dsimp only
    split <;> exact none

/-! The stream that releases it. -/

theorem unpublish_psm (env : Env) (c : Core) : (c.unpublish env).server.psm = none := by
  unfold unpublish
  split
  · assumption
  · rfl

/-- A rotation publishes a channel where the native server supports it. -/
theorem cycle_publishes (c : Core) (supported : env.cfg.channelSupport = true) :
    .publishChannel ∈ (c.cycle env).out := by
  simp only [cycle, publish, unpublish_psm, supported, issue]
  simp

theorem cycle_unsupported (c : Core) (unsupported : env.cfg.channelSupport = false) :
    Issues (Mild halted starts hosts) c (c.cycle env) := by
  have unpublished : c.cycle env = c.unpublish env := by simp [cycle, publish, unsupported]
  rw [unpublished]
  exact unpublish_issues c

/-- Every session of the table but `r` has its stream. -/
def othersBound (c : Core) (r : Ref) : Bool :=
  c.server.table.values.all fun k => k = r || (c.session k).stream.isSome

theorem bindServerStream_halted (h : env.halted = true) (c : Core) (r st : Ref) :
    c.bindServerStream env r st =
      let bound := ((c.setSession r fun s => { s with pipeTimer := none, stream := some st }).destroyStream
        st).setSession r fun s => { s with conn := none }
      if c.server.cyclePending then bound.maybeCycle env else bound := by
  simp only [bindServerStream, onChannel, h, if_true]
  rfl

theorem bound_pending (c : Core) (r st : Ref) :
    (((c.setSession r fun s => { s with pipeTimer := none, stream := some st }).destroyStream
        st).setSession r fun s => { s with conn := none }).pendingSession = !c.othersBound r := by
  let bind : ServerSession → ServerSession := fun s => { s with pipeTimer := none, stream := some st }
  let unlink : ServerSession → ServerSession := fun s => { s with conn := none }
  have stream : ∀ k,
      ((((c.setSession r bind).destroyStream st).setSession r unlink).session k).stream.isNone =
      !(decide (k = r) || (c.session k).stream.isSome) := by
    intro k
    have same : ((((c.setSession r bind).destroyStream st).setSession r unlink).session k).stream =
        ((c.setSession r bind).session k).stream :=
      setSession_view _ r k ServerSession.stream fun _ => rfl
    rw [same]
    by_cases here : k = r
    · simp [here, bind]
    · rw [c.setSession_of_ne bind here]
      cases (c.session k).stream <;> simp [here]
  simp only [pendingSession, othersBound, List.not_all_eq_any_not]
  exact congrArg (fun p => c.server.table.values.any p) (funext stream)

/-- On a halted transport a stream that is bound publishes a channel exactly when it releases
the rotation. -/
theorem bindServerStream_releases (h : env.halted = true) (c : Core) (r st : Ref) :
    ((c.server.cyclePending && c.othersBound r && env.cfg.channelSupport) = true ∧
      .publishChannel ∈ (c.bindServerStream env r st).out) ∨
    ((c.server.cyclePending && c.othersBound r && env.cfg.channelSupport) = false ∧
      Issues (Mild halted starts hosts) c (c.bindServerStream env r st)) := by
  let bound : Core := ((c.setSession r fun s => { s with pipeTimer := none, stream := some st }).destroyStream
    st).setSession r fun s => { s with conn := none }
  have run :
      c.bindServerStream env r st = if c.server.cyclePending then bound.maybeCycle env else bound :=
    bindServerStream_halted h c r st
  have waits : bound.pendingSession = !c.othersBound r := bound_pending c r st
  have out : bound.out = c.out := rfl
  rw [run]
  clear_value bound
  cases pending : c.server.cyclePending
  · exact .inr ⟨rfl, .of_same out⟩
  · cases others : c.othersBound r
    · refine .inr ⟨rfl, .of_same ?_⟩
      simpa [maybeCycle, waits, others] using out
    · have rotates : bound.maybeCycle env = { bound with server.cyclePending := false }.cycle env := by
        simp [maybeCycle, waits, others]
      rw [if_pos rfl, rotates]
      cases supported : env.cfg.channelSupport
      · exact .inr ⟨rfl, .after (cycle_unsupported _ supported) out⟩
      · exact .inl ⟨rfl, cycle_publishes _ supported⟩

theorem takeOver_releases (h : env.halted = true) (c : Core) (r ch : Ref) (rest : Bytes) :
    ((c.server.cyclePending && c.othersBound r && env.cfg.channelSupport) = true ∧
      .publishChannel ∈ (c.takeOver env r ch rest).out) ∨
    ((c.server.cyclePending && c.othersBound r && env.cfg.channelSupport) = false ∧
      Issues (Mild halted starts hosts) c (c.takeOver env r ch rest)) := by
  let made : Core := addReader { c with
    streams := c.streams.alloc { pipe := .l2cap, owner := .server r, channel := some ch } } ch
      (.stream c.streams.next)
  have out : (c.takeOver env r ch rest).out = (made.bindServerStream env r c.streams.next).out := by
    simp only [takeOver]
    split <;> rfl
  unfold Issues
  rw [out]
  exact bindServerStream_releases h made r c.streams.next

/-- The session, and the first bytes, that `acceptServer` goes on with after its await. -/
def awaited? (c : Core) (a : Ref) : Option (Ref × Bytes) :=
  let acceptor := c.server.acceptors.get a
  match acceptor.result with
  | none => none
  | some (id, rest) =>
    if acceptor.resumed then none
    else
      match id.bind c.server.table.get? with
      | none => none
      | some r => if (c.session r).stream.isSome then none else some (r, rest)

theorem resumeAccept_cases (env : Env) (c : Core) (a : Ref) :
    (∃ r rest, c.awaited? a = some (r, rest) ∧ c.resumeAccept env a =
      (c.setAcceptor a fun acceptor => { acceptor with resumed := true }).takeOver env r
        (c.server.acceptors.get a).channel rest) ∨
    (c.awaited? a = none ∧ Performs env { channels := true } c (c.resumeAccept env a)) := by
  have refused : ∀ ch, Performs env { channels := true } c
      ((c.setAcceptor a fun acceptor => { acceptor with resumed := true }).issue (.destroyChannel ch)) :=
    fun ch => Performs.trans (readers_performs c _ _ rfl) (.issue _ rfl)
  unfold awaited? resumeAccept
  dsimp only
  cases (c.server.acceptors.get a).result with
  | none => exact .inr ⟨rfl, .refl c⟩
  | some resolved =>
    obtain ⟨named, rest⟩ := resolved
    dsimp only
    cases (c.server.acceptors.get a).resumed
    · simp only [Bool.false_eq_true, if_false]
      have table : named.bind (c.setAcceptor a fun acceptor =>
          { acceptor with resumed := true }).server.table.get? = named.bind c.server.table.get? := rfl
      rw [table]
      cases named.bind c.server.table.get? with
      | none => exact .inr ⟨rfl, refused _⟩
      | some r =>
        have session :
            (c.setAcceptor a fun acceptor => { acceptor with resumed := true }).session r =
            c.session r := rfl
        dsimp only
        rw [session]
        cases (c.session r).stream with
        | none => exact .inl ⟨r, rest, rfl, rfl⟩
        | some st => exact .inr ⟨rfl, refused _⟩
    · exact .inr ⟨rfl, .refl c⟩

/-- The channel of a session comes in whose stream the held rotation waits for. -/
def releases (cfg : Config) (c : Core) (a : Ref) : Bool :=
  match c.awaited? a with
  | none => false
  | some (r, _) => c.server.cyclePending && c.othersBound r && cfg.channelSupport

/-- On a halted transport the end of `acceptServer` publishes a channel exactly when it
releases the rotation. -/
theorem resumeAccept_halted (h : env.halted = true) (c : Core) (a : Ref) :
    (releases env.cfg c a = true ∧ .publishChannel ∈ (c.resumeAccept env a).out) ∨
    (releases env.cfg c a = false ∧ Issues (Mild halted starts hosts) c (c.resumeAccept env a)) := by
  rcases resumeAccept_cases env c a with ⟨r, rest, awaited, run⟩ | ⟨none, refused⟩
  · let resumed : Core := c.setAcceptor a fun acceptor => { acceptor with resumed := true }
    have held : resumed.server.cyclePending = c.server.cyclePending := rfl
    have others : resumed.othersBound r = c.othersBound r := by
      unfold othersBound
      rfl
    simp only [releases, awaited]
    rw [run, ← held, ← others]
    rcases takeOver_releases h resumed r (c.server.acceptors.get a).channel rest with yes | no
    · exact .inl yes
    · exact .inr ⟨no.1, .after no.2 rfl⟩
  · have issues : Issues (Mild env.halted false hosts) c (c.resumeAccept env a) :=
      (refused.proceeds.issues (by simp)).1
    refine .inr ⟨by simp [releases, none], issues.mono fun _ mild => ?_⟩
    exact ⟨fun _ => mild.unopened rfl, mild.unhosted, fun _ => mild.idle h⟩

end BleSwarm.Core

namespace BleSwarm.Transport

open BleSwarm.Core

/-- A step that leaves the transport halted starts no radio work. -/
def Silent (t : Transport) (a : Action) : Prop :=
  (t.act a).halted = true → ∀ command ∈ (t.act a).core.out, command.startsRadio = false

/-- On a halted transport no service comes in that is not advertised yet, and no channel
that releases a rotation of the listener. -/
def Settled (t : Transport) : Action → Prop
  | .input i =>
    match i.event with
    | .serviceAdd => t.life.opened = true → t.halted = true → t.core.radio.advertising = true
    | .resumeAccept a => t.life.opened = true → t.halted = true → releases t.cfg t.core a = false
    | _ => True
  | _ => True

instance (t : Transport) (a : Action) : Decidable (t.Silent a) :=
  inferInstanceAs (Decidable (_ → _))

instance (t : Transport) (a : Action) : Decidable (t.Settled a) := by
  unfold Settled
  rcases a with ⟨_, _, event⟩ | _
  · rcases event with _ | _ <;> infer_instance
  all_goals infer_instance

/-- On the gatt pipe there is no listener to rotate. -/
def Unpending (t : Transport) : Prop := t.cfg.pipe = .gatt → t.core.server.cyclePending = false

theorem handle_pending (t : Transport) (env : Env) (gatt : env.cfg.pipe = .gatt) {e : Event}
    (none : t.core.server.cyclePending = false) :
    (t.handle env e).core.server.cyclePending = false := by
  cases e with
  | serverState s => exact (onServerState_pending env _ s).trans none
  | centralState s => exact (onCentralState_pending env _ s).trans none
  | serviceAdd => exact (onServiceAdd_radioOnly _).pending.trans none
  | connOpen r key => exact (onConnOpen_pending env _ r key).trans none
  | _ => exact (handle_proceeds t env (by simp [Special])).unpending gatt none

theorem act_unpending {t : Transport} (h : t.Unpending) (a : Action) : (t.act a).Unpending := by
  intro gatt
  rw [act_cfg] at gatt
  rcases t.act_split a with ⟨i, rfl, -, run⟩ | ⟨i, rfl, -, run⟩ | ⟨-, env, -, -, -, calls⟩
  · rw [run]
    exact h gatt
  · rw [run]
    exact handle_pending (t.begin i.native) (t.env i.now i.native) gatt (h gatt)
  · exact calls.unpending (h gatt)

/-- The handlers of a halted transport that look at `_halted`. -/
theorem handle_issues {t : Transport} (env : Env)
    (h : env.cfg.pipe = .gatt → t.core.server.cyclePending = false)
    (halted : env.halted = true) {e : Event} (hosted : e ≠ .serviceAdd)
    (other : ∀ a, e ≠ .resumeAccept a) :
    ∀ command ∈ (t.handle env e).core.out, command ∈ t.core.out ∨ command.startsRadio = false := by
  have silent : ∀ starts hosts, Issues (Mild env.halted starts hosts) t.core (t.handle env e).core →
      ∀ command ∈ (t.handle env e).core.out, command ∈ t.core.out ∨ command.startsRadio = false :=
    fun _ _ issues command mem => (issues command mem).imp_right fun mild => mild.idle halted
  cases e with
  | serviceAdd => exact absurd rfl hosted
  | resumeAccept a => exact absurd rfl (other a)
  | serverState s => exact silent false true (onServerState_issues _ s)
  | centralState s => exact silent false false (onCentralState_issues _ s)
  | connOpen r key => exact silent false false (onConnOpen_issues r key _)
  | writeRequests requests =>
    apply silent _ false
    refine ((handle_proceeds t env (by simp [Special])).issues fun _ binds => h ?_).1
    simpa [scopeOf] using binds
  | _ => exact silent _ false ((handle_proceeds t env (by simp [Special])).issues (by simp [scopeOf])).1

/-- An event on a halted transport. -/
theorem input_silent_iff {t : Transport} (h : t.Unpending) {i : Input} (opened : t.life.opened = true)
    (halts : t.halted = true) :
    (∀ command ∈ (t.act (.input i)).core.out, command.startsRadio = false) ↔ t.Settled (.input i) := by
  have env_halts : (t.env i.now i.native).halted = true := halts
  rw [act_input opened]
  by_cases added : i.event = .serviceAdd
  · have settled : t.Settled (.input i) ↔ t.core.radio.advertising = true := by
      simp [Settled, added, opened, halts]
    rw [settled, added]
    change (∀ command ∈ ((t.begin i.native).core.onServiceAdd).out, _) ↔ _
    unfold onServiceAdd maybeAdvertise
    have advertising :
        ({ (t.begin i.native).core with radio.serviceAdded := true } : Core).radio.advertising =
        t.core.radio.advertising := rfl
    rw [advertising]
    cases t.core.radio.advertising
    · simp [issue, Command.startsRadio]
    · simp [begin]
  · by_cases accepted : ∃ a, i.event = .resumeAccept a
    · obtain ⟨a, accepted⟩ := accepted
      have settled : t.Settled (.input i) ↔ releases t.cfg t.core a = false := by
        simp [Settled, accepted, opened, halts]
      have same : releases t.cfg (t.begin i.native).core a = releases t.cfg t.core a := rfl
      rw [settled, accepted, ← same]
      have verdict : (releases t.cfg (t.begin i.native).core a = true ∧
          .publishChannel ∈ ((t.begin i.native).core.resumeAccept (t.env i.now i.native) a).out) ∨
          (releases t.cfg (t.begin i.native).core a = false ∧
            Issues (Mild true true false) (t.begin i.native).core
              ((t.begin i.native).core.resumeAccept (t.env i.now i.native) a)) :=
        resumeAccept_halted env_halts (t.begin i.native).core a
      rcases verdict with ⟨rotates, published⟩ | ⟨idle, issues⟩
      · constructor
        · intro silent
          cases silent .publishChannel published
        · intro idle
          exact absurd (rotates.symm.trans idle) (by simp)
      · refine ⟨fun _ => idle, fun _ command mem => ?_⟩
        exact ((issues command mem).resolve_left List.not_mem_nil).idle rfl
    · have settled : t.Settled (.input i) := by
        simp only [Settled]
        split
        · exact absurd ‹_› added
        · exact absurd ⟨_, ‹_›⟩ accepted
        · trivial
      refine ⟨fun _ => settled, fun _ command mem => ?_⟩
      have issued := handle_issues (t := t.begin i.native) (t.env i.now i.native) h env_halts added
        (fun a event => accepted ⟨a, event⟩) command mem
      exact issued.resolve_left List.not_mem_nil

theorem silent_iff {t : Transport} (h : t.Unpending) (a : Action) : t.Silent a ↔ t.Settled a := by
  by_cases event : ∃ i, a = .input i
  · obtain ⟨i, rfl⟩ := event
    have same : (t.act (.input i)).halted = t.halted := by simp [halted, act]
    by_cases asked : t.life.opened = true ∧ t.halted = true
    · rw [← input_silent_iff h asked.1 asked.2]
      exact ⟨fun silent => silent (same.trans asked.2), fun silent _ => silent⟩
    · have settled : t.Settled (.input i) := by
        simp only [Settled]
        split
        · exact fun opened halts => absurd ⟨opened, halts⟩ asked
        · exact fun opened halts => absurd ⟨opened, halts⟩ asked
        · trivial
      refine ⟨fun _ => settled, fun _ halts command mem => ?_⟩
      cases opened : t.life.opened
      · rw [act_input_unopened opened] at mem
        cases mem
      · exact absurd ⟨opened, same.symm.trans halts⟩ asked
  · obtain ⟨env, -, halts, -, calls⟩ := t.act_calls fun i call => event ⟨i, call⟩
    have settled : t.Settled a := by
      cases a with
      | input i => exact absurd ⟨i, rfl⟩ event
      | _ => trivial
    refine ⟨fun _ => settled, fun _ halted command mem => ?_⟩
    have issues :
        Issues (Mild env.halted false true) (t.begin env.native).core (t.act a).core := calls.issues
    exact ((issues command mem).resolve_left List.not_mem_nil).idle (halts.trans halted)

/-- A halted transport starts no radio work exactly in the runs in which no service is
added to it that it does not advertise, and no channel comes that releases a rotation. -/
theorem halted_silent_iff (cfg : Config) (topic : Option Bytes) (online : Bool)
    (ids : Ref → PeripheralId) (actions : List Action) :
    Runs.Each act Silent (create cfg topic online ids) actions ↔
      Runs.Each act Settled (create cfg topic online ids) actions := by
  have same :
      ∀ (t : Transport) a, t.Unpending → (t.Silent a ↔ t.Settled a) := fun _ a h => silent_iff h a
  exact Runs.each_iff same (fun _ a h _ => act_unpending h a) (fun _ => rfl) actions

/-- The native layer adds the service after the transport was suspended. -/
theorem suspended_transport_advertises :
    let cfg := Config.plain (List.replicate 32 1) .gatt .ios
    ¬ Runs.Each act Silent (create cfg none false id)
      (startThen [] ++ [.suspend 2000 {}, .drained 0 2300 {},
        .input { now := 2400, event := .serviceAdd }]) := by
  decide +kernel

end BleSwarm.Transport
