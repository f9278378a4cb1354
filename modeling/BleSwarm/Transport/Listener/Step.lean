import BleSwarm.Transport.Listener

/-!
# The turns of a step

The frames of a batch take their turns one after another, and an adapter, a call of the
owner or a psm that is reported takes one at most.
-/

namespace BleSwarm

namespace Core

variable {env : Env} {c c' : Core}

/-! Batches of frames. -/

/-- A frame, and the core that handles it. -/
structure Moment where
  env : Env
  core : Core
  data : Bytes

/-- The frames of a batch, one after another. -/
def moments (env : Env) : Core → List (Bytes × Bool) → List Moment
  | _, [] => []
  | c, req :: requests => ⟨env, c, req.1⟩ :: moments env (c.onWriteRequests env [req]) requests

theorem onWriteRequests_cons (env : Env) (c : Core) (req : Bytes × Bool) (requests : List (Bytes × Bool)) :
    c.onWriteRequests env (req :: requests) =
      (c.onWriteRequests env [req]).onWriteRequests env requests := rfl

/-- What the frame does to the listener. -/
def Moment.turns (m : Moment) : List Listener.Turn :=
  match m.core.ends? m.data with
  | none => []
  | some id => if m.core.rotates m.env id then [.cycle] else []

/-- The cases of a frame, whether or not its request is answered. -/
theorem onWriteRequest_cases (l2cap : env.cfg.pipe = .l2cap) (running : env.life.suspended = false)
    (c : Core) (req : Bytes × Bool) :
    (∃ id, c.ends? req.1 = some id ∧ c.promises? env req.1 = none ∧
      Ended env c id (c.onWriteRequests env [req])) ∨
    (∃ id psm, c.ends? req.1 = none ∧ c.promises? env req.1 = some (id, psm) ∧
      c.server.table.get? id = none ∧ Promised env c id psm (c.onWriteRequests env [req])) ∨
    (c.ends? req.1 = none ∧ c.promises? env req.1 = none ∧
      Tends c (c.onWriteRequests env [req])) := by
  obtain ⟨data, needed⟩ := req
  let answered : Core := if needed then c.issue .respondToRequest else c
  have run : c.onWriteRequests env [(data, needed)] = answered.onServerFrame env data := by
    simp only [onWriteRequests, List.foldl_cons, List.foldl_nil, running, Bool.false_eq_true, if_false]
    rfl
  have tends : Tends c answered := by
    have answers : Performs env {} c answered := .ite (.issue c rfl) (.refl c)
    exact answers.tends rfl
  have same : answered.ends? data = c.ends? data ∧ answered.promises? env data = c.promises? env data ∧
      answered.server = c.server ∧ answered.gatt = c.gatt := by
    cases needed <;> exact ⟨rfl, rfl, rfl, rfl⟩
  obtain ⟨ends, promises, server, gatt⟩ := same
  rw [run, ← ends, ← promises]
  rcases onServerFrame_cases l2cap answered data with
    ⟨id, here, none, ended⟩ | ⟨id, psm, none, here, absent, promised⟩ | ⟨none, none', quiet⟩
  · exact .inl ⟨id, here, none, ended.after tends⟩
  · refine .inr (.inl ⟨id, psm, none, here, by rw [← server, absent], ?_⟩)
    have others : ∀ r, (answered.session r).stream = (c.session r).stream := tends.stream
    exact ⟨server ▸ promised.recorded, server ▸ promised.table, server ▸ promised.next,
      server ▸ promised.stream, fun r other => (promised.others r (server.symm ▸ other)).trans (others r),
      server ▸ promised.pending, promised.listener.trans tends.listener, gatt ▸ promised.hello⟩
  · exact .inr (.inr ⟨none, none', tends.trans quiet⟩)

/-- The turns of a frame are what it does to the listener. -/
theorem onWriteRequest_listener (l2cap : env.cfg.pipe = .l2cap) (running : env.life.suspended = false)
    (c : Core) (req : Bytes × Bool) : (c.onWriteRequests env [req]).listener =
      (Moment.turns ⟨env, c, req.1⟩).foldl (Listener.take env.cfg.channelSupport) c.listener := by
  simp only [Moment.turns]
  rcases onWriteRequest_cases l2cap running c req with
    ⟨id, here, -, ended⟩ | ⟨id, psm, none, -, -, promised⟩ | ⟨none, -, tends⟩
  · rw [here, ended.listener]
    cases turns : c.rotates env id <;> simp [turns]
  · rw [none, promised.listener]
    rfl
  · rw [none, tends.listener]
    rfl

theorem onWriteRequests_listener (l2cap : env.cfg.pipe = .l2cap) (running : env.life.suspended = false)
    (requests : List (Bytes × Bool)) (c : Core) : (c.onWriteRequests env requests).listener =
      ((moments env c requests).flatMap Moment.turns).foldl (Listener.take env.cfg.channelSupport)
        c.listener := by
  induction requests generalizing c with
  | nil => rfl
  | cons req requests ih =>
    rw [onWriteRequests_cons, ih, moments, List.flatMap_cons, List.foldl_append,
      onWriteRequest_listener l2cap running]

/-! Adapters and the lifecycle. -/

/-- A server that starts asks for its listener. -/
def listens (env : Env) (c : Core) (server : AdapterState) : Bool :=
  !env.halted && !(decide (env.cfg.platform = .ios) && c.radio.radioWasDown) &&
    decide (server = .poweredOn) && decide (env.cfg.pipe = .l2cap)

theorem startServer_listener (env : Env) (c : Core) : (c.startServer env).listener =
    if c.listens env c.radio.serverState then c.listener.publish env.cfg.channelSupport
    else c.listener := by
  have hosted : (if c.radio.serviceAdded then c
      else c.issue (.addService (env.cfg.toServiceUUID none))).listener = c.listener := by
    split
    · rfl
    · exact issue_listener c rfl
  unfold startServer listens
  cases env.halted
  · cases ios : decide (env.cfg.platform = .ios) && c.radio.radioWasDown
    · by_cases on : c.radio.serverState = .poweredOn
      · by_cases l2cap : env.cfg.pipe = .l2cap
        · simp [on, l2cap, publish_listener, hosted]
        · simp [on, l2cap, hosted]
      · simp [on]
    · simp
  · simp

theorem onState_tends (c : Core) (s : AdapterState) : Tends c (c.onState s) := by
  refine (onState_radioOnly c s).tends ?_
  unfold onState
  split
  · rfl
  · exact issue_listener { c with radio.state := s.toApp } rfl

theorem onRadioDown_listener (c : Core) : c.onRadioDown.listener = c.listener := by
  obtain ⟨sessions, streams, reaped⟩ := reapAllSessions_eq ({ { c with
    radio := { c.radio with
      radioWasDown := true, radioCycled := true, serviceAdded := false,
      advertising := false, scanning := false } }.clearDeviceTimers with dial.devices := ∅ }.destroyPeers)
  simp only [onRadioDown, reaped]
  rfl

theorem onServerState_listener (env : Env) (c : Core) (s : AdapterState) :
    (c.onServerState env s).listener =
      if c.listens env s then c.listener.publish env.cfg.channelSupport else c.listener := by
  let told : Core := { c with radio.serverState := s }.onState s
  have noted : told.listener = c.listener := (onState_tends { c with radio.serverState := s } s).listener
  have state : told.radio.serverState = s ∧ told.radio.radioWasDown = c.radio.radioWasDown := by
    simp only [told, onState]
    split <;> exact ⟨rfl, rfl⟩
  have same : told.listens env told.radio.serverState = c.listens env s := by
    simp only [listens, state]
  simp only [onServerState]
  split
  · rw [startServer_listener, noted, same]
  · rename_i off
    have idle : c.listens env s = false := by simp [listens, off]
    rw [idle]
    split
    · exact (onRadioDown_listener told).trans noted
    · exact noted

theorem onCentralState_listener (env : Env) (c : Core) (s : AdapterState) :
    (c.onCentralState env s).listener = c.listener := by
  have noted : ({ c with radio.centralState := s }.onState s).listener = c.listener :=
    (onState_tends _ s).listener
  have heals : ∀ c : Core, (c.scheduleSelfHeal env).listener = c.listener := by
    intro c
    unfold scheduleSelfHeal
    split
    · rfl
    · split
      · rfl
      · exact issue_listener { c with radio.radioWasDown := false, radio.healing := true } rfl
  simp only [onCentralState]
  split
  · split
    · exact (heals _).trans noted
    · exact (startScan_listener env _).trans noted
  · split
    · exact (onRadioDown_listener _).trans noted
    · exact noted

theorem maybeAdvertise_listener (c : Core) : c.maybeAdvertise.listener = c.listener := by
  unfold maybeAdvertise
  split
  · rfl
  · exact issue_listener { c with radio.advertising := true } rfl

theorem onConnOpen_tends (env : Env) (c : Core) (r : Ref) (key : Bytes) :
    Tends c (c.onConnOpen env r key) := by
  obtain ⟨-, streams, table, sessions⟩ := onConnOpen_rest env c r key
  have noted : ∀ c : Core, (c.notePeerKey r).listener = c.listener := by
    intro c
    simp only [notePeerKey]
    split <;> rfl
  refine ⟨.of_same table sessions (streams ▸ (Aside.refl c).streams), onConnOpen_pending env c r key, ?_⟩
  simp only [onConnOpen, track]
  split
  · split
    · exact noted _
    · split
      · exact noted _
      · refine Eq.trans ?_ (noted { c with links := c.links.prove r key })
        exact issue_listener { (notePeerKey { c with links := c.links.prove r key } r) with
          links := _ } rfl
  · rfl

/-- The teardown of a suspend gives the listener back on one platform. -/
theorem teardown_listener (env : Env) (c : Core) : (c.teardown env).listener =
    if env.cfg.platform = .mac then c.listener.unpublish env.cfg.channelSupport else c.listener := by
  have disconnects : Performs env {} c c.disconnectDevices := by
    refine .foldl (fun c (d : Device) => ?_) c _
    split
    · exact disconnect_performs _ c
    · exact .refl c
  let parted : Core := c.disconnectDevices.dropDevices
  have parts : parted.listener = c.listener := (disconnects.tends rfl).listener
  have silences : (parted.silence env).listener = parted.listener := by
    have stopped := stopScan_listener parted
    simp only [silence]
    split
    · exact (issue_listener parted.stopScan rfl).trans stopped
    · exact stopped
  have forgets : ∀ c : Core, c.forget.listener = c.listener := by
    intro c
    obtain ⟨sessions, streams, reaped⟩ := reapAllSessions_eq { c.destroyPeers with links.peers := ∅ }
    simp only [forget, reaped]
    rfl
  have before : (parted.silence env).forget.listener = c.listener :=
    ((forgets _).trans silences).trans parts
  have ended : ∀ c : Core, ({ c with radio.state := .off }.issue .emitUpdate).listener = c.listener :=
    fun c => issue_listener { c with radio.state := .off } rfl
  refine (ended _).trans ?_
  split
  · exact (unpublish_listener env _).trans (congrArg _ before)
  · exact before

theorem doResume_listener (env : Env) (c : Core) : (c.doResume env).listener =
    if env.life.opened && decide (env.cfg.pipe = .l2cap) then
      c.listener.take env.cfg.channelSupport .cycle else c.listener := by
  have ended : ∀ (c : Core) state, ({ c with radio.state := state }.issue .emitUpdate).listener = c.listener :=
    fun c state => issue_listener { c with radio.state := state } rfl
  simp only [doResume]
  cases opened : env.life.opened
  · rfl
  · simp only [Bool.not_true, Bool.false_eq_true, if_false, Bool.true_and, decide_eq_true_eq]
    rw [ended, startScan_listener, maybeAdvertise_listener]
    split
    · exact cycle_listener env _
    · rfl

theorem setOnline_listener (env : Env) (c : Core) (online : Bool) :
    (c.setOnline env online).listener = c.listener := by
  simp only [setOnline]
  split
  · rfl
  · split
    · rfl
    · split
      · exact startScan_listener env { c with radio.online := online }
      · rfl

theorem doOpen_listener (env : Env) (c : Core) (server central : AdapterState) :
    (c.doOpen env server central).listener =
      if c.listens env server then c.listener.publish env.cfg.channelSupport else c.listener := by
  let made : Core := { c with radio.serverState := server, radio.centralState := central }
  have run : (c.doOpen env server central).listener = (made.startServer env).listener :=
    startScan_listener env _
  rw [run, startServer_listener]
  rfl

theorem doClose_listener (env : Env) (c : Core) : (c.doClose env).listener = c.listener := by
  rw [doClose_eq]
  simp only [listener, List.filterMap_append]
  cases env.life.opened <;> simp [Command.notice]

end Core

namespace Transport

open BleSwarm.Core

/-- The frames that the server handles in a step. -/
def frames (t : Transport) : Action → List Moment
  | .input i =>
    match i.event with
    | .writeRequests requests =>
      if t.life.opened && !t.life.suspended then
        moments (t.env i.now i.native) (t.begin i.native).core requests
      else []
    | _ => []
  | _ => []

/-- What an event does to the listener, on a transport that has opened. -/
def eventTurns (env : Env) (c : Core) : Event → List Listener.Turn
  | .serverState s => if c.listens env s then [.publish] else if isDown s then [.down] else []
  | .centralState s => if isDown s then [.down] else []
  | .channelPublish psm => [.published psm]
  | .writeRequests requests =>
    if env.life.suspended then [] else (moments env c requests).flatMap Moment.turns
  | .streamClose st =>
    match c.closes? st with
    | none => []
    | some id => if c.rotates env id then [.cycle] else []
  | .resumeAccept a =>
    match c.awaited? a with
    | none => []
    | some (r, _) => if c.server.cyclePending && c.othersBound r then [.cycle] else []
  | _ => []

/-- What a step does to the listener, in order. -/
def turns (t : Transport) : Action → List Listener.Turn
  | .input i =>
    if t.life.opened then eventTurns (t.env i.now i.native) (t.begin i.native).core i.event else []
  | .open server _ now =>
    if !t.life.opened && t.core.listens (t.env now) server then [.publish] else []
  | .drained call _ _ => if call ∈ t.life.drains ∧ t.cfg.platform = .mac then [.unpublish] else []
  | .resume _ =>
    if !t.life.closing && !t.life.closed && t.life.opened && t.cfg.pipe = .l2cap then [.cycle] else []
  | _ => []

/-- What an event says of the listener. -/
def notices : Event → List Notice
  | .channelPublish psm => [.published psm]
  | .serverState s | .centralState s => if isDown s then [.down] else []
  | _ => []

/-- What a step hears from the native server. -/
def heard (t : Transport) : Action → List Notice
  | .input i => if t.life.opened then notices i.event else []
  | _ => []

/-- A suspended server answers requests and drops their frames. -/
theorem onWriteRequests_suspended {env : Env} (suspended : env.life.suspended = true)
    (requests : List (Bytes × Bool)) (c : Core) : Tends c (c.onWriteRequests env requests) := by
  have answers : Performs env {} c (c.onWriteRequests env requests) := by
    refine .foldl (fun c (req : Bytes × Bool) => ?_) c requests
    simp only [suspended, if_true]
    exact .ite (.issue c rfl) (.refl c)
  exact answers.tends rfl

theorem onPipeTimeout_listener (env : Env) (c : Core) (r : Ref) :
    (c.onPipeTimeout env r).listener = c.listener := by
  unfold onPipeTimeout
  split
  · rfl
  · split
    · rfl
    · simp only
      split <;> rfl

/-- An event does its turns. -/
theorem handle_listener (t : Transport) (env : Env) (l2cap : env.cfg.pipe = .l2cap)
    (fresh : t.core.out = []) (e : Event) : (t.handle env e).core.listener.since (notices e) =
      (eventTurns env t.core e).foldl (Listener.take env.cfg.channelSupport) t.core.listener := by
  have begun : t.core.listener = ⟨t.core.server.psm, []⟩ := by simp [listener, fresh]
  have heard : ∀ l : Listener, l.since [] = l := fun _ => rfl
  cases e with
  | writeRequests requests =>
    simp only [eventTurns, notices, heard]
    cases suspended : env.life.suspended
    · exact onWriteRequests_listener l2cap suspended requests t.core
    · exact (onWriteRequests_suspended suspended requests t.core).listener
  | channelPublish psm =>
    rw [begun]
    simp only [notices, eventTurns, List.foldl_cons, List.foldl_nil, Listener.take, List.nil_append]
    simp [Listener.since, listener, handle, coreHandler, withCore, fresh]
  | serverState s =>
    have run : (t.handle env (.serverState s)).core.listener =
        if t.core.listens env s then t.core.listener.publish env.cfg.channelSupport
        else t.core.listener := onServerState_listener env t.core s
    simp only [eventTurns, notices]
    cases down : isDown s
    · rw [run]
      cases t.core.listens env s <;> rfl
    · have idle : t.core.listens env s = false := by
        cases s <;> simp_all [isDown, listens]
      rw [run, idle, begun]
      rfl
  | centralState s =>
    have run : (t.handle env (.centralState s)).core.listener = t.core.listener :=
      onCentralState_listener env t.core s
    simp only [eventTurns, notices]
    rw [run, begun]
    cases isDown s <;> rfl
  | serviceAdd => exact maybeAdvertise_listener _
  | connOpen r key => exact (onConnOpen_tends env t.core r key).listener
  | pipeTimeout r => exact onPipeTimeout_listener env t.core r
  | streamClose st =>
    simp only [eventTurns]
    rcases onStreamClose_cases env t.core st with ⟨id, closes, ended⟩ | ⟨none, tends⟩
    · rw [closes]
      refine ended.listener.trans ?_
      dsimp only
      split <;> rfl
    · rw [none]
      exact tends.listener
  | resumeAccept a =>
    simp only [eventTurns]
    rcases resumeAccept_seats env t.core a with ⟨r, rest, awaited, seated⟩ | ⟨none, tends⟩
    · rw [awaited]
      refine seated.listener.trans ?_
      dsimp only
      split <;> rfl
    · rw [none]
      exact tends.listener
  | _ => exact ((handle_performs t env (by simp [Special]) (by simp)).tends rfl).listener

/-! Calls. -/

section

variable {t : Transport}

theorem runOpen_listener (server central : AdapterState) (now : Nat) :
    (t.act (.open server central now)).core.listener = (t.turns (.open server central now)).foldl
      (Listener.take t.cfg.channelSupport) ⟨t.core.server.psm, []⟩ := by
  simp only [act, runOpen, turns]
  cases opened : t.life.opened
  · let up : Env := ⟨t.cfg, { t.life with opened := true }, now, {}⟩
    have run := doOpen_listener up (t.begin {}).core server central
    have same : (t.begin {}).core.listens up server = t.core.listens (t.env now) server := rfl
    have opens : ((t.begin {}).core.doOpen up server central).listener =
        (if t.core.listens (t.env now) server then [Listener.Turn.publish] else []).foldl
          (Listener.take t.cfg.channelSupport) ⟨t.core.server.psm, []⟩ := by
      rw [run, same]
      cases t.core.listens (t.env now) server <;> rfl
    split
    · rename_i already
      exact absurd (opened.symm.trans already) (by simp)
    · split
      · exact (doClose_listener _ _).trans opens
      · exact opens
  · simp only [opened, begin_life, if_true]
    rfl

theorem drained_listener (call now : Nat) (native : Native) :
    (t.act (.drained call now native)).core.listener = (t.turns (.drained call now native)).foldl
      (Listener.take t.cfg.channelSupport) ⟨t.core.server.psm, []⟩ := by
  simp only [act, drained, turns]
  split
  · rename_i drains
    have drains : call ∈ t.life.drains := drains
    refine (teardown_listener (t.env now native) (t.begin native).core).trans ?_
    by_cases mac : t.cfg.platform = .mac
    · have taken : (if call ∈ t.life.drains ∧ t.cfg.platform = .mac then [Listener.Turn.unpublish]
          else []) = [.unpublish] := if_pos ⟨drains, mac⟩
      rw [taken]
      exact if_pos mac
    · have none : (if call ∈ t.life.drains ∧ t.cfg.platform = .mac then [Listener.Turn.unpublish]
          else []) = [] := if_neg fun both => mac both.2
      rw [none]
      exact if_neg mac
  · rename_i settled
    have settled : call ∉ t.life.drains := settled
    rw [if_neg fun both => settled both.1]
    rfl

theorem resume_listener (now : Nat) : (t.act (.resume now)).core.listener =
    (t.turns (.resume now)).foldl (Listener.take t.cfg.channelSupport) ⟨t.core.server.psm, []⟩ := by
  simp only [act, resume, turns]
  split
  · rename_i ends
    have ends : (t.life.closing || t.life.closed) = true := ends
    have idle : (!t.life.closing && !t.life.closed) = false := by
      rw [← Bool.not_or, ends]
      rfl
    rw [idle]
    rfl
  · rename_i open_
    have open_ : (t.life.closing || t.life.closed) = false := Bool.eq_false_iff.mpr open_
    have live : (!t.life.closing && !t.life.closed) = true := by
      rw [← Bool.not_or, open_]
      rfl
    let up : Env := ⟨t.cfg, { t.life with suspended := false }, now, {}⟩
    refine (doResume_listener up (t.begin {}).core).trans ?_
    rw [live]
    simp only [up, Bool.true_and]
    cases t.life.opened && decide (t.cfg.pipe = .l2cap) <;> rfl

end

/-- The listener of a transport refines the turns of its steps. -/
theorem act_listener {t : Transport} (l2cap : t.cfg.pipe = .l2cap) (a : Action) :
    (t.act a).core.listener.since (t.heard a) =
      (t.turns a).foldl (Listener.take t.cfg.channelSupport) ⟨t.core.server.psm, []⟩ := by
  cases a with
  | input i =>
    cases opened : t.life.opened
    · rw [act_input_unopened opened]
      simp only [turns, heard, opened]
      rfl
    · rw [act_input opened]
      simp only [turns, heard, opened, if_true]
      exact handle_listener (t.begin i.native) (t.env i.now i.native) l2cap rfl i.event
  | «open» server central now => exact runOpen_listener server central now
  | suspend now native =>
    let up : Env := ⟨t.cfg, { t.life with suspended := true }, now, native⟩
    have said : Performs up {} { (t.begin native).core with radio.scanTimer := none }.clearDeviceTimers
        ((t.begin native).core.beginSuspend up) := sayGoodbye_performs _
    exact (said.tends rfl).listener
  | drained call now native => exact drained_listener call now native
  | resume now => exact resume_listener now
  | close now =>
    simp only [act, close]
    split
    · rfl
    · split
      · exact doClose_listener _ _
      · rfl
  | setOnline online now => exact setOnline_listener _ _ online
  | setTopic topic =>
    simp only [act, setTopic, Core.setTopic]
    split <;> rfl

end Transport

end BleSwarm
