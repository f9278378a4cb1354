import BleSwarm.Transport.Sessions
import BleSwarm.Transport.Yield

/-!
# Sessions of a closed transport

The native managers outlive the transport, so requests are still delivered after
`close()`. Their handler asks whether the transport is suspended and not whether it
is halted: an OPEN that suits the options is accepted all the same.
-/

namespace BleSwarm.Core

variable {env : Env} {scope : Scope} {c c' c'' : Core}

/-- Nobody is served and nobody is dialed. -/
structure Shut (c : Core) : Prop where
  table : c.server.table.size = 0
  timers : ∀ r, (c.session r).pipeTimer = none
  idle : c.dial.Idle
  queue : ∀ item ∈ c.gatt.queue, item.frame.head? ≠ some typeHello

/-- The sessions stay, no dial begins and no HELLO is queued. -/
structure Passive (c c' : Core) : Prop where
  sessions : c'.server.sessions = c.server.sessions
  table : c.server.table.size = 0 → c'.server.table.size = 0
  idle : c.dial.Idle → c'.dial.Idle
  passes : c.gatt.Passes (fun frame => frame.head? ≠ some typeHello) c'.gatt

namespace Passive

theorem of_rest (same : (c'.server.sessions, c'.server.table, c'.dial, c'.gatt) =
    (c.server.sessions, c.server.table, c.dial, c.gatt)) : Passive c c' := by
  simp only [Prod.mk.injEq] at same
  obtain ⟨sessions, table, dial, gatt⟩ := same
  exact ⟨sessions, by rw [table]; exact id, by rw [dial]; exact id, by rw [gatt]; exact .refl c.gatt⟩

theorem refl (c : Core) : Passive c c := .of_rest rfl

theorem trans (h : Passive c c') (h' : Passive c' c'') : Passive c c'' :=
  ⟨h'.sessions.trans h.sessions, h'.table ∘ h.table, h'.idle ∘ h.idle, h.passes.trans h'.passes⟩

theorem ite {p : Prop} [Decidable p] {a b : Core} (ha : Passive c a) (hb : Passive c b) :
    Passive c (if p then a else b) := by
  split
  · exact ha
  · exact hb

theorem foldl {α : Type*} {f : Core → α → Core} (step : ∀ c a, Passive c (f c a)) (c : Core)
    (as : List α) : Passive c (as.foldl f c) :=
  Runs.foldl_related refl trans step c as

theorem shut (h : Passive c c') (shut : Shut c) : Shut c' where
  table := h.table shut.table
  timers r := by
    rw [session, h.sessions]
    exact shut.timers r
  idle := h.idle shut.idle
  queue item mem := (h.passes.queued item mem).elim (shut.queue item) id

end Passive

theorem RadioOnly.passive (h : RadioOnly c c') : Passive c c' :=
  .of_rest (by rw [h.quiet.sessions, h.quiet.table, h.dial, h.gatt])

theorem maybeCycle_passive (env : Env) (c : Core) : Passive c (c.maybeCycle env) := by
  have released : Passive c { c with server.cyclePending := false } := .of_rest rfl
  exact .ite (.of_rest rfl) (released.trans (cycle_radioOnly env _).passive)

/-- What the handlers of a halted transport do that serve nothing. -/
theorem Proceeds.passive (h : Proceeds env scope c c') (halted : env.halted = true)
    (idle : scope.serves = false) : Passive c c' := by
  induction h with
  | trans _ _ ih ih' => exact ih.trans ih'
  | rest same =>
    simp only [watched, Prod.mk.injEq] at same
    obtain ⟨-, dial, -, table, sessions, -, gatt, -, -⟩ := same
    exact .of_rest (by rw [sessions, table, dial, gatt])
  | maybeCycle c serves due => exact maybeCycle_passive env c
  | startScan c => exact (startScan_radioOnly env c).passive
  | stopScan c => exact (stopScan_radioOnly c).passive
  | onScanTimer c => exact (onScanTimer_radioOnly env c).passive
  | dial c dial calm => exact ⟨rfl, id, calm halted, .refl c.gatt⟩
  | gatt c gatt passes => exact ⟨rfl, id, id, passes.mono fun frame => by simp [idle]⟩
  | sessions c table sessions serves => simp [idle] at serves
  | _ => exact .of_rest rfl

/-! Power cycles and the lifecycle. -/

theorem clearDeviceTimers_passive (c : Core) : Passive c c.clearDeviceTimers :=
  ⟨rfl, id, fun _ => clearDeviceTimers_idle c, .refl c.gatt⟩

theorem sayGoodbye_passive (c : Core) : Passive c (c.sayGoodbye env) := by
  have said : ∀ (c : Core) (id : Hex), Passive c (c.notifyClose env id none) := fun c _ =>
    ⟨rfl, id, id, NotifyQueue.notify_passes c.gatt _ (by simp [typeClose, typeHello])⟩
  refine (Passive.foldl said c _).trans (.foldl (fun c (d : Device) => ?_) _ _)
  · split
    · exact .refl c
    · split
      · exact .ite (.of_rest rfl) (.refl c)
      · exact .refl c

theorem disconnectDevices_passive (c : Core) : Passive c c.disconnectDevices := by
  refine .foldl (fun c (d : Device) => ?_) c _
  split
  · exact .of_rest rfl
  · exact .refl c

theorem parted_passive (c : Core) : Passive c { c with dial.devices := ∅ } :=
  ⟨rfl, id, fun idle => ⟨by simp, idle.candidates⟩, .refl c.gatt⟩

theorem dropDevices_passive (c : Core) : Passive c c.dropDevices :=
  ⟨rfl, id, fun idle => ⟨by simp [Core.dropDevices], idle.candidates⟩, .refl c.gatt⟩

theorem reset_passive (c : Core) : Passive c { c with gatt := c.gatt.reset } :=
  ⟨rfl, id, id, NotifyQueue.reset_passes c.gatt⟩

/-- There is no session to reap. -/
theorem reapAllSessions_passive {c : Core} (empty : c.server.table.size = 0) :
    Passive c c.reapAllSessions := by
  have none : c.server.table.values = [] := by
    simpa [OrderedMap.size, OrderedMap.values] using empty
  have same : c.reapAllSessions = { c with server.table := ∅ } := by
    unfold reapAllSessions
    rw [none]
    rfl
  rw [same]
  exact ⟨rfl, fun _ => rfl, id, .refl c.gatt⟩

theorem onRadioDown_passive {c : Core} (empty : c.server.table.size = 0) :
    Passive c c.onRadioDown := by
  let down : Core := { c with
    radio := { c.radio with
      radioWasDown := true, radioCycled := true, serviceAdded := false,
      advertising := false, scanning := false } }
  have cleared : Passive c { down.clearDeviceTimers with dial.devices := ∅ } :=
    ((radio_radioOnly c down.radio).passive.trans (clearDeviceTimers_passive down)).trans
      (parted_passive _)
  have parted : Passive c { down.clearDeviceTimers with dial.devices := ∅ }.destroyPeers :=
    cleared.trans (.of_rest rfl)
  exact (parted.trans (reapAllSessions_passive (parted.table empty))).trans (reset_passive _)

theorem forget_passive {c : Core} (empty : c.server.table.size = 0) : Passive c c.forget := by
  have cleared : Passive c { c.destroyPeers with links.peers := ∅ } := .of_rest rfl
  have pending :
      ∀ c : Core, Passive c { c with server.cyclePending := false } := fun _ => .of_rest rfl
  exact ((cleared.trans (reapAllSessions_passive empty)).trans (reset_passive _)).trans (pending _)

theorem teardown_passive {c : Core} (empty : c.server.table.size = 0) :
    Passive c (c.teardown env) := by
  let parted : Core := c.disconnectDevices.dropDevices
  have parts : Passive c parted := (disconnectDevices_passive c).trans (dropDevices_passive _)
  have silences : Passive c (parted.silence env) :=
    parts.trans (silence_radioOnly env parted).passive
  have dropped := silences.trans (forget_passive (silences.table empty))
  have unpublished :
      ∀ c : Core, Passive c (if env.cfg.platform = .mac then c.unpublish env else c) :=
    fun c => .ite (unpublish_radioOnly env c).passive (.refl c)
  exact (dropped.trans (unpublished _)).trans (.of_rest rfl)

/-- What is asked of a step of a closed transport, the close included. -/
structure Ends (c c' : Core) : Prop where
  shut : Shut c'
  next : c'.server.sessions.next = c.server.sessions.next
  sent : ∃ sent, c'.gatt.accepted = c.gatt.accepted ++ sent ∧
    ∀ frame ∈ sent, frame.head? ≠ some typeHello

theorem Passive.ends (h : Passive c c') (shut : Shut c) : Ends c c' := by
  refine ⟨h.shut shut, by rw [h.sessions], ?_⟩
  obtain ⟨sent, accepted, from_⟩ := h.passes.accepted
  refine ⟨sent, accepted, fun frame mem => ?_⟩
  rcases from_ frame mem with ⟨item, queued, rfl⟩ | new
  · exact shut.queue item queued
  · exact new

theorem closed_idle (c : Core) : Dial.Idle { c.clearDeviceTimers.dial with devices := ∅ } :=
  ⟨by simp, rfl⟩

/-- A close ends whatever was going on. -/
theorem doClose_ends (h : Booked env.cfg c) : Ends c (c.doClose env) := by
  have booked := (doClose_books c).booked h
  rw [doClose_eq] at booked ⊢
  have shut : Shut _ := ⟨rfl, fun r => booked.unarmed r fun id => by simp, closed_idle c,
    List.forall_mem_nil _⟩
  exact ⟨shut, Heap.foldl_modify_next _ _ _, [], (List.append_nil _).symm, List.forall_mem_nil _⟩

theorem doClose_passive {c : Core} (empty : c.server.table.size = 0) :
    Passive c (c.doClose env) := by
  have none : c.server.table.values = [] := by
    simpa [OrderedMap.size, OrderedMap.values] using empty
  rw [doClose_eq, none]
  exact ⟨rfl, fun _ => rfl, fun _ => closed_idle c, NotifyQueue.reset_passes c.gatt⟩

/-- What the calls of the owner do to a core that is shut. -/
theorem Calls.passive (h : Calls env c c') (empty : c.server.table.size = 0) : Passive c c' := by
  induction h with
  | trans _ _ ih ih' => exact (ih empty).trans (ih' ((ih empty).table empty))
  | skip c => exact .refl c
  | doOpen c server central opened => exact (doOpen_radioOnly env c server central).passive
  | beginSuspend c suspended =>
    have stopped : Passive c { c with radio.scanTimer := none } := .of_rest rfl
    exact (stopped.trans (clearDeviceTimers_passive _)).trans (sayGoodbye_passive _)
  | teardown c => exact teardown_passive empty
  | doResume c live => exact (doResume_radioOnly env c).passive
  | doClose c closing => exact doClose_passive empty
  | setOnline c online => exact (setOnline_radioOnly env c online).passive
  | setTopic c topic =>
    unfold Core.setTopic
    dsimp only
    split
    · exact .refl c
    · exact (radio_radioOnly c _).passive

/-! Requests. -/

/-- An OPEN of a sender that the options admit where no session and no dial is. -/
def admits (cfg : Config) (psm : Option Nat) (data : Bytes) : Bool :=
  match decodeFrame (some data) with
  | none => false
  | some f =>
    let { key, flags, .. } := decodeKeyPayload f.payload
    match cfg.pipeFor flags with
    | none => false
    | some name =>
      f.type = typeOpen && cfg.accept key && !(name = .l2cap && psm.isNone) && 0 < cfg.maxInbound

/-- What is left of the refusals. -/
theorem judgeOpen_shut (h : Shut c) (key : Bytes) (flags : Byte) (name : Pipe) :
    c.judgeOpen env key flags = .accepted name ↔ env.cfg.pipeFor flags = some name ∧
      env.cfg.accept key = true ∧ (name = .l2cap && c.server.psm.isNone) = false ∧
      0 < env.cfg.maxInbound := by
  have undialed : c.isDialing = false := by simp [isDialing, connecting, h.idle.calm]
  have firm : c.yields env key = false := by simp [yields, undialed, h.idle.candidates]
  rw [judgeOpen_accepted_iff, firm, h.table]
  cases name <;> cases c.server.psm <;> simp

/-- A frame that is not admitted is refused at most. -/
theorem onServerFrame_refused (h : Shut c) {data : Bytes}
    (refused : admits env.cfg c.server.psm data = false) :
    ∃ gatt, c.onServerFrame env data = { c with gatt } ∧
      c.gatt.Passes (fun frame => frame.head? ≠ some typeHello) gatt := by
  have absent : ∀ id, c.server.table.get? id = none :=
    (OrderedMap.size_eq_zero_iff _).mp h.table
  have closes : ∀ id reason, ∃ gatt, c.notifyClose env id reason = { c with gatt } ∧
      c.gatt.Passes (fun frame => frame.head? ≠ some typeHello) gatt := fun id reason =>
    ⟨_, rfl, NotifyQueue.notify_passes c.gatt _ (by simp [typeClose, typeHello])⟩
  unfold onServerFrame
  cases decoded : decodeFrame (some data) with
  | none => exact ⟨c.gatt, rfl, .refl c.gatt⟩
  | some f =>
    simp only [absent]
    split
    · rename_i opens
      simp only [onOpen]
      split
      · exact closes _ _
      · exact closes _ _
      · rename_i name accepted
        obtain ⟨suits, accept, waits, room⟩ := (judgeOpen_shut h _ _ name).mp accepted
        simp [admits, decoded, opens, suits, accept, waits, room] at refused
    · exact ⟨c.gatt, rfl, .refl c.gatt⟩

/-- A frame that is admitted makes a session. -/
theorem onServerFrame_admitted (h : Shut c) {data : Bytes}
    (admitted : admits env.cfg c.server.psm data = true) :
    c.server.sessions.next < (c.onServerFrame env data).server.sessions.next := by
  have absent : ∀ id, c.server.table.get? id = none :=
    (OrderedMap.size_eq_zero_iff _).mp h.table
  unfold onServerFrame
  cases decoded : decodeFrame (some data) with
  | none => simp [admits, decoded] at admitted
  | some f =>
    cases suits : env.cfg.pipeFor (decodeKeyPayload f.payload).flags with
    | none => simp [admits, decoded, suits] at admitted
    | some name =>
      simp only [admits, decoded, suits, Bool.and_eq_true, decide_eq_true_eq,
        Bool.not_eq_true'] at admitted
      obtain ⟨⟨⟨opens, accept⟩, waits⟩, room⟩ := admitted
      have accepted := (judgeOpen_shut h _ _ name).mpr ⟨suits, accept, waits, room⟩
      simp only [absent, opens, if_true, onOpen, accepted]
      cases name with
      | l2cap => exact Nat.lt_succ_self _
      | gatt =>
        refine Nat.lt_of_lt_of_eq (Nat.lt_succ_self _) (Eq.symm ?_)
        exact (bindServerStream_aside env _ _ _).next

/-- A batch makes no session exactly when none of its frames is admitted. -/
theorem onWriteRequests_shut (env : Env) (h : Shut c) (running : env.life.suspended = false)
    (requests : List (Bytes × Bool)) :
    ((∀ req ∈ requests, admits env.cfg c.server.psm req.1 = false) ∧
      Passive c (c.onWriteRequests env requests)) ∨
    ((∃ req ∈ requests, admits env.cfg c.server.psm req.1 = true) ∧
      c.server.sessions.next < (c.onWriteRequests env requests).server.sessions.next) := by
  induction requests generalizing c with
  | nil => exact .inl ⟨List.forall_mem_nil _, .refl c⟩
  | cons req requests ih =>
    let answered : Core := if req.2 then c.issue .respondToRequest else c
    have answers : Passive c answered := .ite (.of_rest rfl) (.refl c)
    have psm : answered.server.psm = c.server.psm := by
      simp only [answered]
      split <;> rfl
    have run : c.onWriteRequests env (req :: requests) =
        (answered.onServerFrame env req.1).onWriteRequests env requests := by
      simp only [onWriteRequests, List.foldl_cons, running]
      rfl
    rw [run]
    cases verdict : admits env.cfg c.server.psm req.1
    · obtain ⟨gatt, frame, passes⟩ :=
        onServerFrame_refused (answers.shut h) (by rw [psm, verdict])
      have refuses : Passive c { answered with gatt } :=
        answers.trans ⟨rfl, id, id, passes⟩
      rw [frame]
      rcases ih (refuses.shut h) with ⟨none, passive⟩ | ⟨⟨k, mem, some⟩, more⟩
      · refine .inl ⟨fun k mem => ?_, refuses.trans passive⟩
        rcases List.mem_cons.mp mem with rfl | later
        · exact verdict
        · exact psm ▸ none k later
      · exact .inr ⟨⟨k, List.mem_cons_of_mem _ mem, psm ▸ some⟩, by rwa [← refuses.sessions]⟩
    · refine .inr ⟨⟨req, List.mem_cons_self, verdict⟩, ?_⟩
      have accepts := onServerFrame_admitted (answers.shut h)
        (by rw [psm, verdict])
      rw [answers.sessions] at accepts
      exact accepts.trans_le (onWriteRequests_books requests _).grows

/-! The other events that could serve. -/

theorem resumeAccept_passive {c : Core} (empty : c.server.table.size = 0) (a : Ref) :
    Passive c (c.resumeAccept env a) := by
  have absent : ∀ id, c.server.table.get? id = none := (OrderedMap.size_eq_zero_iff _).mp empty
  simp only [resumeAccept]
  split
  · exact .refl c
  · rename_i named rest result
    refine .ite (.refl c) ?_
    have none : named.bind (c.setAcceptor a fun acceptor =>
        { acceptor with resumed := true }).server.table.get? = none := by
      cases named with
      | none => rfl
      | some id => exact absent id
    rw [none]
    exact .of_rest rfl

theorem onPipeTimeout_passive (h : Shut c) (r : Ref) : Passive c (c.onPipeTimeout env r) := by
  unfold onPipeTimeout
  rw [h.timers r]
  exact .refl c

theorem onStreamClose_passive {c : Core} (empty : c.server.table.size = 0) (halted : env.halted = true)
    (st : Ref) : Passive c (c.onStreamClose env st) := by
  have destroyed : Performs env {} c
      ((c.setStream st fun s => { s with closed := true }).destroyOwnChannel st) := by
    refine Performs.andThen (setStream_performs st ?_) (destroyOwnChannel_performs st)
    exact fun _ => ⟨rfl, rfl, rfl, rfl⟩
  have closed := destroyed.proceeds.passive halted rfl
  simp only [onStreamClose]
  refine .ite ?_ (.refl c)
  split
  · rename_i r owner
    refine closed.trans ?_
    unfold closeServerSession
    rw [(OrderedMap.size_eq_zero_iff _).mp (closed.table empty)]
    exact .refl _
  · rename_i p sess owner
    let destroyed := (c.setStream st fun s => { s with closed := true }).destroyOwnChannel st
    have left : Performs env {} destroyed (destroyed.onCentralStreamClose p sess) :=
      onCentralStreamClose_performs p sess destroyed
    exact closed.trans (left.proceeds.passive halted rfl)

theorem onServerState_passive {c : Core} (empty : c.server.table.size = 0) (s : AdapterState) :
    Passive c (c.onServerState env s) := by
  have noted : RadioOnly c ({ c with radio.serverState := s }.onState s) :=
    (radio_radioOnly c _).trans (onState_radioOnly _ s)
  refine noted.passive.trans (.ite (startServer_radioOnly env _).passive (.ite ?_ (.refl _)))
  exact onRadioDown_passive (noted.passive.table empty)

theorem onCentralState_passive {c : Core} (empty : c.server.table.size = 0) (s : AdapterState) :
    Passive c (c.onCentralState env s) := by
  have noted : RadioOnly c ({ c with radio.centralState := s }.onState s) :=
    (radio_radioOnly c _).trans (onState_radioOnly _ s)
  refine noted.passive.trans (.ite (.ite ?_ ?_) (.ite ?_ (.refl _)))
  · exact (scheduleSelfHeal_radioOnly env _).passive
  · exact (startScan_radioOnly env _).passive
  · exact onRadioDown_passive (noted.passive.table empty)

theorem updateDevice_passive (id : PeripheralId) {f : Device → Device}
    (keep : ∀ device, device.timer = none → (f device).timer = none) :
    Passive c (c.updateDevice id f) :=
  ⟨rfl, fun empty => empty, fun idle => idle.update id keep, .refl c.gatt⟩

theorem onConnOpen_passive (r : Ref) (key : Bytes) : Passive c (c.onConnOpen env r key) := by
  have noted : ∀ c : Core, Passive c (c.notePeerKey r) := by
    intro c
    simp only [notePeerKey]
    split
    · apply updateDevice_passive
      exact fun _ => id
    · exact .refl c
  have tracked : ∀ c : Core, Passive c (c.track env r) := fun c =>
    .ite (noted c) (.ite ((noted c).trans (.of_rest rfl)) ((noted c).trans (.of_rest rfl)))
  have proved : Passive c { c with links := c.links.prove r key } := .of_rest rfl
  exact .ite (proved.trans (tracked _)) (.refl c)

end BleSwarm.Core

namespace BleSwarm.Transport

open BleSwarm.Core

/-- Every event on a halted transport but a batch of requests. -/
theorem handle_passive {t : Transport} {env : Env} (h : Shut t.core) (halted : env.halted = true)
    {e : Event} (other : ∀ requests, e ≠ .writeRequests requests) :
    Passive t.core (t.handle env e).core := by
  cases e with
  | writeRequests requests => exact absurd rfl (other requests)
  | serverState s => exact onServerState_passive h.table s
  | centralState s => exact onCentralState_passive h.table s
  | serviceAdd => exact (onServiceAdd_radioOnly _).passive
  | connOpen r key => exact onConnOpen_passive r key
  | resumeAccept a => exact resumeAccept_passive h.table a
  | pipeTimeout r => exact onPipeTimeout_passive h r
  | streamClose st => exact onStreamClose_passive h.table halted st
  | _ => exact (handle_proceeds t env (by simp [Special])).passive halted rfl

/-- No session is accepted by a transport that closes: none is made, none is in the table,
no pipe timer is armed and no HELLO is queued or passed on. -/
def Refuses (t : Transport) (a : Action) : Prop :=
  (t.act a).life.closing = true →
    (t.act a).core.server.sessions.next = t.core.server.sessions.next ∧
    (t.act a).core.server.table.size = 0 ∧
    (∀ r < (t.act a).core.server.sessions.next, ((t.act a).core.session r).pipeTimer = none) ∧
    (∀ item ∈ (t.act a).core.gatt.queue, item.frame.head? ≠ some typeHello) ∧
    ∀ frame ∈ (t.act a).core.gatt.accepted.drop t.core.gatt.accepted.length,
      frame.head? ≠ some typeHello

/-- No frame is admitted that comes after the close, but while the transport is suspended. -/
def Unasked (t : Transport) : Action → Prop
  | .input i =>
    match i.event with
    | .writeRequests requests =>
      t.life.opened = true → t.life.closing = true → t.life.suspended = false →
        ∀ req ∈ requests, admits t.cfg t.core.server.psm req.1 = false
    | _ => True
  | _ => True

instance (t : Transport) (a : Action) : Decidable (t.Refuses a) := by
  unfold Refuses
  infer_instance

instance (t : Transport) (a : Action) : Decidable (t.Unasked a) := by
  unfold Unasked
  rcases a with ⟨_, _, event⟩ | _
  · rcases event with _ | _ <;> infer_instance
  all_goals infer_instance

/-- Before it opens and once it closes a transport serves nobody. -/
structure Served (t : Transport) : Prop where
  booked : Booked t.cfg t.core
  unopened : t.life.opened = false → Shut t.core
  closing : t.life.closing = true → Shut t.core

theorem begin_passive (t : Transport) (native : Native) : Passive t.core (t.begin native).core :=
  ⟨rfl, id, id, .of_same rfl rfl⟩

theorem act_closing (t : Transport) {a : Action} (other : ∀ now, a ≠ .close now) :
    (t.act a).life.closing = t.life.closing := by
  cases a with
  | close now => exact absurd rfl (other now)
  | _ => simp [act]

/-- Without an OPEN that is admitted a step that closes, or follows a close, serves nobody. -/
theorem act_ends {t : Transport} (h : t.Served) {a : Action} (unasked : t.Unasked a)
    (closing : (t.act a).life.closing = true) : Ends t.core (t.act a).core := by
  have begun := begin_passive t
  have shut_of : (t.life.closing = true ∨ t.life.opened = false) → Shut t.core :=
    fun either => either.elim h.closing h.unopened
  by_cases event : ∃ i, a = .input i
  · obtain ⟨i, rfl⟩ := event
    have before : t.life.closing = true := by simpa [act] using closing
    have shut := h.closing before
    have halted : (t.env i.now i.native).halted = true := by simp [env_halted, halted, before]
    cases opened : t.life.opened
    · rw [act_input_unopened opened]
      exact (begun i.native).ends shut
    · have begins := (begun i.native).shut shut
      rw [act_input opened]
      by_cases written : ∃ requests, i.event = .writeRequests requests
      · obtain ⟨requests, batch⟩ := written
        simp only [Unasked, batch] at unasked
        rw [batch]
        refine ((begun i.native).trans ?_).ends shut
        cases suspended : t.life.suspended
        · rcases onWriteRequests_shut (t.env i.now i.native) begins suspended requests with
            ⟨-, passive⟩ | ⟨⟨req, mem, asks⟩, -⟩
          · exact passive
          · exact absurd (asks.symm.trans (unasked opened before suspended req mem)) (by simp)
        · refine Passive.foldl (fun c (req : Bytes × Bool) => ?_) _ requests
          have answered : Passive c (if req.2 then c.issue .respondToRequest else c) :=
            .ite (.of_rest rfl) (.refl c)
          simp only [env, suspended, if_true]
          exact answered
      · have other : ∀ requests, i.event ≠ .writeRequests requests :=
          fun requests batch => written ⟨requests, batch⟩
        exact ((begun i.native).trans (handle_passive begins halted other)).ends shut
  · by_cases shut : t.life.closing = true ∨ t.life.opened = false
    · obtain ⟨env, -, -, -, calls⟩ := t.act_calls fun i call => event ⟨i, call⟩
      have passive := begun env.native
      exact (passive.trans (calls.passive (passive.table (shut_of shut).table))).ends (shut_of shut)
    · simp only [not_or, Bool.not_eq_true, Bool.not_eq_false] at shut
      obtain ⟨running, opened⟩ := shut
      have closes : ∃ now, a = .close now := by
        by_contra other
        rw [act_closing t fun now call => other ⟨now, call⟩, running] at closing
        cases closing
      obtain ⟨now, rfl⟩ := closes
      let env : Env := { cfg := t.cfg, life := { t.life with closing := true }, now }
      have booked : Booked env.cfg (t.begin {}).core := (begin_quiet t {}).books.booked h.booked
      obtain ⟨shut, next, sent⟩ := doClose_ends booked
      rw [act_close running opened]
      exact ⟨shut, next, sent⟩

theorem refuses_iff {t : Transport} (h : t.Served) (a : Action) : t.Refuses a ↔ t.Unasked a := by
  constructor
  · intro refuses
    cases a with
    | input i =>
      simp only [Unasked]
      split
      · rename_i requests batch
        intro opened closing suspended
        obtain ⟨same, -⟩ := refuses (by simpa [act] using closing)
        have shut := (begin_passive t i.native).shut (h.closing closing)
        rcases onWriteRequests_shut (t.env i.now i.native) shut suspended requests with
          ⟨none, -⟩ | ⟨-, more⟩
        · exact none
        · rw [act_input opened, batch] at same
          exact absurd same more.ne'
      · trivial
    | _ => trivial
  · intro unasked closing
    obtain ⟨shut, next, sent, accepted, silent⟩ := act_ends h unasked closing
    refine ⟨next, shut.table, fun r _ => shut.timers r, shut.queue, ?_⟩
    rw [accepted, List.drop_left]
    exact silent

theorem act_served {t : Transport} (h : t.Served) {a : Action} (refuses : t.Refuses a) :
    (t.act a).Served := by
  refine ⟨?_, fun unopened => ?_, fun closing => (act_ends h ((refuses_iff h a).mp refuses) closing).shut⟩
  · rw [act_cfg]
    exact (act_books t a).booked h.booked
  · have before : t.life.opened = false := unopened_of_act unopened
    have shut := h.unopened before
    have begun := begin_passive t
    rcases t.act_split a with ⟨i, rfl, -, run⟩ | ⟨i, rfl, opened, -⟩ | ⟨-, env, -, -, -, calls⟩
    · rw [run]
      exact (begun i.native).shut shut
    · exact absurd (before.symm.trans opened) (by simp)
    · have passive := begun env.native
      exact (passive.trans (calls.passive (passive.table shut.table))).shut shut

/-- A closed transport accepts no session exactly in the runs in which no OPEN that its
options admit reaches it while it is not suspended. -/
theorem closed_refuses_iff (cfg : Config) (topic : Option Bytes) (online : Bool)
    (ids : Ref → PeripheralId) (actions : List Action) :
    Runs.Each act Refuses (create cfg topic online ids) actions ↔
      Runs.Each act Unasked (create cfg topic online ids) actions := by
  have shut : Shut (create cfg topic online ids).core :=
    ⟨rfl, fun _ => rfl, ⟨by simp [create], rfl⟩, List.forall_mem_nil _⟩
  have same : ∀ (t : Transport) a, t.Served → (t.Refuses a ↔ t.Unasked a) :=
    fun _ a h => refuses_iff h a
  exact Runs.each_iff same (fun _ _ h refuses => act_served h refuses)
    ⟨create_booked cfg topic online ids, fun _ => shut, fun _ => shut⟩ actions

/-- A remote opens a session on a transport that was closed. -/
theorem closed_transport_serves :
    let cfg := Config.plain (List.replicate 32 1) .gatt .ios
    let remote := List.replicate 32 2
    ¬ Runs.Each act Refuses (create cfg none false id)
      (startThen [] ++ [.close 2000, .input { now := 3000, event := opensSession remote }]) := by
  decide +kernel

end BleSwarm.Transport
