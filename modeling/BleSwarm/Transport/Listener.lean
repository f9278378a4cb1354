import BleSwarm.Transport.Halted
import BleSwarm.Transport.Sessions

/-!
# The L2CAP listener

`Listener` says what the native server is told of the listener of a transport and what it
answers. A session that ends takes its turn: the listener is rotated, unless another
session still waits for its channel. Every step of a transport refines the turns that are
read off it here; whatever else it does tends neither the listener nor the sessions.
-/

namespace BleSwarm

/-- What is asked of the native server about listeners and heard from it, in order. -/
inductive Notice
  | requested
  | published (psm : Nat)
  | retracted (psm : Nat)
  /-- The adapter of a manager went down. -/
  | down
  deriving DecidableEq

/-- The listener that the transport records, and what happened so far. -/
structure Listener where
  psm : Option Nat := none
  log : List Notice := []

/-- What one frame or one other callback does to the listener. -/
inductive Listener.Turn
  | publish
  | unpublish
  | cycle
  | published (psm : Nat)
  | down
  deriving DecidableEq

namespace Listener

def publish (supported : Bool) (l : Listener) : Listener :=
  if l.psm.isSome || !supported then l else { l with log := l.log ++ [.requested] }

def unpublish (supported : Bool) (l : Listener) : Listener :=
  match l.psm with
  | none => l
  | some psm => { psm := none, log := if supported then l.log ++ [.retracted psm] else l.log }

def take (supported : Bool) (l : Listener) : Turn → Listener
  | .publish => l.publish supported
  | .unpublish => l.unpublish supported
  | .cycle => (l.unpublish supported).publish supported
  | .published psm => { psm := some psm, log := l.log ++ [.published psm] }
  | .down => { l with log := l.log ++ [.down] }

/-- The same listener with more of its past. -/
def since (past : List Notice) (l : Listener) : Listener := { l with log := past ++ l.log }

theorem take_since (supported : Bool) (past : List Notice) (l : Listener) (turn : Turn) :
    (l.since past).take supported turn = (l.take supported turn).since past := by
  obtain ⟨psm, log⟩ := l
  cases turn <;> cases psm <;> cases supported <;> simp [take, since, publish, unpublish]

theorem foldl_since (supported : Bool) (past : List Notice) (turns : List Listener.Turn) (l : Listener) :
    turns.foldl (take supported) (l.since past) = (turns.foldl (take supported) l).since past := by
  induction turns generalizing l with
  | nil => rfl
  | cons turn turns ih =>
    rw [List.foldl_cons, take_since, ih]
    rfl

end Listener

/-- What the native server is told by a command. -/
def Command.notice : Command → Option Notice
  | .publishChannel => some .requested
  | .unpublishChannel psm => some (.retracted psm)
  | _ => none

theorem Command.notice_of_deaf {command : Command} (deaf : command.listens = false) :
    command.notice = none := by
  cases command with
  | publishChannel => cases deaf
  | unpublishChannel psm => cases deaf
  | _ => rfl

namespace Core

variable {env : Env} {effects : Effects} {c c' c'' : Core}

/-- The listener as a callback sees it: its past is what the callback did so far. -/
def listener (c : Core) : Listener := ⟨c.server.psm, c.out.filterMap Command.notice⟩

theorem issue_listener (c : Core) {command : Command} (deaf : command.listens = false) :
    (c.issue command).listener = c.listener := by
  simp [listener, issue, Command.notice_of_deaf deaf]

theorem publish_listener (env : Env) (c : Core) :
    (c.publish env).listener = c.listener.publish env.cfg.channelSupport := by
  simp only [publish, Listener.publish]
  split
  · rename_i idle
    exact (if_pos idle).symm
  · rename_i asks
    refine Eq.trans ?_ (if_neg asks).symm
    simp [listener, issue, Command.notice]

theorem unpublish_listener (env : Env) (c : Core) :
    (c.unpublish env).listener = c.listener.unpublish env.cfg.channelSupport := by
  simp only [unpublish, Listener.unpublish, listener]
  cases recorded : c.server.psm with
  | none => simp [recorded]
  | some psm => cases env.cfg.channelSupport <;> simp [issue, Command.notice]

theorem cycle_listener (env : Env) (c : Core) :
    (c.cycle env).listener = c.listener.take env.cfg.channelSupport .cycle := by
  rw [cycle, publish_listener, unpublish_listener]
  rfl

/-! What tends no session and no listener. -/

/-- The seats of the sessions, the rotation that is held and the listener are as before. -/
structure Tends (c c' : Core) : Prop where
  aside : Aside c c'
  pending : c'.server.cyclePending = c.server.cyclePending
  listener : c'.listener = c.listener

namespace Tends

theorem refl (c : Core) : Tends c c := ⟨.refl c, rfl, rfl⟩

theorem trans (h : Tends c c') (h' : Tends c' c'') : Tends c c'' :=
  ⟨h.aside.trans h'.aside, h'.pending.trans h.pending, h'.listener.trans h.listener⟩

theorem stream (h : Tends c c') (r : Ref) : (c'.session r).stream = (c.session r).stream := by
  have seat := h.aside.seats r
  simp only [ServerSession.seat, Prod.mk.injEq] at seat
  exact seat.2.1

/-- Some session has no stream yet, exactly if one had none. -/
theorem waits (h : Tends c c') : c'.pendingSession = c.pendingSession := by
  simp only [pendingSession, h.aside.table, h.stream]

end Tends

theorem RadioOnly.tends (h : RadioOnly c c') (listener : c'.listener = c.listener) : Tends c c' :=
  ⟨h.quiet.aside, h.pending, listener⟩

theorem startScan_listener (env : Env) (c : Core) : (c.startScan env).listener = c.listener := by
  unfold startScan
  split
  · rfl
  · split
    · rfl
    · exact issue_listener { c with radio.scanning := true } rfl

theorem stopScan_listener (c : Core) : c.stopScan.listener = c.listener := by
  unfold stopScan
  split
  · exact issue_listener { c with radio.scanning := false } rfl
  · rfl

theorem onScanTimer_listener (env : Env) (c : Core) : (c.onScanTimer env).listener = c.listener := by
  have armed : ∀ c : Core, (c.armScanRestart env).listener = c.listener := fun _ => rfl
  simp only [onScanTimer]
  split
  · rfl
  · split
    · exact armed _
    · split
      · split
        · exact (armed _).trans (stopScan_listener _)
        · exact startScan_listener env _
      · exact (startScan_listener env _).trans (stopScan_listener _)

/-- Handlers that serve nothing. -/
theorem Performs.tends (h : Performs env effects c c') (idle : effects.serves = false) : Tends c c' := by
  refine ⟨h.aside idle, h.proceeds.pending idle, ?_⟩
  induction h with
  | trans _ _ ih ih' => exact ih'.trans ih
  | issue c minor => exact issue_listener c (Command.deaf_of_minor minor)
  | connect c p live settles => exact issue_listener c rfl
  | sendOpen c p id payload starts begins => exact issue_listener c rfl
  | askChannel c p psm begins => exact issue_listener c rfl
  | maybeCycle c serves due => simp [idle] at serves
  | startScan c scans => exact startScan_listener env c
  | stopScan c scans => exact stopScan_listener c
  | onScanTimer c scans => exact onScanTimer_listener env c
  | _ => rfl

theorem notifyClose_tends (env : Env) (c : Core) (id : Hex) (reason : Option Byte) :
    Tends c (c.notifyClose env id reason) :=
  ⟨(notifyClose_quiet env c id reason).aside, rfl, rfl⟩

theorem remoteEnd_tends (env : Env) (c : Core) (st : Ref) : Tends c (c.remoteEnd st) := by
  have ends : Performs env {} c (c.remoteEnd st) := remoteEnd_performs c st
  exact ends.tends rfl

/-! Sessions that end. -/

/-- Some session but the one under the id has no stream yet. -/
def waitsBut (c : Core) (id : Hex) : Bool :=
  (c.server.table.delete id).values.any fun r => (c.session r).stream.isNone

/-- The end of the session under the id is a turn of the listener. -/
def rotates (env : Env) (c : Core) (id : Hex) : Bool :=
  decide (env.cfg.pipe = .l2cap) && !env.halted && !c.waitsBut id

/-- The session under the id has left the table, and the listener had its turn. -/
structure Ended (env : Env) (c : Core) (id : Hex) (c' : Core) : Prop where
  table : c'.server.table = c.server.table.delete id
  next : c'.server.sessions.next = c.server.sessions.next
  streams : ∀ r, (c'.session r).stream = (c.session r).stream
  pending : c'.server.cyclePending =
    if env.cfg.pipe = .l2cap && !env.halted then c.waitsBut id else c.server.cyclePending
  listener : c'.listener =
    if c.rotates env id then c.listener.take env.cfg.channelSupport .cycle else c.listener

theorem Ended.waits {id : Hex} (h : Ended env c id c') : c'.pendingSession = c.waitsBut id := by
  simp only [pendingSession, waitsBut, h.table, h.streams]

theorem Ended.tends {id : Hex} (h : Ended env c id c') (t : Tends c' c'') : Ended env c id c'' :=
  ⟨t.aside.table.trans h.table, t.aside.next.trans h.next, fun r => (t.stream r).trans (h.streams r),
    t.pending.trans h.pending, t.listener.trans h.listener⟩

/-- What goes before, and tends nothing, does not count. -/
theorem Ended.after {id : Hex} (h : Ended env c' id c'') (t : Tends c c') : Ended env c id c'' := by
  have waits : c'.waitsBut id = c.waitsBut id := by
    simp only [waitsBut, t.aside.table, t.stream]
  have turns : c'.rotates env id = c.rotates env id := by
    simp only [rotates, waits]
  exact ⟨by rw [h.table, t.aside.table], h.next.trans t.aside.next,
    fun r => (h.streams r).trans (t.stream r), by rw [h.pending, waits, t.pending],
    by rw [h.listener, turns, t.listener]⟩

theorem maybeCycle_listener (env : Env) (c : Core) : (c.maybeCycle env).listener =
    if c.pendingSession then c.listener else c.listener.take env.cfg.channelSupport .cycle := by
  unfold maybeCycle
  split
  · rfl
  · exact cycle_listener env { c with server.cyclePending := false }

/-- What is held afterwards is held for a session that waits. -/
theorem maybeCycle_pending (env : Env) (c : Core) :
    (c.maybeCycle env).server.cyclePending = c.pendingSession := by
  unfold maybeCycle
  split
  · rename_i waits
    exact waits.symm
  · rename_i none
    exact (cycle_radioOnly env { c with server.cyclePending := false }).pending.trans
      (Bool.eq_false_iff.mpr none).symm

/-- A session leaves the table, with its timer. -/
def leave (c : Core) (id : Hex) (r : Ref) : Core :=
  { c.setSession r fun s => { s with pipeTimer := none } with
    server.table := c.server.table.delete id }

theorem leave_stream (c : Core) (id : Hex) (r k : Ref) :
    ((c.leave id r).session k).stream = (c.session k).stream :=
  c.setSession_view (f := fun s => { s with pipeTimer := none }) r k ServerSession.stream fun _ => rfl

theorem leave_waits (c : Core) (id : Hex) (r : Ref) :
    (c.leave id r).pendingSession = c.waitsBut id := by
  simp only [pendingSession, waitsBut, leave_stream]
  rfl

theorem reapSession_ended (env : Env) (c : Core) (id : Hex) (r : Ref) :
    Ended env c id (c.reapSession env id r) := by
  have run : c.reapSession env id r = if env.cfg.pipe = .l2cap && !env.halted then
      (c.leave id r).maybeCycle env else c.leave id r := rfl
  rw [run]
  split
  · rename_i live
    have quiet : Quiet (c.leave id r) ((c.leave id r).maybeCycle env) := maybeCycle_quiet env _
    refine ⟨quiet.table, by rw [quiet.sessions]; rfl, fun k => ?_, ?_, ?_⟩
    · rw [session, quiet.sessions]
      exact leave_stream c id r k
    · rw [maybeCycle_pending, leave_waits, if_pos live]
    · rw [maybeCycle_listener, leave_waits]
      simp only [rotates, live, Bool.true_and]
      cases c.waitsBut id <;> rfl
  · rename_i idle
    refine ⟨rfl, rfl, leave_stream c id r, by rw [if_neg idle]; rfl, ?_⟩
    simp only [rotates, Bool.eq_false_iff.mpr idle, Bool.false_and, Bool.false_eq_true, if_false]
    rfl

/-- The session that the 'close' event of a stream ends. -/
def closes? (c : Core) (st : Ref) : Option Hex :=
  if st < c.streams.next && !(c.streams.get st).closed then
    match (c.streams.get st).owner with
    | .server r => if (c.server.table.get? (c.session r).id).isSome then some (c.session r).id else none
    | .central _ _ => none
  else none

theorem onStreamClose_cases (env : Env) (c : Core) (st : Ref) :
    (∃ id, c.closes? st = some id ∧ Ended env c id (c.onStreamClose env st)) ∨
    (c.closes? st = none ∧ Tends c (c.onStreamClose env st)) := by
  have destroyed : Performs env {} c
      ((c.setStream st fun s => { s with closed := true }).destroyOwnChannel st) := by
    refine Performs.andThen (setStream_performs st ?_) (destroyOwnChannel_performs st)
    exact fun _ => ⟨rfl, rfl, rfl, rfl⟩
  have tends := destroyed.tends rfl
  have sessions : ∀ r, (((c.setStream st fun s => { s with closed := true }).destroyOwnChannel
      st).session r).id = (c.session r).id := by
    intro r
    have seat := tends.aside.seats r
    simp only [ServerSession.seat, Prod.mk.injEq] at seat
    exact seat.1
  simp only [onStreamClose, closes?]
  split
  · cases owner : (c.streams.get st).owner with
    | server r =>
      dsimp only
      rw [closeServerSession, sessions, tends.aside.table]
      cases entry : c.server.table.get? (c.session r).id with
      | none => exact .inr ⟨rfl, tends⟩
      | some k =>
        refine .inl ⟨_, rfl, ?_⟩
        exact ((reapSession_ended env _ _ k).after tends).tends (notifyClose_tends env _ _ none)
    | central p sess =>
      have left := destroyed.andThen (onCentralStreamClose_performs p sess)
      exact .inr ⟨rfl, left.tends rfl⟩
  · exact .inr ⟨rfl, .refl c⟩

/-- The pipe timer of a session is due. -/
def timesOut (env : Env) (c : Core) (r : Ref) : Bool :=
  (c.session r).pipeTimer.any fun deadline => deadline ≤ env.now

/-- A session that times out leaves the table, but the listener is given no turn. -/
theorem onPipeTimeout_cases (env : Env) {c : Core} (booked : Booked env.cfg c) (r : Ref) :
    (c.timesOut env r = true ∧ (c.session r).stream = none ∧
      c.server.table.get? (c.session r).id = some r ∧
      Tends (c.leave (c.session r).id r) (c.onPipeTimeout env r)) ∨
    (c.timesOut env r = false ∧ c.onPipeTimeout env r = c) := by
  unfold onPipeTimeout timesOut
  cases timer : (c.session r).pipeTimer with
  | none => exact .inr ⟨rfl, rfl⟩
  | some deadline =>
    dsimp only
    by_cases early : env.now < deadline
    · exact .inr ⟨by simp [early], if_pos early⟩
    · have entered : ∃ id, c.server.table.get? id = some r := by
        by_contra absent
        have none := booked.unarmed r fun id there => absent ⟨id, there⟩
        simp [none] at timer
      obtain ⟨id, entry⟩ := entered
      have waits := (booked.armed id r entry).mp (by simp [timer])
      have own := booked.own id r entry
      refine .inl ⟨by simpa using early, waits, by rw [own, entry], ?_⟩
      rw [if_neg early, setSession_self]
      have stays : ¬ (decide (c.server.table.get? (c.session r).id ≠ some r) ||
          (c.session r).stream.isSome) = true := by simp [own, entry, waits]
      exact (if_neg stays).symm ▸ notifyClose_tends env (c.leave (c.session r).id r) _ none

/-! Frames. -/

/-- The session that a frame ends: by a CLOSE, or by DATA ahead of its channel. -/
def ends? (c : Core) (data : Bytes) : Option Hex :=
  match decodeFrame (some data) with
  | none => none
  | some f =>
    match c.server.table.get? f.id with
    | none => none
    | some r =>
      if (f.type = typeData && (c.session r).stream.isNone) || f.type = typeClose then some f.id
      else none

/-- The psm in the HELLO that answers a frame, and its session. -/
def promises? (env : Env) (c : Core) (data : Bytes) : Option (Hex × Nat) :=
  match decodeFrame (some data) with
  | none => none
  | some f =>
    if (c.server.table.get? f.id).isSome || f.type ≠ typeOpen then none
    else
      let { key, flags, .. } := decodeKeyPayload f.payload
      match c.judgeOpen env key flags with
      | .accepted .l2cap => c.server.psm.map fun psm => (f.id, psm)
      | _ => none

/-- An OPEN was accepted on the l2cap pipe: the HELLO carries the psm that is recorded. -/
structure Promised (env : Env) (c : Core) (id : Hex) (psm : Nat) (c' : Core) : Prop where
  recorded : c.server.psm = some psm
  table : c'.server.table = c.server.table.set id c.server.sessions.next
  next : c'.server.sessions.next = c.server.sessions.next + 1
  stream : (c'.session c.server.sessions.next).stream = none
  others : ∀ r ≠ c.server.sessions.next, (c'.session r).stream = (c.session r).stream
  pending : c'.server.cyclePending = c.server.cyclePending
  listener : c'.listener = c.listener
  hello : c'.gatt = c.gatt.notify env.now
    (encodeFrame typeHello id (encodeKeyPayload env.cfg.publicKey pipeL2cap (some psm)))

theorem onOpen_cases (l2cap : env.cfg.pipe = .l2cap) (c : Core) (f : Frame) :
    (∃ psm, c.judgeOpen env (decodeKeyPayload f.payload).key (decodeKeyPayload f.payload).flags =
        .accepted .l2cap ∧ Promised env c f.id psm (c.onOpen env f)) ∨
    (c.judgeOpen env (decodeKeyPayload f.payload).key (decodeKeyPayload f.payload).flags ≠
        .accepted .l2cap ∧ Tends c (c.onOpen env f)) := by
  simp only [onOpen]
  cases verdict : c.judgeOpen env (decodeKeyPayload f.payload).key (decodeKeyPayload f.payload).flags with
  | final => exact .inr ⟨by simp, notifyClose_tends env c _ _⟩
  | transient => exact .inr ⟨by simp, notifyClose_tends env c _ _⟩
  | accepted name =>
    obtain rfl : Pipe.l2cap = name := l2cap.symm.trans (judgeOpen_room verdict).1
    obtain ⟨psm, recorded⟩ := Option.ne_none_iff_exists'.mp
      (((judgeOpen_accepted_iff env c _ _ _).mp verdict).2.2.1 rfl)
    let r := c.server.sessions.next
    let timed : ServerSession → ServerSession :=
      fun s => { s with pipeTimer := some (env.now + pipePendingTimeout) }
    let s : ServerSession := { id := f.id, announced := (decodeKeyPayload f.payload).key }
    have stream : ∀ k, (((c.server.sessions.alloc s).modify r timed).get k).stream =
        ((c.server.sessions.alloc s).get k).stream :=
      fun k => (c.server.sessions.alloc s).modify_get_view r k timed ServerSession.stream fun _ => rfl
    refine .inl ⟨psm, rfl, recorded, rfl, rfl, ?_, fun k other => ?_, rfl, rfl, ?_⟩
    · exact (stream r).trans (congrArg ServerSession.stream (c.server.sessions.alloc_get_next s))
    · exact (stream k).trans (congrArg ServerSession.stream (c.server.sessions.alloc_get_of_ne s other))
    · simp only [notifyHello, notify, setSession, recorded]

/-- A frame ends a session, is an OPEN that gets its HELLO, or tends nothing. -/
theorem onServerFrame_cases (l2cap : env.cfg.pipe = .l2cap) (c : Core) (data : Bytes) :
    (∃ id, c.ends? data = some id ∧ c.promises? env data = none ∧
      Ended env c id (c.onServerFrame env data)) ∨
    (∃ id psm, c.ends? data = none ∧ c.promises? env data = some (id, psm) ∧
      c.server.table.get? id = none ∧ Promised env c id psm (c.onServerFrame env data)) ∨
    (c.ends? data = none ∧ c.promises? env data = none ∧ Tends c (c.onServerFrame env data)) := by
  unfold onServerFrame ends? promises?
  cases decodeFrame (some data) with
  | none => exact .inr (.inr ⟨rfl, rfl, .refl c⟩)
  | some f =>
    dsimp only
    cases entry : c.server.table.get? f.id with
    | none =>
      dsimp only
      by_cases opens : f.type = typeOpen
      · simp only [opens, if_true, Option.isSome_none, Bool.false_or, ne_eq, not_true_eq_false,
          decide_false, Bool.false_eq_true, if_false]
        rcases onOpen_cases l2cap c f with ⟨psm, verdict, promised⟩ | ⟨verdict, tends⟩
        · refine .inr (.inl ⟨f.id, psm, trivial, ?_, entry, promised⟩)
          rw [verdict]
          simp [promised.recorded]
        · refine .inr (.inr ⟨trivial, ?_, tends⟩)
          split
          · rename_i accepted
            exact absurd accepted verdict
          · rfl
      · simp only [opens, if_false, Option.isSome_none, ne_eq, not_false_eq_true, decide_true,
          Bool.or_true, if_true]
        exact .inr (.inr ⟨trivial, trivial, .refl c⟩)
    | some r =>
      simp only [Option.isSome_some, Bool.true_or, if_true]
      by_cases data : f.type = typeData
      · simp only [data, if_true, decide_true, Bool.true_and]
        cases bound : (c.session r).stream with
        | none =>
          refine .inl ⟨f.id, by simp, trivial, ?_⟩
          simp only [closeServerSession, entry]
          exact (reapSession_ended env c f.id r).tends (notifyClose_tends env _ _ none)
        | some st =>
          have received : Performs env { receives := true } c (c.receive st .gatt f.payload) :=
            receive_performs st .gatt f.payload c rfl
          exact .inr (.inr ⟨by simp [typeData, typeClose], trivial, received.tends rfl⟩)
      · by_cases closes : f.type = typeClose
        · simp only [closes, if_true, decide_true, Bool.or_true]
          refine .inl ⟨f.id, rfl, trivial, ?_⟩
          have reaped := reapSession_ended env c f.id r
          rw [if_neg (by simp [typeClose, typeData])]
          split
          · exact reaped.tends (remoteEnd_tends env _ _)
          · exact reaped
        · simp only [data, closes, if_false, decide_false, Bool.false_and, Bool.or_false,
            Bool.false_eq_true]
          exact .inr (.inr ⟨trivial, trivial, .refl c⟩)

/-! Sessions that get their stream. -/

/-- The session has a stream, and the rotation held for it was let go. -/
structure Seated (env : Env) (c : Core) (r : Ref) (c' : Core) : Prop where
  table : c'.server.table = c.server.table
  next : c'.server.sessions.next = c.server.sessions.next
  stream : (c'.session r).stream ≠ none
  others : ∀ k ≠ r, (c'.session k).stream = (c.session k).stream
  pending : c'.server.cyclePending = (c.server.cyclePending && !c.othersBound r)
  listener : c'.listener = if c.server.cyclePending && c.othersBound r then
    c.listener.take env.cfg.channelSupport .cycle else c.listener

theorem Seated.tends {r : Ref} (h : Seated env c r c') (t : Tends c' c'') : Seated env c r c'' :=
  ⟨t.aside.table.trans h.table, t.aside.next.trans h.next, by rw [t.stream]; exact h.stream,
    fun k other => (t.stream k).trans (h.others k other), t.pending.trans h.pending,
    t.listener.trans h.listener⟩

theorem bindServerStream_seated (env : Env) (c : Core) (r st : Ref) :
    Seated env c r (c.bindServerStream env r st) := by
  let bind : ServerSession → ServerSession := fun s => { s with pipeTimer := none, stream := some st }
  have seat : ∀ k ≠ r, ((c.setSession r bind).session k).stream = (c.session k).stream :=
    fun k other => congrArg ServerSession.stream (c.setSession_of_ne bind other)
  have here : ((c.setSession r bind).session r).stream = some st :=
    congrArg ServerSession.stream (c.setSession_self r bind)
  have waits : (c.setSession r bind).pendingSession = !c.othersBound r := by
    simp only [pendingSession, othersBound, List.not_all_eq_any_not]
    refine congrArg (fun p => c.server.table.values.any p) (funext fun k => ?_)
    by_cases same : k = r
    · rw [same, here]
      simp
    · rw [seat k same]
      cases (c.session k).stream <;> simp [same]
  have linked : ∀ announced, Tends (c.setSession r bind)
      ((c.setSession r bind).onChannel env st false none announced).1 := by
    intro announced
    have links : Performs env { scans := true, begins := true } (c.setSession r bind)
        ((c.setSession r bind).onChannel env st false none announced).1 :=
      onChannel_performs st false none announced _ rfl rfl (.inl rfl)
    exact links.tends rfl
  have noted : ∀ (c : Core) conn, Tends c (c.setSession r fun s => { s with conn := conn }) :=
    fun c conn => ⟨setSession_aside c r fun _ => rfl, rfl, rfl⟩
  obtain ⟨bound, run, tends⟩ : ∃ bound, c.bindServerStream env r st =
      (if bound.server.cyclePending then bound.maybeCycle env else bound) ∧
      Tends (c.setSession r bind) bound :=
    ⟨_, rfl, (linked _).trans (noted _ _)⟩
  have held : bound.server.cyclePending = c.server.cyclePending := tends.pending
  rw [run, held]
  cases pending : c.server.cyclePending
  · simp only [Bool.false_eq_true, if_false]
    refine ⟨tends.aside.table, tends.aside.next, by rw [tends.stream, here]; simp, fun k other =>
      (tends.stream k).trans (seat k other), ?_, ?_⟩
    · rw [held, pending]
      rfl
    · rw [tends.listener, pending]
      rfl
  · have quiet : Quiet bound (bound.maybeCycle env) := maybeCycle_quiet env bound
    have same : ∀ k, ((bound.maybeCycle env).session k).stream = (bound.session k).stream := by
      intro k
      rw [session, session, quiet.sessions]
    rw [if_pos rfl]
    refine ⟨quiet.table.trans tends.aside.table, ?_, by rw [same, tends.stream, here]; simp, fun k other =>
      ((same k).trans (tends.stream k)).trans (seat k other), ?_, ?_⟩
    · rw [quiet.sessions, tends.aside.next]
      rfl
    · rw [maybeCycle_pending, tends.waits, waits, pending]
      rfl
    · rw [maybeCycle_listener, tends.waits, waits, tends.listener, pending]
      cases c.othersBound r <;> rfl

/-- The session, if one is awaited, gets the stream on the accepted channel. -/
theorem resumeAccept_seats (env : Env) (c : Core) (a : Ref) :
    (∃ r rest, c.awaited? a = some (r, rest) ∧ Seated env c r (c.resumeAccept env a)) ∨
    (c.awaited? a = none ∧ Tends c (c.resumeAccept env a)) := by
  rcases resumeAccept_cases env c a with ⟨r, rest, awaited, run⟩ | ⟨none, refused⟩
  · refine .inl ⟨r, rest, awaited, ?_⟩
    let ch := (c.server.acceptors.get a).channel
    let made : Core := addReader { c.setAcceptor a fun acceptor => { acceptor with resumed := true } with
      streams := c.streams.alloc { pipe := .l2cap, owner := .server r, channel := some ch } } ch
        (.stream c.streams.next)
    have table : made.server.table = c.server.table := rfl
    have seated := bindServerStream_seated env made r c.streams.next
    have received : ∀ c' : Core, Tends c' (c'.receive c.streams.next .l2cap rest) := by
      intro c'
      have received : Performs env { receives := true } c' (c'.receive c.streams.next .l2cap rest) :=
        receive_performs c.streams.next .l2cap rest c' rfl
      exact received.tends rfl
    have seats : Seated env made r (c.resumeAccept env a) := by
      rw [run]
      simp only [takeOver]
      split
      · exact seated.tends (received _)
      · exact seated
    exact ⟨seats.table, seats.next, seats.stream, seats.others, seats.pending, seats.listener⟩
  · exact .inr ⟨none, refused.tends rfl⟩

end Core

end BleSwarm
