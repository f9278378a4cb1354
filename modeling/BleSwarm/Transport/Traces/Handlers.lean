import BleSwarm.Transport.Sessions
import BleSwarm.Transport.Traces

/-!
# What each handler begins

One lemma for each operation of the transport, up to the step that delivers an event. Frames
that arrive are evidence; what else a beginning rests on is checked where the code checks it.
-/

namespace BleSwarm.Core

variable {env : Env} {ev : Evidence} {c c' c'' : Core}

/-! Links. -/

/-- A stream becomes a link of the session it is for. -/
theorem onChannel_traces (c : Core) {st : Ref} {isInitiator : Bool} {id : Option PeripheralId}
    {announced : Bytes} (riding : st < c.streams.next)
    (rides : Rides ev env.cfg c { stream := st, isInitiator, peripheralId := id, announced }
      (c.streams.get st).owner) :
    Traces env ev c (c.onChannel env st isInitiator id announced).1 := by
  unfold onChannel
  split
  · exact .performs (destroyStream_performs c st)
  · have linked : Traces env ev c { c with
        links.conns := c.links.conns.alloc
          { stream := st, isInitiator, peripheralId := id, announced } } :=
      .link c _ riding rides
    refine Traces.trans ?_ (.performs (.startScan _ rfl))
    split
    · exact linked.andThen fun c => dial_noneBegins c _
    · exact linked

theorem onConnOpen_noneBegins (r : Ref) (key : Bytes) (c : Core) :
    NoneBegins c (c.onConnOpen env r key) := by
  obtain ⟨next, same⟩ := onConnOpen_identity env c r key
  obtain ⟨central, streams, table, sessions⟩ := onConnOpen_rest env c r key
  have noted : ∀ (c : Core) (r : Ref), (c.notePeerKey r).server.psm = c.server.psm ∧
      (c.notePeerKey r).gatt = c.gatt ∧ (c.notePeerKey r).out = c.out := by
    intro c r
    simp only [notePeerKey]
    split <;> exact ⟨rfl, rfl, rfl⟩
  have rest : (c.onConnOpen env r key).server.psm = c.server.psm ∧
      (c.onConnOpen env r key).gatt = c.gatt ∧
      Says Command.plain c (c.onConnOpen env r key) := by
    simp only [onConnOpen]
    split
    · obtain ⟨psm, gatt, out⟩ := noted { c with links := c.links.prove r key } r
      simp only [track]
      split
      · exact ⟨psm, gatt, .of_same out⟩
      · split
        · exact ⟨psm, gatt, .of_same out⟩
        · exact ⟨psm, gatt, .after (.issue _ trivial) out⟩
    · exact ⟨rfl, rfl, .refl c⟩
  refine {
    conns := ⟨next, fun k => ?_⟩
    streams := .of_eq streams
    table := fun id k entry => table ▸ entry
    sessions := .of_eq sessions
    psm := fun port known => rest.1 ▸ known
    started := .of_eq (by rw [central])
    attempts := .of_eq (by rw [central])
    idle := fun a idle => central ▸ idle
    session := fun p s current => ?_
    stream := fun p st bound => ?_
    gatt := .of_same (by rw [rest.2.1]) (by rw [rest.2.1])
    out := rest.2.2 }
  · obtain ⟨stream, direction, announced⟩ := same k
    simp only [Conn.identity, stream, direction, announced]
  · rwa [peripheral, central] at current
  · rwa [peripheral, central] at bound

/-! The server side. -/

theorem reapAllSessions_noneBegins (c : Core) : NoneBegins c c.reapAllSessions := by
  obtain ⟨sessions, streams, reaped⟩ := reapAllSessions_eq c
  have alike := reapAllSessions_alike c
  have made := alike.1.narrow ServerSession.identity fun _ => rfl
  have content := alike.2.narrow Stream.content fun _ => rfl
  rw [reaped] at made content ⊢
  exact (streams_noneBegins c content).trans
    (sessions_noneBegins _ (fun _ _ none => by cases none) made)

/-- A stream that was just made is bound to its session. -/
theorem bindServerStream_traces (c : Core) {s : Stream} {id : Hex} {r : Ref}
    (owner : s.owner = .server r) (empty : s.received = []) (entry : c.server.table.get? id = some r)
    (unbound : (c.session r).stream = none) :
    Traces env ev c
      ({ c with streams := c.streams.alloc s }.bindServerStream env r c.streams.next) := by
  let made : Core := { c with streams := c.streams.alloc s }.setSession r fun x =>
    { x with pipeTimer := none, stream := some c.streams.next }
  have served : Traces env ev c made := .serve c s owner empty entry unbound
  have linked : Traces env ev made
      (made.onChannel env c.streams.next false none (made.session r).announced).1 := by
    refine onChannel_traces made (Nat.lt_succ_self _) ?_
    have ours : (made.streams.get c.streams.next).owner = .server r := by
      simp [made, setSession, owner]
    rw [ours]
    exact ⟨rfl, rfl⟩
  have named : ∀ (c : Core) (conn : Option Ref),
      NoneBegins c (c.setSession r fun s => { s with conn }) := by
    intro c conn
    refine .of_performs env (setSession_performs r ?_ c rfl)
    exact fun _ => rfl
  exact ((served.trans linked).andThen fun c => named c _).andThen fun c =>
    .ite (maybeCycle_noneBegins c) (.refl c)

/-- A session under the id is entered, whose OPEN announced the key. -/
def enter (c : Core) (id : Hex) (key : Bytes) : Core :=
  { c with
    server.sessions := c.server.sessions.alloc { id, announced := key }
    server.table := c.server.table.set id c.server.sessions.next }

/-- An OPEN is refused, or a session is entered and served on no evidence but the OPEN. -/
theorem onOpen_enters (env : Env) (c : Core) (f : Frame) :
    NoneBegins c (c.onOpen env f) ∨
    env.cfg.accept (decodeKeyPayload f.payload).key = true ∧
      env.cfg.pipeFor (decodeKeyPayload f.payload).flags = some env.cfg.pipe ∧
      ∀ ev, Traces env ev (c.enter f.id (decodeKeyPayload f.payload).key) (c.onOpen env f) := by
  simp only [onOpen]
  cases verdict : c.judgeOpen env (decodeKeyPayload f.payload).key
    (decodeKeyPayload f.payload).flags with
  | final => exact .inl (.of_performs env (notifyClose_performs _ _ c))
  | transient => exact .inl (.of_performs env (notifyClose_performs _ _ c))
  | accepted name =>
    obtain ⟨suits, accepted, -⟩ := (judgeOpen_accepted_iff env c _ _ _).mp verdict
    have chosen : env.cfg.pipe = name := Config.pipe_of_pipeFor suits
    refine .inr ⟨accepted, chosen ▸ suits, fun ev => ?_⟩
    let entered : Core := c.enter f.id (decodeKeyPayload f.payload).key
    have entry : entered.server.table.get? f.id = some c.server.sessions.next := by
      simp [entered, enter]
    cases name with
    | l2cap =>
      let waiting : Core := entered.setSession c.server.sessions.next fun s =>
        { s with pipeTimer := some (env.now + pipePendingTimeout) }
      have waits : NoneBegins entered waiting := by
        refine .of_performs env (setSession_performs _ ?_ entered rfl)
        exact fun _ => rfl
      have hello : helloFrame env.cfg f.id waiting.server.psm = encodeFrame typeHello f.id
          (encodeKeyPayload env.cfg.publicKey pipeL2cap waiting.server.psm) := by
        rw [helloFrame, chosen]
      have greeted : Traces env ev waiting
          (waiting.notify env (helloFrame env.cfg f.id waiting.server.psm)) :=
        .greet waiting entry fun _ known => known
      rw [hello] at greeted
      exact greeted.after waits
    | gatt =>
      have bound : Traces env ev entered (entered.openServer env c.server.sessions.next) := by
        let s : Stream :=
          { pipe := .gatt, owner := .server c.server.sessions.next,
            maxPayload := some defaultPayload }
        apply bindServerStream_traces (s := s) entered rfl rfl entry
        simp [entered, enter, session]
      have hello : helloFrame env.cfg f.id none = encodeFrame typeHello f.id env.cfg.publicKey := by
        rw [helloFrame, chosen]
      have table : (entered.openServer env c.server.sessions.next).server.table =
        entered.server.table :=
        (bindServerStream_aside env _ _ _).table
      have greeted : Traces env ev (entered.openServer env c.server.sessions.next)
          ((entered.openServer env c.server.sessions.next).notify env
            (helloFrame env.cfg f.id none)) :=
        .greet _ (by rw [table, entry]) fun _ none => by cases none
      rw [hello] at greeted
      exact bound.trans greeted

theorem onOpen_traces (c : Core) {f : Frame} {frame : Bytes} (written : ev.written frame)
    (decoded : decodeFrame (some frame) = some f) (opens : f.type = typeOpen)
    (absent : c.server.table.get? f.id = none) : Traces env ev c (c.onOpen env f) := by
  have asked : ev.OpenWritten f.id (decodeKeyPayload f.payload).key
      (decodeKeyPayload f.payload).flags := by
    refine ⟨frame, (decodeKeyPayload f.payload).psm, written, f.payload, ?_, rfl⟩
    rw [decoded, ← opens]
  rcases onOpen_enters env c f with refused | ⟨accepted, suits, served⟩
  · exact .noneBegins refused
  · exact (Traces.accept c asked accepted suits absent).trans (served ev)

theorem onServerFrame_traces {frame : Bytes} (written : ev.written frame) (c : Core) :
    Traces env ev c (c.onServerFrame env frame) := by
  unfold onServerFrame
  cases decoded : decodeFrame (some frame) with
  | none => exact .refl c
  | some f =>
    dsimp only
    cases entry : c.server.table.get? f.id with
    | none =>
      dsimp only
      split
      · rename_i opens
        exact onOpen_traces c written decoded opens entry
      · exact .refl c
    | some r =>
      dsimp only
      split
      · rename_i data
        cases bound : (c.session r).stream with
        | none => exact .performs (closeServerSession_performs f.id c rfl)
        | some st =>
          apply Traces.receive
          apply Delivered.server entry bound written
          rw [decoded, ← data]
      · refine .ite (.performs ?_) (.refl c)
        split
        · exact (reapSession_performs f.id r c rfl).trans (remoteEnd_performs _ _)
        · exact reapSession_performs f.id r c rfl

theorem onWriteRequests_traces {requests : List (Bytes × Bool)}
    (written : ∀ req ∈ requests, ev.written req.1) (c : Core) :
    Traces env ev c (c.onWriteRequests env requests) := by
  unfold onWriteRequests
  induction requests generalizing c with
  | nil => exact .refl c
  | cons req requests ih =>
    rw [List.foldl_cons]
    refine Traces.trans ?_ (ih (fun req mem => written req (List.mem_cons_of_mem _ mem)) _)
    have answered : NoneBegins c (if req.2 then c.issue .respondToRequest else c) :=
      .ite (.issue c trivial) (.refl c)
    refine .ite (.noneBegins answered) (Traces.after ?_ answered)
    exact onServerFrame_traces (written req List.mem_cons_self) _

theorem readData_traces (reader : Reader) (data : Bytes) (c : Core) :
    Traces env ev c (c.readData reader data) := by
  cases reader with
  | preamble a =>
    have read : ∀ (c : Core) (f : Acceptor → Acceptor), NoneBegins c (c.setAcceptor a f) :=
      fun c _ => readers_noneBegins c _ c.server.readers
    have finished : ∀ (c : Core) id rest, NoneBegins c (c.finishPreamble a id rest) :=
      fun c _ _ => readers_noneBegins c _ _
    exact .noneBegins (.ite ((read c _).andThen fun c => finished c _ _) (read c _))
  | stream st => exact .receive c (.channel data)

theorem onChannelData_traces (ch : Ref) (data : Bytes) (c : Core) :
    Traces env ev c (c.onChannelData ch data) :=
  .foldl (fun c reader => readData_traces reader data c) c _

/-- The channel that a preamble named for a session goes to it if it has none. -/
theorem resumeAccept_traces (a : Ref) (c : Core) : Traces env ev c (c.resumeAccept env a) := by
  simp only [resumeAccept]
  split
  · exact .refl c
  · rename_i id rest result
    let resumed : Core := c.setAcceptor a fun acceptor => { acceptor with resumed := true }
    have resumes : NoneBegins c resumed := readers_noneBegins c _ c.server.readers
    refine .ite (.refl c) (Traces.after ?_ resumes)
    split
    · exact .noneBegins (.issue _ trivial)
    · rename_i r named
      obtain ⟨sid, -, entry⟩ := Option.bind_eq_some_iff.mp named
      split
      · exact .noneBegins (.issue _ trivial)
      · rename_i unbound
        have unbound : (resumed.session r).stream = none := by simpa using unbound
        let heard : Core := resumed.addReader (c.server.acceptors.get a).channel
          (.stream resumed.streams.next)
        have hears : NoneBegins resumed heard := readers_noneBegins resumed _ _
        let s : Stream :=
          { pipe := .l2cap, owner := .server r, channel := some (c.server.acceptors.get a).channel }
        have bound : Traces env ev heard
            ({ heard with streams := heard.streams.alloc s }.bindServerStream env r
              heard.streams.next) :=
          bindServerStream_traces heard rfl rfl entry unbound
        have taken := bound.after hears
        refine .ite (taken.trans (.receive _ (.channel rest))) taken

/-! The central side. -/

/-- A stream that was just made is bound to the peripheral. -/
theorem bindCentralStream_traces (c : Core) {s : Stream} {p sess : Ref} {key : Bytes}
    (owner : s.owner = .central p sess) (empty : s.received = [])
    (current : (c.peripheral p).session = some sess) (invited : Invited ev env.cfg c p sess key) :
    Traces env ev c
      ({ c with streams := c.streams.alloc s }.bindCentralStream env p c.streams.next key) := by
  let slotted : Core := { c with streams := c.streams.alloc s }.setPeripheral p fun q =>
    { q with stream := some c.streams.next }
  let id : PeripheralId := (slotted.peripheral p).id
  have dialed : Traces env ev c slotted := .dial c s owner empty current invited
  have quiet : Quiet slotted (slotted.clearDial id) := clearDial_quiet slotted id
  have linked : Traces env ev (slotted.clearDial id)
      ((slotted.clearDial id).onChannel env c.streams.next true (some id) key).1 := by
    refine onChannel_traces _ ?_ ?_
    · rw [quiet.streams]
      exact Nat.lt_succ_self _
    · have ours : ((slotted.clearDial id).streams.get c.streams.next).owner = .central p sess := by
        rw [quiet.streams]
        simp [slotted, setPeripheral, owner]
      rw [ours]
      refine ⟨rfl, ?_⟩
      unfold Invited Greeted
      rw [quiet.central]
      exact invited
  have noted : ∀ (c : Core) (conn : Option Ref),
      NoneBegins c (c.setPeripheral p fun q => { q with conn }) := by
    intro c conn
    refine .of_performs env (setPeripheral_performs p ?_ c)
    exact fun _ => ⟨rfl, .inl rfl, .inl rfl⟩
  exact ((dialed.trans (.performs (clearDial_performs id _ rfl))).trans linked).andThen fun c => noted c _

/-! Opening the pipe. -/

theorem openCentralL2cap_traces (c : Core) {p sess : Ref} {psm : Nat} {key : Bytes} {flags : Byte}
    (current : (c.peripheral p).session = some sess)
    (told : ev.HelloNotified p (c.central.sessions.get sess).id ⟨key, flags, some psm⟩)
    (accepted : env.cfg.accept key = true) (suits : env.cfg.pipeFor flags = some env.cfg.pipe) :
    Traces env ev c (c.openCentralL2cap env p sess psm key) := by
  let upgrading : Core := c.setCentralSession sess fun s => { s with upgrading := true }
  have upgrades : NoneBegins c upgrading := by
    refine .of_performs env (setCentralSession_performs sess ?_ c)
    exact fun _ => rfl
  let cleaned : Core := upgrading.destroyStale (upgrading.peripheral p).id
  have cleans : NoneBegins upgrading cleaned := .of_performs env (destroyStale_performs _ upgrading)
  have central : cleaned.central.sessions = upgrading.central.sessions ∧
      cleaned.central.peripherals = upgrading.central.peripherals := by
    simp only [cleaned, destroyStale]
    split <;> exact ⟨rfl, rfl⟩
  have id : (cleaned.central.sessions.get sess).id = (c.central.sessions.get sess).id := by
    rw [central.1]
    exact upgrades.started.view sess
  have slot : (cleaned.peripheral p).session = some sess := by
    rw [peripheral, central.2]
    exact current
  have told : ev.HelloNotified p (cleaned.central.sessions.get sess).id ⟨key, flags, some psm⟩ := by
    rw [id]
    exact told
  have asked : Traces env ev cleaned _ :=
    .attempt cleaned (some (env.now + env.cfg.timeout)) slot told accepted suits
  refine Traces.after ?_ (upgrades.trans cleans)
  change Traces env ev cleaned (cleaned.openChannel env p sess psm key)
  unfold openChannel
  dsimp only
  split
  · refine asked.trans (.performs (finishOpen_performs none _ (.inr fun idle => ?_)))
    have fresh := idle.2.1
    simp [Core.issue] at fresh
  · exact asked

theorem openCentralGatt_traces (c : Core) {p sess : Ref} {key : Bytes}
    (current : (c.peripheral p).session = some sess) (greeted : Greeted ev env.cfg c p sess key) :
    Traces env ev c (c.openCentralGatt env p sess key) :=
  bindCentralStream_traces c rfl rfl current (.inl greeted)

theorem bindCentral_traces (c : Core) {p sess : Ref} {key : Bytes} (ch : Ref)
    (current : (c.peripheral p).session = some sess) (invited : Invited ev env.cfg c p sess key) :
    Traces env ev c (c.bindCentral env p sess ch key) := by
  let written : Core := c.issue (.writeChannel ch (fromHex (c.central.sessions.get sess).id))
  have wrote : NoneBegins c written := .issue c trivial
  refine Traces.after (.ite (.performs (abortDial_performs p written rfl rfl)) ?_) wrote
  let heard : Core := written.addReader ch (.stream written.streams.next)
  have hears : NoneBegins written heard := readers_noneBegins written _ _
  let s : Stream := { pipe := .l2cap, owner := .central p sess, channel := some ch }
  have bound : Traces env ev heard
      ({ heard with streams := heard.streams.alloc s }.bindCentralStream env p
        heard.streams.next key) :=
    bindCentralStream_traces heard rfl rfl current invited
  exact bound.after hears

theorem settleOpen_traces (c : Core) {attempt : OpenAttempt} (channel : Option Ref)
    (invited : Invited ev env.cfg c attempt.peripheral attempt.session attempt.announced) :
    Traces env ev c (c.settleOpen env attempt channel) := by
  unfold settleOpen
  dsimp only
  by_cases lost : (c.peripheral attempt.peripheral).session ≠ some attempt.session ∨ env.halted = true
  · rw [if_pos (by simpa using lost)]
    exact .performs (destroyChannel_performs channel c)
  · rw [if_neg (by simpa using lost)]
    have current : (c.peripheral attempt.peripheral).session = some attempt.session :=
      Classical.not_not.mp fun other => lost (.inl other)
    cases channel with
    | none => exact .performs (abortDial_performs _ c rfl rfl)
    | some ch => exact bindCentral_traces c ch current invited

/-- The channel of an attempt goes to the session that asked for it. -/
theorem resumeOpen_traces (a : Ref) (c : Core) : Traces env ev c (c.resumeOpen env a) := by
  simp only [resumeOpen]
  split
  · exact .refl c
  · rename_i channel result
    have busy : ¬ Idle (c.central.attempts.get a) := fun idle => by simp [idle.2.2] at result
    let attempt : OpenAttempt := c.central.attempts.get a
    let resumed : Core := c.setAttempt a fun attempt => { attempt with resumed := true }
    have resumes : NoneBegins c resumed := by
      refine .of_performs env (attempts_performs c (.of_modify c.central.attempts (.inr busy) ?_
        (fun _ => id) (.inl rfl) ?_))
      · exact fun _ => rfl
      · exact fun sound => ⟨sound.1, fun _ => by rw [result]; rfl⟩
    let kept : Core := resumed.setCentralChannel (resumed.peripheral attempt.peripheral).id channel
    have central : kept.central.attempts = resumed.central.attempts := by
      simp only [kept, setCentralChannel]
      split <;> rfl
    have keeps : NoneBegins resumed kept :=
      .of_performs env (setCentralChannel_performs _ channel resumed)
    have invited : Invited ev env.cfg kept attempt.peripheral attempt.session attempt.announced := by
      refine .inr ⟨a, ?_, ?_⟩
      · rw [central]
        intro idle
        simp [resumed, setAttempt, Idle, result] at idle
      · rw [central]
        simp [resumed, setAttempt, OpenAttempt.identity, attempt]
    refine .ite (.refl c) (Traces.after ?_ (resumes.trans keeps))
    refine (settleOpen_traces kept channel invited).trans
      (.performs (setCentralSession_performs _ ?_ _))
    exact fun _ => rfl

/-! Notifications from the server. -/

theorem onHello_traces (c : Core) {p sess : Ref} {payload frame : Bytes}
    (current : (c.peripheral p).session = some sess) (notified : ev.notified p frame)
    (decoded : decodeFrame (some frame) =
      some ⟨typeHello, (c.central.sessions.get sess).id, payload⟩) :
    Traces env ev c (c.onHello env p sess payload) := by
  have told : ev.HelloNotified p (c.central.sessions.get sess).id (decodeKeyPayload payload) :=
    ⟨frame, notified, payload, decoded, rfl⟩
  have ended : ∀ (c : Core) sess keep, Traces env ev c (c.endCentral env p sess keep) :=
    fun c sess keep => .performs (endCentral_performs p sess keep c rfl rfl)
  simp only [onHello]
  refine .ite (.refl c) ?_
  split
  · exact ended c _ _
  · rename_i ok
    have accepted : env.cfg.accept (decodeKeyPayload payload).key = true := by simpa using ok
    split
    · exact (ended _ _ _).after (dial_noneBegins c _)
    · have same : (decodeKeyPayload payload) =
          ⟨(decodeKeyPayload payload).key, (decodeKeyPayload payload).flags,
            (decodeKeyPayload payload).psm⟩ := rfl
      split
      · exact ended c _ _
      · exact ended c _ _
      · rename_i psm suits known
        have chosen : env.cfg.pipe = .l2cap := Config.pipe_of_pipeFor suits
        rw [same, known] at told
        exact openCentralL2cap_traces c current told accepted (chosen ▸ suits)
      · rename_i suits
        have chosen : env.cfg.pipe = .gatt := Config.pipe_of_pipeFor suits
        exact openCentralGatt_traces c current ⟨_, _, told, accepted, chosen ▸ suits⟩

theorem onCentralNotify_traces {p : Ref} {frame : Bytes} (notified : ev.notified p frame) (c : Core) :
    Traces env ev c (c.onCentralNotify env p frame) := by
  unfold onCentralNotify
  split
  · rename_i sess f current decoded
    split
    · exact .refl c
    · rename_i ours
      have ours : f.id = (c.central.sessions.get sess).id := by simpa using ours
      split
      · rename_i hello
        apply onHello_traces c current notified
        rw [decoded, ← hello, ← ours]
      · split
        · rename_i data
          split
          · rename_i st bound
            apply Traces.receive
            apply Delivered.central current bound notified
            rw [decoded, ← data, ← ours]
          · exact .refl c
        · refine .ite ?_ (.refl c)
          split
          · refine .performs (Performs.trans (setPeripheral_performs p ?_ c) (remoteEnd_performs _ _))
            exact fun _ => ⟨rfl, .inr rfl, .inl rfl⟩
          · exact .performs (endCentral_performs p none _ c rfl rfl)
  · exact .refl c

end BleSwarm.Core
