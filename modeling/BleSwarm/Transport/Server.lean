import BleSwarm.Transport.Channel

/-!
# The server (peripheral) side

Sessions are negotiated by frames written to the characteristic; on the l2cap
pipe a session then waits for the channel whose preamble names it.
-/

namespace BleSwarm.Core

/-! Notifications. -/

def notify (env : Env) (c : Core) (frame : Bytes) : Core :=
  { c with gatt := c.gatt.notify env.now frame }

def notifyClose (env : Env) (c : Core) (id : Hex) (reason : Option Byte) : Core :=
  c.notify env (encodeFrame typeClose id (encodeCloseReason reason))

def notifyHello (env : Env) (c : Core) (id : Hex) (payload : Bytes) : Core :=
  c.notify env (encodeFrame typeHello id payload)

/-! Sessions and the rotation of the listener. -/

/-- Some session in the table has no stream yet. -/
def pendingSession (c : Core) : Bool :=
  c.server.table.values.any fun r => (c.session r).stream.isNone

/-- Never yank the psm out from under a session still opening its channel. -/
def maybeCycle (env : Env) (c : Core) : Core :=
  if c.pendingSession then { c with server.cyclePending := true }
  else { c with server.cyclePending := false }.cycle env

def reapSession (env : Env) (c : Core) (id : Hex) (r : Ref) : Core :=
  let c := c.setSession r fun s => { s with pipeTimer := none }
  let c := { c with server.table := c.server.table.delete id }
  -- rotate the listener so the next HELLO carries a virgin psm
  if env.cfg.pipe = .l2cap && !env.halted then c.maybeCycle env else c

def closeServerSession (env : Env) (c : Core) (id : Hex) : Core :=
  match c.server.table.get? id with
  | none => c
  | some r => (c.reapSession env id r).notifyClose env id none

def reapAllSessions (c : Core) : Core :=
  let c := c.server.table.values.foldl
    (fun c r =>
      let stream := (c.session r).stream
      let c := c.setSession r fun s => { s with pipeTimer := none }
      match stream with
      | some st => c.destroyStream st
      | none => c) c
  { c with server.table := ∅ }

def bindServerStream (env : Env) (c : Core) (r st : Ref) : Core :=
  let c := c.setSession r fun s => { s with pipeTimer := none, stream := some st }
  let (c, conn) := c.onChannel env st false none (c.session r).announced
  let c := c.setSession r fun s => { s with conn := conn }
  if c.server.cyclePending then c.maybeCycle env else c

/-- `openServer` of the gatt pipe. -/
def openServer (env : Env) (c : Core) (r : Ref) : Core :=
  let st := c.streams.next
  let c := { c with
    streams := c.streams.alloc
      { pipe := .gatt, owner := .server r, maxPayload := some defaultPayload } }
  c.bindServerStream env r st

/-! Frames. -/

/-- The final and the transient refusals of an OPEN, or the pipe it is accepted on. -/
inductive OpenVerdict
  | final
  | transient
  | accepted (pipe : Pipe)
  deriving DecidableEq

def judgeOpen (env : Env) (c : Core) (key : Bytes) (flags : Byte) : OpenVerdict :=
  match env.cfg.pipeFor flags with
  | none => .final
  | some name =>
    if !env.cfg.accept key then .final
    else if (name = .l2cap && c.server.psm.isNone) ||
        decide (env.cfg.maxInbound ≤ c.server.table.size) ||
        (!env.cfg.initiatorWins key && (c.isDialing || decide (0 < c.dial.candidates.size))) then
      .transient
    else .accepted name

/-- The tie-break of an OPEN: its initiator does not win, and this side dials or is about to. -/
def yields (env : Env) (c : Core) (key : Bytes) : Bool :=
  !env.cfg.initiatorWins key && (c.isDialing || decide (0 < c.dial.candidates.size))

theorem judgeOpen_accepted_iff (env : Env) (c : Core) (key : Bytes) (flags : Byte) (name : Pipe) :
    c.judgeOpen env key flags = .accepted name ↔ env.cfg.pipeFor flags = some name ∧
      env.cfg.accept key = true ∧ (name = .l2cap → c.server.psm ≠ none) ∧
      c.server.table.size < env.cfg.maxInbound ∧ c.yields env key = false := by
  unfold judgeOpen yields
  cases env.cfg.pipeFor flags with
  | none => simp
  | some pipe =>
    cases env.cfg.accept key
    · simp
    · simp only [Bool.not_true, Bool.false_eq_true, if_false, Option.some.injEq, true_and]
      split
      · rename_i busy
        refine ⟨nofun, ?_⟩
        rintro ⟨rfl, psm, room, none⟩
        simp only [Bool.or_eq_true, Bool.and_eq_true, decide_eq_true_eq, Option.isNone_iff_eq_none,
          none, Bool.false_eq_true, or_false] at busy
        rcases busy with ⟨l2cap, gone⟩ | full
        · exact absurd gone (psm l2cap)
        · exact absurd room (Nat.not_lt.mpr full)
      · rename_i free
        simp only [Bool.or_eq_true, not_or, decide_eq_true_eq, not_le, Bool.and_eq_true,
          Option.isNone_iff_eq_none] at free
        obtain ⟨⟨psm, room⟩, none⟩ := free
        constructor
        · intro accepted
          obtain rfl := OpenVerdict.accepted.inj accepted
          exact ⟨rfl, fun l2cap gone => psm ⟨l2cap, gone⟩, room, by simpa using none⟩
        · rintro ⟨rfl, -⟩
          rfl

def onOpen (env : Env) (c : Core) (f : Frame) : Core :=
  let { key, flags, .. } := decodeKeyPayload f.payload
  match c.judgeOpen env key flags with
  | .final => c.notifyClose env f.id (some reasonFinal)
  | .transient => c.notifyClose env f.id none
  | .accepted name =>
    let r := c.server.sessions.next
    let c := { c with
      server.sessions := c.server.sessions.alloc { id := f.id, announced := key }
      server.table := c.server.table.set f.id r }
    match name with
    | .l2cap =>
      let c := c.setSession r fun s => { s with pipeTimer := some (env.now + pipePendingTimeout) }
      c.notifyHello env f.id (encodeKeyPayload env.cfg.publicKey pipeL2cap c.server.psm)
    | .gatt => (c.openServer env r).notifyHello env f.id env.cfg.publicKey

def onServerFrame (env : Env) (c : Core) (data : Bytes) : Core :=
  match decodeFrame (some data) with
  | none => c
  | some f =>
    match c.server.table.get? f.id with
    | none => if f.type = typeOpen then c.onOpen env f else c
    | some r =>
      if f.type = typeData then
        match (c.session r).stream with
        -- gatt data on a session awaiting its l2cap channel is a protocol violation
        | none => c.closeServerSession env f.id
        | some st => c.receive st .gatt f.payload
      else if f.type = typeClose then
        let stream := (c.session r).stream
        let c := c.reapSession env f.id r
        match stream with
        | some st => c.remoteEnd st
        | none => c
      else c

/-- A batch of write requests: each with its data and whether it needs a response. -/
def onWriteRequests (env : Env) (c : Core) (requests : List (Bytes × Bool)) : Core :=
  requests.foldl
    (fun c req =>
      let c := if req.2 then c.issue .respondToRequest else c
      if env.life.suspended then c else c.onServerFrame env req.1) c

/-- The callback of a session's pipe timer. -/
def onPipeTimeout (env : Env) (c : Core) (r : Ref) : Core :=
  match (c.session r).pipeTimer with
  | none => c
  | some deadline =>
    if env.now < deadline then c
    else
      let c := c.setSession r fun s => { s with pipeTimer := none }
      let id := (c.session r).id
      if c.server.table.get? id ≠ some r || (c.session r).stream.isSome then c
      else { c with server.table := c.server.table.delete id }.notifyClose env id none

/-! Incoming L2CAP channels. -/

def setAcceptor (c : Core) (a : Ref) (f : Acceptor → Acceptor) : Core :=
  { c with server.acceptors := c.server.acceptors.modify a f }

def addReader (c : Core) (ch : Ref) (reader : Reader) : Core :=
  { c with server.readers :=
    Function.update c.server.readers ch (c.server.readers ch ++ [reader]) }

def removeReader (c : Core) (ch : Ref) (reader : Reader) : Core :=
  { c with server.readers :=
    Function.update c.server.readers ch ((c.server.readers ch).erase reader) }

/-- `acceptServer` up to its await: `readIdPreamble` owns the channel's data. -/
def acceptServer (env : Env) (c : Core) (ch : Ref) : Core :=
  let a := c.server.acceptors.next
  let c := { c with
    server.acceptors := c.server.acceptors.alloc
      { channel := ch, timer := some (env.now + env.cfg.timeout) } }
  c.addReader ch (.preamble a)

def onServerChannel (env : Env) (c : Core) (ch : Ref) : Core :=
  if env.halted then c.issue (.destroyChannel ch) else c.acceptServer env ch

/-- `finish` of `readIdPreamble`. -/
def finishPreamble (c : Core) (a : Ref) (id : Option Hex) (rest : Bytes) : Core :=
  let c := c.removeReader (c.server.acceptors.get a).channel (.preamble a)
  c.setAcceptor a fun acceptor => { acceptor with timer := none, result := some (id, rest) }

/-- One 'data' listener of a channel runs. -/
def readData (c : Core) (reader : Reader) (data : Bytes) : Core :=
  match reader with
  | .preamble a =>
    let buf := (c.server.acceptors.get a).buf ++ data
    let c := c.setAcceptor a fun acceptor => { acceptor with buf := buf }
    if sidLen ≤ buf.length then c.finishPreamble a (some (toHex (buf.take sidLen))) (buf.drop sidLen)
    else c
  | .stream st => c.receive st .l2cap data

/-- A 'data' event reaches the listeners that are registered when it is emitted. -/
def onChannelData (c : Core) (ch : Ref) (data : Bytes) : Core :=
  (c.server.readers ch).foldl (fun c reader => c.readData reader data) c

/-- The deadline of a preamble passes. -/
def onPreambleTimeout (env : Env) (c : Core) (a : Ref) : Core :=
  match (c.server.acceptors.get a).timer with
  | none => c
  | some deadline => if env.now < deadline then c else c.finishPreamble a none []

/-- The end of `acceptServer`: a stream takes the channel over for the session. -/
def takeOver (env : Env) (c : Core) (r ch : Ref) (rest : Bytes) : Core :=
  let st := c.streams.next
  let c := { c with
    streams := c.streams.alloc { pipe := .l2cap, owner := .server r, channel := some ch } }
  let c := (c.addReader ch (.stream st)).bindServerStream env r st
  if rest.length ≠ 0 then c.receive st .l2cap rest else c

/-- `acceptServer` after its await. -/
def resumeAccept (env : Env) (c : Core) (a : Ref) : Core :=
  let acceptor := c.server.acceptors.get a
  match acceptor.result with
  | none => c
  | some (id, rest) =>
    if acceptor.resumed then c
    else
      let c := c.setAcceptor a fun acceptor => { acceptor with resumed := true }
      match id.bind c.server.table.get? with
      | none => c.issue (.destroyChannel acceptor.channel)
      | some r =>
        if (c.session r).stream.isSome then c.issue (.destroyChannel acceptor.channel)
        else c.takeOver env r acceptor.channel rest

/-- Run a handler for every stream that reads a channel. -/
def forReaders (c : Core) (ch : Ref) (handler : Core → Ref → Core) : Core :=
  (c.server.readers ch).foldl
    (fun c reader => match reader with
      | .preamble _ => c
      | .stream st => handler c st) c

/-- A channel signals its end to the stream that reads it. -/
def onChannelEnd (c : Core) (ch : Ref) : Core := c.forReaders ch remoteEnd

/-- A channel closes or fails: the stream on it is destroyed, the central forgets it. -/
def onChannelClose (c : Core) (ch : Ref) : Core :=
  let c := c.forReaders ch destroyStream
  let forget := fun (channels : OrderedMap PeripheralId Ref) (e : PeripheralId × Ref) =>
    if e.2 = ch then channels.delete e.1 else channels
  { c with central.channels := c.central.channels.entries.foldl forget c.central.channels }

end BleSwarm.Core
