import BleSwarm.Transport.Server

/-!
# The central side

A dialed peripheral is asked for the data characteristic, an OPEN is sent and
the server's HELLO or CLOSE decides; the chosen pipe then binds a stream.
-/

namespace BleSwarm.Core

def send (c : Core) (p : Ref) (frame : Bytes) (withResponse : Bool) : Core :=
  c.issue (.send p frame withResponse)

def sendClose (c : Core) (p : Ref) (id : Hex) : Core :=
  c.send p (encodeFrame typeClose id []) true

def sendOpen (c : Core) (p : Ref) (id : Hex) (payload : Bytes) : Core :=
  c.send p (encodeFrame typeOpen id payload) true

def closeSession (c : Core) (p : Ref) : Option Ref → Core
  | some s => c.sendClose p (c.central.sessions.get s).id
  | none => c

/-- End a probe session before the handshake. A session that is given is closed
first; `keep` leaves the shared radio link up. -/
def endCentral (env : Env) (c : Core) (p : Ref) (sess : Option Ref) (keep : Bool) : Core :=
  let c := c.closeSession p sess
  let c := c.setPeripheral p fun q => { q with session := none }
  let id := (c.peripheral p).id
  let c := c.updateDevice id fun d =>
    { d with coolUntil := env.now + dialCooldownMax, peripheral := if keep then some p else none }
  let c := c.clearDial id
  let c := if keep then c else c.disconnect p
  c.startScan env

/-- The part of `_onConnect` behind the listeners it registers. -/
def onConnect (c : Core) (p : Ref) : Core :=
  (c.updateDevice (c.peripheral p).id fun d => { d with peripheral := some p }).issue
    (.discoverServices p)

/-- One 'error' listener of a peripheral runs. -/
def onPeripheralError (env : Env) (c : Core) (p : Ref) : Core :=
  match (c.peripheral p).session with
  -- the open's own deadline covers a dead link
  | some s => if (c.central.sessions.get s).upgrading then c else c.abortDial env p
  | none => c.abortDial env p

def onServicesDiscover (env : Env) (c : Core) (p : Ref) (found : Bool) : Core :=
  if found then c.issue (.discoverCharacteristics p) else c.abortDial env p

def onCharacteristicsDiscover (env : Env) (c : Core) (p : Ref) (found : Bool) : Core :=
  if found then c.issue (.subscribe p) else c.abortDial env p

/-- The part of `_startCentralSession` behind the listeners it registers. -/
def startCentralSession (env : Env) (c : Core) (p : Ref) : Core :=
  let s := c.central.sessions.next
  let id := env.cfg.randomId s
  let c := { c with central.sessions := c.central.sessions.alloc { id } }
  let c := c.setPeripheral p fun q => { q with session := some s, char := true }
  let c := c.sendOpen p id (encodeKeyPayload env.cfg.publicKey env.cfg.capabilities none)
  c.issue (.requestMtu p requestMtu)

/-- One 'mtuChanged' listener runs. -/
def onMtuChanged (env : Env) (c : Core) (p : Ref) (mtu : Nat) : Core :=
  let c := c.setPeripheral p fun q => { q with mtu := mtu }
  match (c.peripheral p).stream with
  | some st => c.setStream st fun s => { s with maxPayload := env.cfg.getMaxPayload mtu }
  | none => c

def bindCentralStream (env : Env) (c : Core) (p st : Ref) (announced : Bytes) : Core :=
  let c := c.setPeripheral p fun q => { q with stream := some st }
  let id := (c.peripheral p).id
  let c := c.clearDial id
  let (c, conn) := c.onChannel env st true (some id) announced
  c.setPeripheral p fun q => { q with conn := conn }

/-- The 'close' handler that `_bindCentralStream` puts on its stream. -/
def onCentralStreamClose (c : Core) (p sess : Ref) : Core :=
  let c := c.sendClose p (c.central.sessions.get sess).id
  -- iOS reuses peripheral objects across reconnects
  let c := c.setPeripheral p fun q => { q with stream := none, session := none }
  let c := c.modifyDevice (c.peripheral p).id fun d => { d with peripheral := none }
  c.disconnect p

/-- An L2CAP stream destroys its channel. -/
def destroyOwnChannel (c : Core) (st : Ref) : Core :=
  match (c.streams.get st).channel with
  | some ch => c.issue (.destroyChannel ch)
  | none => c

/-- The 'close' handler of a stream, after an L2CAP stream destroyed its channel. -/
def onStreamClose (env : Env) (c : Core) (st : Ref) : Core :=
  let s := c.streams.get st
  if st < c.streams.next && !s.closed then
    let c := (c.setStream st fun s => { s with closed := true }).destroyOwnChannel st
    match s.owner with
    | .server r => c.closeServerSession env (c.session r).id
    | .central p sess => c.onCentralStreamClose p sess
  else c

/-- The `send` of a gatt stream, which `_write` calls with each fragment. -/
def sendFragment (env : Env) (c : Core) (st : Ref) (payload : Bytes) (ackWrites : Bool) : Core :=
  let s := c.streams.get st
  if st < c.streams.next && s.pipe = .gatt then
    match s.owner with
    | .server r => c.notify env (encodeFrame typeData (c.session r).id payload)
    | .central p sess =>
      c.send p (encodeFrame typeData (c.central.sessions.get sess).id payload) ackWrites
  else c

/-! Opening the pipe. -/

/-- `openCentral` of the gatt pipe. -/
def openCentralGatt (env : Env) (c : Core) (p sess : Ref) (announced : Bytes) : Core :=
  let st := c.streams.next
  let maxPayload := (env.cfg.getMaxPayload (c.peripheral p).mtu).getD defaultPayload
  let c := { c with
    streams := c.streams.alloc
      { pipe := .gatt, owner := .central p sess, maxPayload := some maxPayload } }
  c.bindCentralStream env p st announced

def setAttempt (c : Core) (a : Ref) (f : OpenAttempt → OpenAttempt) : Core :=
  { c with central.attempts := c.central.attempts.modify a f }

/-- `destroyChannel`, which ignores a missing channel. -/
def destroyChannel (c : Core) (channel : Option Ref) : Core :=
  match channel with
  | some ch => c.issue (.destroyChannel ch)
  | none => c

/-- `finish` of `_openChannel`. -/
def finishOpen (c : Core) (a : Ref) (channel : Option Ref) : Core :=
  if (c.central.attempts.get a).result.isSome then c.destroyChannel channel
  else
    c.setAttempt a fun attempt =>
      { attempt with timer := none, listening := false, result := some channel }

/-- A channel left over from an earlier session on the peripheral is destroyed. -/
def destroyStale (c : Core) (id : PeripheralId) : Core :=
  match c.central.channels.get? id with
  | some stale =>
    { c.issue (.destroyChannel stale) with central.channels := c.central.channels.delete id }
  | none => c

/-- `_openChannel`, up to the code that awaits it. -/
def openChannel (env : Env) (c : Core) (p sess : Ref) (psm : Nat) (announced : Bytes) : Core :=
  let a := c.central.attempts.next
  let c := { c with
    central.attempts := c.central.attempts.alloc
      { peripheral := p, session := sess, announced, timer := some (env.now + env.cfg.timeout) } }
  let c := c.issue (.openL2CAPChannel p psm)
  if env.native.openThrows then c.finishOpen a none else c

/-- `openCentral` of the l2cap pipe, up to its await. -/
def openCentralL2cap (env : Env) (c : Core) (p sess : Ref) (psm : Nat) (announced : Bytes) : Core :=
  let c := c.setCentralSession sess fun s => { s with upgrading := true }
  (c.destroyStale (c.peripheral p).id).openChannel env p sess psm announced

/-- The attempts on a peripheral that still listen for 'channelOpen', oldest first. -/
def openListeners (c : Core) (p : Ref) : List Ref :=
  (List.range c.central.attempts.next).filter fun a =>
    let attempt := c.central.attempts.get a
    attempt.listening && decide (attempt.peripheral = p)

/-- A peripheral emits 'channelOpen'. -/
def onChannelOpen (c : Core) (p : Ref) (channel : Option Ref) : Core :=
  (c.openListeners p).foldl
    (fun c a => (c.setAttempt a fun attempt => { attempt with listening := false }).finishOpen a
      channel) c

/-- The deadline of an open passes. -/
def onOpenTimeout (env : Env) (c : Core) (a : Ref) : Core :=
  match (c.central.attempts.get a).timer with
  | none => c
  | some deadline => if env.now < deadline then c else c.finishOpen a none

/-- `_bindCentral` of the l2cap pipe. -/
def bindCentral (env : Env) (c : Core) (p sess ch : Ref) (announced : Bytes) : Core :=
  let c := c.issue (.writeChannel ch (fromHex (c.central.sessions.get sess).id))
  if env.native.preambleThrows then c.abortDial env p
  else
    let st := c.streams.next
    let c := { c with
      streams := c.streams.alloc
        { pipe := .l2cap, owner := .central p sess, channel := some ch } }
    (c.addReader ch (.stream st)).bindCentralStream env p st announced

def setCentralChannel (c : Core) (id : PeripheralId) (channel : Option Ref) : Core :=
  match channel with
  | some ch => { c with central.channels := c.central.channels.set id ch }
  | none => c

/-- What becomes of the channel that an attempt got: it counts only for the session
that asked for it. -/
def settleOpen (env : Env) (c : Core) (attempt : OpenAttempt) (channel : Option Ref) : Core :=
  let p := attempt.peripheral
  if (c.peripheral p).session ≠ some attempt.session || env.halted then c.destroyChannel channel
  else
    match channel with
    | some ch => c.bindCentral env p attempt.session ch attempt.announced
    | none => c.abortDial env p

/-- `openCentral` of the l2cap pipe after its await. -/
def resumeOpen (env : Env) (c : Core) (a : Ref) : Core :=
  let attempt := c.central.attempts.get a
  match attempt.result with
  | none => c
  | some channel =>
    if attempt.resumed then c
    else
      let c := c.setAttempt a fun attempt => { attempt with resumed := true }
      let c := c.setCentralChannel (c.peripheral attempt.peripheral).id channel
      let c := c.settleOpen env attempt channel
      c.setCentralSession attempt.session fun s => { s with upgrading := false }

/-! Notifications from the server. -/

def onHello (env : Env) (c : Core) (p sess : Ref) (payload : Bytes) : Core :=
  if (c.peripheral p).stream.isSome || (c.central.sessions.get sess).upgrading then c
  else
    let { key, flags, psm } := decodeKeyPayload payload
    if !env.cfg.accept key then c.endCentral env p (some sess) false
    else if (c.links.peers.get? (toHex key)).isSome then
      let c := c.updateDevice (c.peripheral p).id fun d => { d with peerKey := some (toHex key) }
      c.endCentral env p (some sess) true
    else
      match env.cfg.pipeFor flags, psm with
      | none, _ => c.endCentral env p (some sess) false
      | some .l2cap, none => c.endCentral env p (some sess) false
      | some .l2cap, some psm => c.openCentralL2cap env p sess psm key
      | some .gatt, _ => c.openCentralGatt env p sess key

/-- One 'notify' listener of a peripheral runs. -/
def onCentralNotify (env : Env) (c : Core) (p : Ref) (data : Bytes) : Core :=
  match (c.peripheral p).session, decodeFrame (some data) with
  | some sess, some f =>
    if f.id ≠ (c.central.sessions.get sess).id then c
    else if f.type = typeHello then c.onHello env p sess f.payload
    else if f.type = typeData then
      match (c.peripheral p).stream with
      | some st => c.receive st .gatt f.payload
      | none => c
    else if f.type = typeClose then
      match (c.peripheral p).stream with
      | some st => (c.setPeripheral p fun q => { q with session := none }).remoteEnd st
      -- keep on a plain refusal: the tie-break peer dials back over this link
      | none => c.endCentral env p none (decodeCloseReason f.payload ≠ reasonFinal)
    else c
  | _, _ => c

end BleSwarm.Core
