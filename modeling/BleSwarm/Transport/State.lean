import BleSwarm.Gatt.NotifyQueue
import BleSwarm.Links

/-!
# The state of a transport

`Core` is what the event handlers read and write. What they only read (the
options, the lifecycle flags, the clock, what the native layer answers) is the
`Env` they run in, so that no handler but the lifecycle calls can change it.
-/

namespace BleSwarm

/-- What the handlers ask of the native layer and tell their owner, in order. -/
inductive Command
  | startScan (uuid : Hex)
  | stopScan
  | startAdvertising (uuid : Hex)
  | stopAdvertising
  | addService (uuid : Hex)
  | publishChannel
  | unpublishChannel (psm : Nat)
  | respondToRequest
  | connect (peripheral : Ref)
  | disconnect (peripheral : Ref)
  | discoverServices (peripheral : Ref)
  | discoverCharacteristics (peripheral : Ref)
  | subscribe (peripheral : Ref)
  | requestMtu (peripheral : Ref) (mtu : Nat)
  | openL2CAPChannel (peripheral : Ref) (psm : Nat)
  /-- A frame handed to the write chain of the peripheral. -/
  | send (peripheral : Ref) (frame : Bytes) (withResponse : Bool)
  | writeChannel (channel : Ref) (data : Bytes)
  | destroyChannel (channel : Ref)
  | emitUpdate
  | emitRadioCycled
  deriving DecidableEq

/-- The per-peripheral dial state, under the peripheral's id. -/
structure Device where
  /-- The dial timer: the peripheral its callback aborts and its deadline. -/
  timer : Option (Ref × Nat) := none
  linked : Bool := false
  coolUntil : Nat := 0
  failures : Nat := 0
  peerKey : Option Hex := none
  peripheral : Option Ref := none

/-- A native peripheral object, with the slots the transport keeps on it. -/
structure Peripheral where
  id : PeripheralId
  rssi : Option Int := none
  /-- `_session`. -/
  session : Option Ref := none
  /-- `_stream`. -/
  stream : Option Ref := none
  /-- `_conn`. -/
  conn : Option Ref := none
  /-- `_char` is set. -/
  char : Bool := false
  /-- `_mtu`, 0 while undefined. -/
  mtu : Nat := 0

/-- A central session: an OPEN that was sent and not yet given up. -/
structure CentralSession where
  id : Hex
  upgrading : Bool := false

/-- One call of `_openChannel`, up to the code that awaits it. -/
structure OpenAttempt where
  peripheral : Ref
  session : Ref
  /-- The key of the HELLO that started the attempt (for statements only). -/
  announced : Bytes
  /-- The 'channelOpen' listener is registered. -/
  listening : Bool := true
  /-- The deadline of the open timer. -/
  timer : Option Nat
  /-- What `finish` resolved with, once done. -/
  result : Option (Option Ref) := none
  resumed : Bool := false

/-- A server session. -/
structure ServerSession where
  id : Hex
  stream : Option Ref := none
  conn : Option Ref := none
  /-- The deadline of the pipe timer. -/
  pipeTimer : Option Nat := none
  /-- The key of the OPEN that was accepted (for statements only). -/
  announced : Bytes := []

/-- One call of `acceptServer`: the preamble read so far, then what it resolved with. -/
structure Acceptor where
  channel : Ref
  buf : Bytes := []
  timer : Option Nat
  result : Option (Option Hex × Bytes) := none
  resumed : Bool := false

/-- Whose 'close' handler a stream carries. -/
inductive Owner
  | server (session : Ref)
  | central (peripheral session : Ref)
  deriving DecidableEq

/-- A `GattStream` or `L2CapStream`. -/
structure Stream where
  pipe : Pipe
  owner : Owner
  channel : Option Ref := none
  maxPayload : Option Nat := none
  /-- The chunks pushed into the stream and the carrier each came by. -/
  received : List (Pipe × Bytes) := []
  ended : Bool := false
  destroyed : Bool := false
  closed : Bool := false

/-- A 'data' listener of an L2CAP channel. -/
inductive Reader
  | preamble (acceptor : Ref)
  | stream (stream : Ref)
  deriving DecidableEq

instance : Inhabited CentralSession := ⟨{ id := [] }⟩
instance : Inhabited OpenAttempt :=
  ⟨{ peripheral := 0, session := 0, announced := [], listening := false, timer := none }⟩
instance : Inhabited ServerSession := ⟨{ id := [] }⟩
instance : Inhabited Acceptor := ⟨{ channel := 0, timer := none }⟩
instance : Inhabited Stream := ⟨{ pipe := .gatt, owner := .server 0 }⟩

/-- Scanning, advertising and the adapter. -/
structure Radio where
  state : AppState := .off
  serverState : AdapterState := .unknown
  centralState : AdapterState := .unknown
  discoveryUUID : Hex
  scanning : Bool := false
  advertising : Bool := false
  serviceAdded : Bool := false
  scanTimer : Option Nat := none
  huntUntil : Nat := 0
  online : Bool := false
  radioWasDown : Bool := false
  radioCycled : Bool := false
  healing : Bool := false

/-- Outbound dials. -/
structure Dial where
  devices : OrderedMap PeripheralId Device := ∅
  /-- Rate-limited discoveries held for the next dial window. -/
  candidates : OrderedMap PeripheralId Ref := ∅
  dialTimer : Option Nat := none
  lastDial : Nat := 0
  /-- Dial timers that are armed though their records are gone: the peripherals that the
  callbacks abort and the deadlines. No handle to them is left. -/
  strays : List (Ref × Nat) := []

/-- The central side: peripheral objects, sessions on them and channels being opened. -/
structure Central where
  peripherals : Ref → Peripheral
  sessions : Heap CentralSession := ⟨fun _ => default, 0⟩
  attempts : Heap OpenAttempt := ⟨fun _ => default, 0⟩
  /-- `_centralChannels`. -/
  channels : OrderedMap PeripheralId Ref := ∅

/-- The server side: the session table, the published listener, channels coming in. -/
structure Server where
  /-- `_sessions`. -/
  table : OrderedMap Hex Ref := ∅
  sessions : Heap ServerSession := ⟨fun _ => default, 0⟩
  cyclePending : Bool := false
  psm : Option Nat := none
  acceptors : Heap Acceptor := ⟨fun _ => default, 0⟩
  /-- The 'data' listeners of each L2CAP channel, of either side. -/
  readers : Ref → List Reader := fun _ => []

structure Core where
  radio : Radio
  dial : Dial := {}
  central : Central
  server : Server := {}
  gatt : NotifyQueue := {}
  links : Links := {}
  streams : Heap Stream := ⟨fun _ => default, 0⟩
  out : List Command := []

/-- The lifecycle flags of a transport. -/
structure Life where
  suspended : Bool := false
  closing : Bool := false
  closed : Bool := false
  /-- `_open` has run: the native managers exist. -/
  opened : Bool := false
  managersDestroyed : Bool := false
  servicesRemoved : Bool := false
  /-- The `suspend()` calls that still await their goodbye drain. -/
  drains : List Nat := []
  nextDrain : Nat := 0

/-- What the native layer does during one callback. -/
structure Native where
  connectThrows : Bool := false
  openThrows : Bool := false
  preambleThrows : Bool := false
  updateValue : List UpdateOutcome := []

structure Env where
  cfg : Config
  life : Life
  now : Nat
  native : Native := {}

namespace Env

/-- Not accepting new work: torn down or radio paused. -/
def halted (env : Env) : Bool :=
  env.life.suspended || env.life.closing || env.life.closed

end Env

namespace Core

def issue (c : Core) (command : Command) : Core := { c with out := c.out ++ [command] }

/-- Some link is live. -/
def linked (c : Core) : Bool := 0 < c.links.peers.size

/-- In-flight outbound dials. -/
def connecting (c : Core) : Nat := (c.dial.devices.values.filter (fun d => d.timer.isSome)).length

def isDialing (c : Core) : Bool := 0 < c.connecting

def peripheral (c : Core) (p : Ref) : Peripheral := c.central.peripherals p

def setPeripheral (c : Core) (p : Ref) (f : Peripheral → Peripheral) : Core :=
  { c with central.peripherals := Function.update c.central.peripherals p (f (c.peripheral p)) }

def setStream (c : Core) (st : Ref) (f : Stream → Stream) : Core :=
  { c with streams := c.streams.modify st f }

/-- `stream.destroy()`; the 'close' event follows later. -/
def destroyStream (c : Core) (st : Ref) : Core :=
  c.setStream st fun s => { s with destroyed := true }

/-- Push a chunk into a stream that arrived by the carrier `via`. -/
def receive (c : Core) (st : Ref) (via : Pipe) (chunk : Bytes) : Core :=
  c.setStream st fun s => { s with received := s.received ++ [(via, chunk)] }

def remoteEnd (c : Core) (st : Ref) : Core :=
  c.setStream st fun s => { s with ended := true }

def setSession (c : Core) (r : Ref) (f : ServerSession → ServerSession) : Core :=
  { c with server.sessions := c.server.sessions.modify r f }

def session (c : Core) (r : Ref) : ServerSession := c.server.sessions.get r

@[simp] theorem setSession_self (c : Core) (r : Ref) (f : ServerSession → ServerSession) :
    (c.setSession r f).session r = f (c.session r) := c.server.sessions.modify_get_self r f

theorem setSession_of_ne (c : Core) {r k : Ref} (f : ServerSession → ServerSession) (ne : k ≠ r) :
    (c.setSession r f).session k = c.session k := c.server.sessions.modify_get_of_ne f ne

/-- A view of sessions that the update keeps is kept of all. -/
theorem setSession_view {β : Type*} (c : Core) (r k : Ref) {f : ServerSession → ServerSession}
    (view : ServerSession → β) (keep : ∀ s, view (f s) = view s) :
    view ((c.setSession r f).session k) = view (c.session k) :=
  c.server.sessions.modify_get_view r k f view keep

/-- One update of many sessions touches nothing else. -/
theorem foldl_setSession (c : Core) (f : ServerSession → ServerSession) (rs : List Ref) :
    rs.foldl (fun c r => c.setSession r f) c =
      { c with server.sessions := rs.foldl (fun h r => h.modify r f) c.server.sessions } := by
  induction rs generalizing c with
  | nil => rfl
  | cons r rs ih => exact ih (c.setSession r f)

def setCentralSession (c : Core) (r : Ref) (f : CentralSession → CentralSession) : Core :=
  { c with central.sessions := c.central.sessions.modify r f }

end Core

end BleSwarm
