import BleSwarm.Transport.Lifecycle
import BleSwarm.Lib.Runs

/-!
# The transport as a state machine

A step is one callback run up to its next await. `Event` lists what the native
layer, the streams, the timers and the promise continuations deliver; `Action`
adds the calls of the owner.
-/

namespace BleSwarm

/-- How many times each handler is registered on a peripheral object. Those of
'servicesDiscover', 'characteristicsDiscover' and 'notifyState' run once. -/
structure Listeners where
  error : Nat := 0
  servicesDiscover : Nat := 0
  characteristicsDiscover : Nat := 0
  notifyState : Nat := 0
  notify : Nat := 0
  mtuChanged : Nat := 0

/-- A `BLETransport`. -/
structure Transport where
  cfg : Config
  life : Life := {}
  listeners : Ref → Listeners := fun _ => {}
  core : Core

inductive Event
  -- server manager
  | serverState (s : AdapterState)
  | serviceAdd
  | writeRequests (requests : List (Bytes × Bool))
  | readyToUpdate
  | channelPublish (psm : Nat)
  | serverChannel (ch : Ref)
  -- central manager
  | centralState (s : AdapterState)
  | discover (p : Ref) (rssi : Option Int)
  | connect (p : Ref)
  | centralError (ended : Bool)
  -- peripherals
  | peripheralError (p : Ref)
  | servicesDiscover (p : Ref) (found : Bool)
  | characteristicsDiscover (p : Ref) (found : Bool)
  | notifyState (p : Ref) (isNotifying : Bool)
  | notify (p : Ref) (data : Bytes)
  | mtuChanged (p : Ref) (mtu : Nat)
  | channelOpen (p : Ref) (channel : Option Ref)
  -- channels and streams
  | channelData (ch : Ref) (data : Bytes)
  | channelEnd (ch : Ref)
  | channelClose (ch : Ref)
  | streamClose (st : Ref)
  | connOpen (r : Ref) (remotePublicKey : Bytes)
  | connClose (r : Ref)
  -- timers
  | scanTimer
  | dialTimer
  | dialTimeout (id : PeripheralId)
  | strayTimeout (i : Nat)
  | pipeTimeout (session : Ref)
  | openTimeout (attempt : Ref)
  | preambleTimeout (acceptor : Ref)
  | notifyRetry
  -- continuations
  | resumeOpen (attempt : Ref)
  | resumeAccept (acceptor : Ref)

/-- An event, the time at which its callback runs and what the native layer does then. -/
structure Input where
  now : Nat
  native : Native := {}
  event : Event

/-- The owner's calls and the steps that complete them. -/
inductive Action
  | input (i : Input)
  | open (server central : AdapterState) (now : Nat)
  | suspend (now : Nat) (native : Native)
  | drained (call : Nat) (now : Nat) (native : Native)
  | resume (now : Nat)
  | close (now : Nat)
  | setOnline (online : Bool) (now : Nat)
  | setTopic (topic : Option Bytes)

namespace Transport

/-- A transport as constructed: no managers yet, tuned to `topic`. The peripheral
objects of the native layer are given with their identities. -/
def create (cfg : Config) (topic : Option Bytes) (online : Bool) (ids : Ref → PeripheralId) :
    Transport where
  cfg
  core :=
    { radio := { discoveryUUID := cfg.toServiceUUID topic, online }
      central := { peripherals := fun p => { id := ids p } } }

def env (t : Transport) (now : Nat) (native : Native := {}) : Env :=
  { cfg := t.cfg, life := t.life, now, native }

def setListeners (t : Transport) (p : Ref) (f : Listeners → Listeners) : Transport :=
  { t with listeners := Function.update t.listeners p (f (t.listeners p)) }

/-- Run a handler on the core. -/
def withCore (t : Transport) (f : Core → Core) : Transport := { t with core := f t.core }

/-- `_onConnect` registers its handlers afresh on whatever object it is handed. -/
def onConnect (t : Transport) (p : Ref) : Transport :=
  (t.setListeners p fun l =>
    { l with
      error := l.error + 1
      servicesDiscover := l.servicesDiscover + 1
      characteristicsDiscover := l.characteristicsDiscover + 1
      notifyState := l.notifyState + 1 }).withCore fun c => c.onConnect p

/-- `_startCentralSession` registers the handlers of the session. -/
def startCentralSession (env : Env) (t : Transport) (p : Ref) : Transport :=
  (t.setListeners p fun l => { l with notify := l.notify + 1, mtuChanged := l.mtuChanged + 1 }).withCore
    fun c => c.startCentralSession env p

/-- One 'notifyState' listener runs. -/
def onNotifyState (env : Env) (t : Transport) (p : Ref) (isNotifying : Bool) : Transport :=
  if isNotifying then t.startCentralSession env p else t.withCore fun c => c.abortDial env p

/-- The handlers that change nothing but the core. -/
def coreHandler (env : Env) (c : Core) : Event → Core
  | .serverState s => c.onServerState env s
  | .serviceAdd => c.onServiceAdd
  | .writeRequests requests => c.onWriteRequests env requests
  | .readyToUpdate => { c with gatt := c.gatt.drain env.now }
  | .channelPublish psm => { c with server.psm := some psm }
  | .serverChannel ch => c.onServerChannel env ch
  | .centralState s => c.onCentralState env s
  | .discover p rssi => (c.setPeripheral p fun q => { q with rssi := rssi }).onDiscover env p
  | .centralError ended => c.onCentralError ended
  | .channelOpen p channel => c.onChannelOpen p channel
  | .channelData ch data => c.onChannelData ch data
  | .channelEnd ch => c.onChannelEnd ch
  | .channelClose ch => c.onChannelClose ch
  | .streamClose st => c.onStreamClose env st
  | .connOpen r key => c.onConnOpen env r key
  | .connClose r => c.onConnClose env r
  | .scanTimer =>
    match c.radio.scanTimer with
    | some deadline => if env.now < deadline then c else c.onScanTimer env
    | none => c
  | .dialTimer =>
    match c.dial.dialTimer with
    | some deadline => if env.now < deadline then c else c.onDialTimer env
    | none => c
  | .dialTimeout id => c.onDialTimeout env id
  | .strayTimeout i => c.onStrayTimeout env i
  | .pipeTimeout r => c.onPipeTimeout env r
  | .openTimeout a => c.onOpenTimeout env a
  | .preambleTimeout a => c.onPreambleTimeout env a
  | .notifyRetry => { c with gatt := c.gatt.onRetry env.now }
  | .resumeOpen a => c.resumeOpen env a
  | .resumeAccept a => c.resumeAccept env a
  | _ => c

/-- An event runs the handlers that are registered for it when it is emitted. -/
def handle (env : Env) (t : Transport) : Event → Transport
  | .connect p => t.onConnect p
  | .peripheralError p =>
    t.withCore fun c => (fun c => c.onPeripheralError env p)^[(t.listeners p).error] c
  | .servicesDiscover p found =>
    (t.setListeners p fun l => { l with servicesDiscover := 0 }).withCore fun c =>
      (fun c => c.onServicesDiscover env p found)^[(t.listeners p).servicesDiscover] c
  | .characteristicsDiscover p found =>
    (t.setListeners p fun l => { l with characteristicsDiscover := 0 }).withCore fun c =>
      (fun c => c.onCharacteristicsDiscover env p found)^[(t.listeners p).characteristicsDiscover] c
  | .notifyState p isNotifying =>
    (fun t => onNotifyState env t p isNotifying)^[(t.listeners p).notifyState]
      (t.setListeners p fun l => { l with notifyState := 0 })
  | .notify p data =>
    t.withCore fun c => (fun c => c.onCentralNotify env p data)^[(t.listeners p).notify] c
  | .mtuChanged p mtu =>
    t.withCore fun c => (fun c => c.onMtuChanged env p mtu)^[(t.listeners p).mtuChanged] c
  | e => t.withCore fun c => coreHandler env c e

/-- Start a callback: what it issues is collected afresh. -/
def begin (t : Transport) (native : Native) : Transport :=
  t.withCore fun c => { c with out := [], gatt := { c.gatt with outcomes := native.updateValue } }

/-- Deliver an event. Before `_open` nothing is listening. -/
def input (t : Transport) (i : Input) : Transport :=
  let t := t.begin i.native
  if t.life.opened then t.handle (t.env i.now i.native) i.event else t

def suspend (t : Transport) (now : Nat) (native : Native) : Transport :=
  let t := t.begin native
  let t := { t with life.suspended := true }
  let t := t.withCore fun c => c.beginSuspend (t.env now native)
  { t with
    life.drains := t.life.drains ++ [t.life.nextDrain]
    life.nextDrain := t.life.nextDrain + 1 }

/-- The goodbye drain of a `suspend()` call ends. -/
def drained (t : Transport) (call : Nat) (now : Nat) (native : Native) : Transport :=
  let t := t.begin native
  if call ∈ t.life.drains then
    { t.withCore (fun c => c.teardown (t.env now native)) with
      life.drains := t.life.drains.erase call }
  else t

def resume (t : Transport) (now : Nat) : Transport :=
  let t := t.begin {}
  let t := { t with life.suspended := false }
  if t.life.closing || t.life.closed then t
  else t.withCore fun c => c.doResume (t.env now)

/-- `_close`, which `close()` runs at once when the transport is open. -/
def runClose (t : Transport) (now : Nat) : Transport :=
  { t.withCore (fun c => c.doClose (t.env now)) with life.closed := true }

def close (t : Transport) (now : Nat) : Transport :=
  let t := t.begin {}
  if t.life.closing then t
  else
    let t := { t with life.closing := true }
    if t.life.opened then t.runClose now else t

/-- `_open`, once `ready()` gets to it. -/
def runOpen (t : Transport) (server central : AdapterState) (now : Nat) : Transport :=
  let t := t.begin {}
  if t.life.opened then t
  else
    let t := { t with life.opened := true }
    let t := t.withCore fun c => c.doOpen (t.env now) server central
    -- a close that came first waits for the opening
    if t.life.closing then t.runClose now else t

def setOnline (t : Transport) (online : Bool) (now : Nat) : Transport :=
  let t := t.begin {}
  t.withCore fun c => c.setOnline (t.env now) online

def setTopic (t : Transport) (topic : Option Bytes) : Transport × Bool :=
  let t := t.begin {}
  let (core, changed) := t.core.setTopic (t.env 0) topic
  ({ t with core }, changed)

def destroyManagers (t : Transport) : Transport :=
  { t.begin {} with life.managersDestroyed := true }

def removeServices (t : Transport) : Transport :=
  { t.begin {} with life.servicesRemoved := true }

def act (t : Transport) : Action → Transport
  | .input i => t.input i
  | .open server central now => t.runOpen server central now
  | .suspend now native => t.suspend now native
  | .drained call now native => t.drained call now native
  | .resume now => t.resume now
  | .close now => t.close now
  | .setOnline online now => t.setOnline online now
  | .setTopic topic => (t.setTopic topic).1

end Transport

end BleSwarm
