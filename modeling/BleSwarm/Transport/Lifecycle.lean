import BleSwarm.Transport.Central

/-!
# Power cycles, suspend, resume and close

`suspend` sets its flag and says goodbye, awaits a short drain and only then
tears the transport down; `resume` is synchronous.
-/

namespace BleSwarm.Core

/-- Every tracked, known or negotiated thing a power cycle invalidates is reset. -/
def onRadioDown (c : Core) : Core :=
  let c := { c with
    radio := { c.radio with
      radioWasDown := true, radioCycled := true, serviceAdded := false,
      advertising := false, scanning := false } }
  let c := c.clearDeviceTimers
  let c := { c with dial.devices := ∅ }
  let c := c.destroyPeers.reapAllSessions
  { c with gatt := c.gatt.reset }

def isDown (s : AdapterState) : Bool := s = .poweredOff || s = .resetting

def onServerState (env : Env) (c : Core) (s : AdapterState) : Core :=
  let c := { c with radio.serverState := s }.onState s
  if s = .poweredOn then c.startServer env
  else if isDown s then c.onRadioDown
  else c

def onCentralState (env : Env) (c : Core) (s : AdapterState) : Core :=
  let c := { c with radio.centralState := s }.onState s
  if s = .poweredOn then
    if c.radio.radioWasDown then c.scheduleSelfHeal env else c.startScan env
  else if isDown s then c.onRadioDown
  else c

/-- Best-effort CLOSE frames to every live session. -/
def sayGoodbye (env : Env) (c : Core) : Core :=
  let c := c.server.table.keys.foldl (fun c id => c.notifyClose env id none) c
  c.dial.devices.values.foldl
    (fun c d =>
      match d.peripheral with
      | none => c
      | some p =>
        match (c.peripheral p).session with
        | some s => if (c.peripheral p).char then c.sendClose p (c.central.sessions.get s).id else c
        | none => c) c

/-- `suspend` up to its await. -/
def beginSuspend (env : Env) (c : Core) : Core :=
  ({ c with radio.scanTimer := none }.clearDeviceTimers).sayGoodbye env

def disconnectDevices (c : Core) : Core :=
  c.dial.devices.values.foldl
    (fun c d => match d.peripheral with
      | some p => c.disconnect p
      | none => c) c

/-- The records go, and the dial timers in them stay armed. -/
def dropDevices (c : Core) : Core :=
  { c with
    dial.devices := ∅
    dial.strays := c.dial.strays ++ c.dial.devices.values.filterMap Device.timer }

/-- The part of the teardown that stops scanning and advertising. -/
def silence (env : Env) (c : Core) : Core :=
  let c := c.stopScan
  let c := if env.life.opened then c.issue .stopAdvertising else c
  { c with radio.advertising := false }

/-- The part of the teardown that drops links, sessions and queued frames. -/
def forget (c : Core) : Core :=
  let c := c.destroyPeers
  let c := { c with links.peers := ∅ }
  let c := c.reapAllSessions
  { c with gatt := c.gatt.reset, server.cyclePending := false }

/-- `suspend` after its await. -/
def teardown (env : Env) (c : Core) : Core :=
  let c := c.disconnectDevices.dropDevices
  let c := (c.silence env).forget
  -- a listener that lives through destroyed channels wedges the resumed manager
  let c := if env.cfg.platform = .mac then c.unpublish env else c
  { c with radio.state := .off }.issue .emitUpdate

/-- `resume` behind its closing guard. Without managers it throws at the first
use of one, which is before anything but the flags has changed. -/
def doResume (env : Env) (c : Core) : Core :=
  let c := { c with radio.advertising := false, radio.huntUntil := env.now + huntWindow }
  if !env.life.opened then c
  else
    -- a dead session pins the old psm
    let c := if env.cfg.pipe = .l2cap then c.cycle env else c
    let c := c.maybeAdvertise.startScan env
    { c with radio.state := c.radio.centralState.toApp }.issue .emitUpdate

/-- `_open`: the managers exist from here on, in the given adapter states. -/
def doOpen (env : Env) (c : Core) (server central : AdapterState) : Core :=
  let c := { c with radio.serverState := server, radio.centralState := central }
  let c := (c.startServer env).startScan env
  { c with radio.state := .starting }

/-- `_close`. -/
def doClose (env : Env) (c : Core) : Core :=
  let c := { c with radio.scanTimer := none }.clearDeviceTimers
  let c := { c with dial.devices := ∅ }
  let c := if env.life.opened then (c.issue .stopScan).issue .stopAdvertising else c
  let c := c.destroyPeers
  let c := { c with links.peers := ∅ }
  let c := c.server.table.values.foldl
    (fun c r => c.setSession r fun s => { s with pipeTimer := none }) c
  let c := { c with server.table := ∅ }
  { c with gatt := c.gatt.reset, radio.state := .off }

end BleSwarm.Core
