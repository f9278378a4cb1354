import BleSwarm.Transport.Scan
import Mathlib.Data.List.Sort

/-!
# Dial policy

Per-peripheral dial records with their backoff, the rate-limited candidate set,
and the ends of a dial.
-/

namespace BleSwarm.Core

/-- `_device(id)`, the record made on demand, updated in place. -/
def updateDevice (c : Core) (id : PeripheralId) (f : Device → Device) : Core :=
  { c with dial.devices := c.dial.devices.set id (f ((c.dial.devices.get? id).getD {})) }

/-- Update the record of a peripheral that has one. -/
def modifyDevice (c : Core) (id : PeripheralId) (f : Device → Device) : Core :=
  { c with dial.devices := c.dial.devices.modify id f }

def prune (c : Core) (id : PeripheralId) : Core :=
  match c.dial.devices.get? id with
  | none => c
  | some d =>
    if d.timer.isNone && !d.linked && d.coolUntil == 0 && d.failures == 0 &&
        d.peerKey.isNone && d.peripheral.isNone then
      { c with dial.devices := c.dial.devices.delete id }
    else c

def clearDial (c : Core) (id : PeripheralId) : Core :=
  (c.modifyDevice id fun d => { d with timer := none }).prune id

def clearDeviceTimers (c : Core) : Core :=
  { c with
    dial.devices := c.dial.devices.keys.foldl
      (fun devices id => devices.modify id fun d => { d with timer := none }) c.dial.devices
    dial.dialTimer := none
    dial.candidates := ∅ }

def disconnect (c : Core) (p : Ref) : Core := c.issue (.disconnect p)

def abortDial (env : Env) (c : Core) (p : Ref) : Core :=
  let id := (c.peripheral p).id
  let base := if c.linked then dialCooldownBase else dialCooldownBaseLonely
  let c := c.updateDevice id fun d =>
    let failures := d.failures + 1
    { d with
      failures := failures
      coolUntil := env.now + min dialCooldownMax (base * Nat.pow 2 (min 4 (failures - 1)))
      peripheral := none }
  ((c.clearDial id).disconnect p).startScan env

/-- The guards of `_onDiscover` that read the peripheral's record. -/
def undialable (env : Env) (c : Core) (id : PeripheralId) : Bool :=
  match c.dial.devices.get? id with
  | none => false
  | some d =>
    d.linked ||
      (match d.peerKey with
        | some key => (c.links.peers.get? key).isSome
        | none => false) ||
      decide (env.now < d.coolUntil) || d.timer.isSome

/-- Hold a rate-limited discovery for the next dial window. -/
def hold (c : Core) (p : Ref) (deadline : Nat) : Core :=
  let c := { c with dial.candidates := c.dial.candidates.set (c.peripheral p).id p }
  if c.dial.dialTimer.isSome then c else { c with dial.dialTimer := some deadline }

def dialPeripheral (env : Env) (c : Core) (p : Ref) : Core :=
  let c := { c with dial.lastDial := env.now }
  let c := c.updateDevice (c.peripheral p).id fun d =>
    { d with timer := some (p, env.now + connectTimeout) }
  let c := c.stopScan.issue (.connect p)
  if env.native.connectThrows then c.abortDial env p else c

def onDiscover (env : Env) (c : Core) (p : Ref) : Core :=
  if env.halted then c
  else if c.undialable env (c.peripheral p).id then c
  else if env.cfg.maxOutbound ≤ c.links.peers.size then c
  else
    let wait : Int := (dialMinInterval : Int) - ((env.now : Int) - c.dial.lastDial)
    if 0 < wait then c.hold p (env.now + wait.toNat) else c.dialPeripheral env p

/-- `rssi ?? -100`. -/
def signal (c : Core) (p : Ref) : Int := ((c.peripheral p).rssi).getD (-100)

/-- Strongest signal first; ties keep the order in which they were held. -/
def flushCandidates (env : Env) (c : Core) : Core :=
  let held := c.dial.candidates.values.insertionSort fun a b => c.signal b ≤ c.signal a
  held.foldl (onDiscover env) { c with dial.candidates := ∅ }

/-- The callback of the dial-window timer. -/
def onDialTimer (env : Env) (c : Core) : Core :=
  { c with dial.dialTimer := none }.flushCandidates env

/-- The dial timer of a peripheral fires. -/
def onDialTimeout (env : Env) (c : Core) (id : PeripheralId) : Core :=
  match (c.dial.devices.get? id).bind Device.timer with
  | some (p, deadline) => if deadline ≤ env.now then c.abortDial env p else c
  | none => c

/-- The timer of a dial whose record is gone fires. -/
def onStrayTimeout (env : Env) (c : Core) (i : Nat) : Core :=
  match c.dial.strays[i]? with
  | some (p, deadline) =>
    if deadline ≤ env.now then { c with dial.strays := c.dial.strays.eraseIdx i }.abortDial env p
    else c
  | none => c

/-- The central reports an error that ends a connect; it names no peripheral. -/
def onCentralError (c : Core) (ended : Bool) : Core :=
  if ended then
    c.dial.devices.entries.foldl
      (fun c e => if e.2.timer.isSome then c.clearDial e.1 else c) c
  else c

end BleSwarm.Core
