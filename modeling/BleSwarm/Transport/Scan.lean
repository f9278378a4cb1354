import BleSwarm.Transport.State

/-!
# Scanning, advertising and hosting the service
-/

namespace BleSwarm.Core

/-- Scan in phases rather than continuously: linked, or online and not hunting. -/
def duty (env : Env) (c : Core) : Bool :=
  let hunting : Bool := !c.linked && decide (env.now < c.radio.huntUntil)
  c.linked || (c.radio.online && !hunting)

/-- The delay of the next scan phase. -/
def scanDelay (env : Env) (c : Core) : Nat :=
  let dark := if c.linked then scanDutyOff else scanDutyOffOnline
  if c.duty env then (if c.radio.scanning then scanDutyOn else dark) else scanRestartLonely

def armScanRestart (env : Env) (c : Core) : Core :=
  { c with radio.scanTimer := some (env.now + c.scanDelay env) }

def startScan (env : Env) (c : Core) : Core :=
  if env.halted then c
  else if c.radio.scanning || c.radio.centralState ≠ .poweredOn then c
  else
    armScanRestart env
      ({ c with radio.scanning := true }.issue (.startScan c.radio.discoveryUUID))

def stopScan (c : Core) : Core :=
  if c.radio.scanning then { c with radio.scanning := false }.issue .stopScan else c

/-- The callback of the scan timer. -/
def onScanTimer (env : Env) (c : Core) : Core :=
  let c := { c with radio.scanTimer := none }
  if env.halted then c
  -- never toggle the scan mid-dial, defer a phase
  else if c.isDialing then c.armScanRestart env
  else if c.duty env then
    if c.radio.scanning then c.stopScan.armScanRestart env else c.startScan env
  else c.stopScan.startScan env

def setOnline (env : Env) (c : Core) (online : Bool) : Core :=
  if online = c.radio.online then c
  else
    let c := { c with radio.online := online }
    -- without managers the first use of one throws
    if env.halted || !env.life.opened then c
    else if !c.radio.scanning then c.startScan env
    else c.armScanRestart env

/-- The transport's part of `setTopic`; the result says whether the uuid changed. -/
def setTopic (env : Env) (c : Core) (topic : Option Bytes) : Core × Bool :=
  let next := env.cfg.toServiceUUID topic
  if next = c.radio.discoveryUUID then (c, false)
  else ({ c with radio.discoveryUUID := next }, true)

def maybeAdvertise (c : Core) : Core :=
  if c.radio.advertising || !c.radio.serviceAdded then c
  else { c with radio.advertising := true }.issue (.startAdvertising c.radio.discoveryUUID)

/-- `publish` of the l2cap pipe. -/
def publish (env : Env) (c : Core) : Core :=
  if c.server.psm.isSome || !env.cfg.channelSupport then c else c.issue .publishChannel

/-- `unpublish` of the l2cap pipe. -/
def unpublish (env : Env) (c : Core) : Core :=
  match c.server.psm with
  | none => c
  | some psm =>
    let c := if env.cfg.channelSupport then c.issue (.unpublishChannel psm) else c
    { c with server.psm := none }

/-- Fresh listener, fresh psm. -/
def cycle (env : Env) (c : Core) : Core := (c.unpublish env).publish env

def startServer (env : Env) (c : Core) : Core :=
  if env.halted then c
  -- a power-cycled transport is about to be rebuilt, don't re-add its service
  else if env.cfg.platform = .ios && c.radio.radioWasDown then c
  else if c.radio.serverState ≠ .poweredOn then c
  else
    let c :=
      if c.radio.serviceAdded then c else c.issue (.addService (env.cfg.toServiceUUID none))
    if env.cfg.pipe = .l2cap then c.publish env else c

def onServiceAdd (c : Core) : Core := { c with radio.serviceAdded := true }.maybeAdvertise

def onState (c : Core) (raw : AdapterState) : Core :=
  if raw.toApp = c.radio.state then c
  else { c with radio.state := raw.toApp }.issue .emitUpdate

/-- Recovery needs brand-new managers: signal the owner to rebuild. -/
def scheduleSelfHeal (env : Env) (c : Core) : Core :=
  if !c.radio.radioWasDown then c
  else if c.radio.healing || env.halted then c
  else
    { c with radio.radioWasDown := false, radio.healing := true }.issue .emitRadioCycled

end BleSwarm.Core
