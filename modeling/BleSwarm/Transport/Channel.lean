import BleSwarm.Transport.Dial

/-!
# Channels becoming links

`_onChannel` wraps a stream in a noise stream; its 'open' and 'close' events
track and untrack the link.
-/

namespace BleSwarm.Core

/-- `_onChannel`. The result is the noise stream, null on a halted transport. The
announced key is carried along for statements. -/
def onChannel (env : Env) (c : Core) (stream : Ref) (isInitiator : Bool)
    (peripheralId : Option PeripheralId) (announced : Bytes) : Core × Option Ref :=
  if env.halted then (c.destroyStream stream, none)
  else
    let conn := c.links.conns.next
    let c := { c with
      links.conns := c.links.conns.alloc { stream, isInitiator, peripheralId, announced } }
    -- marked at channel-open: rediscovery must not dial a handshaking peripheral
    let c := match peripheralId with
      | some id => c.updateDevice id fun d => { d with linked := true, coolUntil := 0, failures := 0 }
      | none => c
    (c.startScan env, some conn)

/-- The record of a dialed peripheral learns whose it is. -/
def notePeerKey (c : Core) (r : Ref) : Core :=
  let conn := c.links.conns.get r
  match conn.peripheralId with
  | some id => c.updateDevice id fun d => { d with peerKey := some (toHex conn.remotePublicKey) }
  | none => c

def track (env : Env) (c : Core) (r : Ref) : Core :=
  let c := c.notePeerKey r
  if env.life.closing || env.life.closed then c
  else
    let redundant := c.links.redundant env.cfg.publicKey r
    let c := { c with links := c.links.track env.cfg.publicKey r }
    if redundant then c else c.issue .emitUpdate

def untrack (env : Env) (c : Core) (r : Ref) : Core :=
  let c := { c with links := c.links.untrack r }
  if env.life.closing || env.life.closed then c
  else
    -- last link gone: hunt eagerly instead of waiting out a dark window
    let c :=
      if c.links.peers.size = 0 && !env.life.suspended then
        ({ c with radio.huntUntil := env.now + huntWindow }.startScan env).armScanRestart env
      else c
    c.issue .emitUpdate

/-- The 'open' event of a noise stream whose handshake proved `remotePublicKey`. -/
def onConnOpen (env : Env) (c : Core) (r : Ref) (remotePublicKey : Bytes) : Core :=
  let conn := c.links.conns.get r
  if r < c.links.conns.next && !conn.opened && !conn.closed then
    { c with links := c.links.prove r remotePublicKey }.track env r
  else c

/-- A dial record is no longer linked, and goes if nothing keeps it. -/
def unmark (c : Core) : Option PeripheralId → Core
  | some id => (c.modifyDevice id fun d => { d with linked := false }).prune id
  | none => c

/-- The 'close' event of a noise stream: the device's link mark first, then `_untrack`. -/
def onConnClose (env : Env) (c : Core) (r : Ref) : Core :=
  let conn := c.links.conns.get r
  if r < c.links.conns.next && !conn.closed then
    let c := { c with links := c.links.markClosed r }
    (c.unmark conn.peripheralId).untrack env r
  else c

def destroyPeers (c : Core) : Core :=
  { c with links := c.links.peers.values.foldl Links.destroy c.links }

end BleSwarm.Core
