import BleSwarm.Frames

/-!
# Options, constants and pure policy

What a transport is constructed with, the constants of the dial and scan policy
(milliseconds), and the decisions that read nothing but these.
-/

namespace BleSwarm

/-- The identity the backend gives a peripheral; it is only ever compared. -/
abbrev PeripheralId := Nat

/-- A reference to a mutable object. -/
abbrev Ref := Nat

def pipePendingTimeout : Nat := 20000
def defaultMaxOutbound : Nat := 4
def defaultMaxInbound : Nat := 8
def connectTimeout : Nat := 15000
def dialCooldownBase : Nat := 8000
def dialCooldownBaseLonely : Nat := 2000
def dialCooldownMax : Nat := 30000
def dialMinInterval : Nat := 500
def scanRestartLonely : Nat := 5000
def scanDutyOn : Nat := 5000
def scanDutyOff : Nat := 25000
def scanDutyOffOnline : Nat := 55000
def huntWindow : Nat := 60000
def requestMtu : Nat := 517

/-- `OPEN_TIMEOUT` of the l2cap pipe. -/
def openTimeout : Nat := 3000

def notifyRetry : Nat := 250
def writeTimeout : Nat := 8000
def defaultPayload : Nat := 150

inductive Pipe
  | gatt
  | l2cap
  deriving DecidableEq

inductive Platform
  | mac
  | ios
  | android
  | other
  deriving DecidableEq

/-- The adapter state of a native manager. -/
inductive AdapterState
  | poweredOn
  | poweredOff
  | unauthorized
  | unsupported
  | resetting
  | unknown
  deriving DecidableEq

/-- The state a transport reports. -/
inductive AppState
  | on
  | waiting
  | unauthorized
  | unsupported
  | starting
  | off
  deriving DecidableEq

/-- The `STATE` table. -/
def AdapterState.toApp : AdapterState → AppState
  | .poweredOn => .on
  | .poweredOff => .waiting
  | .unauthorized => .unauthorized
  | .unsupported => .unsupported
  | .resetting => .waiting
  | .unknown => .waiting

structure Config where
  publicKey : Bytes
  shouldConnect : Option (Bytes → Bool) := none
  maxOutbound : Nat := defaultMaxOutbound
  maxInbound : Nat := defaultMaxInbound
  pipe : Pipe := .l2cap
  tag : Bytes
  /-- The `gatt` pipe's `maxPayload` option. -/
  maxPayload : Nat := 0
  /-- The `l2cap` pipe's `timeout` option. -/
  timeout : Nat := openTimeout
  platform : Platform
  /-- `publishChannel` is a function of the native server. -/
  channelSupport : Bool := true
  /-- `hash` of hypercore-crypto. -/
  hash : List Bytes → Bytes
  /-- What `randomBytes(SID_LEN)` returns for the n-th central session, in hex. -/
  randomId : Nat → Hex

/-- The `DISCOVERY` buffer that stands in for a missing topic. -/
def discovery : Bytes := List.replicate 32 0

/-- The 8-4-4-4-12 grouping of a uuid. -/
def uuidText (hex : Hex) : Hex :=
  hex.take 8 ++ '-' :: (hex.drop 8).take 4 ++ '-' :: (hex.drop 12).take 4 ++
    '-' :: (hex.drop 16).take 4 ++ '-' :: (hex.drop 20).take 12

namespace Config

def toServiceUUID (cfg : Config) (topic : Option Bytes) : Hex :=
  uuidText (toHex ((cfg.hash [cfg.tag, topic.getD discovery]).take 16))

/-- Both sides can refuse a link before any Noise work. -/
def accept (cfg : Config) (publicKey : Bytes) : Bool :=
  if publicKey.length ≠ keyLen then false
  else if publicKey = cfg.publicKey then false
  else
    match cfg.shouldConnect with
    | some shouldConnect => shouldConnect publicKey
    | none => true

def initiatorWins (cfg : Config) (initiatorKey : Bytes) : Bool :=
  compare initiatorKey cfg.publicKey < 0

def capabilities (cfg : Config) : Byte :=
  if cfg.pipe = .l2cap then pipeL2cap else 0

/-- The pipe of a session from what both sides offered, `none` when none suits both. -/
def pipeFor (cfg : Config) (remoteFlags : Byte) : Option Pipe :=
  let remoteL2cap : Bool := remoteFlags.val &&& pipeL2cap.val ≠ 0
  let localL2cap : Bool := cfg.pipe = .l2cap
  if remoteL2cap = localL2cap then some cfg.pipe else none

/-- The pipe of a session is the one that is configured. -/
theorem pipe_of_pipeFor {cfg : Config} {remoteFlags : Byte} {name : Pipe}
    (suits : cfg.pipeFor remoteFlags = some name) : cfg.pipe = name := by
  unfold pipeFor at suits
  simp only at suits
  split at suits
  · exact Option.some.inj suits
  · cases suits

/-- What one side offers suits the other exactly if both are configured for the same pipe. -/
theorem pipeFor_capabilities (cfg remote : Config) :
    cfg.pipeFor remote.capabilities = if cfg.pipe = remote.pipe then some cfg.pipe else none := by
  unfold pipeFor capabilities
  cases cfg.pipe <;> cases remote.pipe <;> rfl

/-- `getMaxPayload` from a negotiated mtu, 0 while none is known. -/
def getMaxPayload (cfg : Config) (mtu : Nat) : Option Nat :=
  let budget : Int := if mtu ≠ 0 then (mtu : Int) - 3 - header else cfg.maxPayload
  if 0 < budget then some budget.toNat else none

/-- Default options around a key, a pipe and a platform, with stand-ins for the
hash and the random ids. -/
def plain (publicKey : Bytes) (pipe : Pipe) (platform : Platform) : Config where
  publicKey
  pipe
  tag := []
  platform
  hash parts := (parts.flatten ++ List.replicate 32 0).take 32
  randomId n := toHex (List.replicate sidLen (Fin.ofNat 256 n))

end Config

end BleSwarm
