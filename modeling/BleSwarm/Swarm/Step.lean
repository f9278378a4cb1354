import BleSwarm.Transport.Step

/-!
# The swarm facade as a state machine

`start`/`stop` is the durable intent, `suspend`/`resume` the transient pause. A
call runs up to its first await and leaves a task behind: what it awaits and the
callback that continues it. One step issues a call, continues a task or delivers
an event to one of the transports created so far.
-/

namespace BleSwarm

/-- What a waiting callback awaits. -/
inductive Await
  /-- A value that is already there: only the turn is given up. -/
  | settled
  /-- A `suspend()` call on a transport. -/
  | drain (transport call : Nat)
  /-- The promise `_abandon` returned for a transport. -/
  | retired (transport : Nat)
  | ready (transport : Nat)
  | closed (transport : Nat)
  deriving DecidableEq

/-- The code behind an await. -/
inductive Callback
  /-- Emit 'update'; the call has settled. -/
  | update
  /-- The end of `_abandon`: release the native managers. -/
  | release (transport : Nat)
  /-- `_activate` behind `_abandon`. -/
  | activate
  /-- `_rebuild` behind `_abandon`. -/
  | rebuild
  /-- `setTopic` behind the transport's `suspend`. -/
  | retune
  /-- The end of `close`. -/
  | finish
  deriving DecidableEq

structure Task where
  awaits : Await
  callback : Callback
  deriving DecidableEq

structure BluetoothSwarm where
  cfg : Config
  ids : Ref → PeripheralId
  supported : Bool
  started : Bool := false
  suspended : Bool := false
  closing : Bool := false
  closed : Bool := false
  topic : Option Bytes := none
  online : Bool := false
  gen : Nat := 0
  transport : Option Nat := none
  /-- Every transport ever created, under its `gen`. -/
  transports : Nat → Transport
  tasks : List Task := []

/-- The public methods that change anything. -/
inductive Call
  | start
  | stop
  | suspend
  | resume
  | setTopic (topic : Option Bytes)
  | setOnline (online : Bool)
  | close
  deriving DecidableEq

inductive Move
  | call (c : Call)
  /-- Continue the i-th task. -/
  | run (i : Nat)
  /-- `_open` of a transport runs. -/
  | opened (transport : Nat) (server central : AdapterState)
  /-- The goodbye drain of a transport's `suspend()` ends. -/
  | drained (transport call : Nat)
  | event (transport : Nat) (e : Event)

/-- A move, the time at which it is made and what the native layer does then. -/
structure Turn where
  now : Nat
  native : Native := {}
  move : Move

/-- Moves that are all made at one time. -/
def atOnce (moves : List Move) : List Turn := moves.map fun move => { now := 0, move }

namespace BluetoothSwarm

/-- A swarm as constructed; `supported` says whether it has a backend. -/
def create (cfg : Config) (ids : Ref → PeripheralId) (supported : Bool) (topic : Option Bytes)
    (online : Bool) : BluetoothSwarm where
  cfg
  ids
  supported
  topic
  online
  transports := fun _ => Transport.create cfg none false ids

/-- The radio is meant to be live. -/
def wanted (s : BluetoothSwarm) : Bool := s.started && !s.suspended

/-- The public `state`. -/
def state (s : BluetoothSwarm) : AppState :=
  if !s.supported then .unsupported
  else
    match s.transport with
    | some t => if !s.started then .off else (s.transports t).core.radio.state
    | none => .off

def setTransport (s : BluetoothSwarm) (t : Nat) (f : Transport → Transport) : BluetoothSwarm :=
  { s with transports := Function.update s.transports t (f (s.transports t)) }

def await (s : BluetoothSwarm) (awaits : Await) (callback : Callback) : BluetoothSwarm :=
  { s with tasks := s.tasks ++ [⟨awaits, callback⟩] }

/-- `await transport.suspend()`. -/
def awaitSuspend (s : BluetoothSwarm) (turn : Turn) (t : Nat) (callback : Callback) :
    BluetoothSwarm :=
  let call := (s.transports t).life.nextDrain
  (s.setTransport t fun tr => tr.suspend turn.now turn.native).await (.drain t call) callback

def resumeTransport (s : BluetoothSwarm) (turn : Turn) (t : Nat) : BluetoothSwarm :=
  s.setTransport t fun tr => tr.resume turn.now

/-- `await this._abandon()`: with no transport there is nothing to wait for. -/
def abandon (s : BluetoothSwarm) (turn : Turn) (callback : Callback) : BluetoothSwarm :=
  match s.transport with
  | none => s.await .settled callback
  | some old =>
    ({ s with transport := none }.awaitSuspend turn old (.release old)).await (.retired old) callback

def activate (s : BluetoothSwarm) (turn : Turn) : BluetoothSwarm :=
  match s.transport with
  | some t =>
    if !(s.transports t).core.radio.radioCycled then
      (s.resumeTransport turn t).await .settled .update
    else s.abandon turn .activate
  | none => s.abandon turn .activate

/-- `_createTransport` and `await transport.ready()`. -/
def createTransport (s : BluetoothSwarm) : BluetoothSwarm :=
  let gen := s.gen + 1
  { s with
    gen
    transport := some gen
    transports := Function.update s.transports gen
      (Transport.create s.cfg s.topic s.online s.ids) }.await (.ready gen) .update

def start (s : BluetoothSwarm) (turn : Turn) : BluetoothSwarm :=
  if !s.supported || s.started || s.closing || s.closed then s
  else
    let s := { s with started := true }
    if !s.suspended then s.activate turn else s

def stop (s : BluetoothSwarm) (turn : Turn) : BluetoothSwarm :=
  if !s.started then s
  else
    let s := { s with started := false }
    match s.transport with
    | some t => if !s.suspended then s.awaitSuspend turn t .update else s
    | none => s

def suspend (s : BluetoothSwarm) (turn : Turn) : BluetoothSwarm :=
  if s.suspended then s
  else
    let s := { s with suspended := true }
    match s.transport with
    | some t => if s.started then s.awaitSuspend turn t .update else s
    | none => s

def resume (s : BluetoothSwarm) (turn : Turn) : BluetoothSwarm :=
  if !s.suspended then s
  else
    let s := { s with suspended := false }
    if s.started then s.activate turn else s

def setOnline (s : BluetoothSwarm) (turn : Turn) (online : Bool) : BluetoothSwarm :=
  let s := { s with online }
  match s.transport with
  | some t => s.setTransport t fun tr => tr.setOnline online turn.now
  | none => s

def setTopic (s : BluetoothSwarm) (turn : Turn) (topic : Option Bytes) : BluetoothSwarm :=
  let s := { s with topic }
  match s.transport with
  | none => s
  | some t =>
    let changed := ((s.transports t).setTopic topic).2
    let s := s.setTransport t fun tr => (tr.setTopic topic).1
    if changed && s.started && !s.suspended then s.awaitSuspend turn t .retune else s

def close (s : BluetoothSwarm) (turn : Turn) : BluetoothSwarm :=
  if s.closing then s
  else
    let s := { s with started := false, closing := true }
    match s.transport with
    | some t => (s.setTransport t fun tr => tr.close turn.now).await (.closed t) .finish
    | none => s.await .settled .finish

/-- A transport emits 'radio-cycled'. -/
def rebuild (s : BluetoothSwarm) (turn : Turn) (old : Nat) : BluetoothSwarm :=
  if s.transport ≠ some old || s.closing || s.closed then s else s.abandon turn .rebuild

def settled (s : BluetoothSwarm) : Await → Bool
  | .settled => true
  | .drain t call => call ∉ (s.transports t).life.drains
  | .retired t => s.tasks.all fun task => task.callback ≠ .release t
  | .ready t => (s.transports t).life.opened
  | .closed t => (s.transports t).life.closed

/-- What `_abandon` does to the managers of a transport it has suspended. -/
def release (s : BluetoothSwarm) (t : Nat) : BluetoothSwarm :=
  match s.cfg.platform with
  | .mac | .android => s.setTransport t Transport.destroyManagers
  | .ios => s.setTransport t Transport.removeServices
  | .other => s

def proceed (s : BluetoothSwarm) (turn : Turn) : Callback → BluetoothSwarm
  | .update => s
  | .release t => s.release t
  | .activate =>
    if s.transport.isSome || !s.started || s.suspended || s.closing || s.closed then
      s.await .settled .update
    else s.createTransport
  | .rebuild =>
    if s.transport.isSome || s.closing || s.closed then s
    else if s.started && !s.suspended then s.createTransport
    else s
  | .retune =>
    match s.transport with
    | some t => if s.started && !s.suspended then s.resumeTransport turn t else s
    | none => s
  | .finish => { s with closed := true }

def call (s : BluetoothSwarm) (turn : Turn) : Call → BluetoothSwarm
  | .start => s.start turn
  | .stop => s.stop turn
  | .suspend => s.suspend turn
  | .resume => s.resume turn
  | .setTopic topic => s.setTopic turn topic
  | .setOnline online => s.setOnline turn online
  | .close => s.close turn

/-- The call goes to `_activate`. -/
def activates (s : BluetoothSwarm) : Call → Bool
  | .start => s.supported && !s.started && !s.closing && !s.closed && !s.suspended
  | .resume => s.suspended && s.started
  | _ => false

/-- The transport has been created. -/
def created (s : BluetoothSwarm) (t : Nat) : Bool := 0 < t && t ≤ s.gen

theorem created_iff (s : BluetoothSwarm) (t : Nat) : s.created t = true ↔ 0 < t ∧ t ≤ s.gen := by
  simp [created]

theorem mem_eraseIdx_of_ne {tasks : List Task} {i : Nat} {task k : Task}
    (found : tasks[i]? = some task) (mem : k ∈ tasks) (ne : k ≠ task) : k ∈ tasks.eraseIdx i := by
  obtain ⟨j, hj⟩ := List.mem_iff_getElem?.mp mem
  refine List.mem_eraseIdx_iff_getElem?.mpr ⟨j, ?_, hj⟩
  rintro rfl
  exact ne (Option.some.inj (hj.symm.trans found))

/-- A task that awaits a drain stays in the list until the drain ends. -/
theorem mem_eraseIdx_of_draining {s : BluetoothSwarm} {i t call : Nat} {task k : Task}
    (found : s.tasks[i]? = some task) (settled : s.settled task.awaits = true) (mem : k ∈ s.tasks)
    (awaits : k.awaits = .drain t call) (draining : call ∈ (s.transports t).life.drains) :
    k ∈ s.tasks.eraseIdx i := by
  apply mem_eraseIdx_of_ne found mem
  rintro rfl
  rw [awaits] at settled
  have ended : call ∉ (s.transports t).life.drains := of_decide_eq_true settled
  exact ended draining

theorem wanted_iff (s : BluetoothSwarm) :
    s.wanted = true ↔ s.started = true ∧ s.suspended = false := by
  simp [wanted]

def step (s : BluetoothSwarm) (turn : Turn) : BluetoothSwarm :=
  match turn.move with
  | .call c => s.call turn c
  | .run i =>
    match s.tasks[i]? with
    | some task =>
      if s.settled task.awaits then
        { s with tasks := s.tasks.eraseIdx i }.proceed turn task.callback
      else s
    | none => s
  | .opened t server central =>
    if s.created t then s.setTransport t fun tr => tr.runOpen server central turn.now else s
  | .drained t call =>
    if s.created t then s.setTransport t fun tr => tr.drained call turn.now turn.native else s
  | .event t e =>
    if s.created t then
      let s := s.setTransport t fun tr => tr.input ⟨turn.now, turn.native, e⟩
      if .emitRadioCycled ∈ (s.transports t).core.out then s.rebuild turn t else s
    else s

/-- The swarm is not closed. -/
def Unclosed (turn : Turn) : Prop :=
  match turn.move with
  | .call c => c ≠ .close
  | _ => True

instance (turn : Turn) : Decidable (Unclosed turn) := by
  unfold Unclosed
  rcases turn.move with _ | _ <;> infer_instance

end BluetoothSwarm

end BleSwarm
