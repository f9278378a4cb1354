import BleSwarm.Transport.Life

/-!
# What a handler is made of

The handlers of all events but a few are sequences of the elementary changes listed
here, each with what guards it in the code. An invariant is checked change by change
and then holds of every such handler.
-/

namespace BleSwarm

/-- Nothing the owner waits for, no radio work that starts and no OPEN. -/
def Command.idle : Command → Bool
  | .startScan _ | .startAdvertising _ | .addService _ | .publishChannel | .connect _
  | .emitRadioCycled => false
  | .send _ frame _ => frame.head? ≠ some typeOpen
  | _ => true

/-- No dial is in flight and no discovery is held. -/
structure Dial.Idle (d : Dial) : Prop where
  timers : ∀ id device, d.devices.get? id = some device → device.timer = none
  candidates : d.candidates.size = 0

namespace Dial.Idle

variable {d : Dial}

theorem update (h : d.Idle) (id : PeripheralId) {f : Device → Device}
    (keep : ∀ device, device.timer = none → (f device).timer = none) :
    Idle { d with devices := d.devices.set id (f ((d.devices.get? id).getD {})) } := by
  refine ⟨fun k device entry => ?_, h.candidates⟩
  rw [OrderedMap.get?_set] at entry
  split at entry
  · obtain rfl := Option.some.inj entry
    apply keep
    cases old : d.devices.get? id with
    | none => rfl
    | some device => exact h.timers id device old
  · exact h.timers k device entry

theorem modify (h : d.Idle) (id : PeripheralId) {f : Device → Device}
    (keep : ∀ device, device.timer = none → (f device).timer = none) :
    Idle { d with devices := d.devices.modify id f } := by
  refine ⟨fun k device entry => ?_, h.candidates⟩
  rw [OrderedMap.get?_modify] at entry
  split at entry
  · obtain ⟨old, found, rfl⟩ := Option.map_eq_some_iff.mp entry
    exact keep old (h.timers id old found)
  · exact h.timers k device entry

theorem delete (h : d.Idle) (id : PeripheralId) :
    Idle { d with devices := d.devices.delete id } := by
  refine ⟨fun k device entry => ?_, h.candidates⟩
  exact h.timers k device (OrderedMap.get?_of_delete entry)

theorem calm (h : d.Idle) :
    d.devices.values.filter (fun d => d.timer.isSome) = [] := by
  refine List.filter_eq_nil_iff.mpr fun device mem => ?_
  obtain ⟨id, entry⟩ := OrderedMap.exists_of_mem_values mem
  simp [h.timers id device entry]

end Dial.Idle

/-- Streams keep their owners, and a new one is of the central side unless `serves`. -/
structure Joins (serves : Prop) (streams streams' : Heap Stream) : Prop where
  grows : streams.next ≤ streams'.next
  owner : ∀ st < streams.next, (streams'.get st).owner = (streams.get st).owner
  new : ∀ st < streams'.next, streams.next ≤ st →
    serves ∨ ∃ p sess, (streams'.get st).owner = .central p sess

namespace Joins

variable {serves : Prop} {streams streams' streams'' : Heap Stream}

theorem refl (streams : Heap Stream) : Joins serves streams streams :=
  ⟨le_refl _, fun _ _ => rfl, fun _ lt ge => absurd (lt.trans_le ge) (lt_irrefl _)⟩

theorem trans (h : Joins serves streams streams') (h' : Joins serves streams' streams'') :
    Joins serves streams streams'' := by
  refine ⟨h.grows.trans h'.grows, fun st lt => ?_, fun st lt ge => ?_⟩
  · exact (h'.owner st (lt.trans_le h.grows)).trans (h.owner st lt)
  · rcases lt_or_ge st streams'.next with old | new
    · exact (h.new st old ge).imp_right fun ⟨p, sess, owner⟩ =>
        ⟨p, sess, (h'.owner st old).trans owner⟩
    · exact h'.new st lt new

theorem of_modify (st : Ref) {f : Stream → Stream} (keep : ∀ s, (f s).owner = s.owner) :
    Joins serves streams (streams.modify st f) :=
  ⟨le_refl _, fun k _ => streams.modify_get_view st k f Stream.owner keep,
    fun _ lt ge => absurd (lt.trans_le ge) (lt_irrefl _)⟩

theorem of_alloc (s : Stream) (new : serves ∨ ∃ p sess, s.owner = .central p sess) :
    Joins serves streams (streams.alloc s) := by
  refine ⟨Nat.le_succ _, fun st lt => by rw [streams.alloc_get_of_lt s lt], fun st lt ge => ?_⟩
  obtain rfl : st = streams.next := Nat.le_antisymm (Nat.lt_succ_iff.mp lt) ge
  rwa [streams.alloc_get_next]

end Joins

/-- What the handlers of an event may do besides the changes that all may make. -/
structure Scope where
  /-- Change the session table and its sessions, and answer with a HELLO. -/
  serves : Bool := false
  /-- Bind a stream to a session, which releases a rotation held for it. -/
  binds : Bool := false
  /-- Send an OPEN. -/
  starts : Bool := false

namespace Core

/-- What the changes below are about. -/
def watched (c : Core) :=
  (c.radio, c.dial, c.links, c.server.table, c.server.sessions, c.server.cyclePending, c.gatt,
    c.streams, c.out)

inductive Proceeds (env : Env) (scope : Scope) : Core → Core → Prop
  | trans {c c' c'' : Core} : Proceeds env scope c c' → Proceeds env scope c' c'' →
    Proceeds env scope c c''
  /-- A change of nothing that is watched. -/
  | rest {c c' : Core} (same : c'.watched = c.watched) : Proceeds env scope c c'
  | issue (c : Core) {command : Command} (idle : command.idle = true) :
    Proceeds env scope c (c.issue command)
  | connect (c : Core) (p : Ref) (live : env.halted = false) :
    Proceeds env scope c (c.issue (.connect p))
  | sendOpen (c : Core) (p : Ref) (id : Hex) (payload : Bytes) (starts : scope.starts = true) :
    Proceeds env scope c (c.issue (.send p (encodeFrame typeOpen id payload) true))
  | maybeCycle (c : Core) (serves : scope.serves = true)
    (due : env.cfg.pipe = .l2cap ∧ env.halted = false ∨
      scope.binds = true ∧ c.server.cyclePending = true) :
    Proceeds env scope c (c.maybeCycle env)
  /-- The reported state, the hunt and the internet path are noted. -/
  | note (c : Core) (state : AppState) (huntUntil : Nat) (online : Bool) :
    Proceeds env scope c
      { c with radio.state := state, radio.huntUntil := huntUntil, radio.online := online }
  | startScan (c : Core) : Proceeds env scope c (c.startScan env)
  | stopScan (c : Core) : Proceeds env scope c c.stopScan
  | armScanRestart (c : Core) (live : env.halted = false) :
    Proceeds env scope c (c.armScanRestart env)
  | onScanTimer (c : Core) : Proceeds env scope c (c.onScanTimer env)
  /-- On a halted transport no dial begins. -/
  | dial (c : Core) (dial : Dial) (calm : env.halted = true → c.dial.Idle → dial.Idle) :
    Proceeds env scope c { c with dial }
  | links (c : Core) (links : Links) (fades : c.links.Fades links) :
    Proceeds env scope c { c with links }
  | gatt (c : Core) (gatt : NotifyQueue)
    (passes : c.gatt.Passes (fun frame => scope.serves = true ∨ frame.head? ≠ some typeHello) gatt) :
    Proceeds env scope c { c with gatt }
  | streams (c : Core) (streams : Heap Stream)
    (joins : Joins (scope.serves = true) c.streams streams) : Proceeds env scope c { c with streams }
  | sessions (c : Core) (table : OrderedMap Hex Ref) (sessions : Heap ServerSession)
    (serves : scope.serves = true) :
    Proceeds env scope c { c with server.table := table, server.sessions := sessions }

variable {env : Env} {scope : Scope} {c c' c'' : Core}

theorem clearDeviceTimers_idle (c : Core) : c.clearDeviceTimers.dial.Idle := by
  let stop := fun (devices : OrderedMap PeripheralId Device) id =>
    devices.modify id fun d => { d with timer := none }
  have stopped : ∀ (ids : List PeripheralId) (devices : OrderedMap PeripheralId Device),
      (∀ id device, devices.get? id = some device → id ∈ ids ∨ device.timer = none) →
      ∀ id device, (ids.foldl stop devices).get? id = some device → device.timer = none := by
    intro ids
    induction ids with
    | nil => exact fun devices timed id device entry => (timed id device entry).resolve_left (by simp)
    | cons k ids ih =>
      refine fun devices timed => ih _ fun id device entry => ?_
      simp only [stop, OrderedMap.get?_modify] at entry
      split at entry
      · obtain ⟨old, -, rfl⟩ := Option.map_eq_some_iff.mp entry
        exact .inr rfl
      · rename_i other
        exact (timed id device entry).imp_left fun mem => (List.mem_cons.mp mem).resolve_left other
  refine ⟨stopped _ _ fun id device entry => .inl ?_, rfl⟩
  by_contra absent
  rw [(c.dial.devices.get?_eq_none_iff id).mpr absent] at entry
  cases entry

end Core

end BleSwarm
