import BleSwarm.Transport.Calls
import BleSwarm.Transport.Yield

/-!
# Close events of earlier sessions

A peripheral carries one central session after another, and a session id may be opened
again once its session was closed. The streams of the earlier sessions close in their own
time, and what their handlers write is found by the peripheral or by the id: the close of
an earlier stream takes the slots of the peripheral and hangs up, and it ends whatever
session stands under its id now.
-/

namespace BleSwarm

/-- The central session whose stream it is. -/
def Owner.session? : Owner → Option Ref
  | .central _ sess => some sess
  | .server _ => none

namespace Core

variable {env : Env} {c : Core}

/-- The dial record of a peripheral, or a fresh one. -/
def record (c : Core) (id : PeripheralId) : Device := (c.dial.devices.get? id).getD {}

/-- The peripheral carries a central session that was started after `sess`. -/
def newer (c : Core) (sess q : Ref) : Bool :=
  (c.peripheral q).session.any (fun later => decide (sess < later)) ||
    (c.peripheral q).stream.any fun st =>
      (c.streams.get st).owner.session?.any fun later => decide (sess < later)

/-- What a central session relies on of its peripheral is as before, and nobody hung up. -/
structure Untouched (c c' : Core) (q : Ref) : Prop where
  session : (c'.peripheral q).session = (c.peripheral q).session
  stream : (c'.peripheral q).stream = (c.peripheral q).stream
  peripheral : (c'.record (c.peripheral q).id).peripheral = (c.record (c.peripheral q).id).peripheral
  linked : (c'.record (c.peripheral q).id).linked = (c.record (c.peripheral q).id).linked
  connected : ∀ k, (c.peripheral k).id = (c.peripheral q).id → .disconnect k ∉ c'.out

/-- A record that is pruned is a fresh one. -/
theorem record_prune (c : Core) (id k : PeripheralId) : (c.prune id).record k = c.record k := by
  unfold prune
  split
  · rfl
  · rename_i d found
    split
    · rename_i bare
      have fresh : d = {} := by
        obtain ⟨timer, linked, coolUntil, failures, peerKey, peripheral⟩ := d
        simpa [and_assoc] using bare
      simp only [record, OrderedMap.get?_delete]
      split
      · rename_i same
        rw [same, found, fresh]
        rfl
      · rfl
    · rfl

theorem record_unmark (c : Core) (id : PeripheralId) :
    (c.unmark (some id)).record id = { c.record id with linked := false } := by
  simp only [unmark, record_prune]
  simp only [record, modifyDevice, OrderedMap.get?_modify_self]
  cases c.dial.devices.get? id <;> rfl

theorem untrack_rest (env : Env) (c : Core) (r : Ref) :
    (c.untrack env r).central = c.central ∧ (c.untrack env r).dial = c.dial := by
  have hunts : ∀ c : Core, RadioOnly c (({ c with
      radio.huntUntil := env.now + huntWindow }.startScan env).armScanRestart env) := fun c =>
    ((radio_radioOnly c _).trans (startScan_radioOnly env _)).trans (armScanRestart_radioOnly env _)
  have told : ∀ c : Core, RadioOnly c (c.issue .emitUpdate) := fun c => issue_radioOnly c rfl
  simp only [untrack]
  split
  · exact ⟨rfl, rfl⟩
  · split
    · have aired := (hunts { c with links := c.links.untrack r }).trans (told _)
      exact ⟨aired.quiet.central, aired.dial⟩
    · exact ⟨rfl, rfl⟩

theorem unmark_central (c : Core) (id : Option PeripheralId) :
    (c.unmark id).central = c.central := by
  cases id with
  | none => rfl
  | some id =>
    simp only [unmark, prune]
    split
    · rfl
    · split <;> rfl

/-- The close of a link that is not closed yet. -/
theorem onConnClose_rest {r : Ref} {id : PeripheralId} (bound : r < c.links.conns.next)
    (live : (c.links.conns.get r).closed = false)
    (dialed : (c.links.conns.get r).peripheralId = some id) :
    (c.onConnClose env r).central = c.central ∧
      (c.onConnClose env r).record id = { c.record id with linked := false } := by
  let marked : Core := { c with links := c.links.markClosed r }
  have run : c.onConnClose env r = (marked.unmark (some id)).untrack env r := by
    simp [onConnClose, bound, live, dialed, marked]
  obtain ⟨central, dial⟩ := untrack_rest env (marked.unmark (some id)) r
  rw [run]
  refine ⟨central.trans (unmark_central marked (some id)), ?_⟩
  have same : ((marked.unmark (some id)).untrack env r).record id =
      (marked.unmark (some id)).record id := by
    simp only [record, dial]
  exact same.trans (record_unmark marked id)

/-- The close of a stream of the central side hangs up. -/
theorem onStreamClose_disconnects {st p sess : Ref} (bound : st < c.streams.next)
    (live : (c.streams.get st).closed = false) (owner : (c.streams.get st).owner = .central p sess) :
    .disconnect p ∈ (c.onStreamClose env st).out := by
  simp only [onStreamClose, bound, live, owner, onCentralStreamClose, disconnect, issue]
  simp

/-! The server side. -/

/-- Of the sessions only `r` leaves the table, and only its own CLOSE is submitted, while it
stands there. -/
structure Alone (c c' : Core) (r : Ref) : Prop where
  table : ∀ id k, c.server.table.get? id = some k → k ≠ r → c'.server.table.get? id = some k
  frames : c.gatt.Passes (fun frame => frame = encodeFrame typeClose (c.session r).id []) c'.gatt
  own : c'.gatt.promises ≠ c.gatt.promises → c.server.table.get? (c.session r).id = some r

theorem reapSession_rest (env : Env) (c : Core) (id : Hex) (k : Ref) :
    (c.reapSession env id k).server.table = c.server.table.delete id ∧
      (c.reapSession env id k).gatt = c.gatt := by
  let reaped : Core := { c.setSession k fun s => { s with pipeTimer := none } with
    server.table := c.server.table.delete id }
  have rotated : (reaped.maybeCycle env).server.table = reaped.server.table ∧
      (reaped.maybeCycle env).gatt = reaped.gatt := by
    refine ⟨(maybeCycle_quiet env reaped).table, ?_⟩
    simp only [maybeCycle]
    split
    · rfl
    · exact (cycle_radioOnly env { reaped with server.cyclePending := false }).gatt
  simp only [reapSession]
  split
  · exact rotated
  · exact ⟨rfl, rfl⟩

theorem destroyOwnChannel_eq (c : Core) (st : Ref) :
    ∃ out, c.destroyOwnChannel st = { c with out } := by
  unfold destroyOwnChannel
  split
  · exact ⟨_, rfl⟩
  · exact ⟨c.out, rfl⟩

/-- The close of a stream of the server side. -/
theorem onStreamClose_server (env : Env) {st r : Ref} (bound : st < c.streams.next)
    (live : (c.streams.get st).closed = false) (owner : (c.streams.get st).owner = .server r) :
    ∃ streams out, c.onStreamClose env st =
      { c with streams, out }.closeServerSession env (c.session r).id := by
  let closing : Core := c.setStream st fun s => { s with closed := true }
  obtain ⟨out, destroyed⟩ := destroyOwnChannel_eq closing st
  refine ⟨closing.streams, out, ?_⟩
  have guard : (decide (st < c.streams.next) && !(c.streams.get st).closed) = true := by
    simp [bound, live]
  have session : (closing.destroyOwnChannel st).session r = c.session r := by
    rw [destroyed]
    rfl
  simp only [onStreamClose]
  rw [if_pos guard]
  simp only [owner]
  rw [session, destroyed]
  rfl

/-- The close handler ends whatever session stands under the id. -/
theorem closeServerSession_alone_iff (env : Env) (c : Core) (r : Ref) :
    Alone c (c.closeServerSession env (c.session r).id) r ↔
      ∀ k, c.server.table.get? (c.session r).id = some k → k = r := by
  cases entry : c.server.table.get? (c.session r).id with
  | none =>
    have same :
        c.closeServerSession env (c.session r).id = c := by simp only [closeServerSession, entry]
    rw [same]
    refine ⟨by simp, fun _ => ?_⟩
    exact ⟨fun _ _ found _ => found, .refl c.gatt, fun more => absurd rfl more⟩
  | some k =>
    obtain ⟨table, gatt⟩ := reapSession_rest env c (c.session r).id k
    have ends : c.closeServerSession env (c.session r).id =
        (c.reapSession env (c.session r).id k).notifyClose env (c.session r).id none := by
      simp only [closeServerSession, entry]
    have left : (c.closeServerSession env (c.session r).id).server.table =
        c.server.table.delete (c.session r).id := by rw [ends, ← table]; rfl
    have told : (c.closeServerSession env (c.session r).id).gatt =
        c.gatt.notify env.now (encodeFrame typeClose (c.session r).id []) := by rw [ends, ← gatt]; rfl
    constructor
    · rintro alone _ ⟨⟩
      by_contra other
      have stays := alone.table _ k entry other
      rw [left, OrderedMap.get?_delete_self] at stays
      cases stays
    · intro own
      obtain rfl := own k rfl
      refine ⟨fun id k' found other => ?_, ?_, fun _ => entry⟩
      · rw [left]
        apply (OrderedMap.get?_delete_of_ne _ ?_).trans found
        rintro rfl
        exact other (Option.some.inj (found.symm.trans entry))
      · rw [told]
        exact NotifyQueue.notify_passes c.gatt _ rfl

end Core

namespace Transport

open BleSwarm.Core

/-- The peripheral id and the session of the central stream, or of the link on one, whose
'close' handlers an event runs. -/
def parting (t : Transport) : Event → Option (PeripheralId × Ref)
  | .streamClose st =>
    let s := t.core.streams.get st
    if t.life.opened && decide (st < t.core.streams.next) && !s.closed then
      match s.owner with
      | .central p sess => some ((t.core.peripheral p).id, sess)
      | .server _ => none
    else none
  | .connClose r =>
    let conn := t.core.links.conns.get r
    if t.life.opened && decide (r < t.core.links.conns.next) && !conn.closed then
      conn.peripheralId.bind fun id =>
        (t.core.streams.get conn.stream).owner.session?.map fun sess => (id, sess)
    else none
  | _ => none

/-- The close of an earlier session's stream or link leaves a later session on the
peripheral alone. -/
def SparesLater (t : Transport) : Action → Prop
  | .input i => ∀ id sess, t.parting i.event = some (id, sess) →
    ∀ q, (t.core.peripheral q).id = id → t.core.newer sess q = true →
      Untouched t.core (t.act (.input i)).core q
  | _ => True

/-- When a central stream closes the peripheral carries no later session, and when a link
on one closes it carries none or its record is not marked as linked. -/
def Latest (t : Transport) : Action → Prop
  | .input i => ∀ id sess, t.parting i.event = some (id, sess) →
    ∀ q, (t.core.peripheral q).id = id → t.core.newer sess q = true →
      ∃ r, i.event = .connClose r ∧ (t.core.record id).linked = false
  | _ => True

theorem parting_opened {t : Transport} {e : Event} {id : PeripheralId} {sess : Ref}
    (parts : t.parting e = some (id, sess)) : t.life.opened = true := by
  cases e with
  | streamClose st =>
    simp only [parting, Bool.and_eq_true] at parts
    split at parts
    · rename_i live
      exact live.1.1
    · cases parts
  | connClose r =>
    simp only [parting, Bool.and_eq_true] at parts
    split at parts
    · rename_i live
      exact live.1.1
    · cases parts
  | _ => cases parts

/-- The close of a central stream hangs up on its peripheral, whatever that carries. -/
theorem streamClose_touches {t : Transport} {i : Input} {st q sess : Ref} {id : PeripheralId}
    (event : i.event = .streamClose st) (parts : t.parting i.event = some (id, sess))
    (there : (t.core.peripheral q).id = id) : ¬ Untouched t.core (t.act (.input i)).core q := by
  intro untouched
  have opened := parting_opened parts
  rw [event] at parts
  simp only [parting, Bool.and_eq_true, decide_eq_true_eq, Bool.not_eq_true'] at parts
  split at parts
  · rename_i live
    split at parts
    · rename_i p _ owner
      have same : (t.core.peripheral p).id = id := congrArg Prod.fst (Option.some.inj parts)
      apply untouched.connected p (same.trans there.symm)
      rw [act_input opened, event]
      exact onStreamClose_disconnects live.1.2 live.2 owner
    · cases parts
  · cases parts

/-- The close of a link unmarks the record, and does nothing else to a later session. -/
theorem connClose_untouched_iff {t : Transport} {i : Input} {r q sess : Ref} {id : PeripheralId}
    (event : i.event = .connClose r) (parts : t.parting i.event = some (id, sess))
    (there : (t.core.peripheral q).id = id) :
    Untouched t.core (t.act (.input i)).core q ↔ (t.core.record id).linked = false := by
  have opened := parting_opened parts
  have run : (t.act (.input i)).core =
      (t.begin i.native).core.onConnClose (t.env i.now i.native) r := by
    rw [act_input opened, event]
    rfl
  obtain ⟨central, record⟩ : (t.act (.input i)).core.central = t.core.central ∧
      (t.act (.input i)).core.record id = { t.core.record id with linked := false } := by
    rw [event] at parts
    simp only [parting, Bool.and_eq_true, decide_eq_true_eq, Bool.not_eq_true'] at parts
    split at parts
    · rename_i live
      obtain ⟨k, dialed, found⟩ := Option.bind_eq_some_iff.mp parts
      obtain ⟨_, -, named⟩ := Option.map_eq_some_iff.mp found
      have same : k = id := congrArg Prod.fst named
      rw [run]
      exact onConnClose_rest (c := (t.begin i.native).core) live.1.2 live.2 (same ▸ dialed)
    · cases parts
  subst there
  constructor
  · intro untouched
    have kept := untouched.linked
    rw [record] at kept
    exact kept.symm
  · intro unmarked
    refine ⟨?_, ?_, ?_, ?_, ?_⟩
    · simp only [peripheral, central]
    · simp only [peripheral, central]
    · rw [record]
    · rw [record, unmarked]
    · intro k _
      rw [run]
      exact fun hung => List.not_mem_nil (onConnClose_spares _ (t.begin i.native).core r k hung)

theorem parting_event {t : Transport} {e : Event} {id : PeripheralId} {sess : Ref}
    (parts : t.parting e = some (id, sess)) : (∃ st, e = .streamClose st) ∨ ∃ r, e = .connClose r := by
  cases e with
  | streamClose st => exact .inl ⟨st, rfl⟩
  | connClose r => exact .inr ⟨r, rfl⟩
  | _ => cases parts

theorem sparesLater_iff (t : Transport) (a : Action) : t.SparesLater a ↔ t.Latest a := by
  cases a with
  | input i =>
    apply forall_congr'
    intro id
    refine forall_congr' fun sess => forall_congr' fun parts => forall_congr' fun q =>
      forall_congr' fun there => forall_congr' fun _ => ?_
    rcases parting_event parts with ⟨st, event⟩ | ⟨r, event⟩
    · constructor
      · exact fun untouched => absurd untouched (streamClose_touches event parts there)
      · rintro ⟨r, closes, -⟩
        cases event.symm.trans closes
    · rw [connClose_untouched_iff event parts there]
      refine ⟨fun unmarked => ⟨r, event, unmarked⟩, ?_⟩
      rintro ⟨-, -, unmarked⟩
      exact unmarked
  | _ => exact Iff.rfl

/-- An earlier session leaves the later ones of its peripheral alone exactly in the runs in
which none of its streams closes behind the start of one, and none of its links while the
record is still marked. -/
theorem later_sessions_spared_iff (cfg : Config) (topic : Option Bytes) (online : Bool)
    (ids : Ref → PeripheralId) (actions : List Action) :
    Runs.Each act SparesLater (create cfg topic online ids) actions ↔
      Runs.Each act Latest (create cfg topic online ids) actions := by
  have same : ∀ (t : Transport) a, True → (t.SparesLater a ↔ t.Latest a) :=
    fun t a _ => sparesLater_iff t a
  exact Runs.each_iff same (fun _ _ _ _ => trivial) trivial actions

/-- The stream of a session that the remote closed closes behind the start of the next one. -/
theorem stale_stream_hangs_up :
    let cfg := Config.plain (List.replicate 32 1) .gatt .ios
    let remote := List.replicate 32 2
    ¬ Runs.Each act SparesLater (create cfg none false id)
      (startThen (dialAnswered cfg 0 7 remote ++
        [.notify 7 (encodeFrame typeClose (cfg.randomId 0) []), .connClose 0]) ++
        [.discover 7 none, .connect 7, .servicesDiscover 7 true, .characteristicsDiscover 7 true,
          .notifyState 7 true, .streamClose 0].map fun event => .input { now := 40000, event }) := by
  intro cfg remote spares
  obtain ⟨-, spares⟩ := Runs.each_append.mp spares
  have last := spares.2.2.2.2.2.1
  have untouched := last 7 0 (by decide +kernel) 7 (by decide +kernel) (by decide +kernel)
  exact untouched.connected 7 (by decide +kernel) (by decide +kernel)

/-- The session of the server side whose stream closes with an event. -/
def leaving (t : Transport) : Event → Option Ref
  | .streamClose st =>
    let s := t.core.streams.get st
    if t.life.opened && decide (st < t.core.streams.next) && !s.closed then
      match s.owner with
      | .server r => some r
      | .central _ _ => none
    else none
  | _ => none

/-- The close of a stream ends the session it was bound to, and no other. -/
def EndsOwn (t : Transport) : Action → Prop
  | .input i => ∀ r, t.leaving i.event = some r → Alone t.core (t.act (.input i)).core r
  | _ => True

/-- No other session was accepted under the id of a session whose stream closes. -/
def Unreused (t : Transport) : Action → Prop
  | .input i => ∀ r, t.leaving i.event = some r →
    ∀ k, t.core.server.table.get? (t.core.session r).id = some k → k = r
  | _ => True

theorem endsOwn_iff (t : Transport) (a : Action) : t.EndsOwn a ↔ t.Unreused a := by
  cases a with
  | input i =>
    refine forall_congr' fun r => forall_congr' fun leaves => ?_
    obtain ⟨now, native, event⟩ := i
    cases event with
    | streamClose st =>
      simp only [leaving, Bool.and_eq_true, decide_eq_true_eq, Bool.not_eq_true'] at leaves
      split at leaves
      · rename_i live
        split at leaves
        · rename_i session owner
          obtain rfl := Option.some.inj leaves
          obtain ⟨streams, out, run⟩ := onStreamClose_server (t.env now native)
            (c := (t.begin native).core) live.1.2 live.2 owner
          have run : (t.act (.input ⟨now, native, .streamClose st⟩)).core = _ :=
            (congrArg Transport.core (act_input live.1.1)).trans run
          rw [run]
          have verdict := closeServerSession_alone_iff (t.env now native)
            { (t.begin native).core with streams, out } session
          constructor
          · intro alone
            have frames := alone.frames
            exact verdict.mp ⟨alone.table, ⟨frames.queued, frames.accepted⟩, alone.own⟩
          · intro own
            have alone := verdict.mpr own
            exact ⟨alone.table, ⟨alone.frames.queued, alone.frames.accepted⟩, alone.own⟩
        · cases leaves
      · cases leaves
    | _ => cases leaves
  | _ => exact Iff.rfl

/-- The close of a stream ends no other session exactly in the runs in which none was
accepted under the id of its own by then. -/
theorem ends_own_iff (cfg : Config) (topic : Option Bytes) (online : Bool)
    (ids : Ref → PeripheralId) (actions : List Action) :
    Runs.Each act EndsOwn (create cfg topic online ids) actions ↔
      Runs.Each act Unreused (create cfg topic online ids) actions := by
  have same :
      ∀ (t : Transport) a, True → (t.EndsOwn a ↔ t.Unreused a) := fun t a _ => endsOwn_iff t a
  exact Runs.each_iff same (fun _ _ _ _ => trivial) trivial actions

/-- The remote closes a session and opens its id again before the first stream closes. -/
theorem reused_id_ends_session :
    let cfg := Config.plain (List.replicate 32 1) .gatt .ios
    let remote := List.replicate 32 2
    let sid := toHex (List.replicate 8 9)
    ¬ Runs.Each act EndsOwn (create cfg none false id)
      (startThen [opensSession remote, .writeRequests [(encodeFrame typeClose sid [], false)],
        opensSession remote, .streamClose 0]) := by
  intro cfg remote sid ends
  have last := ends.2.2.2.2.1
  have alone := last 0 (by decide +kernel)
  have stays := alone.table sid 1 (by decide +kernel) (by decide)
  exact absurd stays (by decide +kernel)

end Transport

end BleSwarm
