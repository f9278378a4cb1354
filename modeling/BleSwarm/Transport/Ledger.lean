import BleSwarm.Transport.Rotation

/-!
# What the listener promises

A HELLO hands out the psm that is recorded, and a session opens its channel on it some time
later. The record is neither what the native server was asked for nor what it has: a request
is answered any time later, and a power cycle takes every listener away. `Ledger` is a
transport with the history that tells them apart, and it shows that a rotation takes no psm
from a session that waits for its channel.
-/

namespace BleSwarm

/-- The psm was reported, and its listener has not been given back since. -/
def Notice.Standing (psm : Nat) (log : List Notice) : Prop :=
  ∃ before after, log = before ++ .published psm :: after ∧ .retracted psm ∉ after

namespace Notice

theorem Standing.append {psm : Nat} {log more : List Notice} (h : Standing psm log)
    (kept : .retracted psm ∉ more) : Standing psm (log ++ more) := by
  obtain ⟨before, after, rfl, free⟩ := h
  refine ⟨before, after ++ more, by simp, fun mem => ?_⟩
  exact (List.mem_append.mp mem).elim free kept

theorem standing_published (psm : Nat) (log : List Notice) : Standing psm (log ++ [.published psm]) :=
  ⟨log, [], rfl, List.not_mem_nil⟩

end Notice

namespace Listener

/-- The turns that give the listener back. -/
def Turn.yields : Turn → Bool
  | .unpublish | .cycle => true
  | _ => false

/-- The psm that is recorded stands. -/
def Sound (l : Listener) : Prop := ∀ psm, l.psm = some psm → Notice.Standing psm l.log

theorem publish_sound {supported : Bool} {l : Listener} (h : l.Sound) : (l.publish supported).Sound := by
  unfold publish
  split
  · exact h
  · intro psm recorded
    exact (h psm recorded).append (by simp)

theorem unpublish_sound (supported : Bool) (l : Listener) : (l.unpublish supported).Sound := by
  unfold unpublish
  split
  · rename_i idle
    intro psm recorded
    exact absurd (idle.symm.trans recorded) (by simp)
  · exact fun psm recorded => absurd recorded (by simp)

theorem take_sound {supported : Bool} {l : Listener} (h : l.Sound) (turn : Turn) :
    (l.take supported turn).Sound := by
  cases turn with
  | publish => exact publish_sound h
  | unpublish => exact unpublish_sound supported l
  | cycle => exact publish_sound (unpublish_sound supported l)
  | published psm =>
    rintro psm' recorded
    obtain rfl := Option.some.inj recorded
    exact Notice.standing_published psm l.log
  | down => exact fun psm recorded => (h psm recorded).append (by simp)

/-- Whether a psm is recorded does not depend on the past. -/
theorem foldl_psm {supported : Bool} {l l' : Listener} (same : l.psm = l'.psm) (turns : List Turn) :
    (turns.foldl (take supported) l).psm = (turns.foldl (take supported) l').psm := by
  have renewed : l' = (⟨l'.psm, []⟩ : Listener).since l'.log := by simp [since]
  have begun : l = (⟨l'.psm, []⟩ : Listener).since l.log := by simp [since, ← same]
  rw [renewed, begun, foldl_since, foldl_since]
  rfl

theorem foldl_sound {supported : Bool} {l : Listener} (h : l.Sound) (turns : List Turn) :
    (turns.foldl (take supported) l).Sound := by
  induction turns generalizing l with
  | nil => exact h
  | cons turn turns ih => exact ih (take_sound h turn)

/-- What stands is let fall by those turns only. -/
theorem take_standing {supported : Bool} {l : Listener} {psm : Nat} (h : Notice.Standing psm l.log)
    {turn : Turn} (keeps : turn.yields = false) : Notice.Standing psm (l.take supported turn).log := by
  cases turn with
  | publish =>
    simp only [take, publish]
    split
    · exact h
    · exact h.append (by simp)
  | unpublish => cases keeps
  | cycle => cases keeps
  | published psm' => exact h.append (by simp)
  | down => exact h.append (by simp)

theorem foldl_standing {supported : Bool} {l : Listener} {psm : Nat} {turns : List Turn}
    (keeps : ∀ turn ∈ turns, turn.yields = false) (h : Notice.Standing psm l.log) :
    Notice.Standing psm (turns.foldl (take supported) l).log := by
  induction turns generalizing l with
  | nil => exact h
  | cons turn turns ih =>
    obtain ⟨here, later⟩ := List.forall_mem_cons.mp keeps
    exact ih later (take_standing h here)

end Listener

namespace Core

variable {env : Env} {c c' c'' : Core}

/-- The session under the id waits for its channel. -/
def Waits (c : Core) (id : Hex) (r : Ref) : Prop :=
  c.server.table.get? id = some r ∧ (c.session r).stream = none

instance (c : Core) (id : Hex) (r : Ref) : Decidable (c.Waits id r) :=
  inferInstanceAs (Decidable (_ ∧ _))

theorem Waits.pending {id : Hex} {r : Ref} (h : c.Waits id r) : c.pendingSession = true :=
  waits_of_entry h.1 h.2

/-- Nothing waits that did not, and what gives the listener back leaves nothing that waits. -/
structure Cedes (c c' : Core) (turns : List Listener.Turn) : Prop where
  fewer : ∀ id r, c'.Waits id r → c.Waits id r
  yields : ∀ turn ∈ turns, turn.yields = true → ∀ id r, ¬ c'.Waits id r

theorem Cedes.of_fewer (fewer : ∀ id r, c'.Waits id r → c.Waits id r) {turns : List Listener.Turn}
    (keeps : ∀ turn ∈ turns, turn.yields = false) : Cedes c c' turns :=
  ⟨fewer, fun turn mem yields => absurd ((keeps turn mem).symm.trans yields) (by simp)⟩

theorem Cedes.of_empty (empty : c'.server.table = ∅) (turns : List Listener.Turn) :
    Cedes c c' turns := by
  have none : ∀ id r, ¬ c'.Waits id r := fun id r waits => by simpa [empty] using waits.1
  exact ⟨fun id r waits => absurd waits (none id r), fun _ _ _ => none⟩

theorem Quiet.waits (h : Quiet c c') (id : Hex) (r : Ref) (waits : c'.Waits id r) : c.Waits id r := by
  simpa only [Waits, session, h.table, h.sessions] using waits

theorem Tends.fewer (h : Tends c c') (id : Hex) (r : Ref) (waits : c'.Waits id r) : c.Waits id r := by
  simpa only [Waits, h.aside.table, h.stream] using waits

theorem leave_fewer {k : Hex} {id : Hex} {r r' : Ref} (waits : (c.leave id r').Waits k r) :
    c.Waits k r := by
  obtain ⟨entry, stream⟩ := waits
  exact ⟨OrderedMap.get?_of_delete entry, (leave_stream c id r' r).symm.trans stream⟩

theorem Ended.cedes {id : Hex} (h : Ended env c id c') :
    Cedes c c' (if c.rotates env id then [.cycle] else []) where
  fewer k r waits := by
    obtain ⟨entry, stream⟩ := waits
    rw [h.table] at entry
    exact ⟨OrderedMap.get?_of_delete entry, (h.streams r).symm.trans stream⟩
  yields turn mem _ k r waits := by
    have still := waits.pending
    rw [h.waits] at still
    have held : c.rotates env id = false := by simp [rotates, still]
    simp [held] at mem

theorem Seated.cedes {k : Ref} (h : Seated env c k c') :
    Cedes c c' (if c.server.cyclePending && c.othersBound k then [.cycle] else []) where
  fewer id r waits := by
    obtain ⟨entry, stream⟩ := waits
    have other : r ≠ k := by
      rintro rfl
      exact h.stream stream
    exact ⟨h.table ▸ entry, (h.others r other).symm.trans stream⟩
  yields turn mem _ id r waits := by
    have still := waits.pending
    rw [h.waits] at still
    have held : (c.server.cyclePending && c.othersBound k) = false := by
      simpa using fun _ => still
    simp [held] at mem

/-- Every psm that a waiting session was told stands, and the one that is recorded. -/
structure Kept (told : Ref → Option Nat) (c : Core) (l : Listener) : Prop where
  recorded : l.Sound
  kept : ∀ id r, c.Waits id r → ∃ psm, told r = some psm ∧ Notice.Standing psm l.log

theorem Cedes.kept {told : Ref → Option Nat} {turns : List Listener.Turn} {l : Listener}
    (h : Cedes c c' turns) (supported : Bool) (kept : Kept told c l) :
    Kept told c' (turns.foldl (Listener.take supported) l) := by
  refine ⟨Listener.foldl_sound kept.recorded turns, fun id r waits => ?_⟩
  obtain ⟨psm, told, standing⟩ := kept.kept id r (h.fewer id r waits)
  refine ⟨psm, told, Listener.foldl_standing (fun turn mem => ?_) standing⟩
  by_contra yields
  exact h.yields turn mem (Bool.eq_true_of_not_eq_false yields) id r waits

/-! Frames. -/

/-- The psm that the HELLO to a new session carries. -/
def Moment.tell (told : Ref → Option Nat) (m : Moment) : Ref → Option Nat :=
  match m.core.promises? m.env m.data with
  | none => told
  | some (_, psm) => Function.update told m.core.server.sessions.next (some psm)

/-- It is noted for the session that gets the HELLO, and the HELLO carries it. -/
theorem Moment.hello {m : Moment} (l2cap : m.env.cfg.pipe = .l2cap) {id : Hex} {psm : Nat}
    (promises : m.core.promises? m.env m.data = some (id, psm)) :
    Promised m.env m.core id psm (m.core.onServerFrame m.env m.data) := by
  rcases onServerFrame_cases l2cap m.core m.data with
    ⟨_, -, none, -⟩ | ⟨id', psm', -, here, -, promised⟩ | ⟨-, none, -⟩
  · exact absurd (none.symm.trans promises) (by simp)
  · obtain ⟨rfl, rfl⟩ := Prod.mk.inj (Option.some.inj (here.symm.trans promises))
    exact promised
  · exact absurd (none.symm.trans promises) (by simp)

theorem onWriteRequest_kept (l2cap : env.cfg.pipe = .l2cap) (running : env.life.suspended = false)
    {told : Ref → Option Nat} {l : Listener} (psm : l.psm = c.server.psm) (h : Kept told c l)
    (req : Bytes × Bool) : Kept (Moment.tell told ⟨env, c, req.1⟩) (c.onWriteRequests env [req])
      ((Moment.turns ⟨env, c, req.1⟩).foldl (Listener.take env.cfg.channelSupport) l) := by
  simp only [Moment.tell, Moment.turns]
  rcases onWriteRequest_cases l2cap running c req with
    ⟨id, ends, none, ended⟩ | ⟨id, promise, none, here, -, promised⟩ | ⟨none, none', tends⟩
  · rw [none, ends]
    exact ended.cedes.kept _ h
  · rw [none, here]
    refine ⟨h.recorded, fun k r waits => ?_⟩
    by_cases new : r = c.server.sessions.next
    · subst new
      exact ⟨promise, Function.update_self .., h.recorded promise (psm.trans promised.recorded)⟩
    · have entry : c.server.table.get? k = some r := by
        have entry := waits.1
        rw [promised.table, OrderedMap.get?_set] at entry
        split at entry
        · exact absurd (Option.some.inj entry).symm new
        · exact entry
      obtain ⟨psm, before, standing⟩ := h.kept k r ⟨entry, (promised.others r new).symm.trans waits.2⟩
      exact ⟨psm, (Function.update_of_ne new ..).trans before, standing⟩
  · rw [none, none']
    exact ⟨h.recorded, fun k r waits => h.kept k r (tends.fewer k r waits)⟩

theorem onWriteRequests_kept (l2cap : env.cfg.pipe = .l2cap) (running : env.life.suspended = false)
    {told : Ref → Option Nat} {l : Listener} (psm : l.psm = c.server.psm) (h : Kept told c l)
    (requests : List (Bytes × Bool)) :
    Kept ((moments env c requests).foldl Moment.tell told) (c.onWriteRequests env requests)
      (((moments env c requests).flatMap Moment.turns).foldl (Listener.take env.cfg.channelSupport) l) := by
  induction requests generalizing c told l with
  | nil => exact h
  | cons req requests ih =>
    rw [onWriteRequests_cons, moments, List.foldl_cons, List.flatMap_cons, List.foldl_append]
    refine ih ?_ (onWriteRequest_kept l2cap running psm h req)
    have now := congrArg Listener.psm (onWriteRequest_listener l2cap running c req)
    exact (Listener.foldl_psm psm _).trans now.symm

/-! Events and calls. -/

theorem onRadioDown_empty (c : Core) : c.onRadioDown.server.table = ∅ := by
  simp only [onRadioDown]
  rfl

/-- No session waits that did not wait before. -/
theorem waits_spans : Spans fun c c' : Core => ∀ id r, c'.Waits id r → c.Waits id r :=
  ⟨Quiet.waits, fun h h' id r => h id r ∘ h' id r⟩

theorem onRadioDown_waits (c : Core) : ∀ id r, c.onRadioDown.Waits id r → c.Waits id r :=
  (Cedes.of_empty (onRadioDown_empty c) []).fewer

theorem onServerState_cedes (env : Env) (c : Core) (s : AdapterState) :
    Cedes c (c.onServerState env s)
      (if c.listens env s then [.publish] else if isDown s then [.down] else []) := by
  refine .of_fewer (waits_spans.onServerState onRadioDown_waits env c s) ?_
  · intro turn mem
    split at mem
    · obtain rfl := List.mem_singleton.mp mem
      rfl
    · split at mem
      · obtain rfl := List.mem_singleton.mp mem
        rfl
      · cases mem

theorem onCentralState_cedes (env : Env) (c : Core) (s : AdapterState) :
    Cedes c (c.onCentralState env s) (if isDown s then [.down] else []) := by
  refine .of_fewer (waits_spans.onCentralState onRadioDown_waits env c s) ?_
  · intro turn mem
    split at mem
    · obtain rfl := List.mem_singleton.mp mem
      rfl
    · cases mem

theorem teardown_empty (env : Env) (c : Core) : (c.teardown env).server.table = ∅ := by
  simp only [teardown]
  split
  · exact (unpublish_radioOnly env _).quiet.table
  · rfl

theorem Calls.fewer (h : Calls env c c') : ∀ id r, c'.Waits id r → c.Waits id r := by
  refine waits_spans.calls (fun c => ?_) (fun c => ?_) h
  · exact (Cedes.of_empty rfl []).fewer
  · have empty : (c.doClose env).server.table = ∅ := by rw [doClose_eq]
    exact (Cedes.of_empty empty []).fewer

end Core

namespace Transport

open BleSwarm.Core

theorem handle_cedes {t : Transport} {env : Env} (booked : Booked env.cfg t.core) {e : Event}
    (unwritten : ∀ requests, e ≠ .writeRequests requests) :
    Cedes t.core (t.handle env e).core (eventTurns env t.core e) := by
  have still : ∀ {c' : Core}, Tends t.core c' → Cedes t.core c' [] :=
    fun tends => .of_fewer tends.fewer (by simp)
  cases e with
  | writeRequests requests => exact absurd rfl (unwritten requests)
  | serverState s => exact onServerState_cedes env t.core s
  | centralState s => exact onCentralState_cedes env t.core s
  | serviceAdd => exact .of_fewer (onServiceAdd_radioOnly t.core).quiet.waits (by simp [eventTurns])
  | connOpen r key => exact still (onConnOpen_tends env t.core r key)
  | channelPublish psm =>
    have keeps : ∀ turn ∈ [Listener.Turn.published psm], turn.yields = false := by
      simp [Listener.Turn.yields]
    exact ⟨fun id r waits => waits, (Cedes.of_fewer (fun id r waits => waits) keeps).yields⟩
  | pipeTimeout r =>
    refine .of_fewer (fun id k waits => ?_) (by simp [eventTurns])
    rcases onPipeTimeout_cases env booked r with ⟨-, -, -, left⟩ | ⟨-, same⟩
    · exact leave_fewer (left.fewer id k waits)
    · have run : (t.handle env (.pipeTimeout r)).core = t.core := same
      exact run ▸ waits
  | streamClose st =>
    simp only [eventTurns]
    rcases onStreamClose_cases env t.core st with ⟨id, here, ended⟩ | ⟨none, tends⟩
    · rw [here]
      exact ended.cedes
    · rw [none]
      exact still tends
  | resumeAccept a =>
    simp only [eventTurns]
    rcases resumeAccept_seats env t.core a with ⟨r, rest, awaited, seated⟩ | ⟨none, tends⟩
    · rw [awaited]
      exact seated.cedes
    · rw [none]
      exact still tends
  | _ => exact still ((handle_performs t env (by simp [Special]) (by simp)).tends rfl)

/-- The calls other than a resume. -/
theorem call_cedes {t : Transport} {a : Action} (call : ∀ i, a ≠ .input i)
    (unresumed : ∀ now, a ≠ .resume now) : Cedes t.core (t.act a).core (t.turns a) := by
  obtain ⟨env, -, -, -, calls⟩ := t.act_calls call
  have fewer : ∀ id r, (t.act a).core.Waits id r → t.core.Waits id r := calls.fewer
  cases a with
  | input i => exact absurd rfl (call i)
  | resume now => exact absurd rfl (unresumed now)
  | «open» server central now =>
    refine .of_fewer fewer fun turn mem => ?_
    simp only [turns] at mem
    split at mem
    · obtain rfl := List.mem_singleton.mp mem
      rfl
    · cases mem
  | drained id now native =>
    by_cases drains : id ∈ t.life.drains
    · refine .of_empty ?_ _
      simp only [act, drained]
      have mem : id ∈ (t.begin native).life.drains := drains
      rw [if_pos mem]
      exact teardown_empty _ _
    · refine .of_fewer fewer fun turn mem => ?_
      simp [turns, drains] at mem
  | _ => exact .of_fewer fewer (by simp [turns])

end Transport

/-- A transport, what it told the native server of the listener and heard of it, and the psm
that each session was told in its HELLO. -/
structure Ledger where
  transport : Transport
  log : List Notice := []
  told : Ref → Option Nat := fun _ => none

namespace Ledger

open BleSwarm.Core BleSwarm.Transport

def act (w : Ledger) (a : Action) : Ledger where
  transport := w.transport.act a
  log := w.log ++ w.transport.heard a ++ (w.transport.act a).core.out.filterMap Command.notice
  told := (w.transport.frames a).foldl Moment.tell w.told

/-- The listener with all of its past. -/
def listener (w : Ledger) : Listener := ⟨w.transport.core.server.psm, w.log⟩

/-- What happened to the listener in a run refines the turns of its steps. -/
theorem act_listener {w : Ledger} (l2cap : w.transport.cfg.pipe = .l2cap) (a : Action) :
    (w.act a).listener = (w.transport.turns a).foldl (Listener.take w.transport.cfg.channelSupport)
      w.listener := by
  have begun : w.listener = (⟨w.transport.core.server.psm, []⟩ : Listener).since w.log := by
    simp [listener, Listener.since]
  rw [begun, Listener.foldl_since, ← Transport.act_listener l2cap a]
  simp [act, listener, Listener.since, Core.listener]

/-- The step is no resume. -/
def Unresumed (_ : Ledger) : Action → Prop
  | .resume _ => False
  | _ => True

instance (w : Ledger) (a : Action) : Decidable (w.Unresumed a) := by
  unfold Unresumed
  rcases a with _ | _ <;> infer_instance

structure Minds (w : Ledger) : Prop where
  l2cap : w.transport.cfg.pipe = .l2cap
  booked : Booked w.transport.cfg w.transport.core
  kept : Kept w.told w.transport.core w.listener

/-- A batch of frames. -/
theorem frames_kept {w : Ledger} (h : w.Minds) {i : Input} {requests : List (Bytes × Bool)}
    (event : i.event = .writeRequests requests) :
    Kept (w.act (.input i)).told (w.transport.act (.input i)).core
      ((w.transport.turns (.input i)).foldl (Listener.take w.transport.cfg.channelSupport) w.listener) := by
  let env : Env := w.transport.env i.now i.native
  let c : Core := (w.transport.begin i.native).core
  have begun : Kept w.told c w.listener := ⟨h.kept.recorded, h.kept.kept⟩
  have l2cap : env.cfg.pipe = .l2cap := h.l2cap
  cases opened : w.transport.life.opened
  · have told : (w.act (.input i)).told = w.told := by simp [act, frames, event, opened]
    have turns : w.transport.turns (.input i) = [] := by simp [turns, opened]
    rw [act_input_unopened opened, told, turns]
    exact begun
  · have run : (w.transport.act (.input i)).core = c.onWriteRequests env requests := by
      rw [act_input opened, event]
      rfl
    cases running : w.transport.life.suspended
    · have told : (w.act (.input i)).told = (moments env c requests).foldl Moment.tell w.told := by
        simp [act, frames, event, opened, running, env, c]
      have turns : w.transport.turns (.input i) = (moments env c requests).flatMap Moment.turns := by
        simp [turns, eventTurns, event, opened, Transport.env, running, env, c]
      have running : env.life.suspended = false := running
      rw [run, told, turns]
      exact onWriteRequests_kept l2cap running rfl begun requests
    · have told : (w.act (.input i)).told = w.told := by simp [act, frames, event, running]
      have turns : w.transport.turns (.input i) = [] := by
        simp [turns, eventTurns, event, Transport.env, running]
      have tends : Tends c (c.onWriteRequests env requests) :=
        onWriteRequests_suspended running requests c
      rw [run, told, turns]
      exact ⟨h.kept.recorded, fun id r waits => h.kept.kept id r (tends.fewer id r waits)⟩

theorem act_kept {w : Ledger} (h : w.Minds) {a : Action} (unresumed : w.Unresumed a) :
    Kept (w.act a).told (w.transport.act a).core (w.act a).listener := by
  rw [act_listener h.l2cap]
  by_cases written : ∃ i requests, a = .input i ∧ i.event = .writeRequests requests
  · obtain ⟨i, requests, rfl, event⟩ := written
    exact frames_kept h event
  · have told : (w.act a).told = w.told := by
      cases a with
      | input i =>
        simp only [act, frames]
        split
        · rename_i requests event
          exact absurd ⟨i, requests, rfl, event⟩ written
        · rfl
      | _ => rfl
    have cedes : Cedes w.transport.core (w.transport.act a).core (w.transport.turns a) := by
      by_cases call : ∀ i, a ≠ .input i
      · exact call_cedes call fun now resumes => by
          rw [resumes] at unresumed
          exact unresumed
      · obtain ⟨i, rfl⟩ := not_forall_not.mp call
        cases opened : w.transport.life.opened
        · rw [act_input_unopened opened]
          refine ⟨fun id r waits => waits, ?_⟩
          simp [turns, opened]
        · rw [act_input opened]
          simp only [turns, opened, if_true]
          have booked : Booked (w.transport.env i.now i.native).cfg (w.transport.begin i.native).core :=
            (begin_quiet w.transport i.native).books.booked h.booked
          have cedes := handle_cedes booked fun requests event => written ⟨i, requests, rfl, event⟩
          exact ⟨cedes.fewer, cedes.yields⟩
    rw [told]
    exact cedes.kept _ h.kept

theorem act_minds {w : Ledger} (h : w.Minds) {a : Action} (unresumed : w.Unresumed a) :
    (w.act a).Minds where
  l2cap := by
    simp only [act]
    rw [act_cfg, h.l2cap]
  booked := by
    simp only [act]
    rw [act_cfg]
    exact (act_books w.transport a).booked h.booked
  kept := act_kept h unresumed

/-- On the l2cap pipe the psm that a session was told, and waits on, was reported and has not
been given back since, in every run without a resume. -/
theorem waiting_psm_stands (cfg : Config) (topic : Option Bytes) (online : Bool) (ids : Ref → PeripheralId)
    (actions : List Action) (unresumed : Runs.Each act Unresumed
      { transport := create { cfg with pipe := .l2cap } topic online ids } actions) :
    let w := Runs.run act { transport := create { cfg with pipe := .l2cap } topic online ids } actions
    ∀ id r, w.transport.core.Waits id r → ∃ psm, w.told r = some psm ∧ Notice.Standing psm w.log := by
  intro w
  have keep : ∀ (w : Ledger) a, w.Minds → w.Unresumed a → (w.act a).Minds :=
    fun _ _ h unresumed => act_minds h unresumed
  have minds : w.Minds := by
    refine Runs.invariant keep ?_ unresumed
    refine ⟨rfl, create_booked _ topic online ids, fun psm recorded => ?_, fun id r waits => ?_⟩
    · exact absurd recorded (by simp [listener, create])
    · exact absurd waits.1 (by simp [create])
  exact minds.kept.kept

/-- Two sessions wait for channels, and one of them is closed. -/
theorem waiting_psm_stands_beside_close :
    let w := Runs.run act { transport := create (Config.plain (List.replicate 32 1) .l2cap .mac) none false id }
      (startThen [.channelPublish 128,
        .writeRequests [(asksChannel (List.replicate 8 7) (List.replicate 32 2), false)],
        .writeRequests [(asksChannel (List.replicate 8 8) (List.replicate 32 2), false)],
        .writeRequests [(encodeFrame typeClose (toHex (List.replicate 8 7)) [], false)]])
    ∃ psm, w.told 1 = some psm ∧ Notice.Standing psm w.log :=
  waiting_psm_stands (Config.plain (List.replicate 32 1) .l2cap .mac) none false id
    (startThen [.channelPublish 128,
      .writeRequests [(asksChannel (List.replicate 8 7) (List.replicate 32 2), false)],
      .writeRequests [(asksChannel (List.replicate 8 8) (List.replicate 32 2), false)],
      .writeRequests [(encodeFrame typeClose (toHex (List.replicate 8 7)) [], false)]])
    (by decide +kernel) (toHex (List.replicate 8 8)) 1 (by decide +kernel)

end Ledger

end BleSwarm
