import BleSwarm.Transport.Carried
import BleSwarm.Transport.Rotation

/-!
# Frames on the wrong pipe

Nothing but a DATA frame under the id of a session whose stream is on a channel spoils what a
channel carried. Such a frame always does: both sides refuse it only while no stream is bound.
-/

namespace BleSwarm

namespace Core

variable {env : Env} {c c' : Core} {emitted : Ref → Bytes}

/-! Streams that are spoilt. -/

/-- Some stream on a channel was handed the payload of a frame. -/
def Spoilt (c : Core) : Prop :=
  ∃ st < c.streams.next, (c.streams.get st).pipe = .l2cap ∧
    ∃ chunk ∈ (c.streams.get st).received, chunk.1 = Pipe.gatt

/-- Handlers that read no channel keep a stream spoilt. -/
theorem Performs.spoilt {effects : Effects} (h : Performs env effects c c')
    (unread : effects.channels = false) (spoilt : Spoilt c) : Spoilt c' := by
  have still := h.still unread
  obtain ⟨st, lt, pipe, chunk, mem, gatt⟩ := spoilt
  refine ⟨st, lt.trans_le still.joins.grows, (still.flows.pipe st lt).trans pipe, chunk, ?_, gatt⟩
  rcases still.flows.received st lt with same | ⟨-, more⟩
  · exact same ▸ mem
  · exact more.subset mem

/-- The payload of a frame, pushed into a stream on a channel. -/
theorem receive_spoilt (beyond : ∀ st, c.streams.next ≤ st → (c.streams.get st).pipe = .gatt)
    {st : Ref} (mixed : (c.streams.get st).pipe ≠ .gatt) (chunk : Bytes) :
    Spoilt (c.receive st .gatt chunk) := by
  let push : Stream → Stream := fun s => { s with received := s.received ++ [(.gatt, chunk)] }
  have old : st < c.streams.next := by
    by_contra new
    exact mixed (beyond st (Nat.le_of_not_lt new))
  have pushed : (c.receive st .gatt chunk).streams.get st = push (c.streams.get st) :=
    c.streams.modify_get_self st push
  have pipe : (c.streams.get st).pipe = .l2cap := by
    cases here : (c.streams.get st).pipe with
    | gatt => exact absurd here mixed
    | l2cap => rfl
  refine ⟨st, old, ?_, (.gatt, chunk), ?_, rfl⟩
  · rw [pushed]
    exact pipe
  · rw [pushed]
    exact List.mem_append_right _ List.mem_cons_self

/-- Past the last stream there is none on a channel, whatever frames came in. -/
theorem Still.beyond {name : Pipe} {pushes : Prop} (h : Still name pushes c c')
    (beyond : ∀ st, c.streams.next ≤ st → (c.streams.get st).pipe = .gatt) (st : Ref)
    (ge : c'.streams.next ≤ st) : (c'.streams.get st).pipe = .gatt :=
  (h.flows.beyond st ge).trans (beyond st (h.joins.grows.trans ge))

theorem onWriteRequest_spoilt (running : env.life.suspended = false)
    (beyond : ∀ st, c.streams.next ≤ st → (c.streams.get st).pipe = .gatt) (req : Bytes × Bool)
    (mixed : ¬ Moment.Apart ⟨env, c, req.1⟩) : Spoilt (c.onWriteRequests env [req]) := by
  let answered : Core := if req.2 then c.issue .respondToRequest else c
  have run : c.onWriteRequests env [req] = answered.onServerFrame env req.1 := by
    simp only [onWriteRequests, List.foldl_cons, List.foldl_nil, running, Bool.false_eq_true,
      if_false]
    rfl
  have same : answered.written? req.1 = c.written? req.1 ∧ answered.streams = c.streams := by
    simp only [answered]
    split <;> exact ⟨rfl, rfl⟩
  obtain ⟨written, streams⟩ := same
  simp only [Moment.Apart, not_forall] at mixed
  obtain ⟨st, pushes, mixed⟩ := mixed
  obtain ⟨chunk, pushed⟩ := onServerFrame_pushes env (written.trans pushes)
  rw [run, pushed]
  rw [← streams] at beyond mixed
  exact receive_spoilt beyond mixed chunk

theorem onWriteRequests_spoilt (running : env.life.suspended = false)
    (beyond : ∀ st, c.streams.next ≤ st → (c.streams.get st).pipe = .gatt)
    (requests : List (Bytes × Bool)) (mixed : ∃ m ∈ moments env c requests, ¬ m.Apart) :
    Spoilt (c.onWriteRequests env requests) := by
  let effects : Effects :=
    { serves := true, binds := true, receives := true, scans := true, begins := true }
  have handles : ∀ (c : Core) requests, Performs env effects c (c.onWriteRequests env requests) :=
    fun c requests => onWriteRequests_performs requests c rfl (fun _ => rfl) rfl rfl rfl
  induction requests generalizing c with
  | nil =>
    obtain ⟨m, none, -⟩ := mixed
    cases none
  | cons req requests ih =>
    rw [onWriteRequests_cons]
    obtain ⟨m, mem, mixed⟩ := mixed
    rcases List.mem_cons.mp mem with rfl | later
    · exact (handles _ requests).spoilt rfl (onWriteRequest_spoilt running beyond req mixed)
    · exact ih ((handles c [req]).still rfl |>.beyond beyond) ⟨m, later, mixed⟩

theorem onCentralNotify_spoilt
    (beyond : ∀ st, c.streams.next ≤ st → (c.streams.get st).pipe = .gatt)
    {p : Ref} {data : Bytes} {n : Nat} (heard : 0 < n) {st : Ref}
    (pushes : c.notified? p data = some st) (mixed : (c.streams.get st).pipe ≠ .gatt) :
    Spoilt ((fun c => c.onCentralNotify env p data)^[n] c) := by
  let effects : Effects := { receives := true, scans := true, settles := true, begins := true }
  have handles : ∀ c : Core, Performs env effects c (c.onCentralNotify env p data) :=
    fun c => onCentralNotify_performs p data c rfl rfl rfl fun _ => rfl
  obtain ⟨n, rfl⟩ := Nat.exists_eq_add_one.mpr heard
  obtain ⟨chunk, pushed⟩ := onCentralNotify_pushes env pushes
  rw [Function.iterate_succ_apply]
  apply (Performs.iterate handles n _).spoilt rfl
  rw [pushed]
  exact receive_spoilt beyond mixed chunk

theorem Spoilt.impure (h : Spoilt c) :
    ¬ ∀ st < c.streams.next, (c.streams.get st).pipe = .l2cap →
      (c.streams.get st).Pure emitted := by
  obtain ⟨st, lt, pipe, chunk, mem, gatt⟩ := h
  intro pure
  exact absurd (((pure st lt pipe).1 chunk mem).symm.trans gatt) (by decide)

/-! Suspended, the frames are answered only. -/

theorem onWriteRequests_answers (suspended : env.life.suspended = true) (c : Core)
    (requests : List (Bytes × Bool)) : Quiet c (c.onWriteRequests env requests) := by
  induction requests generalizing c with
  | nil => exact .refl c
  | cons req requests ih =>
    rw [onWriteRequests_cons]
    refine Quiet.trans ?_ (ih _)
    simp only [onWriteRequests, List.foldl_cons, List.foldl_nil, suspended, if_true]
    exact .ite (issue_quiet c _) (.refl c)

end Core

namespace Transport

open BleSwarm.Core

variable {emitted : Ref → Bytes}

/-- What the channels have emitted, with an event. -/
def emits (emitted : Ref → Bytes) : Event → Ref → Bytes
  | .channelData ch data => emit emitted ch data
  | _ => emitted

theorem handle_carried {t : Transport} (env : Env) (h : Carried env.cfg.pipe emitted t.core)
    {e : Event}
    (written : ∀ requests, e = .writeRequests requests → env.life.suspended = false →
      ∀ m ∈ moments env t.core requests, m.Apart)
    (notified : ∀ p data, e = .notify p data → 0 < (t.listeners p).notify →
      ∀ st ∈ t.core.notified? p data, (t.core.streams.get st).pipe = .gatt) :
    Carried env.cfg.pipe (emits emitted e) (t.handle env e).core := by
  have still : ∀ {c : Core}, Still env.cfg.pipe False t.core c → Carried env.cfg.pipe emitted c :=
    fun stays => stays.carried not_false h
  have spans : Spans (Still env.cfg.pipe False) := spans_still
  cases e with
  | serverState s => exact still (spans.onServerState onRadioDown_still env t.core s)
  | centralState s => exact still (spans.onCentralState onRadioDown_still env t.core s)
  | connOpen r key => exact still (onConnOpen_still env t.core r key)
  | serviceAdd => exact still (onServiceAdd_radioOnly t.core).quiet.still
  | channelPublish psm => exact still (.of_same rfl rfl rfl)
  | channelData ch data => exact (onChannelData_fed (h.once ch) data t.core).carried h
  | serverChannel ch =>
    show Carried _ _ (t.core.onServerChannel env ch)
    unfold onServerChannel
    split
    · exact still (issue_quiet t.core _).still
    · exact acceptServer_carried h env ch
  | preambleTimeout a => exact onPreambleTimeout_carried h env a
  | resumeOpen a => exact resumeOpen_carried h a
  | resumeAccept a => exact resumeAccept_carried h a
  | writeRequests requests =>
    cases running : env.life.suspended with
    | true => exact still (onWriteRequests_answers running t.core requests).still
    | false => exact onWriteRequests_carried running h requests (written requests rfl running)
  | notify p data =>
    rcases Nat.eq_zero_or_pos (t.listeners p).notify with none | heard
    · have idle : (t.handle env (.notify p data)).core = t.core := by
        simp only [handle, withCore, none, Function.iterate_zero, id]
      rw [idle]
      exact h
    · exact onCentralNotify_carried h p data _ (notified p data rfl heard)
  | _ =>
    refine Still.carried ((handle_performs t env ?_ ?_).still ?_) ?_ h
    · exact id
    · simp
    · rfl
    · simp [effectsOf]

/-- The stream that a notification pushes its payload into, if one is handled in a step. -/
def notified? (t : Transport) : Action → Option Ref
  | .input i =>
    match i.event with
    | .notify p data =>
      if t.life.opened && 0 < (t.listeners p).notify then t.core.notified? p data else none
    | _ => none
  | _ => none

end Transport

/-- A transport, and what each channel has emitted. -/
structure Traffic where
  transport : Transport
  emitted : Ref → Bytes := fun _ => []

namespace Traffic

open BleSwarm.Core BleSwarm.Transport

def act (w : Traffic) (a : Action) : Traffic where
  transport := w.transport.act a
  emitted :=
    match a with
    | .input i => emits w.emitted i.event
    | _ => w.emitted

/-- After the step every stream of an l2cap transport, and any other on a channel, was handed
the bytes of its channel only. -/
def Clean (w : Traffic) (a : Action) : Prop :=
  ∀ st < (w.act a).transport.core.streams.next,
    w.transport.cfg.pipe = .l2cap ∨ ((w.act a).transport.core.streams.get st).pipe = .l2cap →
      ((w.act a).transport.core.streams.get st).Pure (w.act a).emitted

/-- No frame that the step handles is for a stream on a channel. -/
def Unmixed (w : Traffic) (a : Action) : Prop :=
  (∀ m ∈ w.transport.frames a, m.Apart) ∧
    ∀ st ∈ w.transport.notified? a, (w.transport.core.streams.get st).pipe = .gatt

instance (w : Traffic) (a : Action) : Decidable (w.Clean a) :=
  inferInstanceAs (Decidable (∀ st < _, _))

instance (w : Traffic) (a : Action) : Decidable (w.Unmixed a) :=
  inferInstanceAs (Decidable (_ ∧ _))

/-- What was emitted keeps every stream of the transport pure. -/
def Pristine (w : Traffic) : Prop := Carried w.transport.cfg.pipe w.emitted w.transport.core

theorem emits_more (emitted : Ref → Bytes) (e : Event) (ch : Ref) :
    emitted ch <+: emits emitted e ch := by
  cases e with
  | channelData k data => exact emit_more emitted k data ch
  | _ => exact List.prefix_refl _

theorem create_pristine (cfg : Config) (topic : Option Bytes) (online : Bool)
    (ids : Ref → PeripheralId) :
    Pristine { transport := create cfg topic online ids } := by
  refine ⟨fun _ _ => rfl, ?_, ?_, fun _ => List.nodup_nil, ?_, ?_,
    fun _ => List.nil_sublist _, ?_, ?_⟩
  all_goals simp [create]

theorem begin_carried {t : Transport} {name : Pipe} {emitted : Ref → Bytes}
    (h : Carried name emitted t.core) (native : Native) :
    Carried name emitted (t.begin native).core := by
  have still : Still name False t.core (t.begin native).core := .of_same rfl rfl rfl
  exact still.carried not_false h

theorem act_pristine {w : Traffic} (h : w.Pristine) {a : Action} (unmixed : w.Unmixed a) :
    (w.act a).Pristine := by
  have cfg : (w.act a).transport.cfg = w.transport.cfg := act_cfg w.transport a
  rw [Pristine, cfg]
  by_cases input : ∃ i, a = .input i
  · obtain ⟨i, rfl⟩ := input
    have begun := begin_carried h i.native
    have run : (w.act (.input i)).transport = w.transport.act (.input i) := rfl
    rw [run]
    cases opened : w.transport.life.opened with
    | false =>
      rw [act_input_unopened opened]
      exact begun.mono (emits_more w.emitted i.event)
    | true =>
      rw [act_input opened]
      obtain ⟨apart, aside⟩ := unmixed
      refine handle_carried (w.transport.env i.now i.native) begun
        (fun requests event running => ?_) fun p data event heard => ?_
      · have frames : w.transport.frames (.input i) =
            moments (w.transport.env i.now i.native) (w.transport.begin i.native).core
              requests := by
          have running : w.transport.life.suspended = false := running
          simp [Transport.frames, event, opened, running]
        exact frames ▸ apart
      · have pushed : w.transport.notified? (.input i) = w.transport.core.notified? p data := by
          have heard : 0 < (w.transport.listeners p).notify := heard
          simp [Transport.notified?, event, opened, heard]
        exact pushed ▸ aside
  · obtain ⟨env, pipe, -, -, calls⟩ := act_calls w.transport fun i here => input ⟨i, here⟩
    have still : Still w.transport.cfg.pipe False (w.transport.begin env.native).core
        (w.transport.act a).core :=
      calls.still
    have same : (w.act a).emitted = w.emitted := by
      cases a with
      | input i => exact absurd ⟨i, rfl⟩ input
      | _ => rfl
    rw [same]
    exact still.carried not_false (begin_carried h env.native)

theorem written_spoilt {w : Traffic} (h : w.Pristine) {a : Action} {m : Moment}
    (mem : m ∈ w.transport.frames a) (mixed : ¬ m.Apart) :
    Spoilt (w.act a).transport.core := by
  obtain ⟨i, rfl⟩ : ∃ i, a = .input i := by
    cases a with
    | input i => exact ⟨i, rfl⟩
    | _ => cases mem
  simp only [Transport.frames] at mem
  split at mem
  · rename_i requests event
    split at mem
    · rename_i ready
      obtain ⟨opened, running⟩ := Bool.and_eq_true_iff.mp ready
      have running : w.transport.life.suspended = false := by simpa using running
      have run : (w.act (.input i)).transport.core =
          (w.transport.begin i.native).core.onWriteRequests
            (w.transport.env i.now i.native) requests := by
        have handled := act_input (i := i) opened
        rw [event] at handled
        exact congrArg Transport.core handled
      rw [run]
      exact onWriteRequests_spoilt running (begin_carried h i.native).beyond requests
        ⟨m, mem, mixed⟩
    · cases mem
  · cases mem

theorem notified_spoilt {w : Traffic} (h : w.Pristine) {a : Action} {st : Ref}
    (pushes : w.transport.notified? a = some st)
    (mixed : (w.transport.core.streams.get st).pipe ≠ .gatt) :
    Spoilt (w.act a).transport.core := by
  obtain ⟨i, rfl⟩ : ∃ i, a = .input i := by
    cases a with
    | input i => exact ⟨i, rfl⟩
    | _ => cases pushes
  simp only [Transport.notified?] at pushes
  split at pushes
  · rename_i p data event
    split at pushes
    · rename_i ready
      obtain ⟨opened, heard⟩ := Bool.and_eq_true_iff.mp ready
      have run : (w.act (.input i)).transport.core =
          (fun c => c.onCentralNotify (w.transport.env i.now i.native) p data)^[
            (w.transport.listeners p).notify] (w.transport.begin i.native).core := by
        have handled := act_input (i := i) opened
        rw [event] at handled
        exact congrArg Transport.core handled
      rw [run]
      exact onCentralNotify_spoilt (begin_carried h i.native).beyond (by simpa using heard)
        pushes mixed
    · cases pushes
  · cases pushes

/-- A step that is not unmixed leaves a stream spoilt. -/
theorem act_spoilt {w : Traffic} (h : w.Pristine) {a : Action} (mixed : ¬ w.Unmixed a) :
    Spoilt (w.act a).transport.core := by
  simp only [Unmixed, not_and_or, not_forall] at mixed
  rcases mixed with ⟨m, mem, mixed⟩ | ⟨st, pushes, mixed⟩
  · exact written_spoilt h mem mixed
  · exact notified_spoilt h pushes mixed

theorem clean_iff {w : Traffic} (h : w.Pristine) (a : Action) : w.Clean a ↔ w.Unmixed a := by
  constructor
  · intro clean
    by_contra mixed
    exact (act_spoilt h mixed).impure fun st lt pipe => clean st lt (.inr pipe)
  · intro unmixed st lt ridden
    have pristine := act_pristine h unmixed
    have cfg : (w.act a).transport.cfg = w.transport.cfg := act_cfg w.transport a
    rcases ridden with l2cap | pipe
    · exact pristine.pure st (pristine.rides (cfg ▸ l2cap) st lt)
    · exact pristine.pure st pipe

/-- In every run what was handed to the streams of sessions on l2cap are the bytes of their
channels, in order, exactly if no DATA frame ever came in under the id of a session whose
stream is on its channel. -/
theorem channels_carried_iff (cfg : Config) (topic : Option Bytes) (online : Bool)
    (ids : Ref → PeripheralId) (actions : List Action) :
    Runs.Each act Clean { transport := create cfg topic online ids } actions ↔
      Runs.Each act Unmixed { transport := create cfg topic online ids } actions := by
  have same : ∀ (w : Traffic) a, w.Pristine → (w.Clean a ↔ w.Unmixed a) :=
    fun _ a h => clean_iff h a
  refine Runs.each_iff same
    (fun _ a h clean => act_pristine h ((clean_iff h a).mp clean)) ?_ actions
  exact create_pristine cfg topic online ids

/-- A session has its channel, and a DATA frame comes in under its id. -/
theorem frame_into_channel :
    let sid : Bytes := List.replicate 8 7
    ¬ Runs.Each act Clean
      { transport := create (Config.plain (List.replicate 32 1) .l2cap .mac) none false id }
      (startThen [.channelPublish 128, .writeRequests [(asksChannel sid (List.replicate 32 2), false)],
        .serverChannel 0, .channelData 0 sid, .resumeAccept 0,
        .writeRequests [(encodeFrame typeData (toHex sid) [42], false)]]) := by
  decide +kernel

end Traffic

end BleSwarm
