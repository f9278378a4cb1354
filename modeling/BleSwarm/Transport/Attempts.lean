import BleSwarm.Transport.Calls
import BleSwarm.Transport.Performs.Handlers
import BleSwarm.Transport.Tracking

/-!
# Opens in flight

An attempt to open a channel is made for a session, resolves once and is resumed once. No
handler but those of the open itself touches it, and no handler moves a stream to another
session or channel.
-/

namespace BleSwarm

/-- Where a stream stands: its pipe, the session it was bound to and its channel. -/
def Stream.berth (s : Stream) : Pipe × Owner × Option Ref := (s.pipe, s.owner, s.channel)

/-- Who an open is for. -/
def OpenAttempt.asker (a : OpenAttempt) : Ref × Ref := (a.peripheral, a.session)

namespace Core

/-- Attempts go on, none is resumed, and streams stay where they are. -/
structure KeepsAttempts (c c' : Core) : Prop where
  asked : c.central.attempts.next ≤ c'.central.attempts.next
  asker : ∀ a < c.central.attempts.next,
    (c'.central.attempts.get a).asker = (c.central.attempts.get a).asker
  result : ∀ a < c.central.attempts.next, ∀ r, (c.central.attempts.get a).result = some r →
    (c'.central.attempts.get a).result = some r
  resumed : ∀ a < c'.central.attempts.next, (c'.central.attempts.get a).resumed = true →
    a < c.central.attempts.next ∧ (c.central.attempts.get a).resumed = true
  sound : (∀ a < c.central.attempts.next, (c.central.attempts.get a).Sound) →
    ∀ a < c'.central.attempts.next, (c'.central.attempts.get a).Sound
  made : c.streams.next ≤ c'.streams.next
  berth : ∀ st < c.streams.next, (c'.streams.get st).berth = (c.streams.get st).berth

variable {env : Env} {c c' c'' : Core}

namespace KeepsAttempts

/-- No attempt is touched. -/
theorem of_streams (attempts : c'.central.attempts = c.central.attempts)
    (made : c.streams.next ≤ c'.streams.next)
    (berth : ∀ st < c.streams.next, (c'.streams.get st).berth = (c.streams.get st).berth) :
    KeepsAttempts c c' := by
  constructor
  · rw [attempts]
  · intro a _
    rw [attempts]
  · intro a _ r result
    rw [attempts]
    exact result
  · intro a lt resumed
    rw [attempts] at lt resumed
    exact ⟨lt, resumed⟩
  · intro sound
    rw [attempts]
    exact sound
  · exact made
  · exact berth

theorem of_same (attempts : c'.central.attempts = c.central.attempts) (streams : c'.streams = c.streams) :
    KeepsAttempts c c' := by
  apply of_streams attempts
  · rw [streams]
  · intro st _
    rw [streams]

theorem refl (c : Core) : KeepsAttempts c c := .of_same rfl rfl

theorem trans (h : KeepsAttempts c c') (h' : KeepsAttempts c' c'') : KeepsAttempts c c'' where
  asked := h.asked.trans h'.asked
  asker a lt := (h'.asker a (lt.trans_le h.asked)).trans (h.asker a lt)
  result a lt r result := h'.result a (lt.trans_le h.asked) r (h.result a lt r result)
  resumed a lt resumed := by
    obtain ⟨lt, before⟩ := h'.resumed a lt resumed
    exact h.resumed a lt before
  sound := h'.sound ∘ h.sound
  made := h.made.trans h'.made
  berth st lt := (h'.berth st (lt.trans_le h.made)).trans (h.berth st lt)

theorem foldl {α : Type*} {f : Core → α → Core} (step : ∀ c a, KeepsAttempts c (f c a)) (c : Core)
    (as : List α) : KeepsAttempts c (as.foldl f c) :=
  Runs.foldl_related refl trans step c as

/-- Go on with an operation, whatever the core. -/
theorem andThen (h : KeepsAttempts c c') {f : Core → Core} (op : ∀ c, KeepsAttempts c (f c)) :
    KeepsAttempts c (f c') :=
  h.trans (op c')

end KeepsAttempts

theorem Quiet.keepsAttempts (q : Quiet c c') : KeepsAttempts c c' :=
  .of_same (by rw [q.central]) q.streams

theorem keepsAttempts_spans : Spans KeepsAttempts := ⟨Quiet.keepsAttempts, KeepsAttempts.trans⟩

/-! Elementary changes. -/

/-- Attempts are made and resolve. -/
theorem tries_keepsAttempts {begins : Prop} (c : Core) {attempts : Heap OpenAttempt}
    (tries : Tries begins False c.central.attempts attempts) :
    KeepsAttempts c { c with central.attempts := attempts } where
  asked := tries.grows
  asker a lt := by
    have same := tries.identity a lt
    simp only [OpenAttempt.identity, Prod.mk.injEq] at same
    exact Prod.ext same.1 same.2.1
  result := tries.result
  resumed := tries.resumed.resolve_left id
  sound := tries.sound.resolve_left id
  made := le_refl _
  berth _ _ := rfl

theorem streams_keepsAttempts {serves : Prop} (c : Core) {streams : Heap Stream}
    (joins : Joins serves c.streams streams)
    (carried : ∀ st < c.streams.next, (streams.get st).pipe = (c.streams.get st).pipe ∧
      (streams.get st).channel = (c.streams.get st).channel) :
    KeepsAttempts c { c with streams } := by
  refine .of_streams rfl joins.grows fun st lt => ?_
  simp only [Stream.berth, joins.owner st lt, (carried st lt).1, (carried st lt).2]

end Core

/-- Everything but what follows the await of an open. -/
def Effects.unresumed : Effects := { Effects.all with resumes := false }

namespace Core

variable {env : Env} {c c' : Core}

theorem Performs.keepsAttempts {effects : Effects} (h : Performs env effects c c')
    (awaited : effects.resumes = false) : KeepsAttempts c c' := by
  induction h with
  | refl c => exact .refl c
  | trans _ _ ih ih' => exact ih.trans ih'
  | issue c minor => exact (issue_quiet c _).keepsAttempts
  | connect c p live settles => exact (issue_quiet c _).keepsAttempts
  | sendOpen c p id payload starts begins => exact (issue_quiet c _).keepsAttempts
  | askChannel c p psm begins => exact (issue_quiet c _).keepsAttempts
  | maybeCycle c serves due => exact (maybeCycle_quiet env c).keepsAttempts
  | startScan c scans => exact (startScan_radioOnly env c).quiet.keepsAttempts
  | stopScan c scans => exact (stopScan_radioOnly c).quiet.keepsAttempts
  | onScanTimer c scans => exact (onScanTimer_radioOnly env c).quiet.keepsAttempts
  | streams c streams joins flows makes opens =>
    exact streams_keepsAttempts c joins fun st lt => ⟨flows.pipe st lt, flows.channel st lt⟩
  | channels c streams acceptors readers joins carried makes channels =>
    exact (streams_keepsAttempts c joins carried).trans (.of_same rfl rfl)
  | central c central keeps =>
    have tries := keeps.attempts
    rw [awaited] at tries
    exact (tries_keepsAttempts c (tries.mono id Bool.false_ne_true)).trans (.of_same rfl rfl)
  | _ => exact .of_same rfl rfl

theorem KeepsAttempts.of_performs (env : Env) (h : Performs env .unresumed c c') :
    KeepsAttempts c c' :=
  h.keepsAttempts rfl

/-! Power cycles and the calls. -/

theorem reapAllSessions_keepsAttempts (c : Core) : KeepsAttempts c c.reapAllSessions := by
  obtain ⟨sessions, streams, reaped⟩ := reapAllSessions_eq c
  have alike := (reapAllSessions_alike c).2.narrow Stream.berth fun _ => rfl
  exact .of_streams (by rw [reaped]) alike.next.ge fun st _ => alike.view st

theorem onRadioDown_keepsAttempts (c : Core) : KeepsAttempts c c.onRadioDown := by
  let down : Core := { c with
    radio := { c.radio with
      radioWasDown := true, radioCycled := true, serviceAdded := false,
      advertising := false, scanning := false } }
  let gone : Core := { down.clearDeviceTimers with dial.devices := ∅ }
  have parted : KeepsAttempts c gone.destroyPeers := .of_same rfl rfl
  exact (parted.andThen reapAllSessions_keepsAttempts).trans (.of_same rfl rfl)

theorem forget_keepsAttempts (c : Core) : KeepsAttempts c c.forget := by
  have parted : KeepsAttempts c { c.destroyPeers with links.peers := ∅ } := .of_same rfl rfl
  exact (parted.andThen reapAllSessions_keepsAttempts).trans (.of_same rfl rfl)

theorem Calls.keepsAttempts (h : Calls env c c') : KeepsAttempts c c' := by
  refine keepsAttempts_spans.calls forget_keepsAttempts (fun c => ?_) h
  rw [doClose_eq]
  exact .of_same rfl rfl

end Core

namespace Transport

open BleSwarm.Core

/-- Every event but the continuation of an open. -/
theorem handle_keepsAttempts (t : Transport) (env : Env) {e : Event}
    (awaited : ∀ a, e ≠ .resumeOpen a) :
    KeepsAttempts t.core (t.handle env e).core := by
  cases e with
  | serverState s => exact keepsAttempts_spans.onServerState onRadioDown_keepsAttempts env t.core s
  | centralState s =>
    exact keepsAttempts_spans.onCentralState onRadioDown_keepsAttempts env t.core s
  | serviceAdd => exact (onServiceAdd_radioOnly _).quiet.keepsAttempts
  | channelPublish psm => exact .of_same rfl rfl
  | connOpen r key =>
    obtain ⟨central, streams, -, -⟩ := onConnOpen_rest env t.core r key
    exact .of_same (congrArg Central.attempts central) streams
  | resumeOpen a => exact absurd rfl (awaited a)
  | _ => exact (handle_performs t env (by simp [Special]) (by simp)).keepsAttempts rfl

theorem act_keepsAttempts (t : Transport) (a : Action)
    (awaited : ∀ i b, a = .input i → i.event ≠ .resumeOpen b) :
    KeepsAttempts t.core (t.act a).core := by
  have begun : ∀ native, KeepsAttempts t.core (t.begin native).core := fun _ => .of_same rfl rfl
  rcases t.act_split a with ⟨i, rfl, -, run⟩ | ⟨i, rfl, -, run⟩ | ⟨-, env, -, -, -, calls⟩
  · rw [run]
    exact begun i.native
  · rw [run]
    exact (begun i.native).trans (handle_keepsAttempts _ _ fun b => awaited i b rfl)
  · exact (begun env.native).trans calls.keepsAttempts

end Transport

end BleSwarm
