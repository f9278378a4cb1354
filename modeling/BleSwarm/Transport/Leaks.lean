import BleSwarm.Transport.Attempts
import BleSwarm.Transport.Yield

/-!
# The channels that an open gets

A channel is for the attempt that asked for it. The attempt takes it while it listens, and
when it is resumed it puts a stream on the channel or destroys it. `finish` would destroy a
channel that comes later, but by then it has removed the listener that calls it.
-/

namespace BleSwarm

def Command.destroys : Command → Option Ref
  | .destroyChannel ch => some ch
  | _ => none

namespace Core

variable {env : Env} {c c' : Core}

/-- The channel is in a stream that was bound to the session of the attempt. -/
def Wrapped (c : Core) (ch a : Ref) : Prop :=
  let attempt := c.central.attempts.get a
  ∃ st < c.streams.next,
    (c.streams.get st).berth = (.l2cap, .central attempt.peripheral attempt.session, some ch)

instance (c : Core) (ch a : Ref) : Decidable (c.Wrapped ch a) :=
  inferInstanceAs (Decidable (∃ st < _, _))

theorem KeepsAttempts.wrapped (h : KeepsAttempts c c') {ch a : Ref}
    (lt : a < c.central.attempts.next) (wrapped : c.Wrapped ch a) : c'.Wrapped ch a := by
  obtain ⟨st, made, berth⟩ := wrapped
  obtain ⟨peripheral, session⟩ := Prod.mk.inj (h.asker a lt)
  refine ⟨st, made.trans_le h.made, ?_⟩
  rw [h.berth st made, berth, peripheral, session]

/-! Delivery. -/

theorem mem_openListeners {p a : Ref} : a ∈ c.openListeners p ↔ a < c.central.attempts.next ∧
    (c.central.attempts.get a).listening = true ∧ (c.central.attempts.get a).peripheral = p := by
  simp only [openListeners, List.mem_filter, List.mem_range, Bool.and_eq_true, decide_eq_true_eq]

/-- Every attempt that listens takes the channel. -/
theorem onChannelOpen_taken (env : Env) {p a : Ref} (channel : Option Ref)
    (listens : a ∈ c.openListeners p)
    (sound : ∀ a < c.central.attempts.next, (c.central.attempts.get a).Sound) :
    ((c.onChannelOpen p channel).central.attempts.get a).result = some channel := by
  obtain ⟨lt, listening, -⟩ := mem_openListeners.mp listens
  have unresolved : (c.central.attempts.get a).result = none := (sound a lt).1 listening
  -- the other listeners leave the attempt alone, before its turn and after it
  have hears : ∀ (c : Core) k, KeepsAttempts c (c.hearChannel k channel) :=
    fun c k => .of_performs env (hearChannel_performs channel c (.inl rfl))
  have run : c.onChannelOpen p channel =
      (c.openListeners p).foldl (fun c k => c.hearChannel k channel) c := rfl
  rw [run]
  generalize c.openListeners p = as at listens
  clear sound run listening
  induction as generalizing c with
  | nil => cases listens
  | cons k as ih =>
    rw [List.foldl_cons]
    by_cases own : a = k
    · subst own
      have taken : ((c.hearChannel a channel).central.attempts.get a).result = some channel := by
        simp [hearChannel, finishOpen, setAttempt, unresolved]
      have rest := KeepsAttempts.foldl hears (c.hearChannel a channel) as
      exact rest.result a (lt.trans_le (hears c a).asked) channel taken
    · have same := (hearChannel_attempts c k channel).2 a own
      apply ih
      · exact lt.trans_le (hears c k).asked
      · rw [same, unresolved]
      · exact (List.mem_cons.mp listens).resolve_left own

/-! The continuation. -/

theorem bindCentral_wraps (p sess ch : Ref) (announced : Bytes) (c : Core)
    (written : env.native.preambleThrows = false) :
    ∃ st < (c.bindCentral env p sess ch announced).streams.next,
      ((c.bindCentral env p sess ch announced).streams.get st).berth =
        (.l2cap, .central p sess, some ch) := by
  let s : Stream := { pipe := .l2cap, owner := .central p sess, channel := some ch }
  let wrote := c.issue (.writeChannel ch (fromHex (c.central.sessions.get sess).id))
  let put := addReader { wrote with streams := wrote.streams.alloc s } ch (.stream wrote.streams.next)
  have run : c.bindCentral env p sess ch announced =
      put.bindCentralStream env p wrote.streams.next announced := by
    simp only [bindCentral, written, if_neg Bool.false_ne_true]
    rfl
  have binds : KeepsAttempts put (put.bindCentralStream env p wrote.streams.next announced) :=
    .of_performs env (bindCentralStream_performs p _ announced put rfl rfl rfl)
  have made : wrote.streams.next < put.streams.next := Nat.lt_succ_self _
  have berth : (put.streams.get wrote.streams.next).berth = s.berth :=
    congrArg Stream.berth (wrote.streams.alloc_get_next s)
  rw [run]
  exact ⟨_, made.trans_le binds.made, (binds.berth _ made).trans berth⟩

/-- The attempt is resumed, and nothing came of it yet. -/
def markResumed (c : Core) (a : Ref) : Core :=
  c.setAttempt a fun attempt => { attempt with resumed := true }

theorem markResumed_asker (a k : Ref) (c : Core) :
    ((c.markResumed a).central.attempts.get k).asker = (c.central.attempts.get k).asker :=
  c.central.attempts.modify_get_view a k (fun attempt => { attempt with resumed := true })
    OpenAttempt.asker fun _ => rfl

theorem markResumed_result (a k : Ref) (c : Core) :
    ((c.markResumed a).central.attempts.get k).result = (c.central.attempts.get k).result :=
  c.central.attempts.modify_get_view a k (fun attempt => { attempt with resumed := true })
    OpenAttempt.result fun _ => rfl

theorem markResumed_wrapped {ch a k : Ref} (wrapped : c.Wrapped ch k) : (c.markResumed a).Wrapped ch k := by
  obtain ⟨st, made, berth⟩ := wrapped
  obtain ⟨peripheral, session⟩ := Prod.mk.inj (markResumed_asker a k c)
  refine ⟨st, made, ?_⟩
  rw [peripheral, session]
  exact berth

theorem markResumed_sound {a k : Ref} {channel : Option Ref}
    (resolved : (c.central.attempts.get a).result = some channel)
    (sound : (c.central.attempts.get k).Sound) : ((c.markResumed a).central.attempts.get k).Sound := by
  simp only [markResumed, setAttempt, Heap.modify_get]
  split
  · rename_i here
    rw [here] at sound
    exact ⟨sound.1, fun _ => Option.isSome_iff_exists.mpr ⟨channel, resolved⟩⟩
  · exact sound

/-- What follows resumes no other attempt. -/
theorem resumeOpen_keepsAttempts {a : Ref} {channel : Option Ref} {c : Core}
    (resolved : (c.central.attempts.get a).result = some channel)
    (waits : (c.central.attempts.get a).resumed = false) :
    KeepsAttempts (c.markResumed a) (c.resumeOpen env a) := by
  simp only [resumeOpen, resolved, waits, if_neg Bool.false_ne_true]
  have noted := fun id =>
    KeepsAttempts.of_performs env (setCentralChannel_performs id channel (c.markResumed a))
  have settled := fun attempt c =>
    KeepsAttempts.of_performs env (settleOpen_performs attempt channel c rfl rfl rfl rfl)
  exact ((noted _).trans (settled _ _)).trans (.of_same rfl rfl)

/-- Nothing happens before the open has resolved, and after it was resumed. -/
theorem resumeOpen_idle {a : Ref} {c : Core}
    (idle : (c.central.attempts.get a).result = none ∨ (c.central.attempts.get a).resumed = true) :
    c.resumeOpen env a = c := by
  simp only [resumeOpen]
  split
  · rfl
  · rename_i channel resolved
    rcases idle with unresolved | resumed
    · rw [resolved] at unresolved
      cases unresolved
    · rw [if_pos resumed]

/-- The attempt still stands for its session, so its channel is bound. -/
def Stands (env : Env) (c : Core) (a : Ref) : Prop :=
  let attempt := c.central.attempts.get a
  (c.peripheral attempt.peripheral).session = some attempt.session ∧ env.halted = false

instance (env : Env) (c : Core) (a : Ref) : Decidable (c.Stands env a) :=
  inferInstanceAs (Decidable (_ ∧ _))

/-- The channel of a resumed attempt is bound or destroyed, unless the preamble throws. -/
theorem resumeOpen_wraps {a ch : Ref} {c : Core} (made : a < c.central.attempts.next)
    (resolved : (c.central.attempts.get a).result = some (some ch))
    (waits : (c.central.attempts.get a).resumed = false)
    (written : c.Stands env a → env.native.preambleThrows = false) :
    (c.resumeOpen env a).Wrapped ch a ∨ .destroyChannel ch ∈ (c.resumeOpen env a).out := by
  let attempt := c.central.attempts.get a
  let held := (c.markResumed a).setCentralChannel (c.peripheral attempt.peripheral).id (some ch)
  have run : c.resumeOpen env a = (held.settleOpen env attempt (some ch)).setCentralSession
      attempt.session fun s => { s with upgrading := false } := by
    simp only [resumeOpen, resolved, waits, if_neg Bool.false_ne_true]
    rfl
  by_cases stands : c.Stands env a
  · left
    have binds : held.settleOpen env attempt (some ch) =
        held.bindCentral env attempt.peripheral attempt.session ch attempt.announced := by
      have current : (held.peripheral attempt.peripheral).session = some attempt.session := stands.1
      simp [settleOpen, current, stands.2]
    obtain ⟨st, new, berth⟩ := bindCentral_wraps attempt.peripheral attempt.session ch
      attempt.announced held (written stands)
    have asker : ((c.resumeOpen env a).central.attempts.get a).asker = attempt.asker :=
      ((resumeOpen_keepsAttempts resolved waits).asker a made).trans (markResumed_asker a a c)
    obtain ⟨peripheral, session⟩ := Prod.mk.inj asker
    have streams : (c.resumeOpen env a).streams =
        (held.bindCentral env attempt.peripheral attempt.session ch attempt.announced).streams := by
      rw [run, binds]
      rfl
    refine ⟨st, ?_, ?_⟩
    · rw [streams]
      exact new
    · rw [streams, peripheral, session]
      exact berth
  · right
    have stale : ((held.peripheral attempt.peripheral).session ≠ some attempt.session || env.halted)
        = true := by
      by_contra current
      simp only [Bool.or_eq_true, not_or, decide_eq_true_eq, not_not, Bool.not_eq_true] at current
      exact stands current
    rw [run, settleOpen, if_pos stale]
    exact List.mem_append_right _ List.mem_cons_self

end Core

open BleSwarm.Core BleSwarm.Transport

/-- A step, and the attempt that asked for the channel which it delivers (for statements only). -/
structure Arrival where
  action : Action
  attempt : Ref := 0

/-- A transport, and what became of the channels that were opened for it. -/
structure Openings where
  transport : Transport
  /-- The channels delivered, each with the attempt that asked for it. -/
  delivered : List (Ref × Ref) := []
  destroyed : List Ref := []

namespace Openings

/-- The peripheral and the channel of a 'channelOpen' event. -/
def arrives : Action → List (Ref × Ref)
  | .input ⟨_, _, .channelOpen p (some ch)⟩ => [(p, ch)]
  | _ => []

/-- The attempt whose open goes on with the step. -/
def resumes : Action → List (Ref × Input)
  | .input ⟨now, native, .resumeOpen a⟩ => [(a, ⟨now, native, .resumeOpen a⟩)]
  | _ => []

def act (w : Openings) (r : Arrival) : Openings where
  transport := w.transport.act r.action
  delivered := w.delivered ++ (arrives r.action).map fun d => (d.2, r.attempt)
  destroyed := w.destroyed ++ (w.transport.act r.action).core.out.filterMap Command.destroys

def attempts (w : Openings) : Heap OpenAttempt := w.transport.core.central.attempts

/-- The channel is in a stream of the session that asked for it, or was destroyed. -/
def Settled (w : Openings) (d : Ref × Ref) : Prop :=
  w.transport.core.Wrapped d.1 d.2 ∨ d.1 ∈ w.destroyed

/-- Every channel whose attempt has come to its end is settled. -/
def NoLeak (w : Openings) : Prop :=
  ∀ d ∈ w.delivered, (w.attempts.get d.2).resumed = true → w.Settled d

/-- A channel comes while the attempt that asked for it listens. -/
def Heard (w : Openings) (r : Arrival) : Prop :=
  ∀ d ∈ arrives r.action, r.attempt ∈ w.transport.core.openListeners d.1

/-- The channel of an attempt that is resumed takes its preamble, if the attempt still stands
for its session and the channel was not destroyed. -/
def Written (w : Openings) (r : Arrival) : Prop :=
  ∀ e ∈ resumes r.action, ∀ d ∈ w.delivered, d.2 = e.1 → (w.attempts.get d.2).resumed = false →
    w.transport.core.Stands (w.transport.env e.2.now) d.2 → d.1 ∉ w.destroyed →
      e.2.native.preambleThrows = false

instance (w : Openings) (d : Ref × Ref) : Decidable (w.Settled d) := inferInstanceAs (Decidable (_ ∨ _))

instance (w : Openings) : Decidable w.NoLeak := inferInstanceAs (Decidable (∀ _ ∈ _, _))

instance (w : Openings) (r : Arrival) : Decidable (w.Heard r) := inferInstanceAs (Decidable (∀ _ ∈ _, _))

instance (w : Openings) (r : Arrival) : Decidable (w.Written r) :=
  inferInstanceAs (Decidable (∀ _ ∈ _, _))

/-- A channel that was delivered is with its attempt, up to its end. -/
structure Kept (w : Openings) (d : Ref × Ref) : Prop where
  made : d.2 < w.attempts.next
  taken : (w.attempts.get d.2).result = some (some d.1)
  settled : (w.attempts.get d.2).resumed = true → w.Settled d

structure Tracked (w : Openings) : Prop where
  unopened : w.transport.life.opened = false → w.attempts.next = 0
  sound : ∀ a < w.attempts.next, (w.attempts.get a).Sound
  kept : ∀ d ∈ w.delivered, w.Kept d

theorem mem_arrives {a : Action} {p ch : Ref} :
    (p, ch) ∈ arrives a ↔ ∃ now native, a = .input ⟨now, native, .channelOpen p (some ch)⟩ := by
  constructor
  · intro arrived
    unfold arrives at arrived
    split at arrived
    · obtain ⟨rfl, rfl⟩ := Prod.mk.inj (List.mem_singleton.mp arrived)
      exact ⟨_, _, rfl⟩
    · cases arrived
  · rintro ⟨now, native, rfl⟩
    exact List.mem_singleton_self _

/-- No step resumes an attempt but its continuation. -/
theorem act_cases (t : Transport) (a : Action) : KeepsAttempts t.core (t.act a).core ∨
    ∃ i b channel, a = .input i ∧ i.event = .resumeOpen b ∧ t.life.opened = true ∧
      (t.core.central.attempts.get b).result = some channel ∧
      (t.core.central.attempts.get b).resumed = false := by
  by_cases goesOn : ∃ i b, a = .input i ∧ i.event = .resumeOpen b
  · obtain ⟨i, b, rfl, event⟩ := goesOn
    have begun : KeepsAttempts t.core (t.begin i.native).core := .of_same rfl rfl
    cases opened : t.life.opened with
    | false =>
      left
      rw [act_input_unopened opened]
      exact begun
    | true =>
      by_cases idle : (t.core.central.attempts.get b).result = none ∨
          (t.core.central.attempts.get b).resumed = true
      · left
        have same : (t.begin i.native).core.resumeOpen (t.env i.now i.native) b =
            (t.begin i.native).core := resumeOpen_idle idle
        have run : (t.act (.input i)).core = (t.begin i.native).core := by
          rw [act_input opened, event]
          exact same
        rw [run]
        exact begun
      · right
        push Not at idle
        obtain ⟨channel, resolved⟩ := Option.ne_none_iff_exists'.mp idle.1
        exact ⟨i, b, channel, rfl, event, rfl, resolved, by simpa using idle.2⟩
  · left
    push Not at goesOn
    exact act_keepsAttempts t a fun i b input event => goesOn i b input event

/-- A step that resumes no attempt. -/
theorem Kept.act_of_keepsAttempts {w : Openings} {d : Ref × Ref} (h : w.Kept d) {r : Arrival}
    (keepsAttempts : KeepsAttempts w.transport.core (w.act r).transport.core) :
    (w.act r).Kept d where
  made := h.made.trans_le keepsAttempts.asked
  taken := keepsAttempts.result d.2 h.made _ h.taken
  settled resumed := by
    obtain ⟨-, before⟩ := keepsAttempts.resumed d.2 (h.made.trans_le keepsAttempts.asked) resumed
    rcases h.settled before with wrapped | destroyed
    · exact .inl (keepsAttempts.wrapped h.made wrapped)
    · exact .inr (List.mem_append_left _ destroyed)

/-- A channel that an attempt hears of. -/
theorem Tracked.kept_of_heard {w : Openings} (h : w.Tracked) {r : Arrival} (heard : w.Heard r)
    {p ch : Ref} (arrived : (p, ch) ∈ arrives r.action) : (w.act r).Kept (ch, r.attempt) := by
  have listens := heard _ arrived
  obtain ⟨now, native, action⟩ := mem_arrives.mp arrived
  obtain ⟨made, listening, -⟩ := mem_openListeners.mp listens
  have unresolved : (w.attempts.get r.attempt).result = none := (h.sound r.attempt made).1 listening
  cases opened : w.transport.life.opened with
  | false =>
    have none : w.attempts.next = 0 := h.unopened opened
    exact absurd (none ▸ made) (Nat.not_lt_zero _)
  | true =>
    have run : (w.act r).transport.core = (w.transport.begin native).core.onChannelOpen p (some ch) := by
      rw [act, action, act_input opened]
      rfl
    have keepsAttempts : KeepsAttempts w.transport.core (w.act r).transport.core :=
      act_keepsAttempts w.transport r.action fun i b input event => by
        rw [action] at input
        cases input
        cases event
    constructor
    · exact made.trans_le keepsAttempts.asked
    · rw [attempts, run]
      exact onChannelOpen_taken (c := (w.transport.begin native).core) (w.transport.env now native)
        (some ch) listens h.sound
    · intro resumed
      -- an attempt that listens was not resumed
      obtain ⟨-, before⟩ := keepsAttempts.resumed _ (made.trans_le keepsAttempts.asked) resumed
      have resolved := (h.sound r.attempt made).2 before
      rw [unresolved] at resolved
      cases resolved

/-- A step that resumes an attempt settles the channel of that one. -/
theorem Kept.act_of_marked {w : Openings} {d : Ref × Ref} (h : w.Kept d) {r : Arrival} {native : Native}
    {b : Ref} (keepsAttempts :
      KeepsAttempts ((w.transport.begin native).core.markResumed b) (w.act r).transport.core)
    (own : d.2 = b → (w.act r).Settled d) : (w.act r).Kept d where
  made := h.made.trans_le keepsAttempts.asked
  taken := by
    apply keepsAttempts.result d.2 h.made
    exact (markResumed_result b d.2 (w.transport.begin native).core).trans h.taken
  settled resumed := by
    by_cases here : d.2 = b
    · exact own here
    · obtain ⟨-, before⟩ := keepsAttempts.resumed d.2 (h.made.trans_le keepsAttempts.asked) resumed
      have same : ((w.transport.begin native).core.markResumed b).central.attempts.get d.2 =
          w.attempts.get d.2 :=
        w.attempts.modify_get_of_ne (fun attempt => { attempt with resumed := true }) here
      rcases h.settled (same ▸ before) with wrapped | destroyed
      · exact .inl (keepsAttempts.wrapped h.made (markResumed_wrapped wrapped))
      · exact .inr (List.mem_append_left _ destroyed)

/-- The step that resumes an attempt. -/
theorem Tracked.act_of_resumes {w : Openings} (h : w.Tracked) {r : Arrival} (written : w.Written r)
    {i : Input} {b : Ref} {channel : Option Ref} (action : r.action = .input i)
    (event : i.event = .resumeOpen b) (opened : w.transport.life.opened = true)
    (resolved : (w.attempts.get b).result = some channel)
    (waits : (w.attempts.get b).resumed = false) : (w.act r).Tracked := by
  let env := w.transport.env i.now i.native
  let begun := (w.transport.begin i.native).core
  have run : (w.act r).transport.core = begun.resumeOpen env b := by
    rw [act, action, act_input opened, event]
    rfl
  have keepsAttempts : KeepsAttempts (begun.markResumed b) (w.act r).transport.core := by
    rw [run]
    exact resumeOpen_keepsAttempts (c := begun) resolved waits
  have silent : arrives r.action = [] := by
    obtain ⟨now, native, e⟩ := i
    cases event
    rw [action]
    rfl
  have mem : (b, i) ∈ resumes r.action := by
    obtain ⟨now, native, e⟩ := i
    cases event
    rw [action]
    exact List.mem_cons_self
  constructor
  · intro unopened
    exact absurd (unopened.symm.trans (act_opened r.action opened)) (by simp)
  · exact keepsAttempts.sound fun a lt => markResumed_sound resolved (h.sound a lt)
  · intro d delivered
    simp only [act, silent, List.map_nil, List.append_nil] at delivered
    have kept := h.kept d delivered
    apply kept.act_of_marked keepsAttempts
    intro own
    obtain ⟨ch, a⟩ := d
    obtain rfl : a = b := own
    by_cases gone : ch ∈ w.destroyed
    · exact .inr (List.mem_append_left _ gone)
    · have throws : begun.Stands env a → i.native.preambleThrows = false :=
        fun stands => written (a, i) mem (ch, a) delivered rfl waits stands gone
      have settles : (begun.resumeOpen env a).Wrapped ch a ∨ _ :=
        resumeOpen_wraps kept.made kept.taken waits throws
      rw [← run] at settles
      rcases settles with wrapped | destroyed
      · exact .inl wrapped
      · exact .inr (List.mem_append_right _ (List.mem_filterMap.mpr ⟨_, destroyed, rfl⟩))

theorem act_unopened {t : Transport} {a : Action} (unopened : (t.act a).life.opened = false) :
    t.life.opened = false ∧ (t.act a).core.central.attempts = t.core.central.attempts := by
  have before : t.life.opened = false := unopened_of_act unopened
  refine ⟨before, ?_⟩
  rcases t.act_split a with ⟨i, rfl, -, run⟩ | ⟨i, rfl, opened, -⟩ | ⟨-, env, -, -, -, calls⟩
  · rw [run]
    rfl
  · exact absurd (before.symm.trans opened) (by simp)
  · exact congrArg Central.attempts calls.central

theorem Tracked.act {w : Openings} (h : w.Tracked) {r : Arrival} (heard : w.Heard r)
    (written : w.Written r) : (w.act r).Tracked := by
  rcases act_cases w.transport r.action with
    keepsAttempts | ⟨i, b, channel, action, event, opened, resolved, waits⟩
  · constructor
    · intro unopened
      obtain ⟨before, attempts⟩ := act_unopened unopened
      exact (congrArg Heap.next attempts).trans (h.unopened before)
    · exact keepsAttempts.sound h.sound
    · intro d delivered
      rcases List.mem_append.mp delivered with old | new
      · exact (h.kept d old).act_of_keepsAttempts keepsAttempts
      · obtain ⟨⟨p, ch⟩, arrived, rfl⟩ := List.mem_map.mp new
        exact h.kept_of_heard heard arrived
  · exact h.act_of_resumes written action event opened resolved waits

/-- No channel leaks in a run in which each comes while its attempt listens and takes the
preamble of the session that it is bound to. -/
theorem no_leaks (cfg : Config) (topic : Option Bytes) (online : Bool)
    (ids : Ref → PeripheralId) (arrivals : List Arrival)
    (caught : Runs.Each act (fun w r => w.Heard r ∧ w.Written r)
      { transport := create cfg topic online ids } arrivals) :
    Runs.Each act (fun w r => (w.act r).NoLeak)
      { transport := create cfg topic online ids } arrivals := by
  refine Runs.each_of_invariant (fun w r (h : w.Tracked) ok => h.act ok.1 ok.2) ?_ ?_ caught
  · exact fun w r h ok d mem => ((h.act ok.1 ok.2).kept d mem).settled
  · exact ⟨fun _ => rfl, fun a lt => (Nat.not_lt_zero a lt).elim, fun d mem => by cases mem⟩

/-- A dial up to the HELLO that names a psm, which opens the channel of the first attempt. -/
def upgrading : List Arrival :=
  let cfg := Config.plain (List.replicate 32 1) .l2cap .ios
  (startThen (dialAnswered cfg 0 7 (encodeKeyPayload (List.replicate 32 2) pipeL2cap (some 128)))).map
    fun action => { action }

/-- The channel comes after the deadline of its attempt, whose listener is gone. -/
theorem late_channel_leaks :
    let cfg := Config.plain (List.replicate 32 1) .l2cap .ios
    ¬ Runs.Each act (fun w r => (w.act r).NoLeak) { transport := create cfg none false id }
      (upgrading ++ [{ action := .input { now := 5000, event := .openTimeout 0 } },
        { action := .input { now := 5000, event := .resumeOpen 0 } },
        { action := .input { now := 5100, event := .channelOpen 7 (some 3) } }]) := by
  decide +kernel

/-- The channel comes in time, and its preamble throws. -/
theorem failed_preamble_leaks :
    let cfg := Config.plain (List.replicate 32 1) .l2cap .ios
    ¬ Runs.Each act (fun w r => (w.act r).NoLeak) { transport := create cfg none false id }
      (upgrading ++ [{ action := .input { now := 1100, event := .channelOpen 7 (some 3) } },
        { action := .input
            { now := 1100, native := { preambleThrows := true }, event := .resumeOpen 0 } }]) := by
  decide +kernel

/-- The channel comes in time and is bound. -/
theorem caught_channel_is_bound :
    let cfg := Config.plain (List.replicate 32 1) .l2cap .ios
    Runs.Each act (fun w r => (w.act r).NoLeak) { transport := create cfg none false id }
      (upgrading ++ [{ action := .input { now := 1100, event := .channelOpen 7 (some 3) } },
        { action := .input { now := 1100, event := .resumeOpen 0 } }]) := by
  intro cfg
  exact no_leaks cfg none false id _ (by decide +kernel)

end Openings

end BleSwarm
