import BleSwarm.Transport.Tracking
import BleSwarm.Transport.Yield

/-!
# Listeners on peripheral objects

`_onConnect` and `_startCentralSession` register their handlers on whatever
object the native layer hands over, and nothing takes them off again. An event
runs as many handlers as were registered for it, so it is handled once as long as
an object is connected afresh for every session.
-/

namespace BleSwarm.Core

variable {env : Env} {c c' : Core} {p st : Ref} {data : Bytes} {f : Frame}

/-- A DATA frame of the session that a peripheral is in, and the stream it is for. -/
structure Carries (c : Core) (p : Ref) (data : Bytes) (st : Ref) (f : Frame) : Prop where
  decoded : decodeFrame (some data) = some f
  type : f.type = typeData
  current : ∃ sess, (c.peripheral p).session = some sess ∧
    f.id = (c.central.sessions.get sess).id
  stream : (c.peripheral p).stream = some st

theorem onCentralNotify_data (env : Env) (h : Carries c p data st f) :
    c.onCentralNotify env p data = c.receive st .gatt f.payload := by
  obtain ⟨decoded, type, ⟨sess, session, id⟩, stream⟩ := h
  simp [onCentralNotify, decoded, session, id, type, stream, typeData, typeHello]

/-- Every listener pushes the payload once. -/
theorem iterate_onCentralNotify (env : Env) (n : Nat) (h : Carries c p data st f) :
    (((fun c => c.onCentralNotify env p data)^[n] c).streams.get st).received =
      (c.streams.get st).received ++ List.replicate n (.gatt, f.payload) := by
  induction n generalizing c with
  | zero => simp
  | succ n ih =>
    have next : Carries (c.receive st .gatt f.payload) p data st f :=
      ⟨h.decoded, h.type, h.current, h.stream⟩
    rw [Function.iterate_succ_apply, onCentralNotify_data env h, ih next]
    simp [receive, setStream, List.replicate_succ]

theorem startCentralSession_started (env : Env) (p : Ref) :
    (c.startCentralSession env p).central.sessions.next = c.central.sessions.next + 1 := rfl

/-- No object enters a session. -/
def NoneEnters (c c' : Core) : Prop :=
  ∀ p s, (c'.peripheral p).session = some s → (c.peripheral p).session = some s

theorem NoneEnters.of_central (h : c'.central = c.central) : NoneEnters c c' := by
  intro p s session
  rwa [peripheral, h] at session

theorem noneEnters_spans : Spans NoneEnters where
  quiet h := .of_central h.central
  trans h h' p s session := h p s (h' p s session)

/-- Only the start of a session lets an object enter it. -/
theorem Performs.noneEnters {effects : Effects} (h : Performs env effects c c')
    (starts : effects.starts = false) : NoneEnters c c' := by
  induction h with
  | trans _ _ ih ih' => exact noneEnters_spans.trans ih ih'
  | maybeCycle c serves due => exact .of_central (maybeCycle_quiet env c).central
  | startScan c scans => exact .of_central (startScan_radioOnly env c).quiet.central
  | stopScan c scans => exact .of_central (stopScan_radioOnly c).quiet.central
  | armScanRestart c live => exact .of_central (armScanRestart_radioOnly env c).quiet.central
  | onScanTimer c scans => exact .of_central (onScanTimer_radioOnly env c).quiet.central
  | central c central keeps => exact keeps.session.resolve_left (by simp [starts])
  | _ => exact .of_central rfl

end BleSwarm.Core

namespace BleSwarm.Transport

open BleSwarm.Core

variable {t : Transport}

/-- A 'notifyState' event starts at most one session, and a 'notify' event with a DATA
frame of the current session pushes its payload once. -/
def HandledOnce (t : Transport) : Action → Prop
  | .input i =>
    match i.event with
    | .notifyState _ _ =>
      (t.act (.input i)).core.central.sessions.next ≤ t.core.central.sessions.next + 1
    | .notify p data => ∀ st f, t.core.Carries p data st f →
      ((t.act (.input i)).core.streams.get st).received =
        (t.core.streams.get st).received ++ [(.gatt, f.payload)]
    | _ => True
  | _ => True

/-- An object is not connected again while its subscription is outstanding, and no
session starts on an object that had one. -/
def Unused (t : Transport) : Action → Prop
  | .input i =>
    match i.event with
    | .connect p => (t.listeners p).notifyState = 0
    | .notifyState p isNotifying =>
      isNotifying = true → (t.listeners p).notifyState = 0 ∨ (t.listeners p).notify = 0
    | _ => True
  | _ => True

instance (t : Transport) (a : Action) : Decidable (t.Unused a) := by
  unfold Unused
  rcases a with ⟨_, _, event⟩ | _
  · rcases event with _ | _ <;> infer_instance
  all_goals infer_instance

/-- One subscription is outstanding at most, and an object in a session has the one
listener of that session. -/
structure Listening (t : Transport) : Prop where
  subscribing : ∀ p, (t.listeners p).notifyState ≤ 1
  subscribed : ∀ p s, (t.core.peripheral p).session = some s →
    (t.listeners p).notify = 1 ∧ t.life.opened = true

/-- The listeners that the counts below are about. -/
def counts (t : Transport) (p : Ref) : Nat × Nat :=
  ((t.listeners p).notifyState, (t.listeners p).notify)

/-- Only 'connect' and 'notifyState' change the counts. -/
theorem act_counts (a : Action)
    (other : ∀ i, a = .input i → (∀ p, i.event ≠ .connect p) ∧ ∀ p b, i.event ≠ .notifyState p b)
    (p : Ref) : (t.act a).counts p = t.counts p := by
  have slot : ∀ (t : Transport) (q : Ref) (f : Listeners → Listeners),
      (∀ l, (f l).notifyState = l.notifyState ∧ (f l).notify = l.notify) →
      (t.setListeners q f).counts p = t.counts p := by
    intro t q f keep
    by_cases eq : p = q
    · subst eq
      simp [counts, setListeners, keep]
    · simp [counts, setListeners, eq]
  cases a with
  | input i =>
    obtain ⟨now, native, event⟩ := i
    obtain ⟨unconnected, unsubscribed⟩ := other _ rfl
    simp only [act, input]
    split
    · cases event with
      | connect q => exact absurd rfl (unconnected q)
      | notifyState q b => exact absurd rfl (unsubscribed q b)
      | servicesDiscover q found =>
        exact slot (t.begin native) q (fun l => { l with servicesDiscover := 0 }) fun _ => ⟨rfl, rfl⟩
      | characteristicsDiscover q found =>
        exact slot (t.begin native) q (fun l => { l with characteristicsDiscover := 0 }) fun _ => ⟨rfl, rfl⟩
      | _ => rfl
    · rfl
  | «open» server central now =>
    simp only [act, runOpen]
    split
    · rfl
    · split <;> rfl
  | drained call now native =>
    simp only [act, drained]
    split <;> rfl
  | resume now =>
    simp only [act, resume]
    split <;> rfl
  | close now =>
    simp only [act, close]
    split
    · rfl
    · split <;> rfl
  | _ => rfl

theorem handle_noneEnters (t : Transport) (env : Env) {e : Event}
    (unsubscribed : ∀ p b, e ≠ .notifyState p b) : NoneEnters t.core (t.handle env e).core := by
  have down : ∀ c : Core, NoneEnters c c.onRadioDown := fun c => .of_central (onRadioDown_central c)
  have ordinary : ¬ Special e → (∀ psm, e ≠ .channelPublish psm) →
      (effectsOf env.cfg.pipe e).starts = false → NoneEnters t.core (t.handle env e).core :=
    fun ordinary unpublished still => (handle_performs t env ordinary unpublished).noneEnters still
  cases e with
  | serverState s => exact noneEnters_spans.onServerState down env t.core s
  | centralState s => exact noneEnters_spans.onCentralState down env t.core s
  | serviceAdd => exact .of_central (onServiceAdd_radioOnly t.core).quiet.central
  | channelPublish psm => exact .of_central rfl
  | connOpen r key => exact .of_central (onConnOpen_rest env t.core r key).1
  | notifyState p b => exact absurd rfl (unsubscribed p b)
  | _ => exact ordinary (by simp [Special]) (by simp) rfl

/-- Only 'notifyState' starts a session on an object. -/
theorem act_noneEnters (t : Transport) (a : Action)
    (unsubscribed : ∀ i p b, a = .input i → i.event ≠ .notifyState p b) :
    NoneEnters t.core (t.act a).core := by
  have begun : ∀ native, NoneEnters t.core (t.begin native).core := fun _ => .of_central rfl
  rcases t.act_split a with ⟨i, rfl, -, run⟩ | ⟨i, rfl, -, run⟩ | ⟨-, env, -, -, -, calls⟩
  · rw [run]
    exact begun i.native
  · rw [run]
    exact noneEnters_spans.trans (begun i.native)
      (handle_noneEnters (t.begin i.native) _ fun p b => unsubscribed i p b rfl)
  · exact noneEnters_spans.trans (begun env.native) (.of_central calls.central)

/-- As many sessions start as there are listeners for the subscription. -/
theorem notifyState_started (env : Env) (t : Transport) (p : Ref) (isNotifying : Bool) :
    (t.handle env (.notifyState p isNotifying)).core.central.sessions.next =
      t.core.central.sessions.next +
        if isNotifying then (t.listeners p).notifyState else 0 := by
  have once : ∀ t : Transport, (onNotifyState env t p isNotifying).core.central.sessions.next =
      t.core.central.sessions.next + if isNotifying then 1 else 0 := by
    intro t
    cases isNotifying
    · exact congrArg (fun central => central.sessions.next) (abortDial_quiet env t.core p).central
    · exact startCentralSession_started env p
  have many : ∀ (n : Nat) (t : Transport),
      ((fun t => onNotifyState env t p isNotifying)^[n] t).core.central.sessions.next =
        t.core.central.sessions.next + if isNotifying then n else 0 := by
    intro n
    induction n with
    | zero => simp
    | succ n ih =>
      intro t
      rw [Function.iterate_succ_apply, ih, once]
      cases isNotifying <;> simp [Nat.add_comm, Nat.add_left_comm]
  exact many _ (t.setListeners p fun l => { l with notifyState := 0 })

/-- A session is started on an object by the one listener of its subscription. -/
theorem notifyState_listening {env : Env} (h : t.Listening) (opened : t.life.opened = true)
    {p : Ref} {isNotifying : Bool}
    (unused : isNotifying = true → (t.listeners p).notifyState = 0 ∨ (t.listeners p).notify = 0) :
    (t.handle env (.notifyState p isNotifying)).Listening := by
  have reset : (t.setListeners p fun l => { l with notifyState := 0 }).Listening := by
    constructor
    · intro q
      by_cases eq : q = p
      · simp [setListeners, eq]
      · simpa [setListeners, eq] using h.subscribing q
    · intro q s session
      obtain ⟨one, up⟩ := h.subscribed q s session
      refine ⟨?_, up⟩
      by_cases eq : q = p
      · subst eq
        simpa [setListeners] using one
      · simpa [setListeners, eq] using one
  simp only [handle]
  rcases Nat.le_one_iff_eq_zero_or_eq_one.mp (h.subscribing p) with none | one
  · rw [none]
    exact reset
  · rw [one, Function.iterate_one]
    unfold onNotifyState
    split
    · rename_i notifying
      have fresh : (t.listeners p).notify = 0 := (unused notifying).resolve_left (by omega)
      constructor
      · intro q
        by_cases eq : q = p
        · simp [startCentralSession, setListeners, eq]
        · simpa [startCentralSession, setListeners, eq] using h.subscribing q
      · intro q s session
        by_cases eq : q = p
        · subst eq
          exact ⟨by simp [startCentralSession, setListeners, fresh], opened⟩
        · have old : (t.core.peripheral q).session = some s := by
            simpa [startCentralSession, Core.startCentralSession, peripheral, setPeripheral,
              sendOpen, send, issue, eq] using session
          simpa [startCentralSession, setListeners, eq] using h.subscribed q s old
    · constructor
      · exact reset.subscribing
      · intro q s session
        apply reset.subscribed q s
        rwa [withCore_core, peripheral, (abortDial_quiet env _ p).central] at session

/-- `_onConnect` awaits one more subscription on the object. -/
theorem onConnect_listening (h : t.Listening) {p : Ref} (unused : (t.listeners p).notifyState = 0) :
    (t.onConnect p).Listening := by
  constructor
  · intro q
    by_cases eq : q = p
    · simp [onConnect, setListeners, eq, unused]
    · simpa [onConnect, setListeners, eq] using h.subscribing q
  · intro q s session
    obtain ⟨one, up⟩ := h.subscribed q s session
    refine ⟨?_, up⟩
    by_cases eq : q = p
    · subst eq
      simpa [onConnect, setListeners] using one
    · simpa [onConnect, setListeners, eq] using one

theorem listening_step (listening : t.Listening) (a : Action) (unused : t.Unused a) :
    (t.act a).Listening := by
  have begun : ∀ native, (t.begin native).Listening := fun _ =>
    ⟨listening.subscribing, listening.subscribed⟩
  by_cases other : ∀ i, a = .input i →
      (∀ p, i.event ≠ .connect p) ∧ ∀ p b, i.event ≠ .notifyState p b
  · have same : ∀ p, (t.act a).counts p = t.counts p := act_counts a other
    constructor
    · intro p
      have count : ((t.act a).listeners p).notifyState = (t.listeners p).notifyState :=
        congrArg Prod.fst (same p)
      exact count ▸ listening.subscribing p
    · intro p s session
      have old := act_noneEnters t a (fun i q b eq => (other i eq).2 q b) p s session
      have count : ((t.act a).listeners p).notify = (t.listeners p).notify :=
        congrArg Prod.snd (same p)
      obtain ⟨one, up⟩ := listening.subscribed p s old
      exact ⟨count.trans one, act_opened a up⟩
  · push Not at other
    obtain ⟨i, rfl, events⟩ := other
    cases opened : t.life.opened
    · rw [act_input_unopened opened]
      exact begun i.native
    · rw [act_input opened]
      obtain ⟨now, native, event⟩ := i
      cases event with
      | connect p => exact onConnect_listening (begun native) unused
      | notifyState p b => exact notifyState_listening (begun native) opened unused
      | _ => simp at events

theorem handledOnce_of_listening (listening : t.Listening) (a : Action) : t.HandledOnce a := by
  cases a with
  | input i =>
    obtain ⟨now, native, event⟩ := i
    cases event with
    | notifyState p isNotifying =>
      have one := listening.subscribing p
      simp only [HandledOnce]
      cases opened : t.life.opened
      · rw [act_input_unopened opened]
        exact Nat.le_succ _
      · rw [act_input opened, notifyState_started]
        refine Nat.add_le_add_left ?_ _
        split
        · exact one
        · exact Nat.zero_le 1
    | notify p data =>
      intro st f carries
      obtain ⟨sess, session, -⟩ := carries.current
      obtain ⟨one, opened⟩ := listening.subscribed p sess session
      rw [act_input opened]
      have pushed := iterate_onCentralNotify (t.env now native) (c := (t.begin native).core) 1
        ⟨carries.decoded, carries.type, carries.current, carries.stream⟩
      simp only [handle, withCore_core, begin_listeners, one]
      exact pushed
    | _ => trivial
  | _ => trivial

/-- In a run that never uses an object twice, every inbound notification is handled once. -/
theorem notifications_handled_once (cfg : Config) (topic : Option Bytes) (online : Bool)
    (ids : Ref → PeripheralId) (actions : List Action)
    (unused : Runs.Each act Unused (create cfg topic online ids) actions) :
    Runs.Each act HandledOnce (create cfg topic online ids) actions := by
  have start : (create cfg topic online ids).Listening :=
    ⟨fun _ => Nat.zero_le 1, fun _ _ session => by cases session⟩
  have step : ∀ (t : Transport) a, t.Listening → t.Unused a → (t.act a).Listening :=
    fun _ a h ok => listening_step h a ok
  exact Runs.each_of_invariant step (fun _ a h _ => handledOnce_of_listening h a) start unused

/-- The server sends `payload` on the given session. -/
def sendsData (cfg : Config) (session : Nat) (p : Ref) (payload : Bytes) : Event :=
  .notify p (encodeFrame typeData (cfg.randomId session) payload)

/-- A dial, and one DATA frame on the session it opened. -/
theorem one_session_handled_once :
    let cfg := Config.plain (List.replicate 32 1) .gatt .ios
    let remote := List.replicate 32 2
    Runs.Each act HandledOnce (create cfg none false id)
      (startThen (dialAnswered cfg 0 7 remote ++ [sendsData cfg 0 7 [42]])) := by
  intro cfg remote
  exact notifications_handled_once cfg none false id _ (by decide +kernel)

/-- The server refuses a session for now, and the kept object is dialed again: the
listener of the first session pushes the payload of the second once more. -/
theorem kept_object_pushes_twice :
    let cfg := Config.plain (List.replicate 32 1) .gatt .ios
    let remote := List.replicate 32 2
    let refused := encodeFrame typeClose (cfg.randomId 0) []
    ¬ Runs.Each act HandledOnce (create cfg none false id)
      (startThen ([.discover 7 none, .connect 7, .servicesDiscover 7 true,
        .characteristicsDiscover 7 true, .notifyState 7 true, .notify 7 refused]) ++
        (dialAnswered cfg 1 7 remote ++ [sendsData cfg 1 7 [42]]).map fun event =>
          .input { now := 40000, event }) := by
  intro cfg remote refused handled
  simp only [dialAnswered, List.cons_append, List.nil_append, List.map_cons, List.map_nil] at handled
  have last := (Runs.each_append.mp handled).2.2.2.2.2.2.2.1
  have pushed := last 0 ⟨typeData, cfg.randomId 1, [42]⟩
    ⟨by decide +kernel, rfl, ⟨1, by decide +kernel, by decide +kernel⟩, by decide +kernel⟩
  revert pushed
  decide +kernel

end BleSwarm.Transport
