import BleSwarm.Transport.Commands
import BleSwarm.Transport.Listeners

/-!
# Dials across a suspend

`suspend` disconnects the peripherals of the dial records, and a dial is entered there
only by its 'connect' event. A dial that was in flight therefore comes up afterwards,
and the handlers its 'connect' registers ask for no lifecycle: the subscription that
succeeds sends the OPEN. They stay on the object until it subscribes, also where it is
connected anew in between.
-/

namespace BleSwarm.Transport

open BleSwarm.Core

/-- A transport, with its dials in flight and the handlers that the stale ones left behind. -/
structure Dialing where
  transport : Transport
  /-- A dial in flight, and whether `suspend()` was called since. -/
  dials : Ref → Option Bool := fun _ => none
  /-- A 'notifyState' handler waits that the 'connect' of a stale dial registered. -/
  lingers : Ref → Bool := fun _ => false
  /-- The central sessions started where one was waiting. -/
  led : List Ref := []

namespace Dialing

/-- The central sessions that a step starts. -/
def started (t : Transport) (a : Action) : List Ref :=
  List.range' t.core.central.sessions.next
    ((t.act a).core.central.sessions.next - t.core.central.sessions.next)

/-- An OPEN of the step goes where a handler of a stale dial was waiting. -/
def reopens (w : Dialing) (a : Action) : Bool :=
  (w.transport.act a).core.out.any fun command => command.opens.any w.lingers

/-- The dials in flight after a step: a `connect` begins one, a `suspend()` makes all stale,
a 'connect' event ends one. -/
def dialsAfter (w : Dialing) (a : Action) (p : Ref) : Option Bool :=
  if .connect p ∈ (w.transport.act a).core.out then some false
  else
    match a with
    | .suspend _ _ => (w.dials p).map fun _ => true
    | .input i =>
      match i.event with
      | .connect q => if q = p then none else w.dials p
      | _ => w.dials p
    | _ => w.dials p

/-- A 'connect' event that ends a stale dial leaves a handler, and a 'notifyState' event takes all
that wait on its object. -/
def lingersAfter (w : Dialing) (a : Action) (p : Ref) : Bool :=
  match a with
  | .input i =>
    if w.transport.life.opened then
      match i.event with
      | .connect q => w.lingers p || (q == p && w.dials p == some true)
      | .notifyState q _ => w.lingers p && q != p
      | _ => w.lingers p
    else w.lingers p
  | _ => w.lingers p

def act (w : Dialing) (a : Action) : Dialing where
  transport := w.transport.act a
  dials := w.dialsAfter a
  lingers := w.lingersAfter a
  led := if w.reopens a then w.led ++ started w.transport a else w.led

/-- The stream is bound to one of the given central sessions. -/
def bound (sessions : List Ref) : Owner → Bool
  | .central _ sess => sess ∈ sessions
  | .server _ => false

/-- No handler of a stale dial sends an OPEN, and no new stream is bound to a session that one
started. -/
def Forgets (w : Dialing) (a : Action) : Prop :=
  w.reopens a = false ∧
  ∀ st < (w.act a).transport.core.streams.next, w.transport.core.streams.next ≤ st →
    bound (w.act a).led ((w.act a).transport.core.streams.get st).owner = false

/-- No subscription succeeds on an object on which a handler of a stale dial waits. -/
def Unsubscribed (w : Dialing) : Action → Prop
  | .input i =>
    match i.event with
    | .notifyState p isNotifying => isNotifying = true → w.lingers p = false
    | _ => True
  | _ => True

instance (w : Dialing) (a : Action) : Decidable (w.Forgets a) :=
  inferInstanceAs (Decidable (_ ∧ ∀ st < _, _ → _))

instance (w : Dialing) (a : Action) : Decidable (w.Unsubscribed a) := by
  unfold Unsubscribed
  rcases a with ⟨_, _, event⟩ | _
  · rcases event with _ | _ <;> infer_instance
  all_goals infer_instance

/-- What a started session issues. -/
theorem startCentralSession_out (env : Env) (t : Transport) (p : Ref) :
    (t.startCentralSession env p).core.out = t.core.out ++
      [.send p (encodeFrame typeOpen (env.cfg.randomId t.core.central.sessions.next)
        (encodeKeyPayload env.cfg.publicKey env.cfg.capabilities none)) true,
        .requestMtu p requestMtu] := by
  change (_ ++ [_]) ++ [_] = _
  rw [List.append_assoc]
  rfl

/-- A subscription that succeeds sends an OPEN to its peripheral if a handler waits, and to
no other. -/
theorem notifyState_opens (env : Env) (p : Ref) (n : Nat) (t : Transport) :
    ∃ sent, ((fun t => onNotifyState env t p true)^[n] t).core.out = t.core.out ++ sent ∧
      ∀ q, (∃ command ∈ sent, command.opens = some q) ↔ q = p ∧ n ≠ 0 := by
  induction n generalizing t with
  | zero => exact ⟨[], (List.append_nil _).symm, by simp⟩
  | succ n ih =>
    obtain ⟨later, out, opens⟩ := ih (t.startCentralSession env p)
    let first : List Command := [.send p (encodeFrame typeOpen
      (env.cfg.randomId t.core.central.sessions.next)
      (encodeKeyPayload env.cfg.publicKey env.cfg.capabilities none)) true, .requestMtu p requestMtu]
    refine ⟨first ++ later, ?_, fun q => ?_⟩
    · rw [Function.iterate_succ_apply, ← List.append_assoc]
      exact out.trans (congrArg (· ++ later) (startCentralSession_out env t p))
    · have here : (∃ command ∈ first, command.opens = some q) ↔ q = p := by
        simp [first, Command.opens, eq_comm]
      have split : (∃ command ∈ first ++ later, command.opens = some q) ↔
          (∃ command ∈ first, command.opens = some q) ∨ ∃ command ∈ later, command.opens = some q := by
        simp only [List.mem_append, or_and_right, exists_or]
      rw [split, here, opens]
      have more : n + 1 ≠ 0 := Nat.succ_ne_zero n
      exact (or_iff_left_of_imp And.left).trans (and_iff_left more).symm

/-- Every other step sends no OPEN. -/
theorem act_unopened (t : Transport) {a : Action}
    (other : ∀ i p, a = .input i → i.event ≠ .notifyState p true) :
    ∀ command ∈ (t.act a).core.out, command.opens = none := by
  have fresh : ∀ {native} {c : Core},
      Issues (fun command => command.opens = none) (t.begin native).core c →
      ∀ command ∈ c.out, command.opens = none :=
    fun issues command mem => (issues command mem).resolve_left List.not_mem_nil
  rcases t.act_split a with ⟨i, rfl, -, run⟩ | ⟨i, rfl, -, run⟩ | ⟨-, env, -, -, -, calls⟩
  · rw [run]
    exact fun _ mem => by cases mem
  · rw [run]
    have mild : ∀ halted {c : Core}, Issues (Mild halted false true) (t.begin i.native).core c →
        ∀ command ∈ c.out, command.opens = none :=
      fun _ _ issues => fresh (issues.mono fun _ mild => mild.unopened rfl)
    have ordinary : ∀ {e}, ¬ Special e → (scopeOf t.cfg.pipe e).starts = false →
        ∀ command ∈ ((t.begin i.native).handle (t.env i.now i.native) e).core.out, command.opens = none :=
      fun usual idle => fresh ((handle_proceeds _ _ usual).mild.mono fun _ mild => mild.unopened idle)
    cases event : i.event with
    | serverState s => exact mild _ (onServerState_issues _ s)
    | centralState s => exact mild _ (onCentralState_issues _ s)
    | serviceAdd => exact mild _ (onServiceAdd_issues _)
    | connOpen r key => exact mild false (onConnOpen_issues r key _)
    | notifyState p isNotifying =>
      cases isNotifying
      · exact ordinary (by simp [Special]) rfl
      · exact absurd event (other i p rfl)
    | _ => exact ordinary (by simp [Special]) rfl
  · have issues :
        Issues (Mild env.halted false true) (t.begin env.native).core (t.act a).core := calls.issues
    exact fresh (issues.mono fun _ mild => mild.unopened rfl)

theorem reopens_of_other (w : Dialing) {a : Action}
    (other : ∀ i p, a = .input i → i.event ≠ .notifyState p true) : w.reopens a = false := by
  rw [reopens, List.any_eq_false]
  intro command mem
  rw [act_unopened w.transport other command mem]
  simp

/-- The handlers of stale dials are among those that are registered. -/
def Registered (w : Dialing) : Prop :=
  ∀ p, w.lingers p = true →
    w.transport.life.opened = true ∧ (w.transport.listeners p).notifyState ≠ 0

/-- A 'notifyState' event of another object takes no handler. -/
theorem notifyState_waits_of_ne (env : Env) (t : Transport) {p q : Ref} (other : p ≠ q) (b : Bool) :
    ((t.handle env (.notifyState q b)).listeners p).notifyState = (t.listeners p).notifyState := by
  have once : ∀ t : Transport,
      ((onNotifyState env t q b).listeners p).notifyState = (t.listeners p).notifyState := by
    intro t
    cases b
    · rfl
    · simp [onNotifyState, Transport.startCentralSession, setListeners, other]
  have many := iterate_keeps (fun t : Transport => (t.listeners p).notifyState)
    (fun t => onNotifyState env t q b) once
  refine (many _ _).trans ?_
  simp [setListeners, other]

theorem registered_act {w : Dialing} (h : w.Registered) (a : Action) : (w.act a).Registered := by
  intro p lingers
  by_cases other : ∀ i, a = .input i →
      (∀ p, i.event ≠ .connect p) ∧ ∀ p b, i.event ≠ .notifyState p b
  · have before : w.lingers p = true := by
      cases a with
      | input i =>
        obtain ⟨unconnected, unsubscribed⟩ := other i rfl
        simp only [act, lingersAfter] at lingers
        split at lingers
        · exact lingers
        · exact lingers
      | _ => exact lingers
    obtain ⟨opened, waits⟩ := h p before
    have same : ((w.transport.act a).listeners p).notifyState = (w.transport.listeners p).notifyState :=
      congrArg Prod.fst (act_counts a other p)
    exact ⟨act_opened a opened, same ▸ waits⟩
  · push Not at other
    obtain ⟨⟨now, native, event⟩, rfl, events⟩ := other
    cases opened : w.transport.life.opened with
    | false =>
      simp only [act, lingersAfter, opened, Bool.false_eq_true, if_false] at lingers
      exact absurd (opened.symm.trans (h p lingers).1) Bool.false_ne_true
    | true =>
      refine ⟨act_opened _ opened, ?_⟩
      simp only [act, lingersAfter, opened, if_true] at lingers ⊢
      rw [act_input opened]
      cases event with
      | connect q =>
        by_cases here : p = q
        · subst here
          simp [handle, Transport.onConnect, setListeners]
        · have before : w.lingers p = true := by simpa [Ne.symm here] using lingers
          simpa [handle, Transport.onConnect, setListeners, here] using (h p before).2
      | notifyState q b =>
        simp only [Bool.and_eq_true, bne_iff_ne] at lingers
        rw [notifyState_waits_of_ne _ _ (Ne.symm lingers.2)]
        exact (h p lingers.1).2
      | _ => simp at events

/-- The subscription of an object sends an OPEN for a stale dial exactly if a handler of one waits. -/
theorem reopens_notifyState {w : Dialing} (h : w.Registered) (i : Input) {p : Ref}
    (event : i.event = .notifyState p true) :
    w.reopens (.input i) = false ↔ w.Unsubscribed (.input i) := by
  have condition : w.Unsubscribed (.input i) ↔ w.lingers p = false := by
    simp [Unsubscribed, event]
  rw [condition, reopens, List.any_eq_false]
  cases opened : w.transport.life.opened with
  | false =>
    have none : w.lingers p = false := by
      by_contra lingers
      obtain ⟨up, -⟩ := h p (Bool.eq_true_of_not_eq_false lingers)
      exact absurd (opened.symm.trans up) Bool.false_ne_true
    rw [act_input_unopened opened, none]
    simp [begin]
  | true =>
    rw [act_input opened, event]
    obtain ⟨sent, out, opens⟩ := notifyState_opens (w.transport.env i.now i.native) p
      (w.transport.listeners p).notifyState
      ((w.transport.begin i.native).setListeners p fun l => { l with notifyState := 0 })
    have out : ((w.transport.begin i.native).handle (w.transport.env i.now i.native)
      (.notifyState p true)).core.out = sent := out
    rw [out]
    constructor
    · intro quiet
      by_contra lingers
      have lingers := Bool.eq_true_of_not_eq_false lingers
      obtain ⟨command, mem, opening⟩ := (opens p).mpr ⟨rfl, (h p lingers).2⟩
      exact quiet command mem (by simp [opening, lingers])
    · intro none command mem reopened
      obtain ⟨q, opening, lingers⟩ := (Option.any_eq_true _ _).mp reopened
      obtain ⟨rfl, -⟩ := (opens q).mp ⟨command, mem, opening⟩
      exact absurd (none.symm.trans lingers) Bool.false_ne_true

/-- With no session started by a handler of a stale dial, a step in which none sends an OPEN binds no
stream of such a session. -/
theorem forgets_iff {w : Dialing} (h : w.Registered) (unled : w.led = []) (a : Action) :
    w.Forgets a ↔ w.Unsubscribed a := by
  have silent : w.Forgets a ↔ w.reopens a = false := by
    refine ⟨And.left, fun quiet => ⟨quiet, fun st _ _ => ?_⟩⟩
    have led : (w.act a).led = [] := by simp [act, quiet, unled]
    rw [led]
    cases ((w.act a).transport.core.streams.get st).owner <;> rfl
  rw [silent]
  by_cases event : ∃ i p, a = .input i ∧ i.event = .notifyState p true
  · obtain ⟨i, p, rfl, event⟩ := event
    exact reopens_notifyState h i event
  · have other : ∀ i p, a = .input i → i.event ≠ .notifyState p true :=
      fun i p eq subscribed => event ⟨i, p, eq, subscribed⟩
    refine ⟨fun _ => ?_, fun _ => reopens_of_other w other⟩
    cases a with
    | input i =>
      simp only [Unsubscribed]
      split
      · rename_i p isNotifying subscribed
        intro notifying
        subst notifying
        exact absurd subscribed (other i p rfl)
      · trivial
    | _ => trivial

end Dialing

end BleSwarm.Transport
