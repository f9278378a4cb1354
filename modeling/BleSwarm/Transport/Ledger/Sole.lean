import Mathlib.Data.List.Infix
import BleSwarm.Transport.Ledger

/-!
# One listener at a time

`publish` is guarded by the psm that is recorded, and the psm is recorded only when the native
server answers. A request made in between is answered as well, and the listener of the first
answer is never given back.
-/

namespace BleSwarm

namespace Notice

def Published : Notice → Bool
  | .published _ => true
  | _ => false

def Retracted : Notice → Bool
  | .retracted _ => true
  | _ => false

def requests (log : List Notice) : Nat := log.count .requested

def publications (log : List Notice) : Nat := log.countP Published

def retractions (log : List Notice) : Nat := log.countP Retracted

@[simp] theorem publications_append (log more : List Notice) :
    publications (log ++ more) = publications log + publications more := List.countP_append

@[simp] theorem requests_append (log more : List Notice) :
    requests (log ++ more) = requests log + requests more := List.count_append

@[simp] theorem retractions_append (log more : List Notice) :
    retractions (log ++ more) = retractions log + retractions more := List.countP_append

@[simp] theorem publications_singleton (notice : Notice) :
    publications [notice] = if Published notice then 1 else 0 := List.countP_singleton

@[simp] theorem requests_singleton (notice : Notice) :
    requests [notice] = if notice = .requested then 1 else 0 := by simp [requests, List.count_singleton]

@[simp] theorem retractions_singleton (notice : Notice) :
    retractions [notice] = if Retracted notice then 1 else 0 := List.countP_singleton

/-- At no time more than one listener was asked for and not given back. -/
def Sole (log : List Notice) : Prop := ∀ past ∈ log.inits, requests past ≤ retractions past + 1

instance (log : List Notice) : Decidable (Sole log) :=
  inferInstanceAs (Decidable (∀ past ∈ log.inits, _))

theorem Sole.of_prefix {log more : List Notice} (h : Sole (log ++ more)) : Sole log := by
  intro past early
  apply h
  rw [List.mem_inits] at *
  exact early.trans (List.prefix_append log more)

theorem sole_append_singleton {log : List Notice} {notice : Notice} : Sole (log ++ [notice]) ↔
    Sole log ∧ requests (log ++ [notice]) ≤ retractions (log ++ [notice]) + 1 := by
  constructor
  · intro h
    exact ⟨h.of_prefix, h _ ((List.mem_inits _ _).mpr (List.prefix_refl _))⟩
  · rintro ⟨before, last⟩ past early
    rcases List.prefix_concat_iff.mp ((List.mem_inits _ _).mp early) with rfl | early
    · exact last
    · exact before past ((List.mem_inits _ _).mpr early)

end Notice

namespace Listener

open Notice

variable {supported : Bool} {l : Listener}

/-- The psm that is recorded is the one that was reported and not given back, each report
answers a request, and one request at most was not followed by a retraction. -/
structure Tidy (supported : Bool) (l : Listener) : Prop where
  recorded : publications l.log = retractions l.log + l.psm.toList.length
  answers : publications l.log ≤ requests l.log
  sole : Sole l.log
  able : supported = false → requests l.log = 0

theorem Tidy.last (h : Tidy supported l) : requests l.log ≤ retractions l.log + 1 :=
  h.sole l.log ((List.mem_inits _ _).mpr (List.prefix_refl _))

/-- A report answers a request. -/
def Answers (l : Listener) : Turn → Prop
  | .published _ => publications l.log < requests l.log
  | _ => True

/-- A listener that is asked for while none is recorded finds every request answered. -/
def Idle (supported : Bool) (l : Listener) : Turn → Prop
  | .publish | .cycle => supported = true → l.psm = none → requests l.log = publications l.log
  | _ => True

instance (supported : Bool) (l : Listener) (turn : Turn) : Decidable (l.Idle supported turn) := by
  unfold Idle
  rcases turn with _ | _ <;> infer_instance

/-- A request is made exactly if no psm is recorded. -/
theorem publish_cases (supported : Bool) (l : Listener) :
    (supported = true ∧ l.psm = none ∧ l.publish supported = ⟨none, l.log ++ [.requested]⟩) ∨
    (¬ (supported = true ∧ l.psm = none) ∧ l.publish supported = l) := by
  obtain ⟨psm, log⟩ := l
  cases supported <;> cases psm <;> simp [publish]

/-- A listener is given back exactly if its psm is recorded. -/
theorem unpublish_cases (h : Tidy supported l) :
    (∃ psm, supported = true ∧ l.psm = some psm ∧
      l.unpublish supported = ⟨none, l.log ++ [.retracted psm]⟩) ∨
    (l.psm = none ∧ l.unpublish supported = l) := by
  cases known : l.psm with
  | none => exact .inr ⟨rfl, by simp [unpublish, known]⟩
  | some psm =>
    cases able : supported
    · have unasked := h.able able
      have recorded := h.recorded
      have answers := h.answers
      simp [known] at recorded
      omega
    · exact .inl ⟨psm, rfl, rfl, by simp [unpublish, known]⟩

theorem publish_sole_iff (h : Tidy supported l) :
    Sole (l.publish supported).log ↔ l.Idle supported .publish := by
  rcases publish_cases supported l with ⟨able, none, run⟩ | ⟨spared, run⟩
  · have recorded := h.recorded
    have answers := h.answers
    simp only [none, Option.toList_none, List.length_nil] at recorded
    rw [run, sole_append_singleton]
    simp only [Idle, able, none, true_imp_iff]
    constructor
    · rintro ⟨-, last⟩
      simp [Retracted] at last
      omega
    · intro idle
      refine ⟨h.sole, ?_⟩
      simp [Retracted]
      omega
  · rw [run]
    exact ⟨fun _ able none => absurd ⟨able, none⟩ spared, fun _ => h.sole⟩

theorem publish_tidy (h : Tidy supported l) (sole : Sole (l.publish supported).log) :
    Tidy supported (l.publish supported) := by
  rcases publish_cases supported l with ⟨able, none, run⟩ | ⟨spared, run⟩
  · have recorded := h.recorded
    rw [run] at sole ⊢
    refine ⟨?_, ?_, sole, fun unable => absurd (able.symm.trans unable) (by simp)⟩
    · simpa [Published, Retracted, none] using recorded
    · simp only [publications_append, requests_append]
      exact Nat.le_succ_of_le h.answers
  · rw [run]
    exact h

theorem unpublish_tidy (h : Tidy supported l) : Tidy supported (l.unpublish supported) := by
  rcases unpublish_cases h with ⟨psm, able, known, run⟩ | ⟨none, run⟩
  · have recorded := h.recorded
    have last := h.last
    rw [run]
    refine ⟨?_, ?_, ?_, fun unable => absurd (able.symm.trans unable) (by simp)⟩
    · simpa [Published, Retracted, known] using recorded
    · simpa [Published] using h.answers
    · refine sole_append_singleton.mpr ⟨h.sole, ?_⟩
      simp only [requests_append, retractions_append]
      exact Nat.add_le_add last (Nat.zero_le _)
  · rw [run]
    exact h

/-- The listener that was given back leaves no request open. -/
theorem cycle_idle_iff (h : Tidy supported l) :
    (l.unpublish supported).Idle supported .publish ↔ l.Idle supported .cycle := by
  rcases unpublish_cases h with ⟨psm, able, known, run⟩ | ⟨none, run⟩
  · have recorded := h.recorded
    have answers := h.answers
    have last := h.last
    simp only [known, Option.toList_some, List.length_singleton] at recorded
    rw [run]
    simp only [Idle, known, reduceCtorEq]
    refine ⟨fun _ _ none => none.elim, fun _ _ _ => ?_⟩
    simp [Published]
    omega
  · rw [run]
    rfl

theorem take_sole_iff (h : Tidy supported l) (turn : Turn) :
    Sole (l.take supported turn).log ↔ l.Idle supported turn := by
  cases turn with
  | publish => exact publish_sole_iff h
  | unpublish => exact ⟨fun _ => trivial, fun _ => (unpublish_tidy h).sole⟩
  | cycle => exact (publish_sole_iff (unpublish_tidy h)).trans (cycle_idle_iff h)
  | published psm =>
    refine ⟨fun _ => trivial, fun _ => sole_append_singleton.mpr ⟨h.sole, ?_⟩⟩
    simpa [Retracted] using h.last
  | down =>
    refine ⟨fun _ => trivial, fun _ => sole_append_singleton.mpr ⟨h.sole, ?_⟩⟩
    simpa [Retracted] using h.last

theorem take_tidy (h : Tidy supported l) {turn : Turn} (answers : l.Answers turn)
    (sole : Sole (l.take supported turn).log) : Tidy supported (l.take supported turn) := by
  cases turn with
  | publish => exact publish_tidy h sole
  | unpublish => exact unpublish_tidy h
  | cycle => exact publish_tidy (unpublish_tidy h) sole
  | published psm =>
    have recorded := h.recorded
    have answered : publications l.log < requests l.log := answers
    have last := h.last
    refine ⟨?_, ?_, sole, fun unable => ?_⟩
    · -- the request that is answered was the only one that is open
      cases known : l.psm with
      | none => simpa [take, Published, Retracted, known] using recorded
      | some psm' =>
        simp only [known, Option.toList_some, List.length_singleton] at recorded
        omega
    · simpa [take, Published, Nat.succ_le_iff] using answered
    · have none := h.able unable
      omega
  | down =>
    refine ⟨?_, ?_, sole, fun unable => ?_⟩
    · simpa [take, Published, Retracted] using h.recorded
    · simpa [take, Published] using h.answers
    · simpa [take] using h.able unable

/-- Turns add to the log. -/
theorem foldl_extends (supported : Bool) (turns : List Turn) (l : Listener) :
    ∃ more, (turns.foldl (take supported) l).log = l.log ++ more := by
  have renewed : l = (⟨l.psm, []⟩ : Listener).since l.log := by simp [since]
  have run := foldl_since supported l.log turns ⟨l.psm, []⟩
  rw [← renewed] at run
  exact ⟨_, congrArg Listener.log run⟩

/-- The turns of a step, one after another. -/
theorem foldl_sole_iff (h : Tidy supported l) {turns : List Turn}
    (answers : Runs.Each (take supported) Answers l turns) :
    Sole (turns.foldl (take supported) l).log ↔ Runs.Each (take supported) (Idle supported) l turns := by
  induction turns generalizing l with
  | nil => exact ⟨fun _ => trivial, fun _ => h.sole⟩
  | cons turn turns ih =>
    have first := take_sole_iff h turn
    constructor
    · intro sole
      obtain ⟨more, extends_⟩ := foldl_extends supported turns (l.take supported turn)
      have here : Sole (l.take supported turn).log := by
        rw [List.foldl_cons, extends_] at sole
        exact sole.of_prefix
      exact ⟨first.mp here, (ih (take_tidy h answers.1 here) answers.2).mp sole⟩
    · rintro ⟨idle, rest⟩
      have here := first.mpr idle
      exact (ih (take_tidy h answers.1 here) answers.2).mpr rest

theorem foldl_tidy (h : Tidy supported l) {turns : List Turn}
    (answers : Runs.Each (take supported) Answers l turns)
    (idle : Runs.Each (take supported) (Idle supported) l turns) :
    Tidy supported (turns.foldl (take supported) l) := by
  induction turns generalizing l with
  | nil => exact h
  | cons turn turns ih =>
    exact ih (take_tidy h answers.1 ((take_sole_iff h turn).mpr idle.1)) answers.2 idle.2

/-- Only a report has to answer a request. -/
theorem each_answers {turns : List Turn} (unreported : ∀ psm, Turn.published psm ∉ turns) (l : Listener) :
    Runs.Each (take supported) Answers l turns := by
  induction turns generalizing l with
  | nil => trivial
  | cons turn turns ih =>
    refine ⟨?_, ih (fun psm mem => unreported psm (List.mem_cons_of_mem turn mem)) _⟩
    cases turn with
    | published psm => exact absurd List.mem_cons_self (unreported psm)
    | _ => trivial

end Listener

namespace Transport

open BleSwarm.Core

/-- What is reported is reported by the native server. -/
theorem eventTurns_published {env : Env} {c : Core} {e : Event} {psm : Nat}
    (mem : .published psm ∈ eventTurns env c e) : e = .channelPublish psm := by
  have cycles : ∀ (p : Prop) [Decidable p], .published psm ∉ if p then [Listener.Turn.cycle] else [] := by
    intro p _ mem
    split at mem
    · simp at mem
    · cases mem
  cases e with
  | channelPublish psm' => simpa [eventTurns, eq_comm] using mem
  | serverState s =>
    simp only [eventTurns] at mem
    split at mem
    · simp at mem
    · split at mem
      · simp at mem
      · cases mem
  | centralState s =>
    simp only [eventTurns] at mem
    split at mem
    · simp at mem
    · cases mem
  | writeRequests requests =>
    simp only [eventTurns] at mem
    split at mem
    · cases mem
    · obtain ⟨m, -, mem⟩ := List.mem_flatMap.mp mem
      simp only [Moment.turns] at mem
      split at mem
      · cases mem
      · exact absurd mem (cycles _)
  | streamClose st =>
    simp only [eventTurns] at mem
    split at mem
    · cases mem
    · exact absurd mem (cycles _)
  | resumeAccept a =>
    simp only [eventTurns] at mem
    split at mem
    · cases mem
    · exact absurd mem (cycles _)
  | _ => cases mem

theorem turns_published {t : Transport} {a : Action} {psm : Nat} (mem : .published psm ∈ t.turns a) :
    ∃ i, a = .input i ∧ i.event = .channelPublish psm := by
  cases a with
  | input i =>
    simp only [turns] at mem
    split at mem
    · exact ⟨i, rfl, eventTurns_published mem⟩
    · cases mem
  | «open» server central now =>
    simp only [turns] at mem
    split at mem
    · simp at mem
    · cases mem
  | drained call now native =>
    simp only [turns] at mem
    split at mem
    · simp at mem
    · cases mem
  | resume now =>
    simp only [turns] at mem
    split at mem
    · simp at mem
    · cases mem
  | _ => cases mem

end Transport

namespace Ledger

open BleSwarm.Core BleSwarm.Transport Notice

/-- Each psm that is reported answers a request of its own. -/
def Answered (w : Ledger) : Action → Prop
  | .input i =>
    match i.event with
    | .channelPublish _ => publications w.log < requests w.log
    | _ => True
  | _ => True

/-- At every moment of the step one listener at most was asked for and not given back. -/
def OneListener (w : Ledger) (a : Action) : Prop := Sole (w.act a).log

/-- Whenever the step asks for a listener and none is recorded, no request is open. -/
def Patient (w : Ledger) (a : Action) : Prop :=
  Runs.Each (Listener.take w.transport.cfg.channelSupport) (Listener.Idle w.transport.cfg.channelSupport)
    w.listener (w.transport.turns a)

instance (w : Ledger) (a : Action) : Decidable (w.Answered a) := by
  unfold Answered
  rcases a with ⟨_, _, event⟩ | _
  · rcases event with _ | _ <;> infer_instance
  all_goals infer_instance

instance (w : Ledger) (a : Action) : Decidable (w.OneListener a) :=
  inferInstanceAs (Decidable (Sole _))

instance (w : Ledger) (a : Action) : Decidable (w.Patient a) :=
  inferInstanceAs (Decidable (Runs.Each ..))

structure Orderly (w : Ledger) : Prop where
  l2cap : w.transport.cfg.pipe = .l2cap
  tidy : Listener.Tidy w.transport.cfg.channelSupport w.listener

theorem each_answers {w : Ledger} {a : Action} (answered : w.Answered a) :
    Runs.Each (Listener.take w.transport.cfg.channelSupport) Listener.Answers w.listener
      (w.transport.turns a) := by
  by_cases reports : ∃ i psm, a = .input i ∧ i.event = .channelPublish psm
  · obtain ⟨i, psm, rfl, event⟩ := reports
    simp only [Answered, event] at answered
    simp only [turns, event, eventTurns]
    split
    · exact ⟨answered, trivial⟩
    · trivial
  · refine Listener.each_answers (fun psm mem => ?_) w.listener
    obtain ⟨i, input, event⟩ := turns_published mem
    exact reports ⟨i, psm, input, event⟩

theorem oneListener_iff {w : Ledger} (h : w.Orderly) {a : Action} (answered : w.Answered a) :
    w.OneListener a ↔ w.Patient a := by
  have log : (w.act a).log = (w.act a).listener.log := rfl
  rw [OneListener, log, act_listener h.l2cap]
  exact Listener.foldl_sole_iff h.tidy (each_answers answered)

theorem act_orderly {w : Ledger} (h : w.Orderly) {a : Action} (answered : w.Answered a)
    (one : w.OneListener a) : (w.act a).Orderly := by
  have cfg : (w.act a).transport.cfg = w.transport.cfg := act_cfg w.transport a
  refine ⟨by rw [cfg, h.l2cap], ?_⟩
  rw [cfg, act_listener h.l2cap]
  exact Listener.foldl_tidy h.tidy (each_answers answered) ((oneListener_iff h answered).mp one)

/-- Where each report answers a request, no listener is leaked exactly in the runs in which a
listener is asked for, while none is recorded, only once every earlier request was answered. -/
theorem one_listener_iff (cfg : Config) (topic : Option Bytes) (online : Bool) (ids : Ref → PeripheralId)
    (actions : List Action) (answered : Runs.Each act Answered
      { transport := create { cfg with pipe := .l2cap } topic online ids } actions) :
    Runs.Each act OneListener { transport := create { cfg with pipe := .l2cap } topic online ids } actions ↔
      Runs.Each act Patient { transport := create { cfg with pipe := .l2cap } topic online ids } actions := by
  have same : ∀ (w : Ledger) a, w.Orderly → w.Answered a → (w.OneListener a ↔ w.Patient a) :=
    fun _ _ h answered => oneListener_iff h answered
  have silent : Sole [] := by decide
  refine Runs.each_iff_of_allowed same (fun _ _ h answered one => act_orderly h answered one) ?_ answered
  exact ⟨rfl, rfl, le_refl _, silent, fun _ => rfl⟩

/-- The last session is closed, and the server answers the request for another listener. -/
theorem one_listener_after_close :
    let cfg := Config.plain (List.replicate 32 1) .l2cap .mac
    Runs.Each act OneListener { transport := create { cfg with pipe := .l2cap } none false id }
      (startThen [.channelPublish 128,
        .writeRequests [(asksChannel (List.replicate 8 7) (List.replicate 32 2), false)],
        .writeRequests [(encodeFrame typeClose (toHex (List.replicate 8 7)) [], false)],
        .channelPublish 129]) :=
  (one_listener_iff (Config.plain (List.replicate 32 1) .l2cap .mac) none false id _
    (by decide +kernel)).mpr (by decide +kernel)

/-- The transport is suspended and resumed before the server answers its first request. -/
theorem listener_leaked_by_resume :
    let start : Ledger := { transport := create (Config.plain (List.replicate 32 1) .l2cap .mac) none false id }
    let actions : List Action := [.open .poweredOn .poweredOn 0, .suspend 1000 {}, .drained 0 1300 {},
      .resume 2000, .input { now := 2100, event := .channelPublish 128 },
      .input { now := 2200, event := .channelPublish 129 }]
    Runs.Each act Answered start actions ∧ ¬ Runs.Each act OneListener start actions := by
  decide +kernel

end Ledger

end BleSwarm
