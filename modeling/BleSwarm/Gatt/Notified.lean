import BleSwarm.Gatt.NotifyQueue
import BleSwarm.Lib.Runs
import Mathlib.Data.List.Nodup

/-!
# Every notification settles once

The queue is watched together with what its submitters and the radio see of it: the
frames submitted, the `updateValue` calls made and the frames that a reset dropped.
-/

namespace BleSwarm

/-- What reaches the queue. -/
inductive NotifyCall
  | notify (frame : Bytes)
  /-- 'readyToUpdate'. -/
  | drain
  | onRetry
  | reset

namespace NotifyQueue

/-- The `updateValue` calls that the loop of `drain` makes. -/
def offers : List UpdateOutcome → List NotifyItem → List (NotifyItem × UpdateOutcome)
  | _, [] => []
  | outcomes, item :: rest =>
    match outcomes.headD .accepted with
    | .thrown => (item, .thrown) :: offers outcomes.tail rest
    | .full => [(item, .full)]
    | .accepted => (item, .accepted) :: offers outcomes.tail rest

/-- The retry timer is armed and due. -/
def due (g : NotifyQueue) (now : Nat) : Bool := g.retry.any fun deadline => deadline ≤ now

end NotifyQueue

structure Notifying where
  pipe : NotifyQueue
  submitted : List Bytes := []
  calls : List (NotifyItem × UpdateOutcome) := []
  dropped : List NotifyItem := []

namespace Notifying

open NotifyQueue

/-- An empty queue, and what `updateValue` is going to answer. -/
def start (outcomes : List UpdateOutcome) : Notifying := { pipe := { outcomes } }

def step (w : Notifying) (e : Nat × NotifyCall) : Notifying :=
  match e.2 with
  | .notify frame =>
    { w with
      pipe := w.pipe.notify e.1 frame
      submitted := w.submitted ++ [frame]
      calls := w.calls ++ offers w.pipe.outcomes (w.pipe.submit frame).queue }
  | .drain =>
    { w with
      pipe := w.pipe.drain e.1
      calls := w.calls ++ offers w.pipe.outcomes w.pipe.queue }
  | .onRetry =>
    { w with
      pipe := w.pipe.onRetry e.1
      calls := w.calls ++ if w.pipe.due e.1 then offers w.pipe.outcomes w.pipe.queue else [] }
  | .reset => { w with pipe := w.pipe.reset, dropped := w.dropped ++ w.pipe.queue }

/-- The submitted frames in order, each with the number of its promise. -/
def items (w : Notifying) : List NotifyItem := w.submitted.mapIdx NotifyItem.mk

/-- The frames that `updateValue` accepted, in order. -/
def taken (w : Notifying) : List NotifyItem :=
  (w.calls.filter fun call => call.2 = .accepted).map Prod.fst

/-- The frames of `ended` have left the queue, in order and each with its verdict. -/
structure Accounted (w : Notifying) (ended : List (NotifyItem × Bool)) : Prop where
  numbered : w.pipe.promises = w.submitted.length
  inOrder : ended.map Prod.fst ++ w.pipe.queue = w.items
  settled : w.pipe.settled = ended.map fun e => (e.1.promise, e.2)
  taken : w.taken = (ended.filter Prod.snd).map Prod.fst
  accepted : w.pipe.accepted = w.taken.map NotifyItem.frame
  rejected : ∀ item, (item, false) ∈ ended ↔ (item, .thrown) ∈ w.calls ∨ item ∈ w.dropped

namespace Accounted

variable {w : Notifying} {ended : List (NotifyItem × Bool)} {item : NotifyItem}
  {rest : List NotifyItem}

theorem of_start (outcomes : List UpdateOutcome) : Accounted (start outcomes) [] :=
  ⟨rfl, rfl, rfl, rfl, rfl, fun _ => by simp [start]⟩

/-- The timer and the answers to come do not matter. -/
theorem set_rest (h : w.Accounted ended) (retry : Option Nat) (outcomes : List UpdateOutcome) :
    Accounted { w with pipe := { w.pipe with retry, outcomes } } ended :=
  ⟨h.numbered, h.inOrder, h.settled, h.taken, h.accepted, h.rejected⟩

theorem shift (h : w.Accounted ended) (head : w.pipe.queue = item :: rest) (verdict : Bool) :
    (ended ++ [(item, verdict)]).map Prod.fst ++ rest = w.items := by
  rw [← h.inOrder, head, List.map_append, List.append_assoc]
  rfl

theorem accept (h : w.Accounted ended) (head : w.pipe.queue = item :: rest) :
    Accounted { w with
      pipe := { w.pipe with
        queue := rest
        accepted := w.pipe.accepted ++ [item.frame]
        settled := w.pipe.settled ++ [(item.promise, true)] }
      calls := w.calls ++ [(item, .accepted)] } (ended ++ [(item, true)]) where
  numbered := h.numbered
  inOrder := h.shift head true
  settled := by rw [h.settled, List.map_append, List.map_singleton]
  taken := by
    have before := h.taken
    simp only [Notifying.taken] at before ⊢
    simp [before]
  accepted := by
    have before := h.accepted
    simp only [Notifying.taken] at before ⊢
    simp [before]
  rejected k := by simp [h.rejected k]

theorem throw (h : w.Accounted ended) (head : w.pipe.queue = item :: rest) :
    Accounted { w with
      pipe := { w.pipe with queue := rest, settled := w.pipe.settled ++ [(item.promise, false)] }
      calls := w.calls ++ [(item, .thrown)] } (ended ++ [(item, false)]) where
  numbered := h.numbered
  inOrder := h.shift head false
  settled := by rw [h.settled, List.map_append, List.map_singleton]
  taken := by
    have before := h.taken
    simp only [Notifying.taken] at before ⊢
    simp [before]
  accepted := by
    have before := h.accepted
    simp only [Notifying.taken] at before ⊢
    simp [before]
  rejected k := by
    simp only [List.mem_append, h.rejected k, List.mem_singleton, Prod.mk.injEq, and_true]
    tauto

/-- The head frame is held. -/
theorem refuse (h : w.Accounted ended) (item : NotifyItem) :
    Accounted { w with calls := w.calls ++ [(item, .full)] } ended where
  numbered := h.numbered
  inOrder := h.inOrder
  settled := h.settled
  taken := by
    rw [← h.taken]
    simp [Notifying.taken]
  accepted := by
    rw [h.accepted]
    simp [Notifying.taken]
  rejected k := by simp [h.rejected k]

/-- The loop of `drain` over `items`: they leave at the head, until one is refused. -/
theorem drainLoop (now : Nat) (items : List NotifyItem)
    (h : Accounted { w with pipe := { w.pipe with queue := items } } ended) :
    ∃ ended, Accounted { w with
      pipe := w.pipe.drainLoop now items, calls := w.calls ++ offers w.pipe.outcomes items } ended := by
  induction items generalizing w ended with
  | nil =>
    refine ⟨ended, ?_⟩
    simpa only [NotifyQueue.drainLoop, offers, List.append_nil] using h
  | cons item rest ih =>
    have asked := h.set_rest w.pipe.retry w.pipe.outcomes.tail
    cases answer : w.pipe.outcomes.headD .accepted with
    | thrown =>
      let next : Notifying := { w with
        pipe := { w.pipe with
          outcomes := w.pipe.outcomes.tail
          settled := w.pipe.settled ++ [(item.promise, false)] }
        calls := w.calls ++ [(item, .thrown)] }
      obtain ⟨ended, done⟩ := ih (w := next) (asked.throw rfl)
      refine ⟨ended, ?_⟩
      simp only [NotifyQueue.drainLoop, offers, answer]
      simpa only [next, List.append_assoc, List.singleton_append] using done
    | full =>
      refine ⟨ended, ?_⟩
      simp only [NotifyQueue.drainLoop, offers, answer]
      exact (h.set_rest (some (now + notifyRetry)) w.pipe.outcomes.tail).refuse item
    | accepted =>
      let next : Notifying := { w with
        pipe := { w.pipe with
          outcomes := w.pipe.outcomes.tail
          accepted := w.pipe.accepted ++ [item.frame]
          settled := w.pipe.settled ++ [(item.promise, true)] }
        calls := w.calls ++ [(item, .accepted)] }
      obtain ⟨ended, done⟩ := ih (w := next) (asked.accept rfl)
      refine ⟨ended, ?_⟩
      simp only [NotifyQueue.drainLoop, offers, answer]
      simpa only [next, List.append_assoc, List.singleton_append] using done

theorem drain (now : Nat) (h : w.Accounted ended) :
    ∃ ended, Accounted { w with
      pipe := w.pipe.drain now
      calls := w.calls ++ offers w.pipe.outcomes w.pipe.queue } ended :=
  drainLoop (w := { w with pipe := { w.pipe with retry := none } }) now w.pipe.queue
    (h.set_rest none w.pipe.outcomes)

theorem submit (h : w.Accounted ended) (frame : Bytes) :
    Accounted { w with
      pipe := w.pipe.submit frame, submitted := w.submitted ++ [frame] } ended where
  numbered := by simp [NotifyQueue.submit, h.numbered]
  inOrder := by
    have before := h.inOrder
    simp only [items] at before ⊢
    simp [NotifyQueue.submit, ← before, h.numbered, ← List.append_assoc, List.mapIdx_append]
  settled := h.settled
  taken := h.taken
  accepted := h.accepted
  rejected := h.rejected

theorem reset (h : w.Accounted ended) :
    Accounted { w with pipe := w.pipe.reset, dropped := w.dropped ++ w.pipe.queue }
      (ended ++ w.pipe.queue.map fun item => (item, false)) where
  numbered := h.numbered
  inOrder := by
    have before := h.inOrder
    simp only [items] at before ⊢
    simpa [NotifyQueue.reset, Function.comp_def] using before
  settled := by simp [NotifyQueue.reset, h.settled, Function.comp_def]
  taken := by
    have before := h.taken
    simp only [Notifying.taken] at before ⊢
    simp [before, List.filter_map, Function.comp_def]
  accepted := h.accepted
  rejected k := by
    simp only [List.mem_append, h.rejected k, List.mem_map, Prod.mk.injEq, and_true]
    simp [or_assoc]

theorem step (h : w.Accounted ended) (e : Nat × NotifyCall) :
    ∃ ended, (w.step e).Accounted ended := by
  obtain ⟨now, call⟩ := e
  cases call with
  | notify frame => exact (h.submit frame).drain now
  | drain => exact h.drain now
  | onRetry =>
    cases armed : w.pipe.retry with
    | none =>
      refine ⟨ended, ?_⟩
      simpa [Notifying.step, NotifyQueue.onRetry, due, armed] using h
    | some deadline =>
      by_cases late : deadline ≤ now
      · simpa [Notifying.step, NotifyQueue.onRetry, due, armed, late] using h.drain now
      · refine ⟨ended, ?_⟩
        simpa [Notifying.step, NotifyQueue.onRetry, due, armed, late] using h
  | reset => exact ⟨_, h.reset⟩

end Accounted

theorem accounted (outcomes : List UpdateOutcome) (es : List (Nat × NotifyCall)) :
    ∃ ended, (Runs.run Notifying.step (start outcomes) es).Accounted ended := by
  have keep : ∀ (w : Notifying) e, (∃ ended, w.Accounted ended) → ∃ ended, (w.step e).Accounted ended := by
    rintro w e ⟨ended, h⟩
    exact h.step e
  exact Runs.always keep ⟨[], .of_start outcomes⟩ es

/-! Verdicts. -/

namespace Accounted

variable {w : Notifying} {ended : List (NotifyItem × Bool)} {item : NotifyItem}

theorem items_nodup (w : Notifying) : (w.items.map NotifyItem.promise).Nodup := by
  have promises : w.items.map NotifyItem.promise = List.range w.submitted.length := by
    apply List.ext_getElem <;> simp [items]
  rw [promises]
  exact List.nodup_range

theorem nodup (h : w.Accounted ended) :
    ((ended.map Prod.fst ++ w.pipe.queue).map NotifyItem.promise).Nodup := by
  rw [h.inOrder]
  exact items_nodup w

theorem settled_nodup (h : w.Accounted ended) : (w.pipe.settled.map Prod.fst).Nodup := by
  have nodup := h.nodup
  rw [List.map_append, List.nodup_append] at nodup
  rw [h.settled]
  simpa [Function.comp_def] using nodup.1

theorem verdict_of_ended (h : w.Accounted ended) {e : NotifyItem × Bool} (mem : e ∈ ended) :
    w.pipe.verdict e.1.promise = some e.2 := by
  have mem : (e.1.promise, e.2) ∈ w.pipe.settled := by
    rw [h.settled]
    exact List.mem_map_of_mem mem
  obtain ⟨first, found⟩ : ∃ first, w.pipe.settled.find? (fun s => s.1 = e.1.promise) = some first := by
    rw [← Option.isSome_iff_exists, List.find?_isSome]
    exact ⟨_, mem, by simp⟩
  have here : first.1 = e.1.promise := by simpa using List.find?_some found
  obtain rfl := List.inj_on_of_nodup_map h.settled_nodup (List.mem_of_find?_eq_some found) mem here
  rw [verdict, found]
  rfl

theorem verdict_of_queued (h : w.Accounted ended) (mem : item ∈ w.pipe.queue) :
    w.pipe.verdict item.promise = none := by
  rw [verdict, Option.map_eq_none_iff, List.find?_eq_none]
  intro s settled same
  rw [h.settled, List.mem_map] at settled
  obtain ⟨e, gone, rfl⟩ := settled
  have nodup := h.nodup
  rw [List.map_append, List.nodup_append] at nodup
  apply nodup.2.2 e.1.promise ?_ item.promise (List.mem_map_of_mem mem)
  · simpa using same
  · exact List.mem_map_of_mem (List.mem_map_of_mem gone)

/-- A submitted frame is queued or has ended. -/
theorem queued_or_ended (h : w.Accounted ended) (mem : item ∈ w.items) :
    item ∈ w.pipe.queue ∨ ∃ verdict, (item, verdict) ∈ ended := by
  rw [← h.inOrder, List.mem_append, List.mem_map] at mem
  rcases mem with ⟨⟨_, verdict⟩, gone, rfl⟩ | queued
  · exact .inr ⟨verdict, gone⟩
  · exact .inl queued

theorem queued_iff (h : w.Accounted ended) (mem : item ∈ w.items) :
    item ∈ w.pipe.queue ↔ w.pipe.verdict item.promise = none := by
  constructor
  · exact h.verdict_of_queued
  · intro unsettled
    rcases h.queued_or_ended mem with queued | ⟨verdict, gone⟩
    · exact queued
    · rw [h.verdict_of_ended gone] at unsettled
      cases unsettled

theorem verdict_iff (h : w.Accounted ended) (mem : item ∈ w.items) (verdict : Bool) :
    w.pipe.verdict item.promise = some verdict ↔ (item, verdict) ∈ ended := by
  constructor
  · intro settled
    rcases h.queued_or_ended mem with queued | ⟨verdict', gone⟩
    · rw [h.verdict_of_queued queued] at settled
      cases settled
    · rw [h.verdict_of_ended gone] at settled
      obtain rfl := Option.some.inj settled
      exact gone
  · exact h.verdict_of_ended

theorem taken_eq (h : w.Accounted ended) :
    w.taken = w.items.filter fun item => w.pipe.verdict item.promise = some true := by
  have gone : ∀ e ∈ ended, decide (w.pipe.verdict e.1.promise = some true) = e.2 := by
    intro e mem
    simp [h.verdict_of_ended mem]
  have queued : w.pipe.queue.filter (fun item => w.pipe.verdict item.promise = some true) = [] := by
    rw [List.filter_eq_nil_iff]
    intro item mem
    simp [h.verdict_of_queued mem]
  rw [h.taken, ← h.inOrder, List.filter_append, queued, List.append_nil, List.filter_map]
  exact congrArg _ (List.filter_congr fun e mem => (gone e mem).symm)

theorem mem_taken_iff (h : w.Accounted ended) (mem : item ∈ w.items) :
    (item, .accepted) ∈ w.calls ↔ w.pipe.verdict item.promise = some true := by
  have listed : (item, .accepted) ∈ w.calls ↔ item ∈ w.taken := by
    simp [Notifying.taken]
  rw [listed, h.taken_eq, List.mem_filter, decide_eq_true_eq]
  exact and_iff_right mem

end Accounted

/-! The retry timer. -/

theorem drainLoop_armed (now : Nat) (g : NotifyQueue) (items : List NotifyItem)
    (unarmed : g.retry = none) :
    (g.drainLoop now items).retry.isSome = true ↔ (g.drainLoop now items).queue ≠ [] := by
  induction items generalizing g with
  | nil => simp [drainLoop, unarmed]
  | cons item rest ih =>
    simp only [drainLoop]
    split
    · exact ih _ unarmed
    · simp
    · exact ih _ unarmed

theorem drain_armed (now : Nat) (g : NotifyQueue) :
    (g.drain now).retry.isSome = true ↔ (g.drain now).queue ≠ [] := drainLoop_armed now _ _ rfl

/-- The timer is armed exactly while frames are held. -/
def Armed (w : Notifying) : Prop := w.pipe.retry.isSome = true ↔ w.pipe.queue ≠ []

theorem armed_step (w : Notifying) (e : Nat × NotifyCall) (h : w.Armed) : (w.step e).Armed := by
  obtain ⟨now, call⟩ := e
  cases call with
  | notify frame => exact drain_armed now (w.pipe.submit frame)
  | drain => exact drain_armed now w.pipe
  | onRetry =>
    simp only [Armed, Notifying.step, NotifyQueue.onRetry]
    split
    · split
      · exact drain_armed now w.pipe
      · exact h
    · exact h
  | reset => simp [Armed, Notifying.step, NotifyQueue.reset]

theorem armed_run (outcomes : List UpdateOutcome) (es : List (Nat × NotifyCall)) :
    (Runs.run Notifying.step (start outcomes) es).Armed := by
  apply Runs.always armed_step
  simp [Armed, start]

/-- Whatever reaches the queue and whatever `updateValue` answers: the frames accepted are,
in order, those whose promise resolved; a submitted frame is queued with its promise pending
or its promise settled, once; and the retry timer is armed exactly while frames are held. -/
theorem notify_settles_once (outcomes : List UpdateOutcome) (es : List (Nat × NotifyCall)) :
    let w := Runs.run Notifying.step (start outcomes) es
    (w.pipe.accepted = w.taken.map NotifyItem.frame ∧
      w.taken = w.items.filter fun item => w.pipe.verdict item.promise = some true) ∧
    ((w.pipe.settled.map Prod.fst).Nodup ∧ ∀ item ∈ w.items,
      (item ∈ w.pipe.queue ↔ w.pipe.verdict item.promise = none) ∧
      (w.pipe.verdict item.promise = some true ↔ (item, .accepted) ∈ w.calls) ∧
      (w.pipe.verdict item.promise = some false ↔
        (item, .thrown) ∈ w.calls ∨ item ∈ w.dropped)) ∧
    (w.pipe.retry.isSome = true ↔ w.pipe.queue ≠ []) := by
  intro w
  obtain ⟨ended, h⟩ := accounted outcomes es
  refine ⟨⟨h.accepted, h.taken_eq⟩, ⟨h.settled_nodup, fun item mem => ⟨h.queued_iff mem, ?_, ?_⟩⟩,
    armed_run outcomes es⟩
  · exact (h.mem_taken_iff mem).symm
  · rw [h.verdict_iff mem false]
    exact h.rejected item

end Notifying

end BleSwarm
