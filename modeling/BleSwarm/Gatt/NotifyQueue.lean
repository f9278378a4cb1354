import BleSwarm.Config

/-!
# The server's notify queue

All notifications of a server go through one characteristic. `updateValue`
refuses a frame while the native queue is full; the head frame is then held and
retried on `readyToUpdate` or on a timer.
-/

namespace BleSwarm

/-- What one `updateValue` call does. -/
inductive UpdateOutcome
  | accepted
  | full
  | thrown
  deriving DecidableEq

/-- A submitted frame, with the number of the promise its submitter holds. -/
structure NotifyItem where
  promise : Nat
  frame : Bytes
  deriving DecidableEq

structure NotifyQueue where
  queue : List NotifyItem := []
  /-- The deadline of the retry timer. -/
  retry : Option Nat := none
  /-- The number of promises handed out. -/
  promises : Nat := 0
  /-- Promises in the order in which they settled, `true` for resolved. -/
  settled : List (Nat × Bool) := []
  /-- The frames `updateValue` accepted, in order. -/
  accepted : List Bytes := []
  /-- What the next `updateValue` calls do; after these, frames are accepted. -/
  outcomes : List UpdateOutcome := []

namespace NotifyQueue

/-- The loop of `drain`, over the frames that are still queued. -/
def drainLoop (now : Nat) : NotifyQueue → List NotifyItem → NotifyQueue
  | g, [] => { g with queue := [] }
  | g, item :: rest =>
    let next := { g with outcomes := g.outcomes.tail }
    match g.outcomes.headD .accepted with
    | .thrown => drainLoop now { next with settled := g.settled ++ [(item.promise, false)] } rest
    | .full => { next with queue := item :: rest, retry := some (now + notifyRetry) }
    | .accepted =>
      drainLoop now
        { next with
          accepted := g.accepted ++ [item.frame]
          settled := g.settled ++ [(item.promise, true)] } rest

def drain (g : NotifyQueue) (now : Nat) : NotifyQueue :=
  drainLoop now { g with retry := none } g.queue

def notify (g : NotifyQueue) (now : Nat) (frame : Bytes) : NotifyQueue :=
  drain { g with queue := g.queue ++ [⟨g.promises, frame⟩], promises := g.promises + 1 } now

/-- The retry timer fires. -/
def onRetry (g : NotifyQueue) (now : Nat) : NotifyQueue :=
  match g.retry with
  | some deadline => if deadline ≤ now then drain g now else g
  | none => g

/-- Reject everything queued. -/
def reset (g : NotifyQueue) : NotifyQueue :=
  { g with
    retry := none
    settled := g.settled ++ g.queue.map (fun item => (item.promise, false))
    queue := [] }

/-- How the promise of a submitted frame settled. -/
def verdict (g : NotifyQueue) (promise : Nat) : Option Bool :=
  (g.settled.find? fun e => e.1 = promise).map Prod.snd

/-- Put a frame at the end of the queue. -/
def submit (g : NotifyQueue) (frame : Bytes) : NotifyQueue :=
  { g with queue := g.queue ++ [⟨g.promises, frame⟩], promises := g.promises + 1 }

/-- The frames leave the queue at its head, each accepted or rejected. -/
inductive Moves : NotifyQueue → NotifyQueue → Prop
  | trans {g g' g'' : NotifyQueue} : Moves g g' → Moves g' g'' → Moves g g''
  /-- The retry timer and the outcomes to come change. -/
  | rest (g : NotifyQueue) (retry : Option Nat) (outcomes : List UpdateOutcome) :
    Moves g { g with retry, outcomes }
  | accept (g : NotifyQueue) (item : NotifyItem) (rest : List NotifyItem)
    (head : g.queue = item :: rest) :
    Moves g { g with
      queue := rest
      accepted := g.accepted ++ [item.frame]
      settled := g.settled ++ [(item.promise, true)] }
  | reject (g : NotifyQueue) (item : NotifyItem) (rest : List NotifyItem)
    (head : g.queue = item :: rest) :
    Moves g { g with queue := rest, settled := g.settled ++ [(item.promise, false)] }

theorem drainLoop_moves (now : Nat) (g : NotifyQueue) (items : List NotifyItem) :
    Moves { g with queue := items } (drainLoop now g items) := by
  induction items generalizing g with
  | nil => exact .rest { g with queue := [] } g.retry g.outcomes
  | cons item rest ih =>
    let next : NotifyQueue := { g with queue := item :: rest, outcomes := g.outcomes.tail }
    have asked : Moves { g with queue := item :: rest } next := .rest _ g.retry _
    simp only [drainLoop]
    split
    · refine (asked.trans (.reject next item rest rfl)).trans ?_
      exact ih { g with
        outcomes := g.outcomes.tail, settled := g.settled ++ [(item.promise, false)] }
    · exact asked.trans (.rest next _ _)
    · refine (asked.trans (.accept next item rest rfl)).trans ?_
      exact ih { g with
        outcomes := g.outcomes.tail
        accepted := g.accepted ++ [item.frame]
        settled := g.settled ++ [(item.promise, true)] }

theorem drain_moves (g : NotifyQueue) (now : Nat) : Moves g (g.drain now) := by
  have cleared : Moves g { g with retry := none } := .rest g none g.outcomes
  exact cleared.trans (drainLoop_moves now { g with retry := none } g.queue)

theorem notify_moves (g : NotifyQueue) (now : Nat) (frame : Bytes) :
    Moves (g.submit frame) (g.notify now frame) := drain_moves (g.submit frame) now

theorem onRetry_moves (g : NotifyQueue) (now : Nat) : Moves g (g.onRetry now) := by
  have same : Moves g g := .rest g g.retry g.outcomes
  unfold onRetry
  split
  · split
    · exact drain_moves g now
    · exact same
  · exact same

theorem reset_moves (g : NotifyQueue) : Moves g g.reset := by
  have rejected : ∀ (items : List NotifyItem) (g : NotifyQueue), g.queue = items →
      Moves g { g with
        queue := [], settled := g.settled ++ items.map fun item => (item.promise, false) } := by
    intro items
    induction items with
    | nil =>
      intro g empty
      have same : { g with queue := [], settled := g.settled ++ [].map fun item : NotifyItem =>
          (item.promise, false) } = g := by
        obtain ⟨queue, _⟩ := g
        simp at empty
        simp [empty]
      rw [same]
      exact .rest g g.retry g.outcomes
    | cons item rest ih =>
      intro g head
      have later := ih { g with queue := rest, settled := g.settled ++ [(item.promise, false)] } rfl
      refine Moves.trans (.reject g item rest head) ?_
      simpa using later
  exact (rejected g.queue g rfl).trans (.rest _ none g.outcomes)

/-- Frames may pass from the queue to the radio, and those that are new satisfy `P`. -/
structure Passes (P : Bytes → Prop) (g g' : NotifyQueue) : Prop where
  queued : ∀ item ∈ g'.queue, item ∈ g.queue ∨ P item.frame
  accepted : ∃ sent, g'.accepted = g.accepted ++ sent ∧
    ∀ frame ∈ sent, (∃ item ∈ g.queue, item.frame = frame) ∨ P frame

variable {P : Bytes → Prop} {g g' g'' : NotifyQueue}

namespace Passes

theorem of_same (queue : g'.queue = g.queue) (accepted : g'.accepted = g.accepted) :
    Passes P g g' :=
  ⟨fun _ mem => .inl (queue ▸ mem), [], accepted.trans (List.append_nil _).symm, List.forall_mem_nil _⟩

theorem refl (g : NotifyQueue) : Passes P g g :=
  ⟨fun _ => .inl, [], (List.append_nil _).symm, List.forall_mem_nil _⟩

theorem mono {Q : Bytes → Prop} (h : Passes P g g') (weaker : ∀ frame, P frame → Q frame) :
    Passes Q g g' := by
  obtain ⟨sent, accepted, from_⟩ := h.accepted
  exact ⟨fun item mem => (h.queued item mem).imp_right (weaker _), sent, accepted,
    fun frame mem => (from_ frame mem).imp_right (weaker _)⟩

theorem trans (h : Passes P g g') (h' : Passes P g' g'') : Passes P g g'' := by
  obtain ⟨sent, accepted, from_⟩ := h.accepted
  obtain ⟨sent', accepted', from'⟩ := h'.accepted
  refine ⟨fun item mem => (h'.queued item mem).elim (h.queued item) .inr, sent ++ sent', ?_, ?_⟩
  · rw [accepted', accepted, List.append_assoc]
  · intro frame mem
    rcases List.mem_append.mp mem with early | late
    · exact from_ frame early
    · rcases from' frame late with ⟨item, queued, rfl⟩ | new
      · exact (h.queued item queued).imp_left fun queued => ⟨item, queued, rfl⟩
      · exact .inr new

end Passes

/-- Whatever leaves the queue was in it. -/
theorem Moves.passes (h : Moves g g') : Passes P g g' := by
  induction h with
  | trans _ _ ih ih' => exact ih.trans ih'
  | rest g retry outcomes => exact .of_same rfl rfl
  | accept g item rest head =>
    refine ⟨fun k mem => .inl ?_, [item.frame], rfl, fun frame mem => .inl ⟨item, ?_, ?_⟩⟩
    · rw [head]
      exact List.mem_cons_of_mem item mem
    · rw [head]
      exact List.mem_cons_self
    · exact (List.mem_singleton.mp mem).symm
  | reject g item rest head =>
    refine ⟨fun k mem => .inl ?_, [], (List.append_nil _).symm, List.forall_mem_nil _⟩
    rw [head]
    exact List.mem_cons_of_mem item mem

theorem drain_passes (g : NotifyQueue) (now : Nat) : Passes P g (g.drain now) :=
  (drain_moves g now).passes

theorem notify_passes (g : NotifyQueue) (now : Nat) {frame : Bytes} (new : P frame) :
    Passes P g (g.notify now frame) := by
  have queued : Passes P g (g.submit frame) := by
    refine ⟨?_, [], (List.append_nil _).symm, List.forall_mem_nil _⟩
    intro item mem
    rcases List.mem_append.mp mem with old | last
    · exact .inl old
    · rw [List.mem_singleton.mp last]
      exact .inr new
  exact queued.trans (notify_moves g now frame).passes

theorem onRetry_passes (g : NotifyQueue) (now : Nat) : Passes P g (g.onRetry now) :=
  (onRetry_moves g now).passes

theorem reset_passes (g : NotifyQueue) : Passes P g g.reset := (reset_moves g).passes

end NotifyQueue

end BleSwarm
