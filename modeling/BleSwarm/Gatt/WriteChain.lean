import BleSwarm.Lib.Heap
import BleSwarm.Lib.Runs
import BleSwarm.Config
import Mathlib.Data.Nat.PSub
import Mathlib.Algebra.BigOperators.Group.Finset.Basic
import Mathlib.Algebra.Order.BigOperators.Group.Finset

/-!
# The central's write chain

Writes to a peripheral go through a chain of promises: each waits for the one
before it, whichever way that settled.
-/

namespace BleSwarm

/-- One call of `send` on a peripheral, with the promises it makes. A promise is none
while pending, and resolved or not once settled. -/
structure Send where
  frame : Bytes
  withResponse : Bool
  /-- The send whose link was in the `_writeChain` slot, none when the slot was empty. -/
  prev : Option Ref
  /-- `_writeOnce` was called. -/
  started : Bool := false
  /-- The deadline of a write in flight, whose 'write' and 'error' listeners are registered. -/
  timer : Option Nat := none
  /-- The promise of `_writeOnce`. -/
  outcome : Option Bool := none
  /-- `next`, the promise of `send`. -/
  promise : Option Bool := none
  /-- `next.catch(safetyCatch)`. -/
  link : Option Bool := none

instance : Inhabited Send := ⟨{ frame := [], withResponse := false, prev := none }⟩

/-- `_writeOnce` calls `write`; an acknowledged write is then in flight. -/
def Send.write (send : Send) (throws : Bool) (now : Nat) : Send :=
  if throws then { send with started := true, outcome := some false }
  else if send.withResponse then { send with started := true, timer := some (now + writeTimeout) }
  else { send with started := true, outcome := some true }

/-- The listeners of a write in flight are cleaned up and its promise settles. -/
def Send.finish (send : Send) (resolved : Bool) : Send :=
  if send.timer.isSome then { send with timer := none, outcome := some resolved } else send

/-- What the sends of a peripheral share, and the calls of its `write`. -/
structure WriteChain where
  sends : Heap Send := ⟨fun _ => default, 0⟩
  /-- `_writeChain`, as the send whose link it holds. -/
  chain : Option Ref := none
  writes : List (Bytes × Bool) := []

namespace WriteChain

/-- A peripheral that nothing was sent to. -/
def initial : WriteChain := {}

inductive Event
  | send (frame : Bytes) (withResponse : Bool)
  /-- The link before a send has settled and its reaction runs; `write` may throw. -/
  | react (s : Ref) (throws : Bool) (now : Nat)
  /-- The promise of a send follows that of its `_writeOnce`. -/
  | settle (s : Ref)
  /-- The link behind a send follows its promise. -/
  | relink (s : Ref)
  /-- The peripheral emits 'write'. -/
  | wrote
  /-- The peripheral emits 'error'. -/
  | error
  | timeout (s : Ref) (now : Nat)

def modify (w : WriteChain) (s : Ref) (f : Send → Send) : WriteChain :=
  { w with sends := w.sends.modify s f }

def send (w : WriteChain) (frame : Bytes) (withResponse : Bool) : WriteChain :=
  { w with
    sends := w.sends.alloc { frame, withResponse, prev := w.chain }
    chain := some w.sends.next }

/-- The arguments of a send's `write`. -/
def call (w : WriteChain) (s : Ref) : Bytes × Bool :=
  ((w.sends.get s).frame, (w.sends.get s).withResponse)

/-- `_writeOnce`, up to its await. -/
def writeOnce (w : WriteChain) (s : Ref) (throws : Bool) (now : Nat) : WriteChain :=
  { w with writes := w.writes ++ [w.call s] }.modify s fun send => send.write throws now

/-- The promise that a send waits for. -/
def previous (w : WriteChain) (s : Ref) : Option Bool :=
  match (w.sends.get s).prev with
  | some k => (w.sends.get k).link
  | none => some true

/-- The `then` of `send`. -/
def react (w : WriteChain) (s : Ref) (throws : Bool) (now : Nat) : WriteChain :=
  let send := w.sends.get s
  if s < w.sends.next && !send.started && send.promise.isNone then
    match w.previous s with
    | none => w
    | some true => w.writeOnce s throws now
    | some false => w.modify s fun send => { send with promise := some false }
  else w

def settle (w : WriteChain) (s : Ref) : WriteChain :=
  w.modify s fun send => { send with promise := send.promise.or send.outcome }

/-- `safetyCatch` swallows the operational errors, which are all that a write fails with. -/
def relink (w : WriteChain) (s : Ref) : WriteChain :=
  w.modify s fun send => { send with link := send.promise.map fun _ => true }

/-- The listeners of all writes in flight run. -/
def emit (w : WriteChain) (resolved : Bool) : WriteChain :=
  { w with sends := { w.sends with get := fun s => (w.sends.get s).finish resolved } }

def onTimeout (w : WriteChain) (s : Ref) (now : Nat) : WriteChain :=
  match (w.sends.get s).timer with
  | none => w
  | some deadline => if now < deadline then w else w.modify s fun send => send.finish false

def step (w : WriteChain) : Event → WriteChain
  | .send frame withResponse => w.send frame withResponse
  | .react s throws now => w.react s throws now
  | .settle s => w.settle s
  | .relink s => w.relink s
  | .wrote => w.emit true
  | .error => w.emit false
  | .timeout s now => w.onTimeout s now

end WriteChain

/-! One send. -/

namespace Send

/-- How many of its stages a send has before it. -/
def todo (send : Send) : Nat :=
  (if send.started then 0 else 1) + (if send.outcome.isSome then 0 else 1) +
    (if send.promise.isSome then 0 else 1) + if send.link.isSome then 0 else 1

/-- A send is written, then its write ends, then its promise and the link behind it
follow. -/
structure Sound (send : Send) : Prop where
  started : send.started = true ↔ send.timer.isSome = true ∨ send.outcome.isSome = true
  flying : send.timer.isSome = true → send.outcome = none
  promised : ∀ resolved, send.promise = some resolved → send.outcome = some resolved
  linked : ∀ resolved, send.link = some resolved → resolved = true ∧ send.promise.isSome = true

namespace Sound

variable {send : Send}

theorem of_call (frame : Bytes) (withResponse : Bool) (prev : Option Ref) :
    Sound { frame, withResponse, prev } :=
  ⟨by simp, fun _ => rfl, nofun, nofun⟩

theorem finish (h : send.Sound) (resolved : Bool) : (send.finish resolved).Sound := by
  unfold Send.finish
  split
  · rename_i flying
    refine ⟨by simp [h.started, flying], nofun, ?_, h.linked⟩
    intro resolved' settled
    have ended := h.promised resolved' settled
    rw [h.flying flying] at ended
    cases ended
  · exact h

theorem pending_of_flying (h : send.Sound) (flying : send.timer.isSome = true) :
    ¬ send.promise.isSome = true := by
  intro settled
  obtain ⟨_, settled⟩ := Option.isSome_iff_exists.mp settled
  have ended := h.promised _ settled
  rw [h.flying flying] at ended
  cases ended

/-- Nothing has come of a send that was not written. -/
theorem blank (h : send.Sound) (waits : send.started = false) :
    send.timer = none ∧ send.outcome = none ∧ send.promise = none ∧ send.link = none := by
  have pending : send.timer = none ∧ send.outcome = none := by
    have pending := mt h.started.mpr (by simp [waits])
    simpa using pending
  have unsettled : send.promise = none := by
    rw [Option.eq_none_iff_forall_ne_some]
    intro resolved settled
    have ended := h.promised resolved settled
    rw [pending.2] at ended
    cases ended
  have unlinked : send.link = none := by
    rw [Option.eq_none_iff_forall_ne_some]
    intro resolved linked
    have settled := (h.linked resolved linked).2
    rw [unsettled] at settled
    cases settled
  exact ⟨pending.1, pending.2, unsettled, unlinked⟩

theorem write (h : send.Sound) (waits : send.started = false) (throws : Bool) (now : Nat) :
    (send.write throws now).Sound := by
  obtain ⟨timer, outcome, promise, link⟩ := h.blank waits
  unfold Send.write
  split
  · exact ⟨by simp, by simp [timer], by simp [promise], h.linked⟩
  · split
    · exact ⟨by simp, fun _ => outcome, by simp [promise], h.linked⟩
    · exact ⟨by simp, by simp [timer], by simp [promise], h.linked⟩

theorem settle (h : send.Sound) : Sound { send with promise := send.promise.or send.outcome } := by
  refine ⟨h.started, h.flying, ?_, ?_⟩
  · intro resolved settled
    rcases Option.or_eq_some_iff.mp settled with before | ⟨-, now⟩
    · exact h.promised resolved before
    · exact now
  · intro resolved linked
    obtain ⟨yes, settled⟩ := h.linked resolved linked
    exact ⟨yes, by simp [settled]⟩

theorem relink (h : send.Sound) :
    Sound { send with link := send.promise.map fun _ => true } := by
  refine ⟨h.started, h.flying, h.promised, ?_⟩
  intro resolved linked
  obtain ⟨_, settled, yes⟩ := Option.map_eq_some_iff.mp linked
  exact ⟨yes.symm, by simp [settled]⟩

/-- The link behind a send resolves once its write has ended and its promise settled. -/
theorem of_link (h : send.Sound) {resolved : Bool} (linked : send.link = some resolved) :
    send.started = true ∧ send.promise.isSome = true := by
  have settled := (h.linked resolved linked).2
  obtain ⟨_, promise⟩ := Option.isSome_iff_exists.mp settled
  exact ⟨h.started.mpr (.inr (by simp [h.promised _ promise])), settled⟩

end Sound

/-- What is written is the call as it was made. -/
theorem write_same (send : Send) (throws : Bool) (now : Nat) :
    (send.write throws now).started = true ∧ (send.write throws now).frame = send.frame ∧
      (send.write throws now).withResponse = send.withResponse ∧
      (send.write throws now).prev = send.prev ∧ (send.write throws now).link = send.link := by
  unfold Send.write
  split
  · exact ⟨rfl, rfl, rfl, rfl, rfl⟩
  · split <;> exact ⟨rfl, rfl, rfl, rfl, rfl⟩

/-- A send is later in its course: it is the same call, and no write was issued. -/
structure Follows (send send' : Send) : Prop where
  frame : send'.frame = send.frame
  withResponse : send'.withResponse = send.withResponse
  prev : send'.prev = send.prev
  started : send'.started = send.started
  link : send.link = some true → send'.link = some true
  sound : send.Sound → send'.Sound

namespace Follows

theorem refl (send : Send) : send.Follows send := ⟨rfl, rfl, rfl, rfl, id, id⟩

theorem finish (send : Send) (resolved : Bool) : send.Follows (send.finish resolved) := by
  have same : send.finish resolved = send ∨
      send.finish resolved = { send with timer := none, outcome := some resolved } := by
    unfold Send.finish
    split
    · exact .inr rfl
    · exact .inl rfl
  rcases same with same | same
  all_goals
    refine ⟨?_, ?_, ?_, ?_, fun linked => ?_, fun sound => sound.finish resolved⟩
    all_goals rw [same]
  exacts [linked, linked]

end Follows

end Send

namespace WriteChain

variable {w w' : WriteChain} {s : Ref}

/-! The chain. -/

/-- Sends wait for each other in the order of their calls. -/
structure Chained (w : WriteChain) : Prop where
  sound : ∀ s, (w.sends.get s).Sound
  prev : ∀ s < w.sends.next, (w.sends.get s).prev = s.ppred
  chain : w.chain = w.sends.next.ppred
  linked : ∀ s, (w.sends.get (s + 1)).started = true → (w.sends.get s).link = some true
  room : w.writes.length ≤ w.sends.next
  writes : w.writes = (List.range w.writes.length).map w.call
  started : ∀ s, (w.sends.get s).started = true ↔ s < w.writes.length

namespace Chained

theorem of_initial : initial.Chained where
  sound _ := .of_call _ _ _
  prev := nofun
  chain := rfl
  linked := nofun
  room := le_refl _
  writes := rfl
  started s := by
    constructor <;> intro h <;> cases h

/-- Nothing is written, and every send goes on. -/
theorem of_follows (h : w.Chained) (next : w'.sends.next = w.sends.next)
    (chain : w'.chain = w.chain) (writes : w'.writes = w.writes)
    (follows : ∀ s, (w.sends.get s).Follows (w'.sends.get s)) : w'.Chained where
  sound s := (follows s).sound (h.sound s)
  prev s lt := by
    rw [(follows s).prev]
    exact h.prev s (next ▸ lt)
  chain := by rw [chain, next, h.chain]
  linked s started := by
    rw [(follows _).started] at started
    exact (follows s).link (h.linked s started)
  room := by
    rw [writes, next]
    exact h.room
  writes := by
    have same : w'.call = w.call := by
      funext s
      rw [call, call, (follows s).frame, (follows s).withResponse]
    rw [writes, same]
    exact h.writes
  started s := by
    rw [(follows s).started, writes]
    exact h.started s

theorem modify (h : w.Chained) (s : Ref) {f : Send → Send}
    (follows : (w.sends.get s).Follows (f (w.sends.get s))) : (w.modify s f).Chained := by
  refine h.of_follows rfl rfl rfl fun k => ?_
  simp only [WriteChain.modify, Heap.modify_get]
  split
  · rename_i here
    subst here
    exact follows
  · exact .refl _

theorem send (h : w.Chained) (frame : Bytes) (withResponse : Bool) :
    (w.send frame withResponse).Chained := by
  have old : ∀ s < w.sends.next, (w.send frame withResponse).sends.get s = w.sends.get s :=
    fun s lt => w.sends.alloc_get_of_lt _ lt
  have last : (w.send frame withResponse).sends.get w.sends.next =
      { frame, withResponse, prev := w.chain } := w.sends.alloc_get_next _
  have other : ∀ s ≠ w.sends.next, (w.send frame withResponse).sends.get s = w.sends.get s :=
    fun s ne => w.sends.alloc_get_of_ne _ ne
  refine ⟨fun s => ?_, fun s lt => ?_, rfl, fun s started => ?_, ?_, ?_, fun s => ?_⟩
  · by_cases new : s = w.sends.next
    · rw [new, last]
      exact .of_call frame withResponse w.chain
    · rw [other s new]
      exact h.sound s
  · rcases Nat.lt_succ_iff_lt_or_eq.mp lt with earlier | new
    · rw [old s earlier]
      exact h.prev s earlier
    · rw [new, last]
      exact h.chain
  · have written : s + 1 < w.writes.length := by
      by_cases new : s + 1 = w.sends.next
      · rw [new, last] at started
        cases started
      · rw [other _ new] at started
        exact (h.started _).mp started
    rw [old s (Nat.lt_of_succ_lt (written.trans_le h.room))]
    exact h.linked s ((h.started _).mpr written)
  · exact h.room.trans (Nat.le_succ _)
  · have same : (List.range w.writes.length).map (w.send frame withResponse).call =
        (List.range w.writes.length).map w.call := by
      apply List.map_congr_left
      intro s mem
      rw [call, call, old s ((List.mem_range.mp mem).trans_le h.room)]
    exact h.writes.trans same.symm
  · by_cases new : s = w.sends.next
    · rw [new, last]
      exact ⟨nofun, fun lt => absurd h.room (Nat.not_le.mpr lt)⟩
    · rw [other s new]
      exact h.started s

/-- No send waits for a rejected link. -/
theorem unpoisoned (h : w.Chained) (s : Ref) : w.previous s ≠ some false := by
  unfold previous
  split
  · intro rejected
    cases ((h.sound _).linked false rejected).1
  · nofun

/-- The next send to be written is the one whose reaction is due. -/
theorem due (h : w.Chained) (lt : s < w.sends.next) (waits : (w.sends.get s).started = false)
    (ready : w.previous s = some true) : s = w.writes.length := by
  have unwritten : w.writes.length ≤ s := by
    rw [← Nat.not_lt, ← h.started, waits]
    exact Bool.false_ne_true
  cases s with
  | zero => exact (Nat.le_zero.mp unwritten).symm
  | succ k =>
    simp only [previous, h.prev _ lt, Nat.ppred_succ] at ready
    have written := (h.started k).mp ((h.sound k).of_link ready).1
    exact Nat.le_antisymm written unwritten

theorem writeOnce (h : w.Chained) (lt : s < w.sends.next)
    (waits : (w.sends.get s).started = false) (ready : w.previous s = some true) (throws : Bool)
    (now : Nat) : (w.writeOnce s throws now).Chained := by
  have here := h.due lt waits ready
  have self : (w.writeOnce s throws now).sends.get s = (w.sends.get s).write throws now :=
    w.sends.modify_get_self s fun send => send.write throws now
  have other : ∀ k ≠ s, (w.writeOnce s throws now).sends.get k = w.sends.get k :=
    fun k ne => w.sends.modify_get_of_ne (fun send => send.write throws now) ne
  obtain ⟨started, frame, withResponse, prev, link⟩ := (w.sends.get s).write_same throws now
  have length : (w.writeOnce s throws now).writes.length = s + 1 := by
    rw [here]
    exact List.length_append
  have links : ∀ k, ((w.writeOnce s throws now).sends.get k).link = (w.sends.get k).link := by
    intro k
    by_cases same : k = s
    · rw [same, self, link]
    · rw [other k same]
  refine ⟨fun k => ?_, fun k lt => ?_, h.chain, fun k written => ?_, ?_, ?_, fun k => ?_⟩
  · by_cases same : k = s
    · rw [same, self]
      exact (h.sound s).write waits throws now
    · rw [other k same]
      exact h.sound k
  · by_cases same : k = s
    · rw [same, self, prev]
      exact h.prev s (same ▸ lt)
    · rw [other k same]
      exact h.prev k lt
  · rw [links]
    by_cases same : k + 1 = s
    · subst same
      simpa only [previous, h.prev _ lt, Nat.ppred_succ] using ready
    · rw [other _ same] at written
      exact h.linked k written
  · rw [length]
    exact lt
  · have calls : (w.writeOnce s throws now).call = w.call := by
      funext k
      by_cases same : k = s
      · rw [call, call, same, self, frame, withResponse]
      · rw [call, call, other k same]
    rw [length, calls, List.range_succ, List.map_append, here, ← h.writes, ← here]
    rfl
  · rw [length]
    by_cases same : k = s
    · rw [same, self, started]
      exact ⟨fun _ => Nat.lt_succ_self s, fun _ => rfl⟩
    · rw [other k same, h.started, ← here, Nat.lt_succ_iff_lt_or_eq]
      exact ⟨.inl, fun lt => lt.elim id fun eq => absurd eq same⟩

/-- A reaction writes its send, or it is not due. -/
theorem react_cases (h : w.Chained) (s : Ref) (throws : Bool) (now : Nat) :
    w.react s throws now = w ∨ s < w.sends.next ∧ (w.sends.get s).started = false ∧
      w.previous s = some true ∧ w.react s throws now = w.writeOnce s throws now := by
  simp only [WriteChain.react]
  split
  · rename_i enabled
    simp only [Bool.and_eq_true, decide_eq_true_eq, Bool.not_eq_true'] at enabled
    split
    · exact .inl rfl
    · rename_i ready
      exact .inr ⟨enabled.1.1, enabled.1.2, ready, rfl⟩
    · rename_i rejected
      exact absurd rejected (h.unpoisoned s)
  · exact .inl rfl

theorem react (h : w.Chained) (s : Ref) (throws : Bool) (now : Nat) :
    (w.react s throws now).Chained := by
  rcases h.react_cases s throws now with idle | ⟨lt, waits, ready, step⟩
  · rw [idle]
    exact h
  · rw [step]
    exact h.writeOnce lt waits ready throws now

theorem settle (h : w.Chained) (s : Ref) : (w.settle s).Chained :=
  h.modify s ⟨rfl, rfl, rfl, rfl, id, fun sound => sound.settle⟩

theorem relink (h : w.Chained) (s : Ref) : (w.relink s).Chained := by
  refine h.modify s ⟨rfl, rfl, rfl, rfl, fun linked => ?_, fun sound => sound.relink⟩
  obtain ⟨_, settled⟩ := Option.isSome_iff_exists.mp ((h.sound s).of_link linked).2
  simp [settled]

theorem emit (h : w.Chained) (resolved : Bool) : (w.emit resolved).Chained :=
  h.of_follows rfl rfl rfl fun s => .finish (w.sends.get s) resolved

theorem onTimeout (h : w.Chained) (s : Ref) (now : Nat) : (w.onTimeout s now).Chained := by
  unfold WriteChain.onTimeout
  split
  · exact h
  · split
    · exact h
    · exact h.modify s (.finish _ false)

/-- The promises before a send that is written are settled. -/
theorem settled_before (h : w.Chained) {k : Ref} (started : (w.sends.get s).started = true)
    (earlier : k < s) : (w.sends.get k).promise.isSome = true := by
  have link : (w.sends.get k).link = some true :=
    h.linked k ((h.started _).mpr (Nat.lt_of_le_of_lt earlier ((h.started s).mp started)))
  exact ((h.sound k).of_link link).2

theorem step (h : w.Chained) (e : Event) : (w.step e).Chained := by
  cases e with
  | send frame withResponse => exact h.send frame withResponse
  | react s throws now => exact h.react s throws now
  | settle s => exact h.settle s
  | relink s => exact h.relink s
  | wrote => exact h.emit true
  | error => exact h.emit false
  | timeout s now => exact h.onTimeout s now

end Chained

theorem chained (es : List Event) : (Runs.run WriteChain.step initial es).Chained :=
  Runs.always (fun _ e h => h.step e) .of_initial es

/-! What a step does to one send. -/

/-- The write of a send fails in a step. -/
inductive Fails (w : WriteChain) : Event → Ref → Prop
  | throws (s : Ref) (now : Nat) : Fails w (.react s true now) s
  | error (s : Ref) (flying : (w.sends.get s).timer.isSome = true) : Fails w .error s
  | timeout (s : Ref) (now : Nat) : Fails w (.timeout s now) s

/-- An update of one send, as seen from any. -/
theorem get_modify (w : WriteChain) (s k : Ref) (f : Send → Send) :
    (w.modify s f).sends.get k = if k = s then f (w.sends.get s) else w.sends.get k :=
  w.sends.modify_get s k f

/-- What a step can make of a send. -/
inductive Turns (w : WriteChain) (s : Ref) : Event → Send → Prop
  | same (e : Event) : Turns w s e (w.sends.get s)
  | called (frame : Bytes) (withResponse : Bool) (new : s = w.sends.next) :
    Turns w s (.send frame withResponse) { frame, withResponse, prev := w.chain }
  | written (throws : Bool) (now : Nat) (lt : s < w.sends.next)
    (waits : (w.sends.get s).started = false) (ready : w.previous s = some true) :
    Turns w s (.react s throws now) ((w.sends.get s).write throws now)
  | settled : Turns w s (.settle s)
      { w.sends.get s with promise := (w.sends.get s).promise.or (w.sends.get s).outcome }
  | relinked : Turns w s (.relink s)
      { w.sends.get s with link := (w.sends.get s).promise.map fun _ => true }
  | wrote (flying : (w.sends.get s).timer.isSome = true) :
    Turns w s .wrote { w.sends.get s with timer := none, outcome := some true }
  | failed (e : Event) (fails : w.Fails e s) (flying : (w.sends.get s).timer.isSome = true) :
    Turns w s e { w.sends.get s with timer := none, outcome := some false }

theorem Chained.turns (h : w.Chained) (e : Event) (s : Ref) :
    w.Turns s e ((w.step e).sends.get s) := by
  have elsewhere : ∀ (k : Ref) (f : Send → Send), s ≠ k →
      w.Turns s e ((w.modify k f).sends.get s) := by
    intro k f ne
    have same : (w.modify k f).sends.get s = w.sends.get s := w.sends.modify_get_of_ne f ne
    rw [same]
    exact .same e
  have here : ∀ f : Send → Send, (w.modify s f).sends.get s = f (w.sends.get s) :=
    fun f => w.sends.modify_get_self s f
  cases e with
  | send frame withResponse =>
    by_cases new : s = w.sends.next
    · have last : (w.send frame withResponse).sends.get s =
          { frame, withResponse, prev := w.chain } := by
        rw [new]
        exact w.sends.alloc_get_next _
      exact last ▸ .called frame withResponse new
    · have old : (w.send frame withResponse).sends.get s = w.sends.get s :=
        w.sends.alloc_get_of_ne _ new
      exact old ▸ .same _
  | react k throws now =>
    rcases h.react_cases k throws now with idle | ⟨lt, waits, ready, step⟩
    · rw [WriteChain.step, idle]
      exact .same _
    · rw [WriteChain.step, step]
      by_cases self : s = k
      · subst self
        have written : (w.writeOnce s throws now).sends.get s = (w.sends.get s).write throws now :=
          w.sends.modify_get_self s fun send => send.write throws now
        exact written ▸ .written throws now lt waits ready
      · have same : (w.writeOnce k throws now).sends.get s = w.sends.get s :=
          w.sends.modify_get_of_ne (fun send => send.write throws now) self
        exact same ▸ .same _
  | settle k =>
    by_cases self : s = k
    · subst self
      exact here (fun send => { send with promise := send.promise.or send.outcome }) ▸ .settled
    · exact elsewhere k _ self
  | relink k =>
    by_cases self : s = k
    · subst self
      exact here (fun send => { send with link := send.promise.map fun _ => true }) ▸ .relinked
    · exact elsewhere k _ self
  | wrote =>
    simp only [WriteChain.step, WriteChain.emit, Send.finish]
    split
    · rename_i flying
      exact .wrote flying
    · exact .same _
  | error =>
    simp only [WriteChain.step, WriteChain.emit, Send.finish]
    split
    · rename_i flying
      exact .failed _ (.error s flying) flying
    · exact .same _
  | timeout k now =>
    simp only [WriteChain.step, WriteChain.onTimeout]
    split
    · exact .same _
    · rename_i deadline armed
      split
      · exact .same _
      · by_cases self : s = k
        · subst self
          have flying : (w.sends.get s).timer.isSome = true := by simp [armed]
          rw [here, Send.finish, if_pos flying]
          exact .failed _ (.timeout s now) flying
        · exact elsewhere k _ self

/-! What a step writes. -/

theorem Chained.settled_of_due (h : w.Chained) (lt : s < w.sends.next)
    (ready : w.previous s = some true) {k : Ref} (earlier : k < s) :
    (w.sends.get k).promise.isSome = true := by
  cases s with
  | zero => exact absurd earlier (Nat.not_lt_zero k)
  | succ n =>
    simp only [previous, h.prev _ lt, Nat.ppred_succ] at ready
    obtain ⟨started, settled⟩ := (h.sound n).of_link ready
    rcases Nat.lt_succ_iff_lt_or_eq.mp earlier with before | rfl
    · exact h.settled_before started before
    · exact settled

/-- A step writes at most the next send, and that once all promises before are settled. -/
def Issues (w : WriteChain) (e : Event) : Prop :=
  (w.step e).writes = w.writes ∨
    (w.step e).writes = w.writes ++ [w.call w.writes.length] ∧ w.writes.length < w.sends.next ∧
      ∀ k < w.writes.length, (w.sends.get k).promise.isSome = true

theorem Chained.issues (h : w.Chained) (e : Event) : w.Issues e := by
  cases e with
  | react s throws now =>
    rcases h.react_cases s throws now with idle | ⟨lt, waits, ready, step⟩
    · exact .inl (congrArg WriteChain.writes idle)
    · obtain rfl := h.due lt waits ready
      exact .inr ⟨congrArg WriteChain.writes step, lt, fun k => h.settled_of_due lt ready⟩
  | timeout s now =>
    left
    simp only [WriteChain.step, WriteChain.onTimeout]
    split
    · rfl
    · split <;> rfl
  | _ => exact .inl rfl

/-! Failures. -/

/-- A step rejects the promise of no write but the one that fails, and only one fails. -/
def FailsAlone (w : WriteChain) (e : Event) : Prop :=
  (∀ s, (w.sends.get s).outcome ≠ some false → ((w.step e).sends.get s).outcome = some false →
    w.Fails e s) ∧ ∀ s s', w.Fails e s → w.Fails e s' → s = s'

/-- One write is in flight at most. -/
theorem Chained.flying_unique (h : w.Chained) {s s' : Ref}
    (flying : (w.sends.get s).timer.isSome = true) (flying' : (w.sends.get s').timer.isSome = true) :
    s = s' := by
  have apart : ∀ s s' : Ref, (w.sends.get s).timer.isSome = true →
      (w.sends.get s').timer.isSome = true → ¬ s < s' := by
    intro s s' flying flying' earlier
    have started := (h.sound s').started.mpr (.inl flying')
    exact (h.sound s).pending_of_flying flying (h.settled_before started earlier)
  exact Nat.le_antisymm (Nat.not_lt.mp (apart s' s flying' flying))
    (Nat.not_lt.mp (apart s s' flying flying'))

theorem Chained.failsAlone (h : w.Chained) (e : Event) : w.FailsAlone e := by
  constructor
  · intro s unfailed failed
    have turns := h.turns e s
    generalize (w.step e).sends.get s = after at turns failed
    cases turns with
    | same => exact absurd failed unfailed
    | called frame withResponse new => cases failed
    | written throws now lt waits ready =>
      cases throws with
      | true => exact .throws s now
      | false =>
        by_cases acked : (w.sends.get s).withResponse = true
        · simp only [Send.write, acked, if_true] at failed
          exact absurd failed unfailed
        · simp [Send.write, acked] at failed
    | settled => exact absurd failed unfailed
    | relinked => exact absurd failed unfailed
    | wrote flying => cases failed
    | failed e fails flying => exact fails
  · intro s s' fails fails'
    cases fails with
    | throws _ now => cases fails' with | throws => rfl
    | error _ flying => cases fails' with | error _ flying' => exact h.flying_unique flying flying'
    | timeout _ now => cases fails' with | timeout => rfl

/-! Progress. -/

def todo (w : WriteChain) : Nat := ∑ s ∈ Finset.range w.sends.next, (w.sends.get s).todo

/-- A new send is called. -/
def Event.calls : Event → Bool
  | .send _ _ => true
  | _ => false

theorem Turns.progress (h : w.Chained) {e : Event} {after : Send} (turns : w.Turns s e after)
    (old : e.calls = false) : after = w.sends.get s ∨
      s < w.sends.next ∧ after.todo < (w.sends.get s).todo := by
  have sound := h.sound s
  have begun : (w.sends.get s).started = true → s < w.sends.next :=
    fun started => ((h.started s).mp started).trans_le h.room
  cases turns with
  | same => exact .inl rfl
  | called frame withResponse new => cases old
  | written throws now lt waits ready =>
    refine .inr ⟨lt, ?_⟩
    obtain ⟨-, outcome, promise, link⟩ := sound.blank waits
    unfold Send.write
    split
    · simp [Send.todo, waits, outcome, promise, link]
    · split <;> simp [Send.todo, waits, outcome, promise, link]
  | settled =>
    cases settled : (w.sends.get s).promise with
    | some resolved =>
      left
      rw [Option.some_or, ← settled]
    | none =>
      rw [Option.none_or]
      cases ended : (w.sends.get s).outcome with
      | none =>
        left
        rw [← settled]
      | some resolved =>
        refine .inr ⟨begun (sound.started.mpr (.inr (by simp [ended]))), ?_⟩
        simp [Send.todo, settled]
  | relinked =>
    cases linked : (w.sends.get s).link with
    | some resolved =>
      left
      obtain ⟨rfl, settled⟩ := sound.linked resolved linked
      obtain ⟨_, settled⟩ := Option.isSome_iff_exists.mp settled
      rw [settled, Option.map_some, ← linked]
    | none =>
      cases settled : (w.sends.get s).promise with
      | none =>
        left
        rw [Option.map_none, ← linked]
      | some resolved =>
        have ended := sound.promised resolved settled
        refine .inr ⟨begun (sound.started.mpr (.inr (by simp [ended]))), ?_⟩
        simp [Send.todo, linked]
  | wrote flying =>
    refine .inr ⟨begun (sound.started.mpr (.inl flying)), ?_⟩
    simp [Send.todo, sound.flying flying]
  | failed e fails flying =>
    refine .inr ⟨begun (sound.started.mpr (.inl flying)), ?_⟩
    simp [Send.todo, sound.flying flying]

/-- Only a call makes a send and puts its link in the slot. -/
theorem Chained.step_slots (h : w.Chained) {e : Event} (old : e.calls = false) :
    (w.step e).sends.next = w.sends.next ∧ (w.step e).chain = w.chain := by
  cases e with
  | send frame withResponse => cases old
  | react s throws now =>
    rcases h.react_cases s throws now with idle | ⟨-, -, -, step⟩
    · rw [WriteChain.step, idle]
      exact ⟨rfl, rfl⟩
    · rw [WriteChain.step, step]
      exact ⟨rfl, rfl⟩
  | timeout s now =>
    simp only [WriteChain.step, WriteChain.onTimeout]
    split
    · exact ⟨rfl, rfl⟩
    · split <;> exact ⟨rfl, rfl⟩
  | _ => exact ⟨rfl, rfl⟩

/-- A step that is no new call changes nothing or brings a send forward. -/
theorem Chained.progress (h : w.Chained) {e : Event} (old : e.calls = false)
    (moved : w.step e ≠ w) : (w.step e).todo < w.todo := by
  obtain ⟨next, chain⟩ := h.step_slots old
  have fewer : ∀ s, ((w.step e).sends.get s).todo ≤ (w.sends.get s).todo := by
    intro s
    rcases (h.turns e s).progress h old with same | ⟨-, less⟩
    · rw [same]
    · exact less.le
  obtain ⟨s, lt, less⟩ : ∃ s < w.sends.next,
      ((w.step e).sends.get s).todo < (w.sends.get s).todo := by
    by_contra none
    push Not at none
    apply moved
    have same : ∀ s, (w.step e).sends.get s = w.sends.get s := by
      intro s
      rcases (h.turns e s).progress h old with same | ⟨lt, less⟩
      · exact same
      · exact absurd less (Nat.not_lt.mpr (none s lt))
    have writes : (w.step e).writes = w.writes := by
      rcases h.issues e with same | ⟨more, -⟩
      · exact same
      · have written : ((w.step e).sends.get w.writes.length).started = true := by
          rw [(h.step e).started, more]
          simp
        rw [same, h.started] at written
        exact absurd written (lt_irrefl _)
    calc w.step e
        = ⟨⟨(w.step e).sends.get, (w.step e).sends.next⟩, (w.step e).chain, (w.step e).writes⟩ := rfl
      _ = w := by rw [funext same, next, chain, writes]
  unfold todo
  rw [next]
  exact Finset.sum_lt_sum (fun s _ => fewer s) ⟨s, Finset.mem_range.mpr lt, less⟩

/-- A step that is no new call and changes something. -/
def Effective (w : WriteChain) (e : Event) : Prop := e.calls = false ∧ w.step e ≠ w

theorem Chained.todo_run (h : w.Chained) {es : List Event} (effective : Runs.Each WriteChain.step Effective w es) :
    es.length + (Runs.run WriteChain.step w es).todo ≤ w.todo := by
  induction es generalizing w with
  | nil => simp
  | cons e es ih =>
    obtain ⟨⟨old, moved⟩, rest⟩ := effective
    have now := h.progress old moved
    have later := ih (h.step e) rest
    rw [Runs.run_cons, List.length_cons]
    omega

theorem todo_le (w : WriteChain) : w.todo ≤ 4 * w.sends.next := by
  have each : ∀ s ∈ Finset.range w.sends.next, (w.sends.get s).todo ≤ 4 := by
    intro s _
    unfold Send.todo
    split_ifs <;> omega
  calc w.todo ≤ ∑ _ ∈ Finset.range w.sends.next, 4 := Finset.sum_le_sum each
    _ = 4 * w.sends.next := by simp [Nat.mul_comm]

/-- No promise has a reaction left to run, and no write is in flight. -/
def Quiescent (w : WriteChain) : Prop :=
  (∀ s, (w.sends.get s).timer = none) ∧
    ∀ s now, w.react s false now = w ∧ w.settle s = w ∧ w.relink s = w

/-- When nothing is left to happen, every send was written and its promise has settled. -/
theorem Chained.complete (h : w.Chained) (quiet : w.Quiescent) :
    w.writes.length = w.sends.next ∧ ∀ s < w.sends.next, (w.sends.get s).promise.isSome = true := by
  obtain ⟨landed, still⟩ := quiet
  have next : ∀ s < w.sends.next, w.previous s = some true →
      (w.sends.get s).link = some true := by
    intro s lt ready
    have started : (w.sends.get s).started = true := by
      by_contra waits
      have waits : (w.sends.get s).started = false := by simpa using waits
      have unsettled := ((h.sound s).blank waits).2.2.1
      have written : w.react s false 0 = w.writeOnce s false 0 := by
        simp [WriteChain.react, lt, waits, unsettled, ready]
      have longer := congrArg (fun w : WriteChain => w.writes.length) (written.symm.trans (still s 0).1)
      simp [WriteChain.writeOnce, WriteChain.modify] at longer
    obtain ⟨resolved, ended⟩ : ∃ resolved, (w.sends.get s).outcome = some resolved := by
      rw [← Option.isSome_iff_exists]
      exact ((h.sound s).started.mp started).resolve_left (by simp [landed s])
    have settled : ∃ resolved, (w.sends.get s).promise = some resolved := by
      have same := congrArg (fun w : WriteChain => (w.sends.get s).promise) (still s 0).2.1
      simp only [WriteChain.settle, get_modify, if_true, ended] at same
      cases promise : (w.sends.get s).promise with
      | none => simp [promise] at same
      | some resolved => exact ⟨resolved, rfl⟩
    obtain ⟨resolved, settled⟩ := settled
    have same := congrArg (fun w : WriteChain => (w.sends.get s).link) (still s 0).2.2
    simpa only [WriteChain.relink, get_modify, if_true, settled, Option.map_some] using same.symm
  have linked : ∀ s < w.sends.next, (w.sends.get s).link = some true := by
    intro s
    induction s with
    | zero =>
      intro lt
      apply next 0 lt
      simp only [previous, h.prev 0 lt, Nat.ppred_zero]
    | succ s ih =>
      intro lt
      apply next (s + 1) lt
      simp only [previous, h.prev (s + 1) lt, Nat.ppred_succ]
      exact ih (Nat.lt_of_succ_lt lt)
  refine ⟨le_antisymm h.room (Nat.not_lt.mp fun short => ?_), fun s lt => ?_⟩
  · have written := (h.started _).mp ((h.sound _).of_link (linked _ short)).1
    exact absurd written (lt_irrefl _)
  · exact ((h.sound s).of_link (linked s lt)).2

/-- Whatever is sent and however each write ends: the peripheral gets the frames in the order
of the calls, each once, and none before the promises of the earlier calls have settled; a
write that fails rejects the promise of its own call; and after finitely many steps every
frame was written, whatever failed before it. -/
theorem writes_in_order (es : List Event) :
    let w := Runs.run step initial es
    (w.writes = (List.range w.writes.length).map w.call ∧ w.writes.length ≤ w.sends.next) ∧
    Runs.Each step Issues initial es ∧
    (Runs.Each step FailsAlone initial es ∧
      ∀ s resolved, (w.sends.get s).promise = some resolved →
        (w.sends.get s).outcome = some resolved) ∧
    (∀ later, Runs.Each step Effective w later → later.length ≤ 4 * w.sends.next) ∧
    (w.Quiescent → w.writes.length = w.sends.next ∧
      ∀ s < w.sends.next, (w.sends.get s).promise.isSome = true) := by
  intro w
  have h : w.Chained := chained es
  have always : ∀ s e, Chained s → True → Chained (step s e) := fun _ e h _ => h.step e
  have allowed : Runs.Each step (fun _ _ => True) initial es :=
    Runs.each_of_forall (fun _ _ => trivial) initial es
  refine ⟨⟨h.writes, h.room⟩, ?_, ⟨?_, fun s => (h.sound s).promised⟩, fun later effective => ?_,
    h.complete⟩
  · exact Runs.each_of_invariant always (fun _ e h _ => h.issues e) .of_initial allowed
  · exact Runs.each_of_invariant always (fun _ e h _ => h.failsAlone e) .of_initial allowed
  · have bound := h.todo_run effective
    have start := w.todo_le
    omega

end WriteChain

end BleSwarm
