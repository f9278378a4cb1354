import BleSwarm.Gatt.WriteChain

/-!
# Late completions

A 'write' event does not say which write it completes. The radio completes the
acknowledged writes in their order, each after any delay, also after its send
has timed out.
-/

namespace BleSwarm

/-- A write chain and the radio below it. -/
structure Writing where
  chain : WriteChain := .initial
  /-- The acknowledged writes that the radio took and has not completed, oldest first. -/
  pending : List Ref := []

namespace Writing

open WriteChain

/-- The radio's part of a step. -/
def advance (x : Writing) : Event → List Ref
  | .react s throws now =>
    if (x.chain.react s throws now).writes ≠ x.chain.writes ∧ !throws ∧
        (x.chain.sends.get s).withResponse then x.pending ++ [s]
    else x.pending
  | .wrote => x.pending.tail
  | _ => x.pending

def step (x : Writing) (e : Event) : Writing := ⟨x.chain.step e, x.advance e⟩

/-- Sends are acknowledged, and the radio completes each write it took, in order. -/
def allowed (x : Writing) : Event → Bool
  | .send _ withResponse => withResponse
  | .react _ throws _ => !throws
  | .wrote => !x.pending.isEmpty
  | .error => false
  | _ => true

def Allowed (x : Writing) (e : Event) : Prop := x.allowed e = true

instance (x : Writing) (e : Event) : Decidable (x.Allowed e) :=
  inferInstanceAs (Decidable (x.allowed e = true))

/-- The writes that have neither completed nor timed out. -/
def outstanding (x : Writing) : List Ref :=
  x.pending.filter fun s => (x.chain.sends.get s).outcome ≠ some false

/-- A write resolves on its own completion only, and one is outstanding at most. -/
def Attributed (x : Writing) (e : Event) : Prop :=
  (∀ s, (x.chain.sends.get s).outcome ≠ some true →
    ((x.step e).chain.sends.get s).outcome = some true →
    e = .wrote ∧ x.pending.head? = some s) ∧
  (x.step e).outstanding.length ≤ 1

/-- No write completes that has timed out while another is in flight. -/
def Timely (x : Writing) (e : Event) : Prop :=
  e = .wrote → ∀ late, x.pending.head? = some late →
    (x.chain.sends.get late).outcome = some false → ∀ s, (x.chain.sends.get s).timer = none

/-- The writes of `late` have timed out, and at most one is in flight behind them. -/
structure Late (x : Writing) (late : List Ref) : Prop where
  chained : x.chain.Chained
  acked : ∀ s < x.chain.sends.next, (x.chain.sends.get s).withResponse = true
  timedOut : ∀ s ∈ late, (x.chain.sends.get s).outcome = some false
  pending : x.pending = late ∧ (∀ s, (x.chain.sends.get s).timer = none) ∨
    ∃ s, x.pending = late ++ [s] ∧ (x.chain.sends.get s).timer.isSome = true

variable {x : Writing} {late : List Ref}

namespace Late

theorem outstanding (h : x.Late late) : x.outstanding.length ≤ 1 := by
  have gone : late.filter (fun s => (x.chain.sends.get s).outcome ≠ some false) = [] := by
    rw [List.filter_eq_nil_iff]
    intro s mem
    simp [h.timedOut s mem]
  rcases h.pending with ⟨pending, -⟩ | ⟨s, pending, -⟩
  · rw [Writing.outstanding, pending, gone]
    exact Nat.zero_le 1
  · rw [Writing.outstanding, pending, List.filter_append, gone, List.nil_append]
    exact List.length_filter_le _ _

/-- The step resolves nothing but what its 'write' event completes. -/
theorem resolves (h : x.Late late) {e : Event} (allowed : x.Allowed e) {s : Ref}
    (before : (x.chain.sends.get s).outcome ≠ some true)
    (after : ((x.step e).chain.sends.get s).outcome = some true) :
    e = .wrote ∧ (x.chain.sends.get s).timer.isSome = true := by
  have turns := h.chained.turns e s
  change ((x.chain.step e).sends.get s).outcome = some true at after
  generalize (x.chain.step e).sends.get s = send at turns after
  cases turns with
  | same => exact absurd after before
  | called frame withResponse new => cases after
  | written throws now lt waits ready =>
    have blank := ((h.chained.sound s).blank waits).2.1
    cases throws with
    | true => cases allowed
    | false => simp [Send.write, h.acked s lt, blank] at after
  | settled => exact absurd after before
  | relinked => exact absurd after before
  | wrote flying => exact ⟨rfl, flying⟩
  | failed e fails flying => cases after

theorem attributed_iff (h : x.Late late) {e : Event} (allowed : x.Allowed e) :
    (∀ s, (x.chain.sends.get s).outcome ≠ some true →
      ((x.step e).chain.sends.get s).outcome = some true →
      e = .wrote ∧ x.pending.head? = some s) ↔ x.Timely e := by
  constructor
  · rintro own rfl first head timedOut s
    by_contra flying
    have flying : (x.chain.sends.get s).timer.isSome = true := by
      simpa [Option.isSome_iff_ne_none] using flying
    have unfinished := (h.chained.sound s).flying flying
    have resolved : ((x.step .wrote).chain.sends.get s).outcome = some true := by
      simp [step, WriteChain.step, emit, Send.finish, flying]
    obtain ⟨-, self⟩ := own s (by simp [unfinished]) resolved
    rw [head] at self
    obtain rfl := Option.some.inj self
    rw [unfinished] at timedOut
    cases timedOut
  · intro timely s before after
    obtain ⟨rfl, flying⟩ := h.resolves allowed before after
    refine ⟨rfl, ?_⟩
    rcases h.pending with ⟨-, landed⟩ | ⟨s', pending, flying'⟩
    · rw [landed s] at flying
      cases flying
    · obtain rfl := h.chained.flying_unique flying flying'
      cases late with
      | nil => rw [pending, List.nil_append, List.head?_cons]
      | cons first rest =>
        have landed := timely rfl first (by rw [pending]; rfl) (h.timedOut first List.mem_cons_self) s
        rw [landed] at flying
        cases flying

/-- A write that timed out stays so. -/
theorem timedOut_step (h : x.Late late) (e : Event) :
    ∀ s ∈ late, ((x.step e).chain.sends.get s).outcome = some false := by
  intro s mem
  have timedOut := h.timedOut s mem
  have sound := h.chained.sound s
  have started := sound.started.mpr (.inr (by simp [timedOut]))
  have turns := h.chained.turns e s
  change ((x.chain.step e).sends.get s).outcome = some false
  generalize (x.chain.step e).sends.get s = send at turns
  cases turns with
  | same => exact timedOut
  | called frame withResponse new =>
    have lt := ((h.chained.started s).mp started).trans_le h.chained.room
    exact absurd new (Nat.ne_of_lt lt)
  | written throws now lt waits ready =>
    rw [waits] at started
    cases started
  | settled => exact timedOut
  | relinked => exact timedOut
  | wrote flying =>
    rw [sound.flying flying] at timedOut
    cases timedOut
  | failed e fails flying => rfl

theorem acked_step (h : x.Late late) {e : Event} (allowed : x.Allowed e) :
    ∀ s < (x.step e).chain.sends.next, ((x.step e).chain.sends.get s).withResponse = true := by
  intro s lt
  change s < (x.chain.step e).sends.next at lt
  change ((x.chain.step e).sends.get s).withResponse = true
  cases calls : e.calls with
  | false =>
    have acked := h.acked s ((h.chained.step_slots calls).1 ▸ lt)
    have turns := h.chained.turns e s
    generalize (x.chain.step e).sends.get s = send at turns
    cases turns with
    | called frame withResponse new => cases calls
    | written throws now lt waits ready =>
      obtain ⟨-, -, same, -, -⟩ := (x.chain.sends.get s).write_same throws now
      exact same.trans acked
    | _ => exact acked
  | true =>
    cases e with
    | send frame withResponse =>
      by_cases new : s = x.chain.sends.next
      · have last : (x.chain.send frame withResponse).sends.get s =
            { frame, withResponse, prev := x.chain.chain } := by
          rw [new]
          exact x.chain.sends.alloc_get_next _
        rw [WriteChain.step, last]
        exact allowed
      · have old : (x.chain.send frame withResponse).sends.get s = x.chain.sends.get s :=
          x.chain.sends.alloc_get_of_ne _ new
        rw [WriteChain.step, old]
        exact h.acked s (Nat.lt_of_le_of_ne (Nat.lt_succ_iff.mp lt) new)
    | _ => cases calls

/-- A write in flight before a step other than 'write' is in flight behind it or has timed
out, and no other is, unless it is issued. -/
theorem flying_step (h : x.Late late) {e : Event} (notWrote : e ≠ .wrote) (s : Ref) :
    (((x.step e).chain.sends.get s).timer.isSome = true →
      (x.chain.sends.get s).timer.isSome = true ∨ ∃ throws now, e = .react s throws now) ∧
    ((x.chain.sends.get s).timer.isSome = true →
      ((x.step e).chain.sends.get s).timer.isSome = true ∨
        ((x.step e).chain.sends.get s).outcome = some false) := by
  have sound := h.chained.sound s
  have turns := h.chained.turns e s
  change (((x.chain.step e).sends.get s).timer.isSome = true → _) ∧
    (_ → ((x.chain.step e).sends.get s).timer.isSome = true ∨
      ((x.chain.step e).sends.get s).outcome = some false)
  generalize (x.chain.step e).sends.get s = send at turns
  cases turns with
  | same => exact ⟨.inl, .inl⟩
  | called frame withResponse new =>
    refine ⟨nofun, fun flying => ?_⟩
    have started := sound.started.mpr (.inl flying)
    have lt := ((h.chained.started s).mp started).trans_le h.chained.room
    exact absurd new (Nat.ne_of_lt lt)
  | written throws now lt waits ready =>
    refine ⟨fun _ => .inr ⟨throws, now, rfl⟩, fun flying => ?_⟩
    rw [sound.started.mpr (.inl flying)] at waits
    cases waits
  | settled => exact ⟨.inl, .inl⟩
  | relinked => exact ⟨.inl, .inl⟩
  | wrote flying => exact absurd rfl notWrote
  | failed e fails flying => exact ⟨nofun, fun _ => .inr rfl⟩

/-- The radio completes its first write, which times out later than it or not at all. -/
theorem wrote (h : x.Late late) (some_ : x.pending ≠ []) (timely : x.Timely .wrote) :
    ∃ late, (x.step .wrote).Late late := by
  have landed : ∀ s, ((x.step .wrote).chain.sends.get s).timer = none := by
    intro s
    simp only [Writing.step, WriteChain.step, emit, Send.finish]
    split
    · rfl
    · rename_i landed
      simpa only [Option.not_isSome_iff_eq_none] using landed
  have chained : (x.step .wrote).chain.Chained := h.chained.step .wrote
  have acked := h.acked_step (e := .wrote) (by simpa [Allowed, Writing.allowed] using some_)
  rcases h.pending with ⟨pending, -⟩ | ⟨s, pending, flying⟩
  · refine ⟨late.tail, chained, acked, ?_, .inl ⟨congrArg List.tail pending, landed⟩⟩
    intro k mem
    exact h.timedOut_step .wrote k (List.mem_of_mem_tail mem)
  · cases late with
    | nil =>
      refine ⟨[], chained, acked, fun k mem => ?_, .inl ⟨congrArg List.tail pending, landed⟩⟩
      cases mem
    | cons first rest =>
      have none := timely rfl first (by rw [pending]; rfl) (h.timedOut first List.mem_cons_self) s
      rw [none] at flying
      cases flying

theorem react (h : x.Late late) (s : Ref) (now : Nat) :
    ∃ late, (x.step (.react s false now)).Late late := by
  have chained := h.chained.step (.react s false now)
  have acked := h.acked_step (e := .react s false now) rfl
  rcases h.chained.react_cases s false now with idle | ⟨lt, waits, ready, step⟩
  · have same : x.step (.react s false now) = x := by
      simp [Writing.step, WriteChain.step, advance, idle]
    rw [same]
    exact ⟨late, h⟩
  · have grows : (x.chain.react s false now).writes ≠ x.chain.writes := by
      simp [step, writeOnce, WriteChain.modify]
    have pending : (x.step (.react s false now)).pending = x.pending ++ [s] := by
      simp [Writing.step, advance, grows, h.acked s lt]
    have flying : ((x.step (.react s false now)).chain.sends.get s).timer.isSome = true := by
      simp [Writing.step, WriteChain.step, step, writeOnce, get_modify, Send.write, h.acked s lt]
    refine ⟨late, chained, acked, h.timedOut_step _, .inr ⟨s, ?_, flying⟩⟩
    rcases h.pending with ⟨before, -⟩ | ⟨k, -, flying'⟩
    · rw [pending, before]
    · have started := (h.chained.sound k).started.mpr (.inl flying')
      have earlier : k < s := by
        rw [h.chained.due lt waits ready, ← h.chained.started]
        exact started
      exact absurd (h.chained.settled_of_due lt ready earlier)
        ((h.chained.sound k).pending_of_flying flying')

/-- Nothing is issued and nothing completes. -/
theorem rest (h : x.Late late) {e : Event} (allowed : x.Allowed e) (notWrote : e ≠ .wrote)
    (idle : ∀ s throws now, e ≠ .react s throws now) : ∃ late, (x.step e).Late late := by
  have pending : (x.step e).pending = x.pending := by
    cases e with
    | react s throws now => exact absurd rfl (idle s throws now)
    | wrote => exact absurd rfl notWrote
    | _ => rfl
  have chained := h.chained.step e
  have acked := h.acked_step allowed
  have old : ∀ s, ((x.step e).chain.sends.get s).timer.isSome = true →
      (x.chain.sends.get s).timer.isSome = true := by
    intro s flying
    rcases (h.flying_step notWrote s).1 flying with before | ⟨throws, now, react⟩
    · exact before
    · exact absurd react (idle s throws now)
  rcases h.pending with ⟨before, landed⟩ | ⟨s, before, flying⟩
  · refine ⟨late, chained, acked, h.timedOut_step e, .inl ⟨pending.trans before, fun s => ?_⟩⟩
    rw [← Option.not_isSome_iff_eq_none]
    intro flying
    have flying := old s flying
    rw [landed s] at flying
    cases flying
  · rcases (h.flying_step notWrote s).2 flying with still | timedOut
    · exact ⟨late, chained, acked, h.timedOut_step e, .inr ⟨s, pending.trans before, still⟩⟩
    · refine ⟨late ++ [s], chained, acked, ?_, .inl ⟨pending.trans before, fun k => ?_⟩⟩
      · intro k mem
        rcases List.mem_append.mp mem with gone | last
        · exact h.timedOut_step e k gone
        · rw [List.mem_singleton.mp last]
          exact timedOut
      · rw [← Option.not_isSome_iff_eq_none]
        intro still
        obtain rfl := h.chained.flying_unique (old k still) flying
        have unfinished := (chained.sound k).flying still
        exact Option.some_ne_none false (timedOut.symm.trans unfinished)

theorem step (h : x.Late late) {e : Event} (allowed : x.Allowed e) (timely : x.Timely e) :
    ∃ late, (x.step e).Late late := by
  by_cases wrote : e = .wrote
  · subst wrote
    exact h.wrote (by simpa [Allowed, Writing.allowed] using allowed) timely
  · by_cases react : ∃ s throws now, e = .react s throws now
    · obtain ⟨s, throws, now, rfl⟩ := react
      obtain rfl : throws = false := by simpa [Allowed, Writing.allowed] using allowed
      exact h.react s now
    · exact h.rest allowed wrote fun s throws now here => react ⟨s, throws, now, here⟩

end Late

/-- In a run of acknowledged sends, each promise resolves on the completion of its own write
and one write is outstanding at most, exactly when no write completes late while another is
in flight. -/
theorem attributed_iff_timely (es : List Event) (allowed : Runs.Each step Allowed {} es) :
    Runs.Each step Attributed {} es ↔ Runs.Each step Timely {} es := by
  have start : ∃ late, Late {} late :=
    ⟨[], .of_initial, nofun, nofun, .inl ⟨rfl, fun _ => rfl⟩⟩
  have same : ∀ (x : Writing) e, (∃ late, x.Late late) → x.Allowed e →
      (x.Attributed e ↔ x.Timely e) := by
    rintro x e ⟨late, h⟩ ok
    constructor
    · rintro ⟨own, -⟩
      exact (h.attributed_iff ok).mp own
    · intro timely
      obtain ⟨_, after⟩ := h.step ok timely
      exact ⟨(h.attributed_iff ok).mpr timely, after.outstanding⟩
  have keep : ∀ (x : Writing) e, (∃ late, x.Late late) → x.Allowed e → x.Attributed e →
      ∃ late, (x.step e).Late late := by
    rintro x e ⟨late, h⟩ ok ⟨own, -⟩
    exact h.step ok ((h.attributed_iff ok).mp own)
  exact Runs.each_iff_of_allowed same keep start allowed

/-- Two frames of one byte; the completion of the first comes after its timeout, when the
second is in flight. -/
def lateCompletion : List Event :=
  [.send [1] true, .react 0 false 0, .timeout 0 writeTimeout, .settle 0, .relink 0,
    .send [2] true, .react 1 false writeTimeout, .wrote]

theorem lateCompletion_misattributed :
    ¬ ∀ es, Runs.Each step Allowed {} es → Runs.Each step Attributed {} es := by
  intro always
  obtain ⟨-, -, -, -, -, -, -, ⟨last, -⟩, -⟩ := always lateCompletion (by decide +kernel)
  obtain ⟨-, own⟩ := last 1 (by decide +kernel) (by decide +kernel)
  revert own
  decide +kernel

/-- Two sends, each completed in time. -/
theorem timely_completions_attributed :
    Runs.Each step Attributed {}
      [.send [1] true, .react 0 false 0, .wrote, .settle 0, .relink 0, .send [2] true,
        .react 1 false 9, .wrote] := by
  refine (attributed_iff_timely _ (by decide +kernel)).mpr
    ⟨nofun, nofun, ?_, nofun, nofun, nofun, nofun, ?_, trivial⟩
  · intro _ late head timedOut
    obtain rfl := Option.some.inj head
    exact absurd timedOut (by decide +kernel)
  · intro _ late head timedOut
    obtain rfl := Option.some.inj head
    exact absurd timedOut (by decide +kernel)

end Writing

end BleSwarm
