import BleSwarm.Swarm.Step
import BleSwarm.Transport.Life

/-!
# The radio follows the intent

No interleaving of calls, continuations and transport events leaves a second
live transport behind, or a live one that the user or the host turned off. Every
transport that is not the current one stays suspended, and the current one may
be up only while started, not suspended and not closing.
-/

namespace BleSwarm.BluetoothSwarm

/-- A transport that starts no radio work of its own. -/
def Down (t : Transport) : Prop :=
  t.life.suspended = true ∨ t.life.closing = true ∨ t.life.closed = true

/-- Every transport that was retired is suspended, and the current one is down while the radio is not
meant to be live. -/
def IntentSafe (s : BluetoothSwarm) : Prop :=
  (∀ t, s.created t = true → s.transport ≠ some t → (s.transports t).life.suspended = true) ∧
  ((s.wanted = false ∨ s.closing = true) → ∀ t, s.transport = some t → Down (s.transports t))

/-- `IntentSafe` with what carries it through the continuations: a closing swarm is
stopped, and the current transport is one that was created. -/
structure IntentInv (s : BluetoothSwarm) : Prop where
  stopped : s.closing = true → s.started = false
  current : ∀ t, s.transport = some t → s.created t = true
  others : ∀ t, s.created t = true → s.transport ≠ some t → (s.transports t).life.suspended = true
  idle : (s.wanted = false ∨ s.closing = true) → ∀ t, s.transport = some t → Down (s.transports t)

namespace IntentInv

variable {s : BluetoothSwarm} {turn : Turn}

theorem create (cfg : Config) (ids : Ref → PeripheralId) (supported : Bool) (topic : Option Bytes)
    (online : Bool) : IntentInv (BluetoothSwarm.create cfg ids supported topic online) where
  stopped _ := rfl
  current _ h := by cases h
  others t h := by
    obtain ⟨pos, le⟩ := (created_iff _ _).mp h
    have le' : t ≤ 0 := le
    omega
  idle _ _ h := by cases h

/-- Anything that changes neither the flags nor a transport keeps the invariant. -/
theorem congr {s' : BluetoothSwarm} (h : IntentInv s) (started : s'.started = s.started)
    (suspended : s'.suspended = s.suspended) (closing : s'.closing = s.closing)
    (gen : s'.gen = s.gen) (transport : s'.transport = s.transport)
    (transports : s'.transports = s.transports) : IntentInv s' := by
  have created : ∀ t, s'.created t = s.created t := fun t => by
    simp only [BluetoothSwarm.created, gen]
  have wanted : s'.wanted = s.wanted := by simp only [BluetoothSwarm.wanted, started, suspended]
  constructor
  · rw [closing, started]
    exact h.stopped
  · intro t
    rw [transport, created]
    exact h.current t
  · intro t
    rw [transport, created, transports]
    exact h.others t
  · rw [wanted, closing, transport, transports]
    exact h.idle

theorem await (h : IntentInv s) (awaits : Await) (callback : Callback) :
    IntentInv (s.await awaits callback) :=
  h.congr rfl rfl rfl rfl rfl rfl

/-- A step of one transport that leaves it suspended and down if it was. -/
theorem setTransport (h : IntentInv s) (t : Nat) (f : Transport → Transport)
    (suspended : (s.transports t).life.suspended = true → (f (s.transports t)).life.suspended = true)
    (down : Down (s.transports t) → Down (f (s.transports t))) : IntentInv (s.setTransport t f) where
  stopped := h.stopped
  current := h.current
  others k hk other := by
    have before := h.others k hk other
    by_cases eq : k = t
    · subst eq
      simpa [BluetoothSwarm.setTransport] using suspended before
    · simpa [BluetoothSwarm.setTransport, eq] using before
  idle off k hk := by
    have before := h.idle off k hk
    by_cases eq : k = t
    · subst eq
      simpa [BluetoothSwarm.setTransport] using down before
    · simpa [BluetoothSwarm.setTransport, eq] using before

/-- Suspending the current transport makes the invariant hold whatever the flags say. -/
theorem awaitSuspend {t : Nat} (stopped : s.closing = true → s.started = false)
    (current : s.transport = some t) (created : s.created t = true)
    (others : ∀ k, s.created k = true → s.transport ≠ some k →
      (s.transports k).life.suspended = true) (callback : Callback) :
    IntentInv (s.awaitSuspend turn t callback) where
  stopped := stopped
  current k hk := by
    have eq : t = k := Option.some.inj (current.symm.trans hk)
    exact eq ▸ created
  others k hk other := by
    have ne : k ≠ t := fun eq => other (eq ▸ current)
    simpa [BluetoothSwarm.awaitSuspend, BluetoothSwarm.setTransport, BluetoothSwarm.await, ne]
      using others k hk other
  idle _ k hk := by
    have eq : t = k := Option.some.inj (current.symm.trans hk)
    subst eq
    exact .inl (by simp [BluetoothSwarm.awaitSuspend, BluetoothSwarm.setTransport,
      BluetoothSwarm.await])

/-- Resuming the current transport is fine while it is wanted. -/
theorem resumeTransport (h : IntentInv s) {t : Nat} (current : s.transport = some t)
    (wanted : s.wanted = true) (open_ : s.closing = false) :
    IntentInv (s.resumeTransport turn t) where
  stopped := h.stopped
  current := h.current
  others k hk other := by
    have ne : k ≠ t := fun eq => other (eq ▸ current)
    simpa [BluetoothSwarm.resumeTransport, BluetoothSwarm.setTransport, ne] using h.others k hk other
  idle off _ _ := by
    rcases off with off | off
    · have : s.wanted = false := off
      simp [wanted] at this
    · have : s.closing = true := off
      simp [open_] at this

/-- Abandoning suspends the current transport and leaves none. -/
theorem abandon (stopped : s.closing = true → s.started = false)
    (others : ∀ k, s.created k = true → s.transport ≠ some k →
      (s.transports k).life.suspended = true) (callback : Callback) :
    IntentInv (s.abandon turn callback) := by
  unfold BluetoothSwarm.abandon
  split
  · rename_i he
    refine await ⟨stopped, ?_, others, ?_⟩ _ _
    · intro t ht
      simp [he] at ht
    · intro _ t ht
      simp [he] at ht
  · rename_i old he
    apply IntentInv.await
    constructor
    · exact stopped
    · intro t ht
      cases ht
    · intro k hk _
      by_cases eq : k = old
      · subst eq
        simp [BluetoothSwarm.awaitSuspend, BluetoothSwarm.setTransport, BluetoothSwarm.await]
      · have other : s.transport ≠ some k := by
          rw [he]
          exact fun same => eq (Option.some.inj same).symm
        simpa [BluetoothSwarm.awaitSuspend, BluetoothSwarm.setTransport, BluetoothSwarm.await, eq]
          using others k hk other
    · intro _ t ht
      cases ht

theorem createTransport (h : IntentInv s) (none : s.transport = none) (wanted : s.wanted = true)
    (open_ : s.closing = false) : IntentInv s.createTransport where
  stopped := h.stopped
  current t ht := by
    have eq : s.gen + 1 = t := Option.some.inj ht
    simp [created, BluetoothSwarm.createTransport, BluetoothSwarm.await, ← eq]
  others t ht other := by
    have ne : t ≠ s.gen + 1 := fun eq => other (by
      simp [BluetoothSwarm.createTransport, BluetoothSwarm.await, eq])
    have old : s.created t = true := by
      obtain ⟨pos, le⟩ := (created_iff _ _).mp ht
      have le' : t ≤ s.gen + 1 := le
      exact (created_iff _ _).mpr ⟨pos, by omega⟩
    simpa [BluetoothSwarm.createTransport, BluetoothSwarm.await, ne] using
      h.others t old (by simp [none])
  idle off _ _ := by
    rcases off with off | off
    · have : s.wanted = false := off
      simp [wanted] at this
    · have : s.closing = true := off
      simp [open_] at this

theorem activate (h : IntentInv s) (wanted : s.wanted = true) (open_ : s.closing = false) :
    IntentInv (s.activate turn) := by
  unfold BluetoothSwarm.activate
  split
  · rename_i t current
    split
    · exact (h.resumeTransport current wanted open_).await _ _
    · exact abandon h.stopped h.others _
  · exact abandon h.stopped h.others _

/-- A step of one transport that does not change its flags. -/
theorem setTransport_of_life_eq (h : IntentInv s) (t : Nat) (f : Transport → Transport)
    (same : (f (s.transports t)).life = (s.transports t).life) : IntentInv (s.setTransport t f) :=
  h.setTransport t f (fun suspended => by rw [same, suspended])
    (fun down => by rw [Down, same]; exact down)

theorem start (h : IntentInv s) : IntentInv (s.start turn) := by
  simp only [BluetoothSwarm.start]
  split
  · exact h
  · rename_i guard
    simp only [Bool.or_eq_true, not_or, Bool.not_eq_true] at guard
    obtain ⟨⟨_, open_⟩, _⟩ := guard
    split
    · rename_i live
      have wanted : ({ s with started := true } : BluetoothSwarm).wanted = true :=
        (wanted_iff _).mpr ⟨rfl, by simpa using live⟩
      refine activate ⟨?_, h.current, h.others, ?_⟩ wanted open_
      · intro closing
        exact absurd (open_.symm.trans closing) (by decide)
      · rintro (off | off)
        · exact absurd (wanted.symm.trans off) (by decide)
        · exact absurd (open_.symm.trans off) (by decide)
    · rename_i paused
      have paused : s.suspended = true := by simpa using paused
      refine ⟨?_, h.current, h.others, fun _ => h.idle (.inl (by simp [wanted, paused]))⟩
      intro closing
      exact absurd (open_.symm.trans closing) (by decide)

theorem stop (h : IntentInv s) : IntentInv (s.stop turn) := by
  simp only [BluetoothSwarm.stop]
  split
  · exact h
  · split
    · rename_i t current
      split
      · apply awaitSuspend
        · exact fun _ => rfl
        · exact current
        · exact h.current t current
        · exact h.others
      · rename_i paused
        have paused : s.suspended = true := by simpa using paused
        exact ⟨fun _ => rfl, h.current, h.others,
          fun _ => h.idle (.inl (by simp [wanted, paused]))⟩
    · rename_i none
      refine ⟨fun _ => rfl, h.current, h.others, ?_⟩
      intro _ t current
      simp [none] at current

theorem suspend (h : IntentInv s) : IntentInv (s.suspend turn) := by
  simp only [BluetoothSwarm.suspend]
  split
  · exact h
  · split
    · rename_i t current
      split
      · apply awaitSuspend
        · exact h.stopped
        · exact current
        · exact h.current t current
        · exact h.others
      · rename_i off
        exact ⟨h.stopped, h.current, h.others, fun _ => h.idle (.inl (by simp [wanted, off]))⟩
    · rename_i none
      refine ⟨h.stopped, h.current, h.others, ?_⟩
      intro _ t current
      simp [none] at current

theorem resume (h : IntentInv s) : IntentInv (s.resume turn) := by
  simp only [BluetoothSwarm.resume]
  split
  · exact h
  · split
    · rename_i on
      have open_ : s.closing = false := by
        cases closing : s.closing
        · rfl
        · simp [h.stopped closing] at on
      have wanted : ({ s with suspended := false } : BluetoothSwarm).wanted = true :=
        (wanted_iff _).mpr ⟨on, rfl⟩
      refine activate ⟨h.stopped, h.current, h.others, ?_⟩ wanted open_
      rintro (off | off)
      · exact absurd (wanted.symm.trans off) (by decide)
      · exact absurd (open_.symm.trans off) (by decide)
    · rename_i off
      exact ⟨h.stopped, h.current, h.others, fun _ => h.idle (.inl (by simp [wanted, off]))⟩

theorem setOnline (h : IntentInv s) (online : Bool) : IntentInv (s.setOnline turn online) := by
  have h' : IntentInv { s with online } := h.congr rfl rfl rfl rfl rfl rfl
  simp only [BluetoothSwarm.setOnline]
  split
  · exact h'.setTransport_of_life_eq _ _ rfl
  · exact h'

theorem setTopic (h : IntentInv s) (topic : Option Bytes) : IntentInv (s.setTopic turn topic) := by
  have h' : IntentInv { s with topic } := h.congr rfl rfl rfl rfl rfl rfl
  simp only [BluetoothSwarm.setTopic]
  split
  · exact h'
  · rename_i t current
    have tuned := h'.setTransport_of_life_eq t (fun tr => (tr.setTopic topic).1) rfl
    split
    · exact awaitSuspend tuned.stopped current (tuned.current t current) tuned.others _
    · exact tuned

theorem close (h : IntentInv s) : IntentInv (s.close turn) := by
  simp only [BluetoothSwarm.close]
  split
  · exact h
  · split
    · rename_i t current
      apply IntentInv.await
      constructor
      · exact fun _ => rfl
      · exact h.current
      · intro k hk other
        have ne : k ≠ t := fun eq => other (eq ▸ current)
        simpa [BluetoothSwarm.setTransport, ne] using h.others k hk other
      · intro _ k hk
        have eq : t = k := Option.some.inj (current.symm.trans hk)
        subst eq
        exact .inr (.inl (by simp [BluetoothSwarm.setTransport]))
    · rename_i none
      apply IntentInv.await
      refine ⟨fun _ => rfl, h.current, h.others, ?_⟩
      intro _ t current
      simp [none] at current

theorem rebuild (h : IntentInv s) (old : Nat) : IntentInv (s.rebuild turn old) := by
  simp only [BluetoothSwarm.rebuild]
  split
  · exact h
  · exact abandon h.stopped h.others _

theorem release (h : IntentInv s) (t : Nat) : IntentInv (s.release t) := by
  unfold BluetoothSwarm.release
  split
  · exact h.setTransport t _ id id
  · exact h.setTransport t _ id id
  · exact h.setTransport t _ id id
  · exact h

/-- Each continuation checks the flags again before it turns anything on. -/
theorem proceed (h : IntentInv s) (callback : Callback) : IntentInv (s.proceed turn callback) := by
  have live : s.started = true → s.closing = false := fun on => by
    cases closing : s.closing
    · rfl
    · simp [h.stopped closing] at on
  cases callback with
  | update => exact h
  | release t => exact h.release t
  | activate =>
    simp only [BluetoothSwarm.proceed]
    split
    · exact h.await _ _
    · rename_i guard
      simp only [Bool.or_eq_true, not_or, Bool.not_eq_true, Bool.not_eq_eq_eq_not, Bool.not_true,
        Option.isSome_eq_false_iff, Option.isNone_iff_eq_none] at guard
      obtain ⟨⟨⟨⟨none, on⟩, paused⟩, open_⟩, _⟩ := guard
      exact h.createTransport none ((wanted_iff s).mpr ⟨by simpa using on, paused⟩) open_
  | rebuild =>
    simp only [BluetoothSwarm.proceed]
    split
    · exact h
    · rename_i guard
      simp only [Bool.or_eq_true, not_or, Bool.not_eq_true, Option.isSome_eq_false_iff,
        Option.isNone_iff_eq_none] at guard
      obtain ⟨⟨none, open_⟩, _⟩ := guard
      split
      · rename_i wanted
        exact h.createTransport none wanted open_
      · exact h
  | retune =>
    simp only [BluetoothSwarm.proceed]
    split
    · rename_i t current
      split
      · rename_i wanted
        exact h.resumeTransport current wanted (live ((wanted_iff s).mp wanted).1)
      · exact h
    · exact h
  | finish => exact h.congr rfl rfl rfl rfl rfl rfl

theorem call (h : IntentInv s) (c : Call) : IntentInv (s.call turn c) := by
  cases c with
  | start => exact h.start
  | stop => exact h.stop
  | suspend => exact h.suspend
  | resume => exact h.resume
  | setTopic topic => exact h.setTopic topic
  | setOnline online => exact h.setOnline online
  | close => exact h.close

theorem step (h : IntentInv s) : IntentInv (s.step turn) := by
  unfold BluetoothSwarm.step
  split
  · exact h.call _
  · split
    · split
      · apply proceed
        exact h.congr rfl rfl rfl rfl rfl rfl
      · exact h
    · exact h
  · rename_i t server central _
    split
    · apply h.setTransport t _ (fun suspended => by simpa using suspended)
      rintro (suspended | closing | closed)
      · exact .inl (by simpa using suspended)
      · exact .inr (.inl (by simpa using closing))
      · exact .inr (.inr (Transport.runOpen_closed _ _ _ _ closed))
    · exact h
  · rename_i t call _
    split
    · exact h.setTransport t _ (fun suspended => by simpa using suspended)
        (fun down => by simpa [Down] using down)
    · exact h
  · rename_i t e _
    split
    · have moved := h.setTransport_of_life_eq t (fun tr => tr.input ⟨turn.now, turn.native, e⟩)
        (Transport.input_life _ _)
      simp only
      split
      · exact moved.rebuild t
      · exact moved
    · exact h

theorem run (h : IntentInv s) (turns : List Turn) :
    IntentInv (Runs.run BluetoothSwarm.step s turns) :=
  Runs.always (fun _ _ h => h.step) h turns

end IntentInv

/-- Radio intent safety over every interleaving of calls, continuations and events. -/
theorem radio_follows_intent (cfg : Config) (ids : Ref → PeripheralId) (supported : Bool)
    (topic : Option Bytes) (online : Bool) (turns : List Turn) :
    IntentSafe (Runs.run step (create cfg ids supported topic online) turns) :=
  have inv := (IntentInv.create cfg ids supported topic online).run turns
  ⟨inv.others, inv.idle⟩

end BleSwarm.BluetoothSwarm
