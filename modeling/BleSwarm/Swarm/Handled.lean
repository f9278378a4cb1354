import BleSwarm.Lib.Succession
import BleSwarm.Swarm.Intent
import BleSwarm.Swarm.Retirement

/-!
# What a swarm does to its transports

The current transport holds an office: whoever is retired never comes back. A swarm calls on
the current transport only, and releases the managers of retired ones. So each of its
transports is where some run of the transport's own machine has taken it, and what every step
of that machine keeps holds of all transports of a swarm.
-/

namespace BleSwarm

/-- What a swarm does to a transport: a step of its own, or what `_abandon` does to its managers. -/
inductive Handling
  | act (a : Action)
  | destroyManagers
  | removeServices

namespace Handling

/-- A call of the transport's owner. -/
def commands : Handling → Bool
  | .act (.suspend _ _) | .act (.resume _) | .act (.close _) | .act (.setOnline _ _)
  | .act (.setTopic _) => true
  | _ => false

def suspends : Handling → Bool
  | .act (.suspend _ _) => true
  | _ => false

def releases : Handling → Bool
  | .act _ => false
  | _ => true

end Handling

def Transport.handled (t : Transport) : Handling → Transport
  | .act a => t.act a
  | .destroyManagers => t.destroyManagers
  | .removeServices => t.removeServices

/-- A transport that closes goes on closing. -/
theorem Transport.handled_closing {t : Transport} (h : Handling) (closing : t.life.closing = true) :
    (t.handled h).life.closing = true := by
  cases h with
  | act a =>
    cases a with
    | close now => exact t.close_closing now
    | _ => simpa [Transport.handled, Transport.act] using closing
  | _ => exact closing

theorem Transport.run_closing {t : Transport} (closing : t.life.closing = true)
    (handlings : List Handling) : (Runs.run Transport.handled t handlings).life.closing = true := by
  induction handlings generalizing t with
  | nil => exact closing
  | cons h handlings ih => exact ih (handled_closing h closing)

namespace BluetoothSwarm

variable {s s₁ s' : BluetoothSwarm} {turn : Turn} {k t : Nat}

/-- The place of the current transport. -/
def office (s : BluetoothSwarm) : Office := ⟨s.transport, s.gen, s.closing⟩

/-- What is done to a transport between two states. The current one is suspended last if it is
current no longer, and its managers are not released; of the others nothing is called. -/
structure Handled (s s' : BluetoothSwarm) (k : Nat) (handlings : List Handling) : Prop where
  run : s'.transports k = Runs.run Transport.handled (s.transports k) handlings
  serves : s.transport = some k → ∀ h ∈ handlings, h.releases = false
  leaves : s.transport = some k → s'.transport ≠ some k →
    ∃ h, handlings.getLast? = some h ∧ h.suspends = true
  rests : s.transport ≠ some k → ∀ h ∈ handlings, h.commands = false

/-- What the operations of a swarm do. -/
structure Treats (s s' : BluetoothSwarm) : Prop where
  cfg : s'.cfg = s.cfg
  ids : s'.ids = s.ids
  next : s.office.Next s'.office
  handled : ∀ k, s.created k = true → ∃ handlings, Handled s s' k handlings
  built : ∀ k, s.created k = false → s'.created k = true →
    ∃ topic online, s'.transports k = Transport.create s.cfg topic online s.ids
  tasks : ∀ task ∈ s'.tasks, ∀ t, task.callback = .release t →
    task ∈ s.tasks ∨ s'.office.Former t
  shuts : s'.closing = true → s.closing = true ∨
    ∀ t, s'.transport = some t → (s'.transports t).life.closing = true

/-- What is relied on: only retired transports are released, and the current one of a swarm that
closes closes too. -/
structure Manned (s : BluetoothSwarm) : Prop extends IntentInv s where
  released : ∀ task ∈ s.tasks, ∀ t, task.callback = .release t → s.office.Former t
  shut : s.closing = true → ∀ t, s.transport = some t → (s.transports t).life.closing = true

theorem created_of_former (former : s.office.Former k) : s.created k = true :=
  (created_iff s k).mpr ⟨former.pos, former.entered⟩

namespace Treats

/-- Nothing is done to any transport. -/
theorem of_same (cfg : s'.cfg = s.cfg) (ids : s'.ids = s.ids) (gen : s'.gen = s.gen)
    (transport : s'.transport = s.transport) (transports : s'.transports = s.transports)
    (closing : s'.closing = s.closing)
    (tasks : ∀ task ∈ s'.tasks, ∀ t, task.callback = .release t → task ∈ s.tasks) : Treats s s' where
  cfg := cfg
  ids := ids
  next := by
    have same : s'.office = s.office := by simp only [office, gen, transport, closing]
    rw [same]
    exact .stays _
  handled k _ := by
    refine ⟨[], congrFun transports k, fun _ => ?_, fun here gone => ?_, fun _ => ?_⟩
    · simp
    · exact absurd (transport.trans here) gone
    · simp
  built k absent created := by
    rw [BluetoothSwarm.created, gen] at created
    exact absurd (absent.symm.trans created) Bool.false_ne_true
  tasks task mem t callback := .inl (tasks task mem t callback)
  shuts shut := .inl (closing.symm.trans shut)

theorem refl (s : BluetoothSwarm) : Treats s s :=
  .of_same rfl rfl rfl rfl rfl rfl fun _ mem _ _ => mem

/-- What leaves the office alone comes first. -/
theorem trans (h : Treats s s₁) (h' : Treats s₁ s') (same : s₁.office = s.office) : Treats s s' := by
  obtain ⟨transport, gen, closing⟩ := Office.mk.inj same
  have created : ∀ k, s₁.created k = s.created k := fun k => by
    simp only [BluetoothSwarm.created, gen]
  refine ⟨h'.cfg.trans h.cfg, h'.ids.trans h.ids, same ▸ h'.next, fun k known => ?_,
    fun k absent known => ?_, fun task mem t callback => ?_, fun shut => ?_⟩
  · obtain ⟨first, done⟩ := h.handled k known
    obtain ⟨last, done'⟩ := h'.handled k ((created k).trans known)
    have either : ∀ {P : Handling → Prop}, (∀ x ∈ first, P x) → (∀ x ∈ last, P x) →
        ∀ x ∈ first ++ last, P x := by
      intro P holds holds' x mem
      exact (List.mem_append.mp mem).elim (holds x) (holds' x)
    refine ⟨first ++ last, ?_, fun here => ?_, fun here gone => ?_, fun other => ?_⟩
    · rw [done'.run, done.run]
      exact (List.foldl_append ..).symm
    · exact either (done.serves here) (done'.serves (transport.trans here))
    · obtain ⟨x, here, suspends⟩ := done'.leaves (transport.trans here) gone
      exact ⟨x, by rw [List.getLast?_append, here]; rfl, suspends⟩
    · exact either (done.rests other) (done'.rests (transport ▸ other))
  · rw [← h.cfg, ← h.ids]
    exact h'.built k ((created k).trans absent) known
  · rcases h'.tasks task mem t callback with before | former
    · rcases h.tasks task before t callback with before | former
      · exact .inl before
      · exact .inr (h'.next.former former)
    · exact .inr former
  · rw [← closing]
    exact h'.shuts shut

theorem await (awaits : Await) {callback : Callback} (kind : callback.releases = false) :
    Treats s (s.await awaits callback) := by
  refine .of_same rfl rfl rfl rfl rfl rfl fun task mem t releases => ?_
  rcases List.mem_append.mp mem with old | new
  · exact old
  · rw [List.mem_singleton.mp new] at releases
    have releases : callback = .release t := releases
    rw [releases] at kind
    cases kind

/-- One transport is handled. -/
theorem setTransport (t : Nat) {f : Transport → Transport} (handlings : List Handling)
    (run : f (s.transports t) = Runs.run Transport.handled (s.transports t) handlings)
    (serves : s.transport = some t → ∀ h ∈ handlings, h.releases = false)
    (rests : s.transport ≠ some t → ∀ h ∈ handlings, h.commands = false) :
    Treats s (s.setTransport t f) := by
  refine ⟨rfl, rfl, .stays _, fun k _ => ?_, fun k absent created => ?_, fun _ mem _ _ => .inl mem,
    .inl⟩
  · by_cases same : k = t
    · subst same
      refine ⟨handlings, ?_, serves, fun here gone => absurd here gone, rests⟩
      exact (Function.update_self ..).trans run
    · refine ⟨[], Function.update_of_ne same .., fun _ => ?_, fun here gone => absurd here gone,
        fun _ => ?_⟩
      · simp
      · simp
  · exact absurd (absent.symm.trans created) Bool.false_ne_true

/-- A call on the current transport. -/
theorem command (current : s.transport = some t) {f : Transport → Transport} (a : Action)
    (run : f (s.transports t) = (s.transports t).act a) : Treats s (s.setTransport t f) := by
  refine setTransport t [.act a] run (fun _ => ?_) fun other => absurd current other
  simp [Handling.releases]

/-- What is no call may befall any transport. -/
theorem befalls (t : Nat) {f : Transport → Transport} (a : Action)
    (kind : (Handling.act a).commands = false)
    (run : f (s.transports t) = (s.transports t).act a) : Treats s (s.setTransport t f) := by
  refine setTransport t [.act a] run (fun _ => ?_) fun _ => ?_
  · simp [Handling.releases]
  · simp [kind]

theorem awaitSuspend (current : s.transport = some t) {callback : Callback}
    (kind : callback.releases = false) : Treats s (s.awaitSuspend turn t callback) :=
  (command current (.suspend turn.now turn.native) rfl).trans (.await _ kind) rfl

/-- The current transport leaves, suspended, and waits for its release. -/
theorem abandon (known : ∀ t, s.transport = some t → s.created t = true)
    (opened : s.closing = false) {callback : Callback} (kind : callback.releases = false) :
    Treats s (s.abandon turn callback) := by
  unfold BluetoothSwarm.abandon
  split
  · exact .await _ kind
  · rename_i old current
    have known := (created_iff s old).mp (known old current)
    have leaves : s.office.Next { s.office with holder := none } := .leaves opened
    refine ⟨rfl, rfl, leaves, fun k _ => ?_, fun k absent created => ?_,
      fun task mem t releases => ?_, .inl⟩
    · by_cases same : k = old
      · subst same
        refine ⟨[.act (.suspend turn.now turn.native)], Function.update_self .., fun _ => ?_,
          fun _ _ => ⟨_, rfl, rfl⟩, fun other => absurd current other⟩
        simp [Handling.releases]
      · refine ⟨[], Function.update_of_ne same .., fun _ => ?_, fun here _ => ?_, fun _ => ?_⟩
        · simp
        · exact absurd (Option.some.inj (here.symm.trans current)) same
        · simp
    · exact absurd (absent.symm.trans created) Bool.false_ne_true
    · simp only [BluetoothSwarm.await, BluetoothSwarm.awaitSuspend, BluetoothSwarm.setTransport,
        List.mem_append, List.mem_singleton] at mem
      rcases mem with (before | rfl) | rfl
      · exact .inl before
      · obtain rfl : old = t := Callback.release.inj releases
        refine .inr ⟨known.1, known.2, fun here => ?_⟩
        cases here
      · have releases : callback = .release t := releases
        rw [releases] at kind
        cases kind

theorem createTransport (none : s.transport = none) (opened : s.closing = false) :
    Treats s s.createTransport := by
  have enters : s.office.Next { s.office with holder := some (s.gen + 1), entered := s.gen + 1 } :=
    .enters none opened
  refine ⟨rfl, rfl, enters, fun k known => ?_, fun k absent known => ?_,
    fun task mem t releases => ?_, .inl⟩
  · have other : k ≠ s.gen + 1 := by
      have le := ((created_iff s k).mp known).2
      omega
    refine ⟨[], Function.update_of_ne other .., fun here => ?_, fun here => ?_, fun _ => ?_⟩
    · simp
    · cases none.symm.trans here
    · simp
  · obtain ⟨pos, le⟩ := (created_iff _ k).mp known
    have le : k ≤ s.gen + 1 := le
    have new : ¬ (0 < k ∧ k ≤ s.gen) := by
      rw [← created_iff, absent]
      exact Bool.false_ne_true
    obtain rfl : k = s.gen + 1 := by omega
    exact ⟨s.topic, s.online, Function.update_self ..⟩
  · rcases List.mem_append.mp mem with old | new
    · exact .inl old
    · rw [List.mem_singleton.mp new] at releases
      cases releases

theorem activate (known : ∀ t, s.transport = some t → s.created t = true)
    (opened : s.closing = false) : Treats s (s.activate turn) := by
  unfold BluetoothSwarm.activate
  split
  · rename_i t current
    split
    · exact (command current (.resume turn.now) rfl).trans (.await _ rfl) rfl
    · exact abandon known opened rfl
  · exact abandon known opened rfl

/-- Flags other than `closing`. -/
theorem flags (s : BluetoothSwarm) (started suspended online : Bool) (topic : Option Bytes) :
    Treats s { s with started, suspended, online, topic } :=
  .of_same rfl rfl rfl rfl rfl rfl fun _ mem _ _ => mem

theorem start (h : Manned s) : Treats s (s.start turn) := by
  have noted : Treats s { s with started := true } := flags s true s.suspended s.online s.topic
  simp only [BluetoothSwarm.start]
  split
  · exact .refl s
  · rename_i guard
    have opened : s.closing = false := by
      simp only [Bool.or_eq_true, not_or, Bool.not_eq_true] at guard
      exact guard.1.2
    split
    · exact noted.trans (activate h.current opened) rfl
    · exact noted

theorem stop (s : BluetoothSwarm) : Treats s (s.stop turn) := by
  let stopped : BluetoothSwarm := { s with started := false }
  have noted : Treats s stopped := flags s false s.suspended s.online s.topic
  simp only [BluetoothSwarm.stop]
  split
  · exact .refl s
  · split
    · rename_i t current
      have here : stopped.transport = some t := current
      split
      · exact noted.trans (awaitSuspend here rfl) rfl
      · exact noted
    · exact noted

theorem suspend (s : BluetoothSwarm) : Treats s (s.suspend turn) := by
  let paused : BluetoothSwarm := { s with suspended := true }
  have noted : Treats s paused := flags s s.started true s.online s.topic
  simp only [BluetoothSwarm.suspend]
  split
  · exact .refl s
  · split
    · rename_i t current
      have here : paused.transport = some t := current
      split
      · exact noted.trans (awaitSuspend here rfl) rfl
      · exact noted
    · exact noted

/-- A swarm that closes is stopped, so a resume finds nothing to activate. -/
theorem resume (h : Manned s) : Treats s (s.resume turn) := by
  have noted : Treats s { s with suspended := false } := flags s s.started false s.online s.topic
  simp only [BluetoothSwarm.resume]
  split
  · exact .refl s
  · split
    · rename_i on
      have opened : s.closing = false := by
        by_contra closing
        have off : s.started = false := h.stopped (by simpa using closing)
        exact absurd (off.symm.trans on) Bool.false_ne_true
      exact noted.trans (activate h.current opened) rfl
    · exact noted

theorem setOnline (s : BluetoothSwarm) (online : Bool) : Treats s (s.setOnline turn online) := by
  let tuned : BluetoothSwarm := { s with online }
  have noted : Treats s tuned := flags s s.started s.suspended online s.topic
  simp only [BluetoothSwarm.setOnline]
  split
  · rename_i t current
    have here : tuned.transport = some t := current
    exact noted.trans (command here (.setOnline online turn.now) rfl) rfl
  · exact noted

theorem setTopic (s : BluetoothSwarm) (topic : Option Bytes) : Treats s (s.setTopic turn topic) := by
  let tuned : BluetoothSwarm := { s with topic }
  have noted : Treats s tuned := flags s s.started s.suspended s.online topic
  simp only [BluetoothSwarm.setTopic]
  split
  · exact noted
  · rename_i t current
    have here : tuned.transport = some t := current
    let told : BluetoothSwarm := tuned.setTransport t fun tr => (tr.setTopic topic).1
    have tells : Treats s told := noted.trans (command here (.setTopic topic) rfl) rfl
    have still : told.transport = some t := current
    split
    · exact tells.trans (awaitSuspend still rfl) rfl
    · exact tells

theorem closes (shut : ∀ t, s.transport = some t → (s.transports t).life.closing = true) :
    Treats s { s with started := false, closing := true } := by
  have next : s.office.Next { s.office with closed := true } := .closes _
  refine ⟨rfl, rfl, next, fun k _ => ?_, fun k absent created => ?_, fun _ mem _ _ => .inl mem,
    fun _ => .inr shut⟩
  · refine ⟨[], rfl, fun _ => ?_, fun here gone => absurd here gone, fun _ => ?_⟩
    · simp
    · simp
  · exact absurd (absent.symm.trans created) Bool.false_ne_true

/-- The current transport closes with the swarm, and stays. -/
theorem close (s : BluetoothSwarm) : Treats s (s.close turn) := by
  simp only [BluetoothSwarm.close]
  split
  · exact .refl s
  · split
    · rename_i t current
      have told : Treats s (s.setTransport t fun tr => tr.close turn.now) :=
        command current (.close turn.now) rfl
      refine (told.trans (.await (.closed t) rfl) rfl).trans (closes fun k here => ?_) rfl
      obtain rfl : t = k := Option.some.inj (current.symm.trans here)
      simp [BluetoothSwarm.setTransport, BluetoothSwarm.await]
    · rename_i none
      refine (await .settled rfl).trans (closes fun k here => ?_) rfl
      cases none.symm.trans here

theorem rebuild (h : Manned s) (old : Nat) : Treats s (s.rebuild turn old) := by
  simp only [BluetoothSwarm.rebuild]
  split
  · exact .refl s
  · rename_i guard
    have opened : s.closing = false := by
      simp only [Bool.or_eq_true, not_or, Bool.not_eq_true] at guard
      exact guard.1.2
    exact abandon h.current opened rfl

/-- A transport is released after it was retired. -/
theorem release (former : s.office.Former t) : Treats s (s.release t) := by
  have left : s.transport ≠ some t := former.left
  have frees : ∀ (f : Transport → Transport) (h : Handling), h.commands = false →
      f (s.transports t) = (s.transports t).handled h → Treats s (s.setTransport t f) := by
    intro f h kind run
    refine setTransport t [h] run (fun here => absurd here left) fun _ => ?_
    simp [kind]
  unfold BluetoothSwarm.release
  split
  · exact frees _ .destroyManagers rfl rfl
  · exact frees _ .destroyManagers rfl rfl
  · exact frees _ .removeServices rfl rfl
  · exact .refl s

theorem proceed (h : Manned s) {callback : Callback}
    (former : ∀ t, callback = .release t → s.office.Former t) :
    Treats s (s.proceed turn callback) := by
  have live : s.started = true → s.closing = false := by
    intro on
    by_contra closing
    have off : s.started = false := h.stopped (by simpa using closing)
    exact absurd (off.symm.trans on) Bool.false_ne_true
  cases callback with
  | update => exact .refl s
  | release t => exact release (former t rfl)
  | activate =>
    simp only [BluetoothSwarm.proceed]
    split
    · exact .await _ rfl
    · rename_i guard
      simp only [Bool.or_eq_true, not_or, Bool.not_eq_true, Option.isSome_eq_false_iff,
        Option.isNone_iff_eq_none] at guard
      obtain ⟨⟨⟨⟨none, -⟩, -⟩, opened⟩, -⟩ := guard
      exact createTransport none opened
  | rebuild =>
    simp only [BluetoothSwarm.proceed]
    split
    · exact .refl s
    · rename_i guard
      simp only [Bool.or_eq_true, not_or, Bool.not_eq_true, Option.isSome_eq_false_iff,
        Option.isNone_iff_eq_none] at guard
      obtain ⟨⟨none, opened⟩, -⟩ := guard
      split
      · exact createTransport none opened
      · exact .refl s
  | retune =>
    simp only [BluetoothSwarm.proceed]
    split
    · rename_i t current
      split
      · exact command current (.resume turn.now) rfl
      · exact .refl s
    · exact .refl s
  | finish => exact .of_same rfl rfl rfl rfl rfl rfl fun _ mem _ _ => mem

theorem call (h : Manned s) (c : Call) : Treats s (s.call turn c) := by
  cases c with
  | start => exact start h
  | stop => exact stop s
  | suspend => exact suspend s
  | resume => exact resume h
  | setTopic topic => exact setTopic s topic
  | setOnline online => exact setOnline s online
  | close => exact close s

end Treats

namespace Manned

theorem create (cfg : Config) (ids : Ref → PeripheralId) (supported : Bool) (topic : Option Bytes)
    (online : Bool) : Manned (BluetoothSwarm.create cfg ids supported topic online) where
  toIntentInv := .create cfg ids supported topic online
  released _ mem := by cases mem
  shut closing := by cases closing

theorem treats (h : Manned s) (intent : IntentInv s') (treats : Treats s s') : Manned s' where
  toIntentInv := intent
  shut closing t current := by
    rcases treats.shuts closing with before | shuts
    · have same : s'.office = s.office := treats.next.eq_of_closed before
      have here : s.transport = some t := (congrArg Office.holder same).symm.trans current
      obtain ⟨handlings, handled⟩ := treats.handled t (h.current t here)
      rw [handled.run]
      exact Transport.run_closing (h.shut before t here) handlings
    · exact shuts t current
  released task mem t callback := by
    rcases treats.tasks task mem t callback with before | former
    · exact treats.next.former (h.released task before t callback)
    · exact former

end Manned

theorem step_treats (h : Manned s) (turn : Turn) : Treats s (s.step turn) := by
  unfold BluetoothSwarm.step
  split
  · exact .call h _
  · rename_i i _
    split
    · rename_i task found
      have mem : task ∈ s.tasks := List.mem_of_getElem? found
      split
      · let taken : BluetoothSwarm := { s with tasks := s.tasks.eraseIdx i }
        have takes : Treats s taken :=
          .of_same rfl rfl rfl rfl rfl rfl fun _ mem _ _ => List.mem_of_mem_eraseIdx mem
        have manned : Manned taken := h.treats (h.congr rfl rfl rfl rfl rfl rfl) takes
        have goes : Treats taken (taken.proceed turn task.callback) :=
          .proceed manned fun t releases => h.released task mem t releases
        exact takes.trans goes rfl
      · exact .refl s
    · exact .refl s
  · rename_i t server central _
    split
    · exact .befalls t (.open server central turn.now) rfl rfl
    · exact .refl s
  · rename_i t call _
    split
    · exact .befalls t (.drained call turn.now turn.native) rfl rfl
    · exact .refl s
  · rename_i t e _
    split
    · let heard : BluetoothSwarm := s.setTransport t fun tr => tr.input ⟨turn.now, turn.native, e⟩
      have hears : Treats s heard := .befalls t (.input ⟨turn.now, turn.native, e⟩) rfl rfl
      have intent : IntentInv heard := h.setTransport_of_life_eq t _ (Transport.input_life _ _)
      simp only
      split
      · exact hears.trans (.rebuild (h.treats intent hears) t) rfl
      · exact hears
    · exact .refl s

theorem Manned.step (h : Manned s) (turn : Turn) : Manned (s.step turn) :=
  h.treats h.toIntentInv.step (step_treats h turn)

end BluetoothSwarm

end BleSwarm
