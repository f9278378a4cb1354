import BleSwarm.Swarm.Intent
import BleSwarm.Swarm.Retirement

/-!
# Retirement before creation

`_abandon` clears the current transport before the retirement of the old one is
over, and only a caller that found the transport there awaits the retirement. As
long as nobody else gets behind `_abandon` meanwhile, a new transport is created
only when every earlier one has been retired.
-/

namespace BleSwarm

namespace BluetoothSwarm

variable {s s' : BluetoothSwarm} {turn : Turn}

namespace RetireInv

/-- A caller that finds no transport and no retirement goes on by itself. -/
theorem enter (h : RetireInv s) (quiet : s.retiring = false) (callback : Callback)
    (releases : callback.releases = false) : RetireInv (s.await .settled callback) := by
  have same : ∀ t, ¬ (s.await .settled callback).Retiring t := by
    rintro t ⟨task, mem, eq⟩
    rcases List.mem_append.mp mem with old | new
    · exact not_retiring quiet t ⟨task, old, eq⟩
    · rw [List.mem_singleton.mp new] at eq
      have eq : callback = .release t := eq
      simp [eq, Callback.releases] at releases
  exact ⟨fun _ k _ => same k, fun _ _ _ t retires => absurd retires (same t),
    fun t created other => .inr ((h.released t created other).resolve_left (not_retiring quiet t))⟩

/-- A caller that abandons the transport is the only one to await its retirement. -/
theorem abandon {old : Nat} (h : RetireInv s) (current : s.transport = some old)
    (free : s.waiting = false) (callback : Callback) (releases : callback.releases = false) :
    RetireInv (s.abandon turn callback) := by
  have retires : ∀ t, (s.abandon turn callback).Retiring t ↔ t = old := by
    intro t
    have before := h.alone old t current
    simp only [BluetoothSwarm.abandon, current, Retiring, BluetoothSwarm.await,
      BluetoothSwarm.awaitSuspend, List.append_assoc, List.mem_append, List.mem_cons,
      List.not_mem_nil, or_false, List.nil_append, List.cons_append]
    constructor
    · rintro ⟨task, old' | rfl | rfl, eq⟩
      · exact absurd ⟨task, old', eq⟩ before
      · exact (Callback.release.inj eq).symm
      · simp only at eq
        simp [eq, Callback.releases] at releases
    · rintro rfl
      exact ⟨_, .inr (.inl rfl), rfl⟩
  constructor
  · intro t k here
    simp [BluetoothSwarm.abandon, current, BluetoothSwarm.await, BluetoothSwarm.awaitSuspend,
      BluetoothSwarm.setTransport] at here
  · intro w mem waits t retiring
    rw [(retires t).mp retiring]
    simp only [BluetoothSwarm.abandon, current, BluetoothSwarm.await, BluetoothSwarm.awaitSuspend,
      List.append_assoc, List.mem_append, List.mem_cons, List.not_mem_nil, or_false,
      List.nil_append, List.cons_append] at mem
    rcases mem with before | rfl | rfl
    · have free : w.callback.waits = false := not_waiting free before
      simp [free] at waits
    · simp [Callback.waits] at waits
    · rfl
  · intro t created _
    by_cases eq : t = old
    · exact .inl ((retires t).mpr eq)
    · right
      have other : s.transport ≠ some t := by
        rw [current]
        exact fun same => eq (Option.some.inj same).symm
      have created : s.created t = true := by
        simpa [BluetoothSwarm.created, BluetoothSwarm.abandon, current, BluetoothSwarm.await,
          BluetoothSwarm.awaitSuspend, BluetoothSwarm.setTransport] using created
      have released := (h.released t created other).resolve_left (h.alone old t current)
      simpa [BluetoothSwarm.abandon, current, BluetoothSwarm.await, BluetoothSwarm.awaitSuspend,
        BluetoothSwarm.setTransport, eq] using released

/-- A transport that is created where none retires is the only one not released. -/
theorem createTransport (h : RetireInv s) (none : s.transport = none)
    (quiet : ∀ t, ¬ s.Retiring t) : RetireInv s.createTransport := by
  have same : ∀ t, ¬ s.createTransport.Retiring t := by
    rintro t ⟨task, mem, eq⟩
    rcases List.mem_append.mp mem with old | new
    · exact quiet t ⟨task, old, eq⟩
    · rw [List.mem_singleton.mp new] at eq
      cases eq
  refine ⟨fun _ k _ => same k, fun _ _ _ t retires => absurd retires (same t), ?_⟩
  intro t created other
  right
  have ne : t ≠ s.gen + 1 := fun eq => other (by
    simp [BluetoothSwarm.createTransport, BluetoothSwarm.await, eq])
  have old : s.created t = true := by
    obtain ⟨pos, le⟩ := (created_iff _ _).mp created
    have le' : t ≤ s.gen + 1 := le
    exact (created_iff _ _).mpr ⟨pos, by omega⟩
  have released := (h.released t old (by simp [none])).resolve_left (quiet t)
  simpa [BluetoothSwarm.createTransport, BluetoothSwarm.await, ne] using released

theorem activate (h : RetireInv s)
    (inTurn : match s.transport with
      | none => s.retiring = false
      | some t => (s.transports t).core.radio.radioCycled = true → s.waiting = false) :
    RetireInv (s.activate turn) := by
  unfold BluetoothSwarm.activate
  split
  · rename_i t current
    rw [current] at inTurn
    split
    · exact ((Alike.resumeTransport t).trans (.await _ rfl rfl)).inv h
    · rename_i cycled
      exact h.abandon current (inTurn (by simpa using cycled)) .activate rfl
  · rename_i none
    rw [none] at inTurn
    have entered : s.abandon turn .activate = s.await .settled .activate := by
      simp [BluetoothSwarm.abandon, none]
    rw [entered]
    exact h.enter inTurn .activate rfl

/-- A continuation that is no release leaves the list. -/
theorem take (h : RetireInv s) {i : Nat} {task : Task} (found : s.tasks[i]? = some task)
    (releases : task.callback.releases = false) :
    RetireInv { s with tasks := s.tasks.eraseIdx i } := by
  have same : ∀ t, ({ s with tasks := s.tasks.eraseIdx i } : BluetoothSwarm).Retiring t ↔
      s.Retiring t := by
    intro t
    constructor
    · rintro ⟨k, mem, eq⟩
      exact ⟨k, List.mem_of_mem_eraseIdx mem, eq⟩
    · rintro ⟨k, mem, eq⟩
      refine ⟨k, mem_eraseIdx_of_ne found mem ?_, eq⟩
      rintro rfl
      simp [eq, Callback.releases] at releases
  constructor
  · intro t k current
    rw [same]
    exact h.alone t k current
  · intro w mem waits t retires
    exact h.awaited w (List.mem_of_mem_eraseIdx mem) waits t ((same t).mp retires)
  · intro t created other
    rw [same]
    exact h.released t created other

/-- A retirement is over: the transport is released. -/
theorem release (h : RetireInv s) {i t : Nat} {task : Task} (found : s.tasks[i]? = some task)
    (callback : task.callback = .release t) :
    RetireInv (({ s with tasks := s.tasks.eraseIdx i } : BluetoothSwarm).release t) := by
  obtain ⟨cfg, gen, transport, tasks⟩ :=
    release_rest { s with tasks := s.tasks.eraseIdx i } t
  have fewer :
      ∀ k, (({ s with tasks := s.tasks.eraseIdx i } : BluetoothSwarm).release t).Retiring k →
      s.Retiring k := by
    rintro k ⟨other, mem, eq⟩
    rw [tasks] at mem
    exact ⟨other, List.mem_of_mem_eraseIdx mem, eq⟩
  constructor
  · intro k l current retires
    rw [transport] at current
    exact h.alone k l current (fewer l retires)
  · intro w mem waits k retires
    rw [tasks] at mem
    exact h.awaited w (List.mem_of_mem_eraseIdx mem) waits k (fewer k retires)
  · intro k created other
    rw [transport] at other
    rw [cfg]
    have created : s.created k = true := by
      simpa only [BluetoothSwarm.created, gen] using created
    by_cases eq : k = t
    · subst eq
      exact .inr (release_released { s with tasks := s.tasks.eraseIdx i } k)
    · rcases h.released k created other with ⟨later, mem, retires⟩ | released
      · refine .inl ⟨later, ?_, retires⟩
        rw [tasks]
        apply mem_eraseIdx_of_ne found mem
        rintro rfl
        exact eq (Callback.release.inj (retires.symm.trans callback))
      · exact .inr (released.kept (release_kept { s with tasks := s.tasks.eraseIdx i } t k))

/-- Whoever is behind `_abandon` goes on when no retirement is left. -/
theorem quiet_of_settled (h : RetireInv s) {w : Task} (mem : w ∈ s.tasks)
    (waits : w.callback.waits = true) (settled : s.settled w.awaits = true) (t : Nat) :
    ¬ s.Retiring t := by
  intro retires
  rw [h.awaited w mem waits t retires] at settled
  obtain ⟨task, mem', eq⟩ := retires
  simp only [BluetoothSwarm.settled, List.all_eq_true, decide_eq_true_eq] at settled
  exact settled task mem' eq

theorem proceed (h : RetireInv s) {i : Nat} {task : Task} (found : s.tasks[i]? = some task)
    (settled : s.settled task.awaits = true) :
    RetireInv (({ s with tasks := s.tasks.eraseIdx i } : BluetoothSwarm).proceed turn
      task.callback) := by
  have mem : task ∈ s.tasks := List.mem_of_getElem? found
  have quiet : task.callback.waits = true →
      ∀ t, ¬ ({ s with tasks := s.tasks.eraseIdx i } : BluetoothSwarm).Retiring t := by
    rintro waits t ⟨later, mem', eq⟩
    exact h.quiet_of_settled mem waits settled t ⟨later, List.mem_of_mem_eraseIdx mem', eq⟩
  cases callback : task.callback with
  | update => exact h.take found (by rw [callback]; rfl)
  | release t => exact h.release found callback
  | activate =>
    have rest := h.take found (by rw [callback]; rfl)
    simp only [BluetoothSwarm.proceed]
    split
    · have settled : Alike { s with tasks := s.tasks.eraseIdx i }
          (await { s with tasks := s.tasks.eraseIdx i } .settled .update) := .await .settled rfl rfl
      exact settled.inv rest
    · rename_i guard
      simp only [Bool.or_eq_true, not_or, Bool.not_eq_true, Option.isSome_eq_false_iff,
        Option.isNone_iff_eq_none] at guard
      exact rest.createTransport guard.1.1.1.1 (quiet (by rw [callback]; rfl))
  | rebuild =>
    have rest := h.take found (by rw [callback]; rfl)
    simp only [BluetoothSwarm.proceed]
    split
    · exact rest
    · rename_i guard
      simp only [Bool.or_eq_true, not_or, Bool.not_eq_true, Option.isSome_eq_false_iff,
        Option.isNone_iff_eq_none] at guard
      split
      · exact rest.createTransport guard.1.1 (quiet (by rw [callback]; rfl))
      · exact rest
  | retune =>
    have rest := h.take found (by rw [callback]; rfl)
    simp only [BluetoothSwarm.proceed]
    split
    · split
      · exact (Alike.resumeTransport _).inv rest
      · exact rest
    · exact rest
  | finish =>
    have rest := h.take found (by rw [callback]; rfl)
    have finished : Alike { s with tasks := s.tasks.eraseIdx i }
        { s with tasks := s.tasks.eraseIdx i, closed := true } :=
      ⟨rfl, rfl, rfl, fun _ _ => Iff.rfl, fun _ => ⟨id, id⟩⟩
    exact finished.inv rest

/-- The flags that a call sets before it goes to `_activate`. -/
theorem flags (h : RetireInv s) (started suspended : Bool) :
    RetireInv { s with started, suspended } :=
  ⟨h.alone, h.awaited, h.released⟩

theorem call (h : RetireInv s) (c : Call)
    (inTurn : s.activates c = true → match s.transport with
      | none => s.retiring = false
      | some t => (s.transports t).core.radio.radioCycled = true → s.waiting = false) :
    RetireInv (s.call turn c) := by
  cases c with
  | start =>
    simp only [BluetoothSwarm.call, BluetoothSwarm.start]
    split
    · exact h
    · rename_i guard
      simp only [Bool.or_eq_true, not_or, Bool.not_eq_true, Bool.not_eq_eq_eq_not, Bool.not_true,
        Bool.not_eq_false] at guard
      split
      · rename_i live
        exact (h.flags true s.suspended).activate (inTurn (by
          simp only [activates, guard, Bool.not_false, Bool.and_true, Bool.true_and]
          exact live))
      · exact h.flags true s.suspended
  | resume =>
    simp only [BluetoothSwarm.call, BluetoothSwarm.resume]
    split
    · exact h
    · rename_i paused
      split
      · rename_i on
        exact (h.flags s.started false).activate (inTurn (by
          simp only [activates, on, Bool.and_true]
          simpa using paused))
      · exact h.flags s.started false
  | stop => exact stop_alike.inv h
  | suspend => exact suspend_alike.inv h
  | setTopic topic => exact (setTopic_alike topic).inv h
  | setOnline online => exact (setOnline_alike online).inv h
  | close => exact close_alike.inv h

theorem step (h : RetireInv s) (inTurn : s.InTurn turn) : RetireInv (s.step turn) := by
  unfold BluetoothSwarm.step
  split
  · rename_i c move
    simp only [InTurn, move] at inTurn
    exact h.call c inTurn
  · split
    · rename_i task found
      split
      · rename_i settled
        exact h.proceed found settled
      · exact h
    · exact h
  · split
    · exact (Alike.setTransport _ _ (runOpen_kept _ _ _ _)).inv h
    · exact h
  · split
    · exact (Alike.setTransport _ _ (by simp [Kept])).inv h
    · exact h
  · rename_i t e move
    simp only [InTurn, move] at inTurn
    split
    · have moved : RetireInv (s.setTransport t fun tr => tr.input ⟨turn.now, turn.native, e⟩) :=
        (Alike.setTransport t _ (by simp [Kept])).inv h
      simp only
      split
      · rename_i emitted
        have emitted : .emitRadioCycled ∈
            ((s.transports t).input ⟨turn.now, turn.native, e⟩).core.out := by
          simpa [BluetoothSwarm.setTransport] using emitted
        unfold BluetoothSwarm.rebuild
        split
        · exact moved
        · rename_i guard
          simp only [Bool.or_eq_true, not_or, decide_eq_true_eq, not_not] at guard
          have current : s.transport = some t := guard.1.1
          exact moved.abandon current (inTurn current emitted) .rebuild rfl
      · exact moved
    · exact h

end RetireInv

theorem call_gen (s : BluetoothSwarm) (turn : Turn) (c : Call) : (s.call turn c).gen = s.gen := by
  have activate_gen : ∀ s : BluetoothSwarm, (s.activate turn).gen = s.gen := by
    intro s
    have abandon_gen : (s.abandon turn .activate).gen = s.gen := by
      unfold abandon
      split <;> rfl
    unfold activate
    split
    · split
      · rfl
      · exact abandon_gen
    · exact abandon_gen
  cases c with
  | start =>
    simp only [call, start]
    split
    · rfl
    · split
      · exact activate_gen _
      · rfl
  | resume =>
    simp only [call, resume]
    split
    · rfl
    · split
      · exact activate_gen _
      · rfl
  | stop => exact stop_alike.gen
  | suspend => exact suspend_alike.gen
  | setTopic topic => exact (setTopic_alike topic).gen
  | setOnline online => exact (setOnline_alike online).gen
  | close => exact close_alike.gen

/-- Transports are created behind `_abandon` only, and where there is none. -/
theorem creates (grown : (s.step turn).gen ≠ s.gen) :
    s.transport = none ∧ ∃ w ∈ s.tasks, w.callback.waits = true ∧ s.settled w.awaits = true := by
  unfold step at grown
  split at grown
  · exact absurd (call_gen s turn _) grown
  · split at grown
    · rename_i task found
      split at grown
      · rename_i settled
        have mem : task ∈ s.tasks := List.mem_of_getElem? found
        cases callback : task.callback with
        | activate =>
          simp only [callback, proceed] at grown
          split at grown
          · exact absurd rfl grown
          · rename_i guard
            simp only [Bool.or_eq_true, not_or, Bool.not_eq_true, Option.isSome_eq_false_iff,
              Option.isNone_iff_eq_none] at guard
            exact ⟨guard.1.1.1.1, task, mem, by rw [callback]; rfl, settled⟩
        | rebuild =>
          simp only [callback, proceed] at grown
          split at grown
          · exact absurd rfl grown
          · rename_i guard
            simp only [Bool.or_eq_true, not_or, Bool.not_eq_true, Option.isSome_eq_false_iff,
              Option.isNone_iff_eq_none] at guard
            exact ⟨guard.1.1, task, mem, by rw [callback]; rfl, settled⟩
        | release t =>
          rw [callback] at grown
          exact absurd (release_rest _ t).2.1 grown
        | retune =>
          simp only [callback, proceed] at grown
          split at grown
          · split at grown
            · exact absurd rfl grown
            · exact absurd rfl grown
          · exact absurd rfl grown
        | update => exact absurd (by rw [callback]; rfl) grown
        | finish => exact absurd (by rw [callback]; rfl) grown
      · exact absurd rfl grown
    · exact absurd rfl grown
  · split at grown
    · exact absurd rfl grown
    · exact absurd rfl grown
  · split at grown
    · exact absurd rfl grown
    · exact absurd rfl grown
  · rename_i t e _
    split at grown
    · simp only at grown
      split at grown
      · refine absurd ?_ grown
        unfold rebuild
        split
        · rfl
        · unfold abandon
          split <;> rfl
      · exact absurd rfl grown
    · exact absurd rfl grown

theorem createsLast_of_inv (intent : IntentInv s) (h : RetireInv s) (turn : Turn) :
    s.CreatesLast turn := by
  intro grown t created
  obtain ⟨none, w, mem, waits, settled⟩ := creates grown
  have other : s.transport ≠ some t := by simp [none]
  have quiet := h.quiet_of_settled mem waits settled t
  exact ⟨intent.others t created other, quiet, (h.released t created other).resolve_left quiet⟩

/-- In a run where nothing gets behind `_abandon` out of turn, every transport is
created after the retirement of all earlier ones. -/
theorem retired_before_created (cfg : Config) (ids : Ref → PeripheralId) (supported : Bool)
    (topic : Option Bytes) (online : Bool) (turns : List Turn)
    (inTurn : Runs.Each step InTurn (create cfg ids supported topic online) turns) :
    Runs.Each step CreatesLast (create cfg ids supported topic online) turns := by
  have keep (s : BluetoothSwarm) (turn : Turn) (h : IntentInv s ∧ RetireInv s) (ok : s.InTurn turn) :
      IntentInv (s.step turn) ∧ RetireInv (s.step turn) := ⟨h.1.step, h.2.step ok⟩
  refine Runs.each_of_invariant keep (fun s turn h _ => createsLast_of_inv h.1 h.2 turn)
    ⟨IntentInv.create cfg ids supported topic online, ?_⟩ inTurn
  refine ⟨?_, fun w mem => absurd mem List.not_mem_nil, ?_⟩
  · intro t k current
    cases current
  · intro t created
    obtain ⟨pos, le⟩ := (created_iff _ _).mp created
    have le' : t ≤ 0 := le
    omega

/-- A started swarm whose transport is up and then sees the adapter go off and on. -/
def powerCycled : List Move :=
  [.call .start, .run 0, .opened 1 .poweredOn .poweredOn, .run 0,
    .event 1 (.centralState .poweredOff), .event 1 (.centralState .poweredOn)]

/-- The rebuild after a power cycle creates its transport last. -/
theorem rebuild_creates_last :
    Runs.Each step CreatesLast
      (create (Config.plain (List.replicate 32 1) .gatt .ios) id true none false)
      (atOnce (powerCycled ++ [.drained 1 0, .run 0, .run 0])) :=
  retired_before_created _ _ _ _ _ _ (by decide +kernel)

/-- A stop and a start during the rebuild: the start finds no transport to await and
creates one while the old one still retires. -/
theorem restart_creates_early :
    ¬ Runs.Each step CreatesLast
      (create (Config.plain (List.replicate 32 1) .gatt .ios) id true none false)
      (atOnce (powerCycled ++ [.call .stop, .call .start, .run 2])) := by
  intro last
  rw [atOnce, List.map_append] at last
  have early := (Runs.each_append.mp last).2.2.2.1
  have retired := early (by decide +kernel) 1 (by decide +kernel)
  exact retired.2.1 ⟨⟨.drain 1 0, .release 1⟩, by decide +kernel, rfl⟩

end BluetoothSwarm

end BleSwarm
