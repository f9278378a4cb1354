import BleSwarm.Swarm.Step
import BleSwarm.Transport.Clean
import BleSwarm.Transport.Scanner.Step

/-!
# What a paused swarm reads

The teardown of a suspend sets the state of the transport to off, and the getter of the
swarm hands it on. The adapters report to the handlers all the same, suspended or not, and
their states never read off.
-/

namespace BleSwarm

namespace Transport

variable {t : Transport}

theorem input_state {i : Input} (unheard : t.life.opened = true → i.event.adapts = false) :
    (t.input i).core.radio.state = t.core.radio.state := by
  simp only [input]
  split
  · rename_i opened
    exact handle_state (t.begin i.native) (t.env i.now i.native) (unheard opened)
  · rfl

theorem setOnline_state (online : Bool) (now : Nat) :
    (t.setOnline online now).core.radio.state = t.core.radio.state := by
  have asked : ∀ c : Core, (c.startScan (t.env now)).radio.state = c.radio.state := fun c =>
    (congrArg Scanner.state (Core.startScan_asksScan c)).trans (Scanner.rouse_state _ _ _)
  simp only [setOnline, withCore_core, Core.setOnline]
  split
  · rfl
  · split
    · rfl
    · split
      · exact asked _
      · rfl

theorem setTopic_state (topic : Option Bytes) :
    (t.setTopic topic).1.core.radio.state = t.core.radio.state := by
  simp only [setTopic, Core.setTopic]
  split <;> rfl

theorem drained_state {call now : Nat} {native : Native} (pending : call ∈ t.life.drains) :
    (t.drained call now native).core.radio.state = .off := by
  rw [drained_core pending, Core.teardown_radio]

end Transport

namespace BluetoothSwarm

/-- A task of a public call. A transport that gets ready may as well be one of `_rebuild`. -/
def Task.calls (task : Task) : Bool :=
  match task.awaits, task.callback with
  | .ready _, _ | _, .rebuild | _, .release _ => false
  | _, _ => true

/-- With no call pending a suspended swarm reads off. -/
def ReadsOff (s : BluetoothSwarm) : Prop :=
  s.suspended = true → (∀ task ∈ s.tasks, Task.calls task = false) → s.state = .off

/-- The swarm is started and paused, and no suspend of the transport is under way. -/
def pauses (s : BluetoothSwarm) (t : Nat) : Bool :=
  s.started && s.suspended && decide (s.transport = some t) &&
    (s.transports t).life.drains.isEmpty

/-- The transport of a paused swarm is told of no adapter and is not opened, and a swarm that is
started while it is paused has a transport that reads off. -/
def Unheard (s : BluetoothSwarm) (turn : Turn) : Prop :=
  match turn.move with
  | .call .start =>
    s.suspended = true → s.started = false → s.closing = false → s.closed = false →
      ∀ t ∈ s.transport, (s.transports t).life.drains = [] → (s.transports t).core.radio.state = .off
  | .opened t _ _ => s.pauses t = true → (s.transports t).life.opened = true
  | .event t e => s.pauses t = true → (s.transports t).life.opened = true → e.adapts = false
  | _ => True

/-- Each drain of the current transport is awaited by a call. -/
structure Attended (s : BluetoothSwarm) : Prop where
  supported : s.supported = true
  awaited : ∀ t, s.transport = some t → ∀ call ∈ (s.transports t).life.drains, ∃ task ∈ s.tasks,
    task.awaits = .drain t call ∧ (task.callback = .update ∨ task.callback = .retune)

/-- The transport of a paused swarm reads off. -/
structure Paused (s : BluetoothSwarm) : Prop extends Attended s where
  off : ∀ t, s.pauses t = true → (s.transports t).core.radio.state = .off

variable {s s' : BluetoothSwarm} {t : Nat} {turn : Turn}

theorem pauses_iff (s : BluetoothSwarm) (t : Nat) : s.pauses t = true ↔
    ((s.started = true ∧ s.suspended = true) ∧ s.transport = some t) ∧
      (s.transports t).life.drains = [] := by
  simp [pauses]

theorem setTransport_other {k : Nat} {f : Transport → Transport} (other : t ≠ k) :
    (s.setTransport k f).transports t = s.transports t :=
  Function.update_of_ne other _ _

theorem pauses_other {k : Nat} {f : Transport → Transport} (other : t ≠ k) :
    (s.setTransport k f).pauses t = s.pauses t := by
  rw [pauses, setTransport_other other]
  rfl

theorem Attended.congr (h : Attended s) (supported : s'.supported = s.supported)
    (transport : s'.transport = s.transport) (transports : s'.transports = s.transports)
    (tasks : s'.tasks = s.tasks) : Attended s' where
  supported := supported.trans h.supported
  awaited := by
    rw [transport, transports, tasks]
    exact h.awaited

namespace Paused

theorem create (cfg : Config) (ids : Ref → PeripheralId) (topic : Option Bytes) (online : Bool) :
    Paused (BluetoothSwarm.create cfg ids true topic online) where
  supported := rfl
  awaited _ current := by cases current
  off t paused := by cases ((pauses_iff _ t).mp paused).1.2

theorem readsOff (h : Paused s) : s.ReadsOff := by
  intro suspended settled
  have live : ¬ (!s.supported) = true := by simp [h.supported]
  simp only [state, if_neg live]
  cases current : s.transport with
  | none => rfl
  | some t =>
    dsimp only
    cases started : s.started with
    | false => rfl
    | true =>
      have drained : (s.transports t).life.drains = [] := by
        apply List.eq_nil_iff_forall_not_mem.mpr
        intro call mem
        obtain ⟨task, here, awaits, kind⟩ := h.awaited t current call mem
        have calls := settled task here
        rcases kind with update | retune
        · simp [Task.calls, awaits, update] at calls
        · simp [Task.calls, awaits, retune] at calls
      have paused := (pauses_iff s t).mpr ⟨⟨⟨started, suspended⟩, current⟩, drained⟩
      exact h.off t paused

/-- Without a transport there is nothing to read. -/
theorem of_none (supported : s.supported = true) (none : s.transport = none) : Paused s where
  supported := supported
  awaited t current := by
    rw [none] at current
    cases current
  off t paused := by
    rw [((pauses_iff s t).mp paused).1.2] at none
    cases none

/-- The flags of a swarm that is not paused. -/
theorem unpaused (h : Attended s) (flags : (s.started && s.suspended) = false) : Paused s where
  toAttended := h
  off t paused := by
    rw [pauses, flags] at paused
    cases paused

/-- Flags that leave a pause as it is. -/
theorem congr (h : Paused s) (flags : (s'.started && s'.suspended) = (s.started && s.suspended))
    (supported : s'.supported = s.supported) (transport : s'.transport = s.transport)
    (transports : s'.transports = s.transports) (tasks : s'.tasks = s.tasks) : Paused s' where
  toAttended := h.toAttended.congr supported transport transports tasks
  off t := by
    rw [pauses, flags, transport, transports]
    exact h.off t

theorem await (h : Paused s) (awaits : Await) (callback : Callback) :
    Paused (s.await awaits callback) where
  supported := h.supported
  awaited t current call mem := by
    obtain ⟨task, here, awaits⟩ := h.awaited t current call mem
    exact ⟨task, List.mem_append_left _ here, awaits⟩
  off := h.off

/-- A step of a transport that begins no suspend, and reads off in a pause. -/
theorem setTransport (h : Paused s) (k : Nat) (f : Transport → Transport)
    (drains : ∀ call ∈ (f (s.transports k)).life.drains, call ∈ (s.transports k).life.drains)
    (off : (s.setTransport k f).pauses k = true → (f (s.transports k)).core.radio.state = .off) :
    Paused (s.setTransport k f) where
  supported := h.supported
  awaited t current call mem := by
    by_cases here : t = k
    · subst here
      have mem : call ∈ (f (s.transports t)).life.drains := by
        simpa [BluetoothSwarm.setTransport] using mem
      exact h.awaited t current call (drains call mem)
    · have mem : call ∈ (s.transports t).life.drains := by
        simpa [BluetoothSwarm.setTransport, here] using mem
      exact h.awaited t current call mem
  off t paused := by
    by_cases here : t = k
    · subst here
      simpa [BluetoothSwarm.setTransport] using off paused
    · rw [setTransport_other here]
      exact h.off t ((pauses_other here).symm.trans paused)

/-- A step of a transport that keeps its drains and what it reads. -/
theorem setQuiet (h : Paused s) (k : Nat) (f : Transport → Transport)
    (drains : (f (s.transports k)).life.drains = (s.transports k).life.drains)
    (state : s.pauses k = true →
      (f (s.transports k)).core.radio.state = (s.transports k).core.radio.state) :
    Paused (s.setTransport k f) := by
  apply h.setTransport k f
  · rw [drains]
    exact fun call mem => mem
  · intro paused
    obtain ⟨flags, drained⟩ := (pauses_iff _ k).mp paused
    have drained : (s.transports k).life.drains = [] := by
      rw [← drains]
      simpa [BluetoothSwarm.setTransport] using drained
    have before := (pauses_iff s k).mpr ⟨flags, drained⟩
    exact (state before).trans (h.off k before)

/-- A call suspends the current transport and awaits the drain. -/
theorem awaitSuspend (h : Attended s) (current : s.transport = some t) {callback : Callback}
    (kind : callback = .update ∨ callback = .retune) : Paused (s.awaitSuspend turn t callback) where
  supported := h.supported
  awaited k here call mem := by
    obtain rfl : t = k := Option.some.inj (current.symm.trans here)
    have mem : call ∈ (s.transports t).life.drains ∨ call = (s.transports t).life.nextDrain := by
      simpa [BluetoothSwarm.awaitSuspend, BluetoothSwarm.setTransport, BluetoothSwarm.await] using mem
    rcases mem with old | rfl
    · obtain ⟨task, known, awaits⟩ := h.awaited t current call old
      exact ⟨task, List.mem_append_left _ known, awaits⟩
    · exact ⟨_, List.mem_append_right _ (List.mem_singleton_self _), rfl, kind⟩
  off k paused := by
    obtain ⟨⟨-, here⟩, drained⟩ := (pauses_iff _ k).mp paused
    obtain rfl : t = k := Option.some.inj (current.symm.trans here)
    simp [BluetoothSwarm.awaitSuspend, BluetoothSwarm.setTransport, BluetoothSwarm.await] at drained

theorem resumeTransport (h : Paused s) (running : s.suspended = false) (t : Nat) :
    Paused (s.resumeTransport turn t) := by
  apply h.setTransport
  · simp
  · intro paused
    have suspended : s.suspended = true := ((pauses_iff _ t).mp paused).1.1.2
    exact absurd (running.symm.trans suspended) (by simp)

theorem abandon (h : Paused s) (callback : Callback) : Paused (s.abandon turn callback) := by
  unfold BluetoothSwarm.abandon
  split
  · exact h.await _ _
  · exact of_none h.supported rfl

theorem createTransport (h : Paused s) (running : s.suspended = false) : Paused s.createTransport where
  supported := h.supported
  awaited t current call mem := by
    obtain rfl : s.gen + 1 = t := Option.some.inj current
    simp [BluetoothSwarm.createTransport, BluetoothSwarm.await, Transport.create] at mem
  off t paused := by
    have suspended : s.suspended = true := ((pauses_iff _ t).mp paused).1.1.2
    exact absurd (running.symm.trans suspended) (by simp)

/-! The calls. -/

theorem activate (h : Paused s) (running : s.suspended = false) : Paused (s.activate turn) := by
  unfold BluetoothSwarm.activate
  split
  · split
    · exact (h.resumeTransport running _).await _ _
    · exact h.abandon _
  · exact h.abandon _

theorem start (h : Paused s) (off : s.suspended = true → s.started = false → s.closing = false →
      s.closed = false → ∀ t ∈ s.transport, (s.transports t).life.drains = [] →
        (s.transports t).core.radio.state = .off) : Paused (s.start turn) := by
  simp only [BluetoothSwarm.start]
  split
  · exact h
  · rename_i guard
    simp only [Bool.or_eq_true, not_or, Bool.not_eq_true] at guard
    obtain ⟨⟨⟨-, stopped⟩, open_⟩, unclosed⟩ := guard
    have started : Attended { s with started := true } := h.toAttended.congr rfl rfl rfl rfl
    split
    · rename_i live
      have running : s.suspended = false := by simpa using live
      exact (unpaused started (by simp [running])).activate running
    · rename_i paused
      have paused : s.suspended = true := by simpa using paused
      refine ⟨started, fun t pauses => ?_⟩
      obtain ⟨⟨-, current⟩, drained⟩ := (pauses_iff _ t).mp pauses
      exact off paused stopped open_ unclosed t current drained

theorem stop (h : Paused s) : Paused (s.stop turn) := by
  have stopped : Attended { s with started := false } := h.toAttended.congr rfl rfl rfl rfl
  simp only [BluetoothSwarm.stop]
  split
  · exact h
  · split
    · rename_i t current
      split
      · exact awaitSuspend stopped current (.inl rfl)
      · exact unpaused stopped rfl
    · exact unpaused stopped rfl

theorem suspend (h : Paused s) : Paused (s.suspend turn) := by
  have suspended : Attended { s with suspended := true } := h.toAttended.congr rfl rfl rfl rfl
  simp only [BluetoothSwarm.suspend]
  split
  · exact h
  · split
    · rename_i t current
      split
      · exact awaitSuspend suspended current (.inl rfl)
      · rename_i stopped
        exact unpaused suspended (by simpa using stopped)
    · rename_i none
      exact of_none h.supported none

theorem resume (h : Paused s) : Paused (s.resume turn) := by
  simp only [BluetoothSwarm.resume]
  have resumed : Attended { s with suspended := false } := h.toAttended.congr rfl rfl rfl rfl
  have running := unpaused resumed (Bool.and_false _)
  split
  · exact h
  · split
    · exact running.activate rfl
    · exact running

theorem setOnline (h : Paused s) (online : Bool) : Paused (s.setOnline turn online) := by
  have noted : Paused { s with online } := h.congr rfl rfl rfl rfl rfl
  simp only [BluetoothSwarm.setOnline]
  split
  · exact noted.setQuiet _ _ rfl fun _ => Transport.setOnline_state online turn.now
  · exact noted

theorem setTopic (h : Paused s) (topic : Option Bytes) : Paused (s.setTopic turn topic) := by
  have noted : Paused { s with topic } := h.congr rfl rfl rfl rfl rfl
  simp only [BluetoothSwarm.setTopic]
  split
  · exact noted
  · rename_i t current
    have tuned : Paused (({ s with topic } : BluetoothSwarm).setTransport t fun tr =>
        (tr.setTopic topic).1) :=
      noted.setQuiet t _ rfl fun _ => Transport.setTopic_state topic
    split
    · exact awaitSuspend tuned.toAttended current (.inr rfl)
    · exact tuned

theorem close (h : Paused s) : Paused (s.close turn) := by
  simp only [BluetoothSwarm.close]
  have stopped : Paused { s with started := false, closing := true } :=
    unpaused (h.toAttended.congr rfl rfl rfl rfl) rfl
  split
  · exact h
  · split
    · rename_i t current
      apply Paused.await
      apply stopped.setTransport
      · intro call mem
        simp only [Transport.close] at mem
        split at mem
        · exact mem
        · split at mem
          · exact mem
          · exact mem
      · intro paused
        cases ((pauses_iff _ t).mp paused).1.1.1
    · exact stopped.await _ _

theorem call (h : Paused s) {c : Call} (move : turn.move = .call c) (unheard : s.Unheard turn) :
    Paused (s.call turn c) := by
  cases c with
  | start =>
    simp only [Unheard, move] at unheard
    exact h.start unheard
  | stop => exact h.stop
  | suspend => exact h.suspend
  | resume => exact h.resume
  | setTopic topic => exact h.setTopic topic
  | setOnline online => exact h.setOnline online
  | close => exact h.close

/-! The continuations. -/

/-- A continuation that goes on awaits no drain any more. -/
theorem take (h : Paused s) {i : Nat} {task : Task} (found : s.tasks[i]? = some task)
    (settled : s.settled task.awaits = true) : Paused { s with tasks := s.tasks.eraseIdx i } where
  supported := h.supported
  awaited t current call mem := by
    obtain ⟨k, here, awaits, kind⟩ := h.awaited t current call mem
    exact ⟨k, mem_eraseIdx_of_draining found settled here awaits mem, awaits, kind⟩
  off := h.off

theorem release (h : Paused s) (t : Nat) : Paused (s.release t) := by
  unfold BluetoothSwarm.release
  split
  · exact h.setQuiet t _ rfl fun _ => rfl
  · exact h.setQuiet t _ rfl fun _ => rfl
  · exact h.setQuiet t _ rfl fun _ => rfl
  · exact h

theorem proceed (h : Paused s) (callback : Callback) : Paused (s.proceed turn callback) := by
  cases callback with
  | update => exact h
  | release t => exact h.release t
  | activate =>
    simp only [BluetoothSwarm.proceed]
    split
    · exact h.await _ _
    · rename_i guard
      simp only [Bool.or_eq_true, not_or, Bool.not_eq_true] at guard
      exact h.createTransport guard.1.1.2
  | rebuild =>
    simp only [BluetoothSwarm.proceed]
    split
    · exact h
    · split
      · rename_i wanted
        exact h.createTransport ((wanted_iff s).mp wanted).2
      · exact h
  | retune =>
    simp only [BluetoothSwarm.proceed]
    split
    · split
      · rename_i wanted
        exact h.resumeTransport ((wanted_iff s).mp wanted).2 _
      · exact h
    · exact h
  | finish => exact h.congr rfl rfl rfl rfl rfl

/-! The transports. -/

theorem opened (h : Paused s) (t : Nat) (server central : AdapterState)
    (open_ : s.pauses t = true → (s.transports t).life.opened = true) :
    Paused (s.setTransport t fun tr => tr.runOpen server central turn.now) := by
  apply h.setQuiet t _ (by simp)
  intro paused
  have idle : (s.transports t).runOpen server central turn.now = (s.transports t).begin {} := by
    simp [Transport.runOpen, open_ paused]
  rw [idle]
  rfl

theorem drained (h : Paused s) (t call : Nat) :
    Paused (s.setTransport t fun tr => tr.drained call turn.now turn.native) := by
  by_cases pending : call ∈ (s.transports t).life.drains
  · apply h.setTransport t
    · intro later mem
      rw [Transport.drained_life] at mem
      exact List.mem_of_mem_erase mem
    · exact fun _ => Transport.drained_state pending
  · have idle : (s.transports t).drained call turn.now turn.native =
        (s.transports t).begin turn.native := if_neg pending
    apply h.setQuiet t
    · rw [idle]
      rfl
    · rw [idle]
      exact fun _ => rfl

theorem event (h : Paused s) (t : Nat) {e : Event}
    (unheard : s.pauses t = true → (s.transports t).life.opened = true → e.adapts = false) :
    Paused (s.setTransport t fun tr => tr.input ⟨turn.now, turn.native, e⟩) :=
  h.setQuiet t _ (by simp) fun paused => Transport.input_state (unheard paused)

theorem rebuild (h : Paused s) (old : Nat) : Paused (s.rebuild turn old) := by
  simp only [BluetoothSwarm.rebuild]
  split
  · exact h
  · exact h.abandon _

theorem step (h : Paused s) (unheard : s.Unheard turn) : Paused (s.step turn) := by
  unfold BluetoothSwarm.step
  split
  · rename_i c move
    exact h.call move unheard
  · split
    · split
      · rename_i found settled
        exact (h.take found settled).proceed _
      · exact h
    · exact h
  · rename_i t server central move
    simp only [Unheard, move] at unheard
    split
    · exact h.opened t server central unheard
    · exact h
  · split
    · exact h.drained _ _
    · exact h
  · rename_i t e move
    simp only [Unheard, move] at unheard
    split
    · dsimp only
      split
      · exact (h.event t unheard).rebuild t
      · exact h.event t unheard
    · exact h

end Paused

/-- With no call pending a suspended swarm reads off, in every state of a run in which no adapter
reports to the transport of a paused swarm. -/
theorem suspended_reads_off (cfg : Config) (ids : Ref → PeripheralId) (topic : Option Bytes)
    (online : Bool) (turns : List Turn)
    (unheard : Runs.Each step Unheard (create cfg ids true topic online) turns) :
    (Runs.run step (create cfg ids true topic online) turns).ReadsOff :=
  (Runs.invariant (fun _ _ h ok => Paused.step h ok) (Paused.create cfg ids topic online)
    unheard).readsOff

instance (s : BluetoothSwarm) (turn : Turn) : Decidable (s.Unheard turn) := by
  unfold Unheard
  rcases turn.move with c | _ | _ | _ | _
  · rcases c with _ | _ <;> infer_instance
  all_goals infer_instance

/-- A swarm on running adapters is started and suspended, and the adapter goes off `before` the
drain of its transport ends or `behind` it. -/
def poweredOffWhile (before behind : List Move) : List Turn :=
  atOnce ([.call .start, .run 0, .opened 1 .poweredOn .poweredOn, .run 0, .call .suspend] ++ before ++
    [.drained 1 0, .run 0] ++ behind)

theorem powered_off_before_drain_reads_off :
    (Runs.run step (create (Config.plain (List.replicate 32 1) .gatt .ios) id true none false)
      (poweredOffWhile [.event 1 (.centralState .poweredOff)] [])).ReadsOff :=
  suspended_reads_off _ _ _ _ _ (by decide +kernel)

/-- An adapter that is turned off while the swarm is suspended makes it read as waiting. -/
theorem powered_off_behind_drain_reads_waiting :
    let s := Runs.run step (create (Config.plain (List.replicate 32 1) .gatt .ios) id true none false)
      (poweredOffWhile [] [.event 1 (.centralState .poweredOff)])
    s.tasks = [] ∧ s.state = .waiting ∧ ¬ s.ReadsOff := by
  intro s
  have settled : s.tasks = [] := by decide +kernel
  have waiting : s.state = .waiting := by decide +kernel
  refine ⟨settled, waiting, fun readsOff => ?_⟩
  have off := readsOff (by decide +kernel) (by simp [settled])
  rw [waiting] at off
  cases off

end BluetoothSwarm

end BleSwarm
