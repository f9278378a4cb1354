import BleSwarm.Swarm.Step
import BleSwarm.Transport.Live

/-!
# No lost resume

`suspend` tears the transport down behind an await, `resume` brings it up at once.
A resume that comes while a suspend still drains is undone by the teardown that
follows, whichever of `stop()`, `suspend()` and `setTopic()` issued that suspend.
-/

namespace BleSwarm.BluetoothSwarm

/-- Once every call has settled, a transport that is wanted is live, and no teardown is still to
come on a transport that has been resumed. -/
def Resumed (s : BluetoothSwarm) : Prop :=
  (s.tasks = [] → s.wanted = true → ∃ t, s.transport = some t ∧ (s.transports t).Live) ∧
    ∀ t, s.transport = some t → (s.transports t).life.drains ≠ [] →
      (s.transports t).life.suspended = true

/-- The swarm is not closed, and no adapter reports another state than `poweredOn`. -/
def Steady (_ : BluetoothSwarm) (turn : Turn) : Prop :=
  match turn.move with
  | .call c => c ≠ .close
  | .event _ e => Transport.Powered e
  | _ => True

/-- The continuation of a `setTopic()` goes on, and the swarm is wanted. -/
def retunes (s : BluetoothSwarm) (i : Nat) : Bool :=
  match s.tasks[i]? with
  | some task => task.callback == .retune && s.settled task.awaits && s.wanted
  | none => false

/-- The transport that is resumed in the turn. -/
def resumes (s : BluetoothSwarm) (turn : Turn) : Option Nat :=
  match turn.move with
  | .call c => s.transport.filter fun t => s.activates c && !(s.transports t).core.radio.radioCycled
  | .run i => s.transport.filter fun _ => s.retunes i
  | _ => none

/-- No transport is resumed while a suspend of it still drains. -/
def ResumesDrained (s : BluetoothSwarm) (turn : Turn) : Prop :=
  ∀ t ∈ s.resumes turn, (s.transports t).life.drains = []

/-- A started swarm whose transport is live, with its service hosted and no suspend of it
under way. -/
structure LiveStart (t : Nat) (s : BluetoothSwarm) : Prop where
  current : s.transport = some t
  wanted : s.wanted = true
  opened : (s.transports t).life.opened = true
  open_ : (s.transports t).life.closing = false ∧ (s.transports t).life.closed = false
  hosting : (s.transports t).core.PoweredHosting
  live : (s.transports t).Live
  drained : (s.transports t).life.drains = []

/-- What holds whatever the flags of the swarm: a transport that is still to be torn down has not
been resumed. -/
structure Tracked (t : Nat) (s : BluetoothSwarm) : Prop where
  current : s.transport = some t
  ready : (s.transports t).Ready
  draining : (s.transports t).life.drains ≠ [] → (s.transports t).life.suspended = true

/-- A transport that is wanted is live or about to be resumed by a `setTopic()`. -/
structure ResumeInv (t : Nat) (s : BluetoothSwarm) : Prop extends Tracked t s where
  unwanted : s.wanted = false → (s.transports t).life.suspended = true
  live : s.wanted = true → (s.transports t).Live ∨ ∃ task ∈ s.tasks, task.callback = .retune

variable {s s' : BluetoothSwarm} {t : Nat} {turn : Turn}

theorem LiveStart.inv (h : LiveStart t s) : ResumeInv t s where
  current := h.current
  ready := ⟨h.opened, h.open_, h.hosting, fun _ => .inl ⟨h.live.1, h.live.2.2⟩⟩
  draining draining := absurd h.drained draining
  unwanted off := absurd (h.wanted.symm.trans off) (by decide)
  live _ := .inl h.live

theorem ResumeInv.resumed (h : ResumeInv t s) : s.Resumed := by
  constructor
  · intro settled wanted
    rcases h.live wanted with live | ⟨task, mem, -⟩
    · exact ⟨t, h.current, live⟩
    · simp [settled] at mem
  · intro k current
    obtain rfl : t = k := Option.some.inj (h.current.symm.trans current)
    exact h.draining

/-- A transport that saw no power cycle is resumed at once. -/
theorem activate_eq (current : s.transport = some t)
    (uncycled : (s.transports t).core.radio.radioCycled = false) :
    s.activate turn = (s.resumeTransport turn t).await .settled .update := by
  simp [BluetoothSwarm.activate, current, uncycled]

/-- A call that activates the swarm changes its flags before. -/
theorem call_activates (turn : Turn) {c : Call} (activates : s.activates c = true) :
    ∃ noted : BluetoothSwarm, noted.transport = s.transport ∧ noted.transports = s.transports ∧
      s.call turn c = noted.activate turn := by
  cases c with
  | start =>
    simp only [BluetoothSwarm.activates, Bool.and_eq_true, Bool.not_eq_eq_eq_not, Bool.not_true]
      at activates
    obtain ⟨⟨⟨⟨supported, stopped⟩, closing⟩, closed⟩, live⟩ := activates
    refine ⟨{ s with started := true }, rfl, rfl, ?_⟩
    simp [BluetoothSwarm.call, BluetoothSwarm.start, supported, stopped, closing, closed, live]
  | resume =>
    simp only [BluetoothSwarm.activates, Bool.and_eq_true] at activates
    refine ⟨{ s with suspended := false }, rfl, rfl, ?_⟩
    simp [BluetoothSwarm.call, BluetoothSwarm.resume, activates]
  | _ => cases activates

/-- A transport that is resumed stays current and is suspended no more, and what drains goes on. -/
theorem step_resumes (resumes : s.resumes turn = some t) : (s.step turn).transport = some t ∧
    ((s.step turn).transports t).life = { (s.transports t).life with suspended := false } := by
  have resumed : ∀ noted : BluetoothSwarm, noted.transports = s.transports →
      ((noted.resumeTransport turn t).transports t).life =
        { (s.transports t).life with suspended := false } := by
    intro noted same
    simp [resumeTransport, setTransport, same]
  unfold BluetoothSwarm.resumes at resumes
  split at resumes
  · rename_i c move
    obtain ⟨current, goes⟩ := Option.filter_eq_some_iff.mp resumes
    simp only [Bool.and_eq_true, Bool.not_eq_eq_eq_not, Bool.not_true] at goes
    obtain ⟨noted, same, same', call⟩ := call_activates turn goes.1
    have run : s.step turn = (noted.resumeTransport turn t).await .settled .update := by
      simp only [BluetoothSwarm.step, move, call]
      exact activate_eq (same.trans current) (same' ▸ goes.2)
    rw [run]
    exact ⟨same.trans current, resumed noted same'⟩
  · rename_i i move
    obtain ⟨current, goes⟩ := Option.filter_eq_some_iff.mp resumes
    unfold BluetoothSwarm.retunes at goes
    split at goes
    · rename_i task found
      simp only [Bool.and_eq_true, beq_iff_eq] at goes
      obtain ⟨⟨retune, settled⟩, wanted⟩ := goes
      let taken : BluetoothSwarm := { s with tasks := s.tasks.eraseIdx i }
      have run : s.step turn = taken.resumeTransport turn t := by
        have goes : s.step turn = taken.proceed turn .retune := by
          simp [BluetoothSwarm.step, move, found, settled, retune, taken]
        obtain ⟨started, live⟩ := (wanted_iff s).mp wanted
        rw [goes]
        simp [BluetoothSwarm.proceed, taken, current, started, live]
      rw [run]
      exact ⟨current, resumed taken rfl⟩
    · cases goes
  · cases resumes

namespace Tracked

/-- Neither the transport nor what it does differs. -/
theorem congr (h : Tracked t s) (transport : s'.transport = s.transport)
    (transports : s'.transports = s.transports) : Tracked t s' := by
  obtain ⟨current, ready, draining⟩ := h
  constructor
  · rwa [transport]
  · rwa [transports]
  · rwa [transports]

/-- A call suspends the transport and awaits the drain. -/
theorem awaitSuspend (h : Tracked t s) (callback : Callback) :
    Tracked t (s.awaitSuspend turn t callback) := by
  constructor
  · exact h.current
  · simpa [BluetoothSwarm.awaitSuspend, BluetoothSwarm.setTransport, BluetoothSwarm.await]
      using h.ready.suspend turn.now turn.native
  · intro _
    simp [BluetoothSwarm.awaitSuspend, BluetoothSwarm.setTransport, BluetoothSwarm.await]

/-- A transport that is resumed with no suspend of it under way is live. -/
theorem resumeTransport (h : Tracked t s) (wanted : s.wanted = true)
    (drained : (s.transports t).life.drains = []) : ResumeInv t (s.resumeTransport turn t) := by
  obtain ⟨ready, live⟩ := h.ready.resume turn.now
  refine ⟨⟨h.current, ?_, fun draining => ?_⟩, fun off => ?_, fun _ => .inl ?_⟩
  · simpa [BluetoothSwarm.resumeTransport, BluetoothSwarm.setTransport] using ready
  · simp [BluetoothSwarm.resumeTransport, BluetoothSwarm.setTransport, drained] at draining
  · have off : s.wanted = false := off
    exact absurd (wanted.symm.trans off) (by decide)
  · simpa [BluetoothSwarm.resumeTransport, BluetoothSwarm.setTransport] using
      live.resolve_right fun draining => draining drained

end Tracked

namespace ResumeInv

/-- Flags that do not change what is wanted. -/
theorem congr (h : ResumeInv t s) (wanted : s'.wanted = s.wanted)
    (transport : s'.transport = s.transport) (transports : s'.transports = s.transports)
    (tasks : s'.tasks = s.tasks) : ResumeInv t s' := by
  refine ⟨h.toTracked.congr transport transports, ?_, ?_⟩
  · rw [wanted, transports]
    exact h.unwanted
  · rw [wanted, transports, tasks]
    exact h.live

theorem await (h : ResumeInv t s) (awaits : Await) (callback : Callback) :
    ResumeInv t (s.await awaits callback) := by
  refine ⟨h.toTracked.congr rfl rfl, h.unwanted, fun wanted => ?_⟩
  rcases h.live wanted with live | ⟨task, mem, retune⟩
  · exact .inl live
  · exact .inr ⟨task, List.mem_append_left _ mem, retune⟩

/-- A step of another transport. -/
theorem setOther (h : ResumeInv t s) {k : Nat} (other : k ≠ t) (f : Transport → Transport) :
    ResumeInv t (s.setTransport k f) := by
  have same : (s.setTransport k f).transports t = s.transports t := by
    simp [BluetoothSwarm.setTransport, other.symm]
  refine ⟨⟨h.current, ?_, ?_⟩, ?_, ?_⟩
  · rw [same]
    exact h.ready
  · rw [same]
    exact h.draining
  · rw [same]
    exact h.unwanted
  · rw [same]
    exact h.live

/-- A step of a transport that keeps it ready, live if it was, and its flags. -/
theorem setTransport (h : ResumeInv t s) (k : Nat) (f : Transport → Transport)
    (ready : (s.transports t).Ready → (f (s.transports t)).Ready ∧
      ((s.transports t).Live → (f (s.transports t)).Live))
    (suspended : (f (s.transports t)).life.suspended = (s.transports t).life.suspended)
    (drains : (f (s.transports t)).life.drains = (s.transports t).life.drains) :
    ResumeInv t (s.setTransport k f) := by
  by_cases other : k = t
  · subst other
    obtain ⟨still, live⟩ := ready h.ready
    refine ⟨⟨h.current, ?_, fun draining => ?_⟩, fun off => ?_, fun wanted => ?_⟩
    · simpa [BluetoothSwarm.setTransport] using still
    · simp only [BluetoothSwarm.setTransport, Function.update_self, drains, suspended] at draining ⊢
      exact h.draining draining
    · simpa [BluetoothSwarm.setTransport, suspended] using h.unwanted off
    · refine (h.live wanted).imp_left fun up => ?_
      simpa [BluetoothSwarm.setTransport] using live up
  · exact h.setOther other f

/-- A `setTopic()` suspends the transport to resume it later. -/
theorem awaitRetune (h : ResumeInv t s) : ResumeInv t (s.awaitSuspend turn t .retune) := by
  refine ⟨h.toTracked.awaitSuspend .retune, fun _ => ?_, fun _ => ?_⟩
  · simp [BluetoothSwarm.awaitSuspend, BluetoothSwarm.setTransport, BluetoothSwarm.await]
  · exact .inr ⟨_, List.mem_append_right _ (List.mem_singleton_self _), rfl⟩

/-- Nothing is wanted any more on a transport that is suspended already. -/
theorem of_unwanted (h : Tracked t s) (off : s.wanted = false)
    (suspended : (s.transports t).life.suspended = true) : ResumeInv t s :=
  ⟨h, fun _ => suspended, fun wanted => absurd (wanted.symm.trans off) (by decide)⟩

/-- A `stop()` or a `suspend()` suspends a transport that is no longer wanted. -/
theorem awaitUnwanted (h : Tracked t s) (off : s.wanted = false) :
    ResumeInv t (s.awaitSuspend turn t .update) := by
  refine of_unwanted (h.awaitSuspend .update) off ?_
  simp [BluetoothSwarm.awaitSuspend, BluetoothSwarm.setTransport, BluetoothSwarm.await]

/-! The calls. -/

theorem activate (h : Tracked t s) (wanted : s.wanted = true)
    (drained : (s.transports t).life.drains = []) : ResumeInv t (s.activate turn) := by
  rw [activate_eq h.current h.ready.hosting.uncycled]
  exact (h.resumeTransport wanted drained).await .settled .update

theorem call (h : ResumeInv t s) {c : Call} (open_ : c ≠ .close)
    (drained : s.activates c = true → (s.transports t).life.drains = []) :
    ResumeInv t (s.call turn c) := by
  cases c with
  | start =>
    simp only [BluetoothSwarm.call, BluetoothSwarm.start]
    split
    · exact h
    · rename_i guard
      simp only [Bool.or_eq_true, not_or, Bool.not_eq_true, Bool.not_eq_eq_eq_not, Bool.not_true,
        Bool.not_eq_false] at guard
      split
      · rename_i live
        have clear := drained (by
          simp only [activates, guard, Bool.not_false, Bool.and_true, Bool.true_and]
          exact live)
        exact activate (h.toTracked.congr rfl rfl) ((wanted_iff _).mpr ⟨rfl, by simpa using live⟩) clear
      · rename_i paused
        have paused : s.suspended = true := by simpa using paused
        exact h.congr (by simp [wanted, paused]) rfl rfl rfl
  | stop =>
    simp only [BluetoothSwarm.call, BluetoothSwarm.stop]
    split
    · exact h
    · split
      · rename_i k current
        obtain rfl : t = k := Option.some.inj (h.current.symm.trans current)
        split
        · exact awaitUnwanted (h.toTracked.congr rfl rfl) rfl
        · rename_i paused
          have paused : s.suspended = true := by simpa using paused
          exact h.congr (by simp [wanted, paused]) rfl rfl rfl
      · rename_i none
        exact absurd (h.current.symm.trans none) (by simp)
  | suspend =>
    simp only [BluetoothSwarm.call, BluetoothSwarm.suspend]
    split
    · exact h
    · split
      · rename_i k current
        obtain rfl : t = k := Option.some.inj (h.current.symm.trans current)
        split
        · exact awaitUnwanted (h.toTracked.congr rfl rfl) (by simp [wanted])
        · rename_i off
          exact h.congr (by simp [wanted, off]) rfl rfl rfl
      · rename_i none
        exact absurd (h.current.symm.trans none) (by simp)
  | resume =>
    simp only [BluetoothSwarm.call, BluetoothSwarm.resume]
    split
    · exact h
    · rename_i paused
      have paused : s.suspended = true := by simpa using paused
      split
      · rename_i on
        have clear := drained (by simp [activates, on, paused])
        exact activate (h.toTracked.congr rfl rfl) ((wanted_iff _).mpr ⟨on, rfl⟩) clear
      · rename_i off
        exact h.congr (by simp [wanted, off]) rfl rfl rfl
  | setTopic topic =>
    have noted : ResumeInv t { s with topic } := h.congr rfl rfl rfl rfl
    simp only [BluetoothSwarm.call, BluetoothSwarm.setTopic]
    split
    · exact noted
    · rename_i k current
      obtain rfl : t = k := Option.some.inj (h.current.symm.trans current)
      have tuned := noted.setTransport t (fun tr => (tr.setTopic topic).1)
        (fun ready => ready.setTopic topic) (by simp) (by simp)
      split
      · exact tuned.awaitRetune
      · exact tuned
  | setOnline online =>
    have noted : ResumeInv t { s with online } := h.congr rfl rfl rfl rfl
    simp only [BluetoothSwarm.call, BluetoothSwarm.setOnline]
    split
    · exact noted.setTransport _ _ (fun ready => ready.setOnline online turn.now) (by simp) (by simp)
    · exact noted
  | close => exact absurd rfl open_

/-! The continuations. -/

/-- A continuation that goes on leaves the list; a `setTopic()` has to make up for it. -/
theorem take (h : ResumeInv t s) {i : Nat} {task : Task} (found : s.tasks[i]? = some task)
    (other : task.callback ≠ .retune) : ResumeInv t { s with tasks := s.tasks.eraseIdx i } := by
  refine ⟨h.toTracked.congr rfl rfl, h.unwanted, fun wanted => ?_⟩
  rcases h.live wanted with live | ⟨k, mem, retune⟩
  · exact .inl live
  · refine .inr ⟨k, mem_eraseIdx_of_ne found mem ?_, retune⟩
    rintro rfl
    exact other retune

theorem proceed (h : ResumeInv t s) {i : Nat} {task : Task} (found : s.tasks[i]? = some task)
    (drained : task.callback = .retune → s.wanted = true → (s.transports t).life.drains = []) :
    ResumeInv t (({ s with tasks := s.tasks.eraseIdx i } : BluetoothSwarm).proceed turn
      task.callback) := by
  have rest := h.take found
  cases callback : task.callback with
  | update => exact rest (by simp [callback])
  | release k =>
    have rest := rest (by simp [callback])
    simp only [BluetoothSwarm.proceed, BluetoothSwarm.release]
    split
    · exact rest.setTransport k _ (fun ready => ready.congr rfl rfl rfl rfl rfl rfl) rfl rfl
    · exact rest.setTransport k _ (fun ready => ready.congr rfl rfl rfl rfl rfl rfl) rfl rfl
    · exact rest.setTransport k _ (fun ready => ready.congr rfl rfl rfl rfl rfl rfl) rfl rfl
    · exact rest
  | activate =>
    have rest := rest (by simp [callback])
    simp only [BluetoothSwarm.proceed]
    split
    · exact rest.await .settled .update
    · rename_i guard
      simp [h.current] at guard
  | rebuild =>
    have rest := rest (by simp [callback])
    simp only [BluetoothSwarm.proceed]
    split
    · exact rest
    · rename_i guard
      simp [h.current] at guard
  | retune =>
    have tracked : Tracked t { s with tasks := s.tasks.eraseIdx i } := h.toTracked.congr rfl rfl
    simp only [BluetoothSwarm.proceed]
    split
    · rename_i k current
      obtain rfl : t = k := Option.some.inj (h.current.symm.trans current)
      split
      · rename_i wanted
        exact tracked.resumeTransport wanted (drained callback wanted)
      · rename_i off
        have off : s.wanted = false := by simpa [wanted] using off
        exact of_unwanted tracked off (h.unwanted off)
    · rename_i none
      exact absurd (h.current.symm.trans none) (by simp)
  | finish =>
    have rest := rest (by simp [callback])
    exact rest.congr rfl rfl rfl rfl

/-- The end of a drain tears down a transport that is suspended. If it is wanted, a `setTopic()` is
to resume it. -/
theorem teardown (h : ResumeInv t s) {call : Nat} (mem : call ∈ (s.transports t).life.drains) :
    ResumeInv t (s.setTransport t fun tr => tr.drained call turn.now turn.native) := by
  have suspended := h.draining (List.ne_nil_of_mem mem)
  refine ⟨⟨h.current, ?_, fun _ => ?_⟩, fun _ => ?_, fun wanted => .inr ?_⟩
  · simpa [BluetoothSwarm.setTransport] using h.ready.drained call turn.now turn.native
  · simpa [BluetoothSwarm.setTransport] using suspended
  · simpa [BluetoothSwarm.setTransport] using suspended
  · refine (h.live wanted).resolve_left fun live => ?_
    exact absurd (live.1.symm.trans suspended) (by decide)

theorem drained (h : ResumeInv t s) (k call : Nat) :
    ResumeInv t (s.setTransport k fun tr => tr.drained call turn.now turn.native) := by
  by_cases other : k = t
  · subst other
    by_cases draining : call ∈ (s.transports k).life.drains
    · exact h.teardown draining
    · have idle : (s.transports k).drained call turn.now turn.native =
          (s.transports k).begin turn.native := by
        simp [Transport.drained, draining]
      refine h.setTransport k _ (fun ready => ?_) ?_ ?_
      · rw [idle]
        exact ready.begin turn.native
      · rw [idle]
        rfl
      · rw [idle]
        rfl
  · exact h.setOther other _

/-- The transport has been opened long ago. -/
theorem opened (h : ResumeInv t s) (k : Nat) (server central : AdapterState) :
    ResumeInv t (s.setTransport k fun tr => tr.runOpen server central turn.now) := by
  have idle := h.ready.runOpen server central turn.now
  refine h.setTransport k _ (fun ready => ?_) ?_ ?_
  · rw [idle]
    exact ready.begin {}
  · rw [idle]
    rfl
  · rw [idle]
    rfl

/-- An event of a transport rebuilds nothing while the adapters stay on. -/
theorem event (h : ResumeInv t s) (k : Nat) {e : Event} (powered : Transport.Powered e) :
    let s' := s.setTransport k fun tr => tr.input ⟨turn.now, turn.native, e⟩
    ResumeInv t (if .emitRadioCycled ∈ (s'.transports k).core.out then s'.rebuild turn k else s') := by
  intro s'
  have input := h.ready.input (i := ⟨turn.now, turn.native, e⟩) powered
  have moved : ResumeInv t s' := h.setTransport k _
    (fun ready => (ready.input powered).imp_right And.left) (by simp) (by simp)
  split
  · rename_i emitted
    by_cases other : k = t
    · subst other
      exact absurd (by simpa [s', BluetoothSwarm.setTransport] using emitted) input.2.2
    · have stale : s'.transport ≠ some k := fun eq =>
        other (Option.some.inj (moved.current.symm.trans eq)).symm
      simp only [BluetoothSwarm.rebuild]
      rw [if_pos (by simp [stale])]
      exact moved
  · exact moved

theorem step (h : ResumeInv t s) (steady : s.Steady turn) (drained : s.ResumesDrained turn) :
    ResumeInv t (s.step turn) := by
  unfold BluetoothSwarm.step
  split
  · rename_i c move
    simp only [Steady, move] at steady
    refine h.call steady fun activates => drained t ?_
    simp [resumes, move, h.current, activates, h.ready.hosting.uncycled]
  · rename_i i move
    split
    · rename_i task found
      split
      · rename_i settled
        refine h.proceed found fun retune wanted => drained t ?_
        simp [resumes, move, h.current, retunes, found, retune, settled, wanted]
      · exact h
    · exact h
  · split
    · exact h.opened _ _ _
    · exact h
  · split
    · exact h.drained _ _
    · exact h
  · rename_i k e move
    simp only [Steady, move] at steady
    split
    · exact h.event k steady
    · exact h

/-- Nothing is lost in a step exactly if it resumes no transport that is still to be torn down. -/
theorem resumed_iff (h : ResumeInv t s) (steady : s.Steady turn) :
    (s.step turn).Resumed ↔ s.ResumesDrained turn := by
  refine ⟨fun resumed k resumes => ?_, fun drained => (h.step steady drained).resumed⟩
  by_contra draining
  obtain ⟨current, life⟩ := step_resumes resumes
  have suspended := resumed.2 k current
  rw [life] at suspended
  exact Bool.false_ne_true (suspended draining)

end ResumeInv

/-- In a run on steady adapters no resume is lost exactly if none overtakes a suspend of its
transport. -/
theorem no_lost_resume_iff (start : LiveStart t s) (turns : List Turn)
    (steady : Runs.Each step Steady s turns) :
    Runs.Each step (fun s turn => (s.step turn).Resumed) s turns ↔
      Runs.Each step ResumesDrained s turns := by
  have same : ∀ s turn, ResumeInv t s → Steady s turn →
      ((s.step turn).Resumed ↔ s.ResumesDrained turn) := fun _ _ h steady => h.resumed_iff steady
  refine Runs.each_iff_of_allowed same (fun s turn h steady resumed => ?_) start.inv steady
  exact h.step steady ((same s turn h steady).mp resumed)

instance (s : BluetoothSwarm) (turn : Turn) : Decidable (s.ResumesDrained turn) := by
  unfold ResumesDrained
  infer_instance

instance (e : Event) : Decidable (Transport.Powered e) := by
  unfold Transport.Powered
  rcases e with _ | _ <;> infer_instance

instance (s : BluetoothSwarm) (turn : Turn) : Decidable (s.Steady turn) := by
  unfold Steady
  rcases turn.move with _ | _ <;> infer_instance

/-- A swarm that has been started on running adapters. -/
def startedSwarm : BluetoothSwarm :=
  Runs.run step (create (Config.plain (List.replicate 32 1) .gatt .ios) id true none false)
    (atOnce [.call .start, .run 0, .opened 1 .poweredOn .poweredOn, .run 0, .event 1 .serviceAdd])

theorem startedSwarm_live : LiveStart 1 startedSwarm where
  current := by decide +kernel
  wanted := by decide +kernel
  opened := by decide +kernel
  open_ := by decide +kernel
  hosting := ⟨by decide +kernel, by decide +kernel, by decide +kernel, by decide +kernel⟩
  live := by
    unfold Transport.Live
    decide +kernel
  drained := by decide +kernel

/-- A suspend that drains before the resume, and a switch of the topic behind it. -/
theorem resume_behind_drain :
    Runs.Each step (fun s turn => (s.step turn).Resumed) startedSwarm
      (atOnce [.call .suspend, .drained 1 0, .run 0, .call .resume, .run 0,
        .call (.setTopic (some [5])), .drained 1 1, .run 0]) :=
  (no_lost_resume_iff startedSwarm_live _ (by decide +kernel)).mpr (by decide +kernel)

/-- A resume while the suspend still drains: when all calls have settled, the swarm is
wanted and its transport does not advertise. -/
theorem resume_before_drain_lost :
    let turns := atOnce [.call .suspend, .call .resume, .drained 1 0, .run 0, .run 0]
    LiveStart 1 startedSwarm ∧ Runs.Each step Steady startedSwarm turns ∧
      ¬ (Runs.run step startedSwarm turns).Resumed := by
  intro turns
  refine ⟨startedSwarm_live, by decide +kernel, ?_⟩
  rintro ⟨live, -⟩
  obtain ⟨t, current, up⟩ := live (by decide +kernel) (by decide +kernel)
  have first : (Runs.run step startedSwarm turns).transport = some 1 := by decide +kernel
  obtain rfl : 1 = t := Option.some.inj (first.symm.trans current)
  have silent :
      ((Runs.run step startedSwarm turns).transports 1).core.radio.advertising = false := by
    decide +kernel
  exact Bool.false_ne_true (silent.symm.trans up.2.1)

end BleSwarm.BluetoothSwarm
