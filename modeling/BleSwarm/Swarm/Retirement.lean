import BleSwarm.Swarm.Step
import BleSwarm.Transport.Life

/-!
# Retirements in flight

A transport that `_abandon` takes away retires until its managers are released.
`RetireInv` says who awaits that; calls that do not go through `_abandon` leave the
retirements alone.
-/

namespace BleSwarm

namespace Callback

/-- The code behind `await this._abandon()`. -/
def waits : Callback → Bool
  | .activate | .rebuild => true
  | _ => false

def releases : Callback → Bool
  | .release _ => true
  | _ => false

end Callback

namespace BluetoothSwarm

/-- What `_abandon` does to the managers of a transport on the given platform. -/
def Released (platform : Platform) (l : Life) : Prop :=
  match platform with
  | .mac | .android => l.managersDestroyed = true
  | .ios => l.servicesRemoved = true
  | .other => True

/-- The retirement of a transport that still awaits its `suspend()`. -/
def Retiring (s : BluetoothSwarm) (t : Nat) : Prop := ∃ task ∈ s.tasks, task.callback = .release t

/-- The transport was suspended, its retirement is over and its managers are released. -/
def Retired (s : BluetoothSwarm) (t : Nat) : Prop :=
  (s.transports t).life.suspended = true ∧ ¬ s.Retiring t ∧
    Released s.cfg.platform (s.transports t).life

/-- A step that creates a transport finds every earlier one retired. -/
def CreatesLast (s : BluetoothSwarm) (turn : Turn) : Prop :=
  (s.step turn).gen ≠ s.gen → ∀ t, s.created t = true → s.Retired t

/-- Some retirement is going on. -/
def retiring (s : BluetoothSwarm) : Bool := s.tasks.any fun task => task.callback.releases

/-- Some call is behind `_abandon`. -/
def waiting (s : BluetoothSwarm) : Bool := s.tasks.any fun task => task.callback.waits

/-- `_activate` is not entered without a transport while one retires, and no transport
is abandoned while a call is behind `_abandon`. -/
def InTurn (s : BluetoothSwarm) (turn : Turn) : Prop :=
  match turn.move with
  | .call c => s.activates c = true →
    match s.transport with
    | none => s.retiring = false
    | some t => (s.transports t).core.radio.radioCycled = true → s.waiting = false
  | .event t e => s.transport = some t →
    .emitRadioCycled ∈ ((s.transports t).input ⟨turn.now, turn.native, e⟩).core.out →
      s.waiting = false
  | _ => True

instance (s : BluetoothSwarm) (turn : Turn) : Decidable (s.InTurn turn) := by
  unfold InTurn
  rcases turn.move with _ | _
  · rcases s.transport with _ | _ <;> infer_instance
  all_goals infer_instance

/-- A retirement in flight leaves no current transport, and whoever is behind
`_abandon` awaits it. -/
structure RetireInv (s : BluetoothSwarm) : Prop where
  alone : ∀ t k, s.transport = some t → ¬ s.Retiring k
  awaited : ∀ w ∈ s.tasks, w.callback.waits = true → ∀ t, s.Retiring t → w.awaits = .retired t
  released : ∀ t, s.created t = true → s.transport ≠ some t →
    s.Retiring t ∨ Released s.cfg.platform (s.transports t).life

variable {s s' : BluetoothSwarm} {turn : Turn}

theorem retiring_iff : s.retiring = true ↔ ∃ t, s.Retiring t := by
  simp only [retiring, List.any_eq_true, Retiring]
  constructor
  · rintro ⟨task, mem, releases⟩
    cases callback : task.callback with
    | release t => exact ⟨t, task, mem, callback⟩
    | _ => simp [callback, Callback.releases] at releases
  · rintro ⟨t, task, mem, callback⟩
    exact ⟨task, mem, by simp [callback, Callback.releases]⟩

theorem not_retiring (h : s.retiring = false) (t : Nat) : ¬ s.Retiring t := fun retires => by
  rw [retiring_iff.mpr ⟨t, retires⟩] at h
  cases h

theorem not_waiting (h : s.waiting = false) {w : Task} (mem : w ∈ s.tasks) :
    w.callback.waits = false := by
  simpa [waiting] using (List.any_eq_false.mp h) w mem

/-- A step of one transport keeps what has been released. -/
def Kept (l l' : Life) : Prop :=
  (l.managersDestroyed = true → l'.managersDestroyed = true) ∧
    (l.servicesRemoved = true → l'.servicesRemoved = true)

theorem Released.kept {platform : Platform} {l l' : Life} (h : Released platform l)
    (kept : Kept l l') : Released platform l' := by
  cases platform with
  | mac => exact kept.1 h
  | android => exact kept.1 h
  | ios => exact kept.2 h
  | other => trivial

/-- What matters of two states that differ in calls and transports only. -/
structure Alike (s s' : BluetoothSwarm) : Prop where
  cfg : s'.cfg = s.cfg
  gen : s'.gen = s.gen
  transport : s'.transport = s.transport
  tasks : ∀ task : Task, (task.callback.waits || task.callback.releases) = true →
    (task ∈ s'.tasks ↔ task ∈ s.tasks)
  kept : ∀ t, Kept (s.transports t).life (s'.transports t).life

namespace Alike

theorem retiring (h : Alike s s') (t : Nat) : s'.Retiring t ↔ s.Retiring t := by
  have same : ∀ task : Task, task.callback = .release t → (task ∈ s'.tasks ↔ task ∈ s.tasks) :=
    fun task eq => h.tasks task (by simp [eq, Callback.releases])
  constructor
  · rintro ⟨task, mem, eq⟩
    exact ⟨task, (same task eq).mp mem, eq⟩
  · rintro ⟨task, mem, eq⟩
    exact ⟨task, (same task eq).mpr mem, eq⟩

theorem inv (alike : Alike s s') (h : RetireInv s) : RetireInv s' where
  alone t k current := by
    rw [alike.transport] at current
    rw [alike.retiring k]
    exact h.alone t k current
  awaited w mem waits t retires :=
    h.awaited w ((alike.tasks w (by simp [waits])).mp mem) waits t ((alike.retiring t).mp retires)
  released t created other := by
    rw [alike.transport] at other
    have created : s.created t = true := by
      simpa only [BluetoothSwarm.created, alike.gen] using created
    rcases h.released t created other with retires | released
    · exact .inl ((alike.retiring t).mpr retires)
    · rw [alike.cfg]
      exact .inr (released.kept (alike.kept t))

theorem refl (s : BluetoothSwarm) : Alike s s :=
  ⟨rfl, rfl, rfl, fun _ _ => Iff.rfl, fun _ => ⟨id, id⟩⟩

theorem trans {s'' : BluetoothSwarm} (h : Alike s s') (h' : Alike s' s'') : Alike s s'' where
  cfg := h'.cfg.trans h.cfg
  gen := h'.gen.trans h.gen
  transport := h'.transport.trans h.transport
  tasks task kind := (h'.tasks task kind).trans (h.tasks task kind)
  kept t := ⟨(h'.kept t).1 ∘ (h.kept t).1, (h'.kept t).2 ∘ (h.kept t).2⟩

theorem await (awaits : Await) {callback : Callback} (waits : callback.waits = false)
    (releases : callback.releases = false) : Alike s (s.await awaits callback) := by
  refine ⟨rfl, rfl, rfl, fun task kind => ?_, fun _ => ⟨id, id⟩⟩
  have other : task ≠ ⟨awaits, callback⟩ := by
    rintro rfl
    simp [waits, releases] at kind
  simp [BluetoothSwarm.await, other]

theorem setTransport (t : Nat) (f : Transport → Transport)
    (kept : Kept (s.transports t).life (f (s.transports t)).life) :
    Alike s (s.setTransport t f) := by
  refine ⟨rfl, rfl, rfl, fun _ _ => Iff.rfl, fun k => ?_⟩
  by_cases eq : k = t
  · subst eq
    simpa [BluetoothSwarm.setTransport] using kept
  · simp [BluetoothSwarm.setTransport, eq, Kept]

theorem awaitSuspend (t : Nat) {callback : Callback} (waits : callback.waits = false)
    (releases : callback.releases = false) : Alike s (s.awaitSuspend turn t callback) :=
  (setTransport t _ ⟨id, id⟩).trans (await _ waits releases)

theorem resumeTransport (t : Nat) : Alike s (s.resumeTransport turn t) :=
  setTransport t _ (by simp [Kept])

end Alike

/-! The operations that leave the retirements alone. -/

theorem stop_alike : Alike s (s.stop turn) := by
  have halted :
      Alike s { s with started := false } := ⟨rfl, rfl, rfl, fun _ _ => Iff.rfl, fun _ => ⟨id, id⟩⟩
  simp only [stop]
  split
  · exact .refl s
  · split
    · split
      · exact halted.trans (.awaitSuspend _ rfl rfl)
      · exact halted
    · exact halted

theorem suspend_alike : Alike s (s.suspend turn) := by
  have paused :
      Alike s { s with suspended := true } := ⟨rfl, rfl, rfl, fun _ _ => Iff.rfl, fun _ => ⟨id, id⟩⟩
  simp only [suspend]
  split
  · exact .refl s
  · split
    · split
      · exact paused.trans (.awaitSuspend _ rfl rfl)
      · exact paused
    · exact paused

theorem setOnline_alike (online : Bool) : Alike s (s.setOnline turn online) := by
  have noted : Alike s { s with online } := ⟨rfl, rfl, rfl, fun _ _ => Iff.rfl, fun _ => ⟨id, id⟩⟩
  simp only [setOnline]
  split
  · exact noted.trans (.setTransport _ _ ⟨id, id⟩)
  · exact noted

theorem setTopic_alike (topic : Option Bytes) : Alike s (s.setTopic turn topic) := by
  have noted : Alike s { s with topic } := ⟨rfl, rfl, rfl, fun _ _ => Iff.rfl, fun _ => ⟨id, id⟩⟩
  simp only [setTopic]
  split
  · exact noted
  · rename_i t _
    have tuned := noted.trans (.setTransport t (fun tr => (tr.setTopic topic).1) ⟨id, id⟩)
    split
    · exact tuned.trans (.awaitSuspend _ rfl rfl)
    · exact tuned

theorem close_kept (t : Transport) (now : Nat) : Kept t.life (t.close now).life := by
  simp only [Transport.close]
  split
  · exact ⟨id, id⟩
  · split
    · exact ⟨id, id⟩
    · exact ⟨id, id⟩

theorem runOpen_kept (t : Transport) (server central : AdapterState) (now : Nat) :
    Kept t.life (t.runOpen server central now).life := by
  simp only [Transport.runOpen]
  split
  · exact ⟨id, id⟩
  · split
    · exact ⟨id, id⟩
    · exact ⟨id, id⟩

theorem close_alike : Alike s (s.close turn) := by
  have closing : Alike s { s with started := false, closing := true } :=
    ⟨rfl, rfl, rfl, fun _ _ => Iff.rfl, fun _ => ⟨id, id⟩⟩
  simp only [close]
  split
  · exact .refl s
  · split
    · exact closing.trans ((Alike.setTransport _ _ (close_kept _ _)).trans (.await _ rfl rfl))
    · exact closing.trans (.await _ rfl rfl)

/-! The end of a retirement. -/

theorem release_rest (s : BluetoothSwarm) (t : Nat) : (s.release t).cfg = s.cfg ∧
    (s.release t).gen = s.gen ∧ (s.release t).transport = s.transport ∧
      (s.release t).tasks = s.tasks := by
  unfold release
  split <;> exact ⟨rfl, rfl, rfl, rfl⟩

theorem release_released (s : BluetoothSwarm) (t : Nat) :
    Released s.cfg.platform ((s.release t).transports t).life := by
  unfold release
  cases platform : s.cfg.platform <;> simp [Released, setTransport]

theorem release_kept (s : BluetoothSwarm) (t k : Nat) :
    Kept (s.transports k).life ((s.release t).transports k).life := by
  have kept : ∀ f : Transport → Transport, (∀ tr, Kept tr.life (f tr).life) →
      Kept (s.transports k).life ((s.setTransport t f).transports k).life :=
    fun f keep => (Alike.setTransport t f (keep _)).kept k
  unfold release
  split
  · exact kept _ fun _ => ⟨fun _ => rfl, id⟩
  · exact kept _ fun _ => ⟨fun _ => rfl, id⟩
  · exact kept _ fun _ => ⟨id, fun _ => rfl⟩
  · exact ⟨id, id⟩

end BluetoothSwarm

end BleSwarm
