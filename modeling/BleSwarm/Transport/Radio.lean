import BleSwarm.Transport.Life

/-!
# What the handlers do to the radio

Between a power cycle, a suspend and a resume the handlers only scan, advertise,
issue commands and change what is no part of the radio. `RadioSteps` is the closure of
these few moves, so that an invariant of the radio is checked move by move and
holds of every handler.
-/

namespace BleSwarm

/-- A scan or an advertisement starts, or a power cycle is reported. -/
def Command.tunes : Command → Bool
  | .startScan _ | .startAdvertising _ | .emitRadioCycled => true
  | _ => false

namespace Core

/-- What of a core an invariant of the radio reads. -/
def tuned (c : Core) : Radio × List Command := (c.radio, c.out)

/-- The radio goes through elementary changes. -/
inductive RadioSteps (env : Env) : Core → Core → Prop
  | trans {c c' c'' : Core} : RadioSteps env c c' → RadioSteps env c' c'' → RadioSteps env c c''
  /-- Nothing of the radio changes and no command is issued. -/
  | rest {c c' : Core} (same : c'.tuned = c.tuned) : RadioSteps env c c'
  | issue (c : Core) {command : Command} (aside : command.tunes = false) :
    RadioSteps env c (c.issue command)
  /-- The reported state, the hunt and the internet path are noted. -/
  | note (c : Core) (state : AppState) (huntUntil : Nat) (online : Bool) :
    RadioSteps env c
      { c with radio.state := state, radio.huntUntil := huntUntil, radio.online := online }
  | startScan (c : Core) : RadioSteps env c (c.startScan env)
  | stopScan (c : Core) : RadioSteps env c c.stopScan
  | armScanRestart (c : Core) (live : env.halted = false) : RadioSteps env c (c.armScanRestart env)
  | onScanTimer (c : Core) : RadioSteps env c (c.onScanTimer env)
  | maybeAdvertise (c : Core) : RadioSteps env c c.maybeAdvertise
  | addService (c : Core) : RadioSteps env c { c with radio.serviceAdded := true }
  | serverState (c : Core) (s : AdapterState) : RadioSteps env c { c with radio.serverState := s }
  | powered (c : Core) : RadioSteps env c { c with radio.centralState := .poweredOn }

variable {env : Env} {c c' c'' : Core}

namespace RadioSteps

theorem refl (c : Core) : RadioSteps env c c := .rest rfl

theorem ite {p : Prop} [Decidable p] {a b : Core} (ha : RadioSteps env c a)
    (hb : RadioSteps env c b) :
    RadioSteps env c (if p then a else b) := by
  split
  · exact ha
  · exact hb

theorem foldl {α : Type*} {f : Core → α → Core} (step : ∀ c a, RadioSteps env c (f c a)) (c : Core)
    (as : List α) : RadioSteps env c (as.foldl f c) :=
  Runs.foldl_related refl trans step c as

theorem state (c : Core) (state : AppState) : RadioSteps env c { c with radio.state := state } :=
  .note c state c.radio.huntUntil c.radio.online

theorem hunt (c : Core) (huntUntil : Nat) :
    RadioSteps env c { c with radio.huntUntil := huntUntil } :=
  .note c c.radio.state huntUntil c.radio.online

/-- An operation after a change outside of the radio. -/
theorem after (op : RadioSteps env c' c'') (same : c'.tuned = c.tuned) : RadioSteps env c c'' :=
  (RadioSteps.rest same).trans op

/-- An operation before a change outside of the radio. -/
theorem before (op : RadioSteps env c c') (same : c''.tuned = c'.tuned) : RadioSteps env c c'' :=
  op.trans (.rest same)

/-- Go on with an operation, whatever the core. -/
theorem andThen (h : RadioSteps env c c') {f : Core → Core} (op : ∀ c, RadioSteps env c (f c)) :
    RadioSteps env c (f c') := h.trans (op c')

end RadioSteps

/-- What every move leaves on: the service, the advertisement and, on a running
transport, the timer of the next scan phase. None of them reports a power cycle. -/
structure Sustains (env : Env) (c c' : Core) : Prop where
  powered : c.radio.centralState = .poweredOn → c'.radio.centralState = .poweredOn
  serviceAdded : c.radio.serviceAdded = true → c'.radio.serviceAdded = true
  advertising : c.radio.advertising = true → c'.radio.advertising = true
  cycled : c'.radio.radioCycled = c.radio.radioCycled
  wasDown : c'.radio.radioWasDown = c.radio.radioWasDown
  armed : c.radio.centralState = .poweredOn → env.halted = false →
    c.radio.scanTimer.isSome = true → c'.radio.scanTimer.isSome = true
  scanning : c.radio.centralState = .poweredOn → c'.radio.scanning = true →
    c.radio.scanning = true ∨ env.halted = false ∧ c'.radio.scanTimer.isSome = true
  uncycled : .emitRadioCycled ∈ c'.out → .emitRadioCycled ∈ c.out

namespace Sustains

theorem refl (c : Core) : Sustains env c c :=
  ⟨id, id, id, rfl, rfl, fun _ _ => id, fun _ => .inl, id⟩

theorem trans (h : Sustains env c c') (h' : Sustains env c' c'') : Sustains env c c'' where
  powered := h'.powered ∘ h.powered
  serviceAdded := h'.serviceAdded ∘ h.serviceAdded
  advertising := h'.advertising ∘ h.advertising
  cycled := h'.cycled.trans h.cycled
  wasDown := h'.wasDown.trans h.wasDown
  armed powered live armed := h'.armed (h.powered powered) live (h.armed powered live armed)
  scanning powered scans := by
    rcases h'.scanning (h.powered powered) scans with before | now
    · exact (h.scanning powered before).imp_right fun ⟨live, armed⟩ =>
        ⟨live, h'.armed (h.powered powered) live armed⟩
    · exact .inr now
  uncycled := h.uncycled ∘ h'.uncycled

/-- The fields of the radio that count, and the commands, are as before. -/
theorem of_same (powered : c'.radio.centralState = c.radio.centralState)
    (serviceAdded : c'.radio.serviceAdded = c.radio.serviceAdded)
    (advertising : c'.radio.advertising = c.radio.advertising)
    (cycled : c'.radio.radioCycled = c.radio.radioCycled)
    (wasDown : c'.radio.radioWasDown = c.radio.radioWasDown)
    (armed : c'.radio.scanTimer = c.radio.scanTimer)
    (scanning : c'.radio.scanning = c.radio.scanning)
    (uncycled : .emitRadioCycled ∈ c'.out → .emitRadioCycled ∈ c.out) : Sustains env c c' where
  powered h := powered.trans h
  serviceAdded h := serviceAdded.trans h
  advertising h := advertising.trans h
  cycled := cycled
  wasDown := wasDown
  armed _ _ h := by rw [armed, h]
  scanning _ h := .inl (scanning.symm.trans h)
  uncycled := uncycled

theorem of_rest (same : c'.tuned = c.tuned) : Sustains env c c' := by
  obtain ⟨radio, out⟩ := Prod.mk.inj same
  exact .of_same (by rw [radio]) (by rw [radio]) (by rw [radio]) (by rw [radio]) (by rw [radio])
    (by rw [radio]) (by rw [radio]) (by rw [out]; exact id)

end Sustains

theorem mem_issue {command other : Command} (h : other ∈ (c.issue command).out)
    (ne : command ≠ other) : other ∈ c.out := by
  rcases List.mem_append.mp h with old | new
  · exact old
  · exact absurd (List.mem_singleton.mp new).symm ne

/-- A scan that starts arms the timer of its next phase. -/
theorem startScan_armed (c : Core) (live : env.halted = false)
    (powered : c.radio.centralState = .poweredOn) (idle : c.radio.scanning = false) :
    (c.startScan env).radio.scanTimer.isSome = true := by
  simp [startScan, live, powered, idle, armScanRestart]

theorem startScan_sustains (c : Core) : Sustains env c (c.startScan env) := by
  unfold startScan
  split
  · exact .refl c
  · rename_i live
    split
    · exact .refl c
    · exact ⟨id, id, id, rfl, rfl, fun _ _ _ => rfl, fun _ _ => .inr ⟨by simpa using live, rfl⟩,
        fun h => mem_issue (c := { c with radio.scanning := true }) h (by simp)⟩

theorem stopScan_sustains (c : Core) : Sustains env c c.stopScan := by
  unfold stopScan
  split
  · exact ⟨id, id, id, rfl, rfl, fun _ _ => id, fun _ h => (Bool.false_ne_true h).elim,
      fun h => mem_issue (c := { c with radio.scanning := false }) h (by simp)⟩
  · exact .refl c

theorem stopScan_scanning (c : Core) : c.stopScan.radio.scanning = false := by
  unfold stopScan
  split
  · rfl
  · rename_i idle
    simpa using idle

theorem armScanRestart_sustains (c : Core) : Sustains env c (c.armScanRestart env) :=
  ⟨id, id, id, rfl, rfl, fun _ _ _ => rfl, fun _ => .inl, id⟩

/-- The scan timer that fires is armed anew, except on a halted transport. -/
theorem onScanTimer_sustains (c : Core) : Sustains env c (c.onScanTimer env) := by
  have rearmed : ∀ c' : Core, Sustains env { c with radio.scanTimer := none } c' →
      (c.radio.centralState = .poweredOn → env.halted = false →
        c'.radio.scanTimer.isSome = true) → Sustains env c c' := fun c' h armed =>
    ⟨h.powered, h.serviceAdded, h.advertising, h.cycled, h.wasDown,
      fun powered live _ => armed powered live, h.scanning, h.uncycled⟩
  simp only [onScanTimer]
  split
  · rename_i halted
    exact rearmed _ (.refl _) fun _ live => by simp [halted] at live
  · split
    · exact rearmed _ (armScanRestart_sustains _) fun _ _ => rfl
    · split
      · split
        · exact rearmed _ ((stopScan_sustains _).trans (armScanRestart_sustains _)) fun _ _ => rfl
        · rename_i idle
          exact rearmed _ (startScan_sustains _) fun powered live =>
            startScan_armed _ live powered (by simpa using idle)
      · refine rearmed _ ((stopScan_sustains _).trans (startScan_sustains _)) fun powered live => ?_
        have stopped : Sustains env { c with radio.scanTimer := none }
            { c with radio.scanTimer := none }.stopScan := stopScan_sustains _
        exact startScan_armed _ live (stopped.powered powered) (stopScan_scanning _)

theorem maybeAdvertise_sustains (c : Core) : Sustains env c c.maybeAdvertise := by
  unfold maybeAdvertise
  split
  · exact .refl c
  · exact ⟨id, id, fun _ => rfl, rfl, rfl, fun _ _ => id, fun _ => .inl,
      fun h => mem_issue (c := { c with radio.advertising := true }) h (by simp)⟩

theorem RadioSteps.sustains (h : RadioSteps env c c') : Sustains env c c' := by
  induction h with
  | trans _ _ ih ih' => exact ih.trans ih'
  | rest same => exact .of_rest same
  | issue c aside =>
    refine .of_same rfl rfl rfl rfl rfl rfl rfl fun h => mem_issue h ?_
    rintro rfl
    cases aside
  | note c state huntUntil online => exact .of_same rfl rfl rfl rfl rfl rfl rfl id
  | startScan c => exact startScan_sustains c
  | stopScan c => exact stopScan_sustains c
  | armScanRestart c live => exact armScanRestart_sustains c
  | onScanTimer c => exact onScanTimer_sustains c
  | maybeAdvertise c => exact maybeAdvertise_sustains c
  | addService c => exact ⟨id, fun _ => rfl, id, rfl, rfl, fun _ _ => id, fun _ => .inl, id⟩
  | serverState c s => exact .of_same rfl rfl rfl rfl rfl rfl rfl id
  | powered c => exact ⟨fun _ => rfl, id, id, rfl, rfl, fun _ _ => id, fun _ => .inl, id⟩

end Core

end BleSwarm
