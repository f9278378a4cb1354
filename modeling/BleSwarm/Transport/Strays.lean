import BleSwarm.Transport.Caps
import BleSwarm.Transport.Outbound.Step

/-!
# Dial timers that outlive their records

A drain that ends takes the records of the peripherals and clears no timer in them. Only a
dial that began after a `resume()` is in flight there, and its timer stays armed.
-/

namespace BleSwarm.Core

variable {env : Env} {effects : Effects} {c c' : Core}

theorem Performs.strays (h : Performs env effects c c') :
    c'.dial.strays.Sublist c.dial.strays := by
  have of_dial : ∀ {c c' : Core}, c'.dial = c.dial → c'.dial.strays.Sublist c.dial.strays := by
    intro c c' same
    rw [same]
  induction h with
  | trans _ _ ih ih' => exact ih'.trans ih
  | maybeCycle c serves due => exact of_dial (maybeCycle_dial env c)
  | startScan c scans => exact of_dial (startScan_radioOnly env c).dial
  | stopScan c scans => exact of_dial (stopScan_radioOnly c).dial
  | onScanTimer c scans => exact of_dial (onScanTimer_radioOnly env c).dial
  | dial c dial calm steady strays outlook => exact strays
  | _ => exact .refl _

theorem onRadioDown_strays (c : Core) : c.onRadioDown.dial.strays = c.dial.strays := by
  obtain ⟨_, _, eq⟩ := onRadioDown_eq c
  rw [eq]
  rfl

theorem onServerState_strays (env : Env) (c : Core) (s : AdapterState) :
    (c.onServerState env s).dial.strays = c.dial.strays := by
  let noted := { c with radio.serverState := s }.onState s
  have notes : noted.dial = c.dial := (onState_radioOnly { c with radio.serverState := s } s).dial
  have served : (noted.startServer env).dial = noted.dial := (startServer_radioOnly env noted).dial
  simp only [onServerState]
  split
  · exact congrArg Dial.strays (served.trans notes)
  · split
    · exact (onRadioDown_strays noted).trans (congrArg Dial.strays notes)
    · exact congrArg Dial.strays notes

theorem onCentralState_strays (env : Env) (c : Core) (s : AdapterState) :
    (c.onCentralState env s).dial.strays = c.dial.strays := by
  let noted := { c with radio.centralState := s }.onState s
  have notes : noted.dial = c.dial := (onState_radioOnly { c with radio.centralState := s } s).dial
  have heals : (noted.scheduleSelfHeal env).dial = noted.dial :=
    (scheduleSelfHeal_radioOnly env noted).dial
  have scans : (noted.startScan env).dial = noted.dial := (startScan_radioOnly env noted).dial
  simp only [onCentralState]
  split
  · split
    · exact congrArg Dial.strays (heals.trans notes)
    · exact congrArg Dial.strays (scans.trans notes)
  · split
    · exact (onRadioDown_strays noted).trans (congrArg Dial.strays notes)
    · exact congrArg Dial.strays notes

theorem onConnOpen_strays (env : Env) (c : Core) (r : Ref) (key : Bytes) :
    (c.onConnOpen env r key).dial.strays.Sublist c.dial.strays := by
  have tracked : ∀ c : Core, (c.track env r).dial.strays = (c.notePeerKey r).dial.strays := by
    intro c
    simp only [track]
    split
    · rfl
    · split <;> rfl
  have noted : ∀ c : Core, (c.notePeerKey r).dial.strays.Sublist c.dial.strays := by
    intro c
    have h : Performs env {} c (c.notePeerKey r) := notePeerKey_performs r c
    exact h.strays
  simp only [onConnOpen]
  split
  · rw [tracked]
    exact noted { c with links := c.links.prove r key }
  · exact .refl _

/-- The timers of the dials in flight stay behind a teardown. -/
theorem teardown_strays (env : Env) (c : Core) : (c.teardown env).dial.strays =
    c.dial.strays ++ c.dial.devices.values.filterMap Device.timer := by
  rw [teardown_dial]
  rfl

end BleSwarm.Core

namespace BleSwarm.Transport

open BleSwarm.Core

variable (t : Transport)

theorem handle_strays (env : Env) (e : Event) :
    (t.handle env e).core.dial.strays.Sublist t.core.dial.strays := by
  by_cases ordinary : ¬ Special e
  · by_cases published : ∃ psm, e = .channelPublish psm
    · obtain ⟨psm, rfl⟩ := published
      exact .refl _
    · exact (handle_performs t env ordinary fun psm here => published ⟨psm, here⟩).strays
  · cases e with
    | serverState s => exact (onServerState_strays env t.core s) ▸ .refl _
    | centralState s => exact (onCentralState_strays env t.core s) ▸ .refl _
    | serviceAdd => exact (congrArg Dial.strays (onServiceAdd_radioOnly t.core).dial) ▸ .refl _
    | connOpen r key => exact onConnOpen_strays env t.core r key
    | _ => exact absurd (by simp [Special]) ordinary

/-- The timers whose records go when the step ends a drain. -/
def left (t : Transport) : Action → List (Ref × Nat)
  | .drained call _ _ =>
    if call ∈ t.life.drains then t.core.dial.devices.values.filterMap Device.timer else []
  | _ => []

/-- A timer without a record is one that was there before, or is left by the end of a drain. -/
theorem act_strays (a : Action) :
    (t.act a).core.dial.strays.Sublist (t.core.dial.strays ++ t.left a) := by
  have same : ∀ {strays : List (Ref × Nat)}, strays = t.core.dial.strays →
      strays.Sublist (t.core.dial.strays ++ []) := fun here => by simp [here]
  cases a with
  | input i =>
    simp only [act, input, left, List.append_nil]
    split
    · exact handle_strays (t.begin i.native) _ _
    · exact .refl _
  | «open» server central now =>
    apply same
    simp only [act, runOpen]
    split
    · rfl
    · have opens : ∀ (env : Env) (c : Core), (c.doOpen env server central).dial.strays = c.dial.strays :=
        fun env c => congrArg Dial.strays (doOpen_radioOnly env c server central).dial
      split
      · simp only [runClose, withCore_core, doClose_eq]
        exact opens _ _
      · exact opens _ _
  | suspend now native =>
    have said : ∀ (env : Env) (c : Core), (c.sayGoodbye env).dial.strays.Sublist c.dial.strays := by
      intro env c
      have h : Performs env {} c (c.sayGoodbye env) := sayGoodbye_performs c
      exact h.strays
    simp only [left, List.append_nil]
    exact said _ _
  | drained call now native =>
    by_cases pending : call ∈ t.life.drains
    · have run : (t.act (.drained call now native)).core =
          (t.begin native).core.teardown (t.env now native) := drained_core pending
      rw [run, teardown_strays, left, if_pos pending]
      exact .refl _
    · have run : (t.act (.drained call now native)).core = (t.begin native).core := by
        simp only [act, drained]
        exact congrArg Transport.core (if_neg pending)
      rw [run, left, if_neg pending]
      exact same rfl
  | resume now =>
    apply same
    simp only [act, resume]
    split
    · rfl
    · exact congrArg Dial.strays (doResume_radioOnly _ _).dial
  | close now =>
    apply same
    simp only [act, close]
    split
    · rfl
    · split
      · simp only [runClose, withCore_core, doClose_eq]
        rfl
      · rfl
  | setOnline online now => exact same (congrArg Dial.strays (setOnline_radioOnly _ _ online).dial)
  | setTopic topic =>
    apply same
    simp only [act, setTopic, Core.setTopic]
    split <;> rfl

/-- Where no drain ends with a dial in flight, no timer outlives its record. -/
theorem run_strays {t : Transport} {as : List Action} (none : t.core.dial.strays = [])
    (ends : Runs.Each act (fun t a => t.left a = []) t as) :
    (Runs.run act t as).core.dial.strays = [] := by
  have keep : ∀ (t : Transport) a, t.core.dial.strays = [] → t.left a = [] →
      (t.act a).core.dial.strays = [] := by
    intro t a none left
    have fewer := t.act_strays a
    rw [none, left] at fewer
    exact List.eq_nil_of_sublist_nil fewer
  exact Runs.invariant keep none ends

end BleSwarm.Transport
