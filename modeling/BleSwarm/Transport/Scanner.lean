import BleSwarm.Transport.Cooldown
import BleSwarm.Transport.Listener.Step

/-!
# What the scanner is told

Handlers ask for the scan as one step of what they do, and only a scan that does not
run is started. Of the reported state, the adapter and the scan each handler therefore
leaves what it found, or what one start makes of it. `AsksScan` says which.
-/

namespace BleSwarm

/-- The scan as a callback sees it: `told` is what the central was told by the callback so far. -/
structure Scanner where
  scanning : Bool
  central : AdapterState
  uuid : Hex
  state : AppState
  told : List Command

namespace Scanner

/-- What `_startScan` makes of it. -/
def start (s : Scanner) (halted : Bool) : Scanner :=
  if halted || s.scanning || decide (s.central ≠ .poweredOn) then s
  else { s with scanning := true, told := s.told ++ [.startScan s.uuid] }

/-- What `_stopScan` makes of it. -/
def stop (s : Scanner) : Scanner :=
  if s.scanning then { s with scanning := false, told := s.told ++ [.stopScan] } else s

/-- A start that is asked for or not. -/
def rouse (s : Scanner) (halted wakes : Bool) : Scanner := if wakes then s.start halted else s

variable (s : Scanner) (halted : Bool)

theorem start_of_halted : s.start true = s := by
  simp only [start, Bool.true_or, if_true]

theorem start_start : (s.start halted).start halted = s.start halted := by
  by_cases keeps : (halted || s.scanning || decide (s.central ≠ .poweredOn)) = true
  · have same : s.start halted = s := if_pos keeps
    rw [same, same]
  · have runs : (s.start halted).scanning = true := by
      rw [start, if_neg keeps]
    rw [start, runs, Bool.or_true, Bool.true_or, if_pos rfl]

theorem rouse_rouse (a b : Bool) : (s.rouse halted a).rouse halted b = s.rouse halted (a || b) := by
  cases a with
  | false => rfl
  | true =>
    cases b with
    | false => rfl
    | true => exact start_start s halted

@[simp] theorem start_state : (s.start halted).state = s.state := by
  simp only [start]
  split <;> rfl

@[simp] theorem rouse_state (wakes : Bool) : (s.rouse halted wakes).state = s.state := by
  cases wakes with
  | false => rfl
  | true => exact start_state s halted

theorem stop_of_idle {s : Scanner} (idle : s.scanning = false) : s.stop = s := by
  rw [stop, idle]
  rfl

@[simp] theorem stop_scanning : s.stop.scanning = false := by
  simp only [stop]
  split
  · rfl
  · rename_i idle
    exact Bool.eq_false_iff.mpr idle

@[simp] theorem stop_state : s.stop.state = s.state := by
  simp only [stop]
  split <;> rfl

/-- A start tells the central something if the scan does not run and the adapter is on. -/
theorem start_told_iff {s : Scanner} (silent : s.told = []) (idle : s.scanning = false) :
    (s.start false).told = [] ↔ s.central ≠ .poweredOn := by
  by_cases on : s.central = .poweredOn
  · simp [start, idle, on]
  · simp [start, idle, on, silent]

end Scanner

namespace Core

def scanner (c : Core) : Scanner where
  scanning := c.radio.scanning
  central := c.radio.centralState
  uuid := c.radio.discoveryUUID
  state := c.radio.state
  told := c.out.filter Command.toggles

/-- The scan is asked for where `wakes`, and left alone elsewhere. -/
def AsksScan (env : Env) (wakes : Bool) (c c' : Core) : Prop :=
  c'.scanner = c.scanner.rouse env.halted wakes

/-- The scan is as before. -/
def SameScan (c c' : Core) : Prop := c'.scanner = c.scanner

variable {env : Env} {c c' c'' : Core} {a b : Bool}

namespace SameScan

theorem refl (c : Core) : c.SameScan c := rfl

theorem trans (h : c.SameScan c') (h' : c'.SameScan c'') : c.SameScan c'' := Eq.trans h' h

theorem ite {p : Prop} [Decidable p] {a b : Core} (ha : c.SameScan a) (hb : c.SameScan b) :
    c.SameScan (if p then a else b) := by
  split
  · exact ha
  · exact hb

/-- Go on with an operation, whatever the core. -/
theorem andThen (h : c.SameScan c') {f : Core → Core} (op : ∀ c, SameScan c (f c)) :
    c.SameScan (f c') :=
  h.trans (op c')

theorem asksScan (h : c.SameScan c') : AsksScan env false c c' := h

end SameScan

namespace AsksScan

theorem trans (h : AsksScan env a c c') (h' : AsksScan env b c' c'') :
    AsksScan env (a || b) c c'' := by
  unfold AsksScan at h h' ⊢
  rw [h', h, Scanner.rouse_rouse]

/-- Operations that leave the scan alone before and after. -/
theorem after (h : AsksScan env a c' c'') (sameScan : c.SameScan c') : AsksScan env a c c'' := by
  unfold AsksScan at h ⊢
  rw [h, sameScan]

theorem before (h : AsksScan env a c c') (sameScan : c'.SameScan c'') : AsksScan env a c c'' :=
  Eq.trans sameScan h

/-- On a halted transport no scan starts. -/
theorem of_halted (halted : env.halted = true) (sameScan : c.SameScan c') :
    AsksScan env a c c' := by
  unfold AsksScan
  rw [sameScan, halted]
  cases a with
  | false => rfl
  | true => exact (Scanner.start_of_halted c.scanner).symm

/-- Listeners that all do the same, while what they look at stays as it is. -/
theorem iterate {f : Core → Core} {Q : Core → Prop}
    (step : ∀ c, Q c → AsksScan env a c (f c) ∧ Q (f c))
    (n : Nat) {c : Core} (start : Q c) : AsksScan env (decide (0 < n) && a) c (f^[n] c) := by
  induction n generalizing c with
  | zero => rfl
  | succ n ih =>
    obtain ⟨first, next⟩ := step c start
    have whole := first.trans (ih next)
    rw [Function.iterate_succ_apply]
    cases a with
    | false =>
      rw [Bool.and_false] at whole ⊢
      exact whole
    | true => exact whole

end AsksScan

/-! The scan itself. -/

theorem issue_sameScan (c : Core) {command : Command} (aside : command.toggles = false) :
    c.SameScan (c.issue command) := by
  simp [SameScan, scanner, issue, aside]

theorem startScan_asksScan (c : Core) : AsksScan env true c (c.startScan env) := by
  unfold AsksScan startScan
  simp only [Scanner.rouse, Scanner.start, if_true]
  cases halted : env.halted with
  | true => rfl
  | false =>
    simp only [Bool.false_eq_true, if_false, Bool.false_or]
    split
    · rename_i keeps
      exact (if_pos keeps).symm
    · rename_i starts
      refine Eq.trans ?_ (if_neg starts).symm
      simp [scanner, armScanRestart, issue, Command.toggles]

theorem stopScan_scanner (c : Core) : c.stopScan.scanner = c.scanner.stop := by
  unfold stopScan Scanner.stop
  split
  · rename_i runs
    refine Eq.trans ?_ (if_pos runs).symm
    simp [scanner, issue, Command.toggles]
  · rename_i idle
    exact (if_neg idle).symm

theorem armScanRestart_sameScan (c : Core) : c.SameScan (c.armScanRestart env) := rfl

end Core

end BleSwarm
