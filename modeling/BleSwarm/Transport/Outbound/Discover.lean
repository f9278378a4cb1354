import BleSwarm.Lib.Ranking
import BleSwarm.Transport.Outbound

/-!
# Discoveries

What a discovery, or a dial window that ends, does to the dials: a connect at most, and
candidates that go on waiting.
-/

namespace BleSwarm

namespace Outbound

/-- Candidates stand under their ids, and the timer of the next window runs for them. -/
structure Waiting (o : Outbound) : Prop where
  keyed : ∀ id p, o.candidates.get? id = some p → o.ids p = id
  armed : o.candidates.size ≠ 0 → o.dialTimer.isSome = true

theorem Waiting.of_empty {o : Outbound} (empty : o.candidates = ∅) : o.Waiting := by
  refine ⟨fun id p entry => ?_, fun some_ => ?_⟩
  · rw [empty] at entry
    cases entry
  · rw [empty] at some_
    exact absurd rfl some_

theorem Waiting.hold {o : Outbound} (h : o.Waiting) (p : Ref) (deadline : Nat) :
    (o.hold p deadline).Waiting := by
  refine ⟨fun id q entry => ?_, fun _ => ?_⟩
  · simp only [Outbound.hold, OrderedMap.get?_set] at entry
    split at entry
    · rename_i here
      obtain rfl := Option.some.inj entry
      exact here.symm
    · exact h.keyed id q entry
  · simp only [Outbound.hold]
    split
    · assumption
    · rfl

end Outbound

namespace Core

/-- The guards of `_onDiscover` in front of its connect. -/
def dials (env : Env) (c : Core) (p : Ref) : Bool :=
  !env.halted && !c.undialable env (c.peripheral p).id &&
    decide (c.links.peers.size < env.cfg.maxOutbound) &&
    decide (c.dial.lastDial + dialMinInterval ≤ env.now)

/-- The candidates, strongest signal first. -/
def ranked (c : Core) : List Ref := Ranking.ranked c.signal c.dial.candidates.values

/-- The candidate that is dialed when the dial window ends now. -/
def flushed (env : Env) (c : Core) : Option Ref := c.ranked.find? (c.dials env)

variable {env : Env} {c c' : Core} {p : Ref}

theorem dials_window (dials : c.dials env p = true) :
    env.halted = false ∧ c.dial.lastDial + dialMinInterval ≤ env.now := by
  simp only [Core.dials, Bool.and_eq_true, Bool.not_eq_true', decide_eq_true_eq] at dials
  exact ⟨dials.1.1.1, dials.2⟩

/-- A peripheral that is dialed has no timer and does not cool. -/
theorem dials_free (dials : c.dials env p = true) :
    c.outbound.timers (c.peripheral p).id = none ∧ c.outbound.cools (c.peripheral p).id ≤ env.now := by
  simp only [Core.dials, Bool.and_eq_true, Bool.not_eq_true'] at dials
  obtain ⟨⟨⟨-, dialable⟩, -⟩, -⟩ := dials
  unfold undialable at dialable
  cases entry : c.dial.devices.get? (c.peripheral p).id with
  | none => simp [outbound, entry]
  | some d =>
    simp only [entry, Bool.or_eq_false_iff, decide_eq_false_iff_not, Nat.not_lt] at dialable
    obtain ⟨⟨-, cooled⟩, timer⟩ := dialable
    refine ⟨?_, by simpa [outbound, entry] using cooled⟩
    simpa [outbound, entry] using timer

/-- The rate limit holds a discovery back. -/
theorem wait_pos_iff (now last : Nat) :
    0 < (dialMinInterval : Int) - ((now : Int) - last) ↔ ¬ last + dialMinInterval ≤ now := by
  omega

theorem onDiscover_of_dials (dials : c.dials env p = true) :
    c.onDiscover env p = c.dialPeripheral env p := by
  have window := (dials_window dials).2
  simp only [Core.dials, Bool.and_eq_true, Bool.not_eq_true', decide_eq_true_eq] at dials
  obtain ⟨⟨⟨live, dialable⟩, room⟩, -⟩ := dials
  have open_ := mt (wait_pos_iff env.now c.dial.lastDial).mp (not_not.mpr window)
  unfold onDiscover
  rw [if_neg (by simp [live]), if_neg (by simp [dialable]), if_neg (Nat.not_le.mpr room)]
  exact if_neg open_

/-- A discovery that is not dialed is passed over, or held on a running transport. -/
theorem onDiscover_of_idle (idle : c.dials env p = false) :
    c.onDiscover env p = c ∨
      env.halted = false ∧ ∃ deadline, c.onDiscover env p = c.hold p deadline := by
  unfold onDiscover
  split
  · exact .inl rfl
  · rename_i live
    split
    · exact .inl rfl
    · rename_i dialable
      split
      · exact .inl rfl
      · rename_i room
        dsimp only
        split
        · exact .inr ⟨by simpa using live, _, rfl⟩
        · rename_i window
          rw [wait_pos_iff, not_not] at window
          have dials : c.dials env p = true := by
            simp [Core.dials, live, dialable, Nat.not_le.mp room, window]
          rw [dials] at idle
          cases idle

theorem hold_dials (p q : Ref) (deadline : Nat) (c : Core) :
    (c.hold p deadline).dials env q = c.dials env q := by
  simp only [hold]
  split <;> rfl

/-- A dial closes the window. -/
theorem dialPeripheral_dials (p q : Ref) (c : Core) : (c.dialPeripheral env p).dials env q = false := by
  have last : (c.dialPeripheral env p).dial.lastDial = env.now := by
    rcases dialPeripheral_outbound env p c with ⟨-, dialed⟩ | ⟨-, cool, -, dialed⟩
    · exact congrArg Outbound.lastDial dialed
    · exact congrArg Outbound.lastDial dialed
  by_contra dials
  have window := (dials_window (by simpa using dials)).2
  rw [last] at window
  exact absurd window (Nat.not_le.mpr (Nat.lt_add_of_pos_right (by decide)))

/-- Only the candidates change, which go on waiting; a halted transport takes none. -/
def Holds (env : Env) (o o' : Outbound) : Prop :=
  ∃ candidates dialTimer, o' = { o with candidates, dialTimer } ∧ (o.Waiting → o'.Waiting) ∧
    (env.halted = true → o.candidates = ∅ → o.dialTimer = none → o' = o)

theorem Holds.refl (o : Outbound) : Holds env o o := ⟨_, _, rfl, id, fun _ _ _ => rfl⟩

theorem Holds.trans {o o' o'' : Outbound} (h : Holds env o o') (h' : Holds env o' o'') :
    Holds env o o'' := by
  obtain ⟨candidates, dialTimer, rfl, waiting, still⟩ := h
  obtain ⟨_, _, rfl, waiting', still'⟩ := h'
  refine ⟨_, _, rfl, waiting' ∘ waiting, fun halted empty unarmed => ?_⟩
  have same := still halted empty unarmed
  have empty' := (congrArg Outbound.candidates same).trans empty
  have unarmed' := (congrArg Outbound.dialTimer same).trans unarmed
  exact (still' halted empty' unarmed').trans same

/-- The dial window ends, and lets the candidates go. -/
theorem Holds.of_window (o : Outbound) : Holds env o { o with candidates := ∅, dialTimer := none } := by
  refine ⟨_, _, rfl, fun _ => .of_empty rfl, fun _ empty unarmed => ?_⟩
  rw [← empty, ← unarmed]

/-- All but the candidates. -/
structure Outside (o o' : Outbound) : Prop where
  timers : o'.timers = o.timers
  cools : o'.cools = o.cools
  lastDial : o'.lastDial = o.lastDial
  connects : o'.connects = o.connects
  bound : o'.bound = o.bound
  ids : o'.ids = o.ids

theorem Holds.outside {o o' : Outbound} (h : Holds env o o') : Outside o o' := by
  obtain ⟨candidates, dialTimer, rfl, -⟩ := h
  exact ⟨rfl, rfl, rfl, rfl, rfl, rfl⟩

theorem onDiscover_holds (idle : c.dials env p = false) :
    Holds env c.outbound (c.onDiscover env p).outbound ∧
      ∀ q, (c.onDiscover env p).dials env q = c.dials env q := by
  rcases onDiscover_of_idle idle with same | ⟨live, deadline, held⟩
  · rw [same]
    exact ⟨.refl _, fun _ => rfl⟩
  · rw [held, hold_outbound]
    refine ⟨⟨_, _, rfl, fun waiting => waiting.hold p deadline, fun halted _ _ => ?_⟩,
      fun q => hold_dials p q deadline c⟩
    rw [live] at halted
    cases halted

/-- A round of discoveries of which none is dialed. -/
theorem foldl_holds (ps : List Ref) (c : Core) (idle : ∀ p ∈ ps, c.dials env p = false) :
    Holds env c.outbound (ps.foldl (onDiscover env) c).outbound := by
  induction ps generalizing c with
  | nil => exact .refl _
  | cons p ps ih =>
    obtain ⟨first, same⟩ := onDiscover_holds (idle p List.mem_cons_self)
    refine first.trans (ih _ fun q mem => ?_)
    rw [same q]
    exact idle q (List.mem_cons_of_mem p mem)

/-- A dial of the peripheral, which may throw; candidates may be held besides. -/
inductive Dials (env : Env) (o : Outbound) (p : Ref) : Outbound → Prop
  | connects (o' : Outbound) (holds : Holds env (o.dial p env.now) o')
    (taken : env.native.connectThrows = false) : Dials env o p o'
  | throws (o' : Outbound) (cool : Nat) (cooldown : Cooldown env cool)
    (holds : Holds env ((o.dial p env.now).settle (o.ids p) cool) o')
    (thrown : env.native.connectThrows = true) : Dials env o p o'

theorem Dials.holds {o o' o'' : Outbound} (h : Dials env o p o') (holds : Holds env o' o'') :
    Dials env o p o'' := by
  cases h with
  | connects before taken => exact .connects _ (before.trans holds) taken
  | throws cool cooldown before thrown => exact .throws _ cool cooldown (before.trans holds) thrown

/-- A connect of the peripheral begins its dial, or ends it with a cooldown. -/
theorem Dials.timer {o o' : Outbound} (h : Dials env o p o') :
    (env.native.connectThrows = false ∧ o'.cools = o.cools ∧
        o'.timers = Function.update o.timers (o.ids p) (some (p, env.now + connectTimeout))) ∨
    (env.native.connectThrows = true ∧ o'.timers = Function.update o.timers (o.ids p) none ∧
        ∃ cool, Cooldown env cool ∧ o'.cools = Function.update o.cools (o.ids p) cool) := by
  cases h with
  | connects holds taken => exact .inl ⟨taken, holds.outside.cools, holds.outside.timers⟩
  | throws cool cooldown holds thrown =>
    refine .inr ⟨thrown, ?_, cool, cooldown, holds.outside.cools⟩
    rw [holds.outside.timers]
    simp [Outbound.settle, Outbound.dial]

theorem Dials.rest {o o' : Outbound} (h : Dials env o p o') :
    o'.connects = o.connects ++ [p] ∧ o'.lastDial = env.now ∧ o'.bound = o.bound ∧ o'.ids = o.ids := by
  cases h with
  | connects holds taken =>
    have outside := holds.outside
    exact ⟨outside.connects, outside.lastDial, outside.bound, outside.ids⟩
  | throws cool cooldown holds thrown =>
    have outside := holds.outside
    exact ⟨outside.connects, outside.lastDial, outside.bound, outside.ids⟩

theorem onDiscover_dials (dials : c.dials env p = true) :
    Dials env c.outbound p (c.onDiscover env p).outbound := by
  rw [onDiscover_of_dials dials]
  rcases dialPeripheral_outbound env p c with ⟨taken, dialed⟩ | ⟨thrown, cool, cooldown, dialed⟩
  · rw [dialed]
    exact .connects _ (.refl _) taken
  · rw [dialed]
    exact .throws _ cool cooldown (.refl _) thrown

/-- A round of discoveries: the first that may be dialed is, and no other. -/
theorem foldl_onDiscover (ps : List Ref) (c : Core) :
    (ps.find? (c.dials env) = none ∧ Holds env c.outbound (ps.foldl (onDiscover env) c).outbound) ∨
    ∃ p, ps.find? (c.dials env) = some p ∧ c.dials env p = true ∧ ∃ o, Holds env c.outbound o ∧
      Dials env o p (ps.foldl (onDiscover env) c).outbound := by
  induction ps generalizing c with
  | nil => exact .inl ⟨rfl, .refl _⟩
  | cons p ps ih =>
    rw [List.foldl_cons]
    cases dials : c.dials env p with
    | true =>
      refine .inr ⟨p, List.find?_cons_of_pos dials, dials, c.outbound, .refl _, ?_⟩
      refine (onDiscover_dials dials).holds (foldl_holds ps _ fun q _ => ?_)
      rw [onDiscover_of_dials dials]
      exact dialPeripheral_dials p q c
    | false =>
      obtain ⟨first, same⟩ := onDiscover_holds dials
      have same : (c.onDiscover env p).dials env = c.dials env := funext same
      rw [List.find?_cons_of_neg (by simp [dials])]
      rcases ih (c.onDiscover env p) with ⟨none, held⟩ | ⟨q, found, here, o, held, dialed⟩
      · rw [same] at none
        exact .inl ⟨none, first.trans held⟩
      · rw [same] at found here
        exact .inr ⟨q, found, here, o, first.trans held, dialed⟩

/-- The dial window ends. -/
theorem onDialTimer_outbound (env : Env) (c : Core) :
    (c.flushed env = none ∧ Holds env c.outbound (c.onDialTimer env).outbound) ∨
    ∃ p, c.flushed env = some p ∧ c.dials env p = true ∧ ∃ o, Holds env c.outbound o ∧
      Dials env o p (c.onDialTimer env).outbound := by
  have window : Holds env c.outbound { c.outbound with candidates := ∅, dialTimer := none } :=
    .of_window c.outbound
  rcases foldl_onDiscover c.ranked
      { c with dial := { c.dial with dialTimer := none, candidates := ∅ } } with
    ⟨none, held⟩ | ⟨p, found, dials, o, held, dialed⟩
  · exact .inl ⟨none, window.trans held⟩
  · exact .inr ⟨p, found, dials, o, window.trans held, dialed⟩

end Core

end BleSwarm
