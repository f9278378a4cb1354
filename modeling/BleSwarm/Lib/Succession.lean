import BleSwarm.Lib.Runs

/-!
# Holders of an office

An office is held by one at a time, and everyone who enters it is new: the holders are numbered
in the order in which they come. Whoever has left does not come back, and once the office is
closed nobody enters or leaves.
-/

universe u v

/-- Who holds the office, how many have entered it, and whether it is closed. -/
structure Office where
  holder : Option Nat := none
  entered : Nat := 0
  closed : Bool := false

namespace Office

/-- The ways in which an office changes hands. -/
inductive Next : Office → Office → Prop
  | stays (o : Office) : Next o o
  | enters {o : Office} (vacant : o.holder = none) (opened : o.closed = false) :
    Next o { o with holder := some (o.entered + 1), entered := o.entered + 1 }
  | leaves {o : Office} (opened : o.closed = false) : Next o { o with holder := none }
  | closes (o : Office) : Next o { o with closed := true }

/-- Has held the office and left it. -/
structure Former (o : Office) (k : Nat) : Prop where
  pos : 0 < k
  entered : k ≤ o.entered
  left : o.holder ≠ some k

variable {o o' : Office} {k : Nat}

theorem Next.entered_le (h : Next o o') : o.entered ≤ o'.entered := by
  cases h with
  | enters => exact Nat.le_succ _
  | _ => exact Nat.le_refl _

/-- Whoever enters is new. -/
theorem Next.former (h : Next o o') (former : o.Former k) : o'.Former k := by
  refine ⟨former.pos, Nat.le_trans former.entered h.entered_le, ?_⟩
  cases h with
  | stays => exact former.left
  | enters =>
    intro here
    have new : o.entered + 1 = k := Option.some.inj here
    exact absurd former.entered (by omega)
  | leaves =>
    intro here
    cases here
  | closes => exact former.left

/-- Whoever is new holds the office. -/
theorem Next.holds (h : Next o o') (new : o.entered < k) (entered : k ≤ o'.entered) :
    o'.holder = some k := by
  cases h with
  | enters =>
    have last : k ≤ o.entered + 1 := entered
    have same : k = o.entered + 1 := by omega
    exact congrArg some same.symm
  | _ => exact absurd entered (Nat.not_le.mpr new)

theorem Next.eq_of_closed (h : Next o o') (closed : o.closed = true) : o' = o := by
  cases h with
  | stays => rfl
  | enters _ opened => cases opened.symm.trans closed
  | leaves opened => cases opened.symm.trans closed
  | closes => rw [← closed]

section Runs

variable {σ : Type u} {ε : Type v} {step : σ → ε → σ} {view : σ → Office} {Inv : σ → Prop} {s : σ}

/-- What has left the office of a machine does not come back in any run. -/
theorem Former.run (refines : ∀ s e, Inv s → Next (view s) (view (step s e)))
    (keep : ∀ s e, Inv s → Inv (step s e)) (start : Inv s) (former : (view s).Former k)
    (es : List ε) : (view (Runs.run step s es)).Former k := by
  let Held : σ → Prop := fun s => Inv s ∧ (view s).Former k
  have held : ∀ s e, Held s → Held (step s e) :=
    fun s e h => ⟨keep s e h.1, (refines s e h.1).former h.2⟩
  have both : Held (Runs.run step s es) := Runs.always held ⟨start, former⟩ es
  exact both.2

/-- Nor does a closed office change. -/
theorem run_of_closed (refines : ∀ s e, Inv s → Next (view s) (view (step s e)))
    (keep : ∀ s e, Inv s → Inv (step s e)) (start : Inv s) (closed : (view s).closed = true)
    (es : List ε) : view (Runs.run step s es) = view s := by
  let Held : σ → Prop := fun s' => Inv s' ∧ view s' = view s
  have held : ∀ s' e, Held s' → Held (step s' e) := by
    rintro s' e ⟨inv, same⟩
    have still : (view s').closed = true := same ▸ closed
    exact ⟨keep s' e inv, ((refines s' e inv).eq_of_closed still).trans same⟩
  have both : Held (Runs.run step s es) := Runs.always held ⟨start, rfl⟩ es
  exact both.2

end Runs

end Office
