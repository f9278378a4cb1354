import BleSwarm.Lib.Runs
import Mathlib.Logic.Function.Basic

/-!
# Nodes that exchange messages

The nodes of a network take steps one at a time, in any order. What a step says goes on the
air and stays there, so a message may be delivered late, out of order, twice or never. Which
steps a node may take depends on what is on the air.

An invariant of such a network rests on what vouches for its messages: a property of the
sender that no step takes away again.
-/

universe u v w x

structure Network (ι : Type u) (σ : Type v) (ε : Type w) (μ : Type x) where
  step : ι → σ → ε → σ
  /-- What the step puts on the air. -/
  speaks : ι → σ → ε → List μ
  /-- The step may be taken while the nodes are in these states and this is on the air. -/
  admits : (ι → σ) → List μ → ι → ε → Prop

namespace Network

variable {ι : Type u} {σ : Type v} {ε : Type w} {μ : Type x} [DecidableEq ι]

structure State (ι : Type u) (σ : Type v) (μ : Type x) where
  nodes : ι → σ
  air : List μ := []

variable (n : Network ι σ ε μ)

/-- One node takes a step. -/
def act (s : State ι σ μ) (e : ι × ε) : State ι σ μ where
  nodes := Function.update s.nodes e.1 (n.step e.1 (s.nodes e.1) e.2)
  air := s.air ++ n.speaks e.1 (s.nodes e.1) e.2

def Admitted (s : State ι σ μ) (e : ι × ε) : Prop := n.admits s.nodes s.air e.1 e.2

@[simp] theorem act_self (s : State ι σ μ) (e : ι × ε) :
    (n.act s e).nodes e.1 = n.step e.1 (s.nodes e.1) e.2 := Function.update_self _ _ _

theorem act_of_ne (s : State ι σ μ) {e : ι × ε} {i : ι} (other : i ≠ e.1) :
    (n.act s e).nodes i = s.nodes i := Function.update_of_ne other _ _

/-- What each step at a node relates, and no step elsewhere changes, is related at every node. -/
theorem act_related {R : σ → σ → Prop} (refl : ∀ s, R s s) {s : State ι σ μ} {e : ι × ε}
    (here : R (s.nodes e.1) (n.step e.1 (s.nodes e.1) e.2)) (i : ι) :
    R (s.nodes i) ((n.act s e).nodes i) := by
  by_cases same : i = e.1
  · subst same
    rw [act_self]
    exact here
  · rw [act_of_ne n s same]
    exact refl _

/-- Every message on the air is vouched for. -/
def Vouched (V : State ι σ μ → μ → Prop) (s : State ι σ μ) : Prop := ∀ m ∈ s.air, V s m

variable {n}

/-- What vouches for a message is not taken away, and new messages are vouched for. -/
theorem Vouched.act {V : State ι σ μ → μ → Prop} {s : State ι σ μ} {e : ι × ε} (h : Vouched V s)
    (stable : ∀ m, V s m → V (n.act s e) m)
    (vouch : ∀ m ∈ n.speaks e.1 (s.nodes e.1) e.2, V (n.act s e) m) : Vouched V (n.act s e) := by
  intro m mem
  rcases List.mem_append.mp mem with old | new
  · exact stable m (h m old)
  · exact vouch m new

/-- The rule of a network. A step may rely on what vouches for the messages on the air; in
return it keeps the invariant, takes no voucher away and vouches for what it says. -/
theorem sound {I : State ι σ μ → Prop} {V : State ι σ μ → μ → Prop}
    (keep : ∀ s e, I s → Vouched V s → n.Admitted s e → I (n.act s e))
    (stable : ∀ s e m, I s → n.Admitted s e → V s m → V (n.act s e) m)
    (vouch : ∀ s e, I s → Vouched V s → n.Admitted s e →
      ∀ m ∈ n.speaks e.1 (s.nodes e.1) e.2, V (n.act s e) m)
    {s : State ι σ μ} (start : I s) (vouched : Vouched V s) {es : List (ι × ε)}
    (admitted : Runs.Each n.act n.Admitted s es) :
    I (Runs.run n.act s es) ∧ Vouched V (Runs.run n.act s es) := by
  have kept : ∀ s e, (I s ∧ Vouched V s) → n.Admitted s e →
      I (n.act s e) ∧ Vouched V (n.act s e) := by
    rintro s e ⟨holds, vouched⟩ admitted
    refine ⟨keep s e holds vouched admitted, vouched.act ?_ ?_⟩
    · exact fun m => stable s e m holds admitted
    · exact vouch s e holds vouched admitted
  exact Runs.invariant kept ⟨start, vouched⟩ admitted

end Network
