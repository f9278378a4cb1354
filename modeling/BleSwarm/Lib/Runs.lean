import Mathlib.Data.List.Basic
import Mathlib.Logic.Function.Iterate

/-!
# Runs of a deterministic machine

A machine is its step function. A run is the list of the labels it is driven
with, so every prefix of a run is a run and what holds at the end of all runs
holds in every state reached. Conditions and conclusions about single steps are
relations between the state before a step and its label; `Each` asks one of
every step of a run.
-/

universe u v

namespace Runs

variable {σ : Type u} {ε : Type v}

def run (step : σ → ε → σ) (s : σ) (es : List ε) : σ := es.foldl step s

/-- Every step of the run is taken from a state and with a label related by `P`. -/
def Each (step : σ → ε → σ) (P : σ → ε → Prop) : σ → List ε → Prop
  | _, [] => True
  | s, e :: es => P s e ∧ Each step P (step s e) es

instance Each.decidable (step : σ → ε → σ) (P : σ → ε → Prop) [∀ s e, Decidable (P s e)] (s : σ)
    (es : List ε) : Decidable (Each step P s es) :=
  match es with
  | [] => inferInstanceAs (Decidable True)
  | e :: es => @instDecidableAnd _ _ _ (Each.decidable step P (step s e) es)

variable {step : σ → ε → σ}

@[simp] theorem run_nil (s : σ) : run step s [] = s := rfl

@[simp] theorem run_cons (s : σ) (e : ε) (es : List ε) :
    run step s (e :: es) = run step (step s e) es := rfl

/-- An invariant that the allowed steps keep holds after every run of allowed steps. -/
theorem invariant {Inv : σ → Prop} {Ok : σ → ε → Prop}
    (keep : ∀ s e, Inv s → Ok s e → Inv (step s e)) {s : σ} (start : Inv s) {es : List ε}
    (ok : Each step Ok s es) : Inv (run step s es) := by
  induction es generalizing s with
  | nil => exact start
  | cons e es ih => exact ih (keep s e start ok.1) ok.2

/-- An invariant that every step keeps holds after every run. -/
theorem always {Inv : σ → Prop} (keep : ∀ s e, Inv s → Inv (step s e)) {s : σ} (start : Inv s)
    (es : List ε) : Inv (run step s es) := by
  induction es generalizing s with
  | nil => exact start
  | cons e es ih => exact ih (keep s e start)

/-- What an invariant gives for one allowed step holds of each step of an allowed run. -/
theorem each_of_invariant {Inv : σ → Prop} {Ok P : σ → ε → Prop}
    (keep : ∀ s e, Inv s → Ok s e → Inv (step s e))
    (here : ∀ s e, Inv s → Ok s e → P s e) {s : σ} (start : Inv s) {es : List ε}
    (ok : Each step Ok s es) : Each step P s es := by
  induction es generalizing s with
  | nil => trivial
  | cons e es ih => exact ⟨here s e start ok.1, ih (keep s e start ok.1) ok.2⟩

/-- What holds of every step from every state holds of the steps of every run. -/
theorem each_of_forall {P : σ → ε → Prop} (here : ∀ s e, P s e) (s : σ) (es : List ε) :
    Each step P s es := by
  induction es generalizing s with
  | nil => trivial
  | cons e es ih => exact ⟨here s e, ih (step s e)⟩

/-- A condition on labels alone. -/
theorem each_of_mem {P : ε → Prop} {es : List ε} (here : ∀ e ∈ es, P e) (s : σ) :
    Each step (fun _ e => P e) s es := by
  induction es generalizing s with
  | nil => trivial
  | cons e es ih =>
    exact ⟨here e List.mem_cons_self, ih (fun e mem => here e (List.mem_cons_of_mem _ mem)) (step s e)⟩

/-- Conditions that an invariant makes equal step by step hold of the same runs. The
invariant need only survive the steps that satisfy them. -/
theorem each_iff {Inv : σ → Prop} {P Q : σ → ε → Prop} (same : ∀ s e, Inv s → (P s e ↔ Q s e))
    (keep : ∀ s e, Inv s → P s e → Inv (step s e)) {s : σ} (start : Inv s) (es : List ε) :
    Each step P s es ↔ Each step Q s es := by
  induction es generalizing s with
  | nil => exact Iff.rfl
  | cons e es ih =>
    constructor
    · rintro ⟨here, rest⟩
      exact ⟨(same s e start).mp here, (ih (keep s e start here)).mp rest⟩
    · rintro ⟨here, rest⟩
      have here := (same s e start).mpr here
      exact ⟨here, (ih (keep s e start here)).mpr rest⟩

/-- The same among the runs whose steps are allowed. -/
theorem each_iff_of_allowed {Inv : σ → Prop} {Ok P Q : σ → ε → Prop}
    (same : ∀ s e, Inv s → Ok s e → (P s e ↔ Q s e))
    (keep : ∀ s e, Inv s → Ok s e → P s e → Inv (step s e)) {s : σ} (start : Inv s) {es : List ε}
    (ok : Each step Ok s es) : Each step P s es ↔ Each step Q s es := by
  induction es generalizing s with
  | nil => exact Iff.rfl
  | cons e es ih =>
    have here := same s e start ok.1
    constructor
    · rintro ⟨holds, rest⟩
      exact ⟨here.mp holds, (ih (keep s e start ok.1 holds) ok.2).mp rest⟩
    · rintro ⟨holds, rest⟩
      have holds := here.mpr holds
      exact ⟨holds, (ih (keep s e start ok.1 holds) ok.2).mpr rest⟩

/-- Two machines whose steps keep a relation are related after every run, where one of
them may see less of each label. -/
theorem simulation {τ κ : Type*} {step' : τ → κ → τ} {R : σ → τ → Prop} {label : κ → ε}
    (keep : ∀ s t k, R s t → R (step s (label k)) (step' t k)) {s : σ} {t : τ} (start : R s t)
    (ks : List κ) : R (run step s (ks.map label)) (run step' t ks) := by
  induction ks generalizing s t with
  | nil => exact start
  | cons k ks ih => exact ih (keep s t k start)

/-- What becomes true exactly of the states that `Q` holds of, and stays true, holds at the
end of a run exactly if `Q` held somewhere along it. -/
theorem ever_iff {Inv P Q : σ → Prop} (keep : ∀ s e, Inv s → Inv (step s e))
    (next : ∀ s e, Inv s → (P (step s e) ↔ P s ∨ Q (step s e))) (now : ∀ s, Inv s → Q s → P s)
    {s : σ} (start : Inv s) (es : List ε) :
    P (run step s es) ↔ P s ∨ ∃ n, Q (run step s (es.take n)) := by
  induction es generalizing s with
  | nil =>
    simp only [List.take_nil, run_nil, exists_const]
    exact ⟨.inl, fun here => here.elim id (now s start)⟩
  | cons e es ih =>
    rw [run_cons, ih (keep s e start), next s e start]
    constructor
    · rintro ((before | here) | ⟨n, later⟩)
      · exact .inl before
      · exact .inr ⟨1, here⟩
      · exact .inr ⟨n + 1, later⟩
    · rintro (before | ⟨n, here⟩)
      · exact .inl (.inl before)
      · cases n with
        | zero => exact .inl (.inl (now s start here))
        | succ n => exact .inr ⟨n, here⟩

theorem each_and {P Q : σ → ε → Prop} {s : σ} {es : List ε} (hP : Each step P s es)
    (hQ : Each step Q s es) : Each step (fun s e => P s e ∧ Q s e) s es := by
  induction es generalizing s with
  | nil => trivial
  | cons e es ih => exact ⟨⟨hP.1, hQ.1⟩, ih hP.2 hQ.2⟩

theorem each_append {P : σ → ε → Prop} {s : σ} {es fs : List ε} :
    Each step P s (es ++ fs) ↔ Each step P s es ∧ Each step P (run step s es) fs := by
  induction es generalizing s with
  | nil => simp [Each]
  | cons e es ih => simp [Each, ih, and_assoc]

/-! Loops. -/

/-- A reflexive and transitive relation that each pass of a loop has, the loop has. -/
theorem foldl_related {R : σ → σ → Prop} (refl : ∀ s, R s s)
    (trans : ∀ {s s' s'' : σ}, R s s' → R s' s'' → R s s'') {f : σ → ε → σ}
    (pass : ∀ s e, R s (f s e)) (s : σ) (es : List ε) : R s (es.foldl f s) := by
  induction es generalizing s with
  | nil => exact refl s
  | cons e es ih => exact trans (pass s e) (ih (f s e))

theorem iterate_related {R : σ → σ → Prop} (refl : ∀ s, R s s)
    (trans : ∀ {s s' s'' : σ}, R s s' → R s' s'' → R s s'') {f : σ → σ} (pass : ∀ s, R s (f s))
    (n : Nat) (s : σ) : R s (f^[n] s) := by
  induction n generalizing s with
  | zero => exact refl s
  | succ n ih => exact trans (pass s) (ih (f s))

end Runs
