import Mathlib.Logic.Function.Basic

/-!
# Objects behind references

Objects that are shared and mutated live behind references. A reference stays
valid for ever and is never given out twice, so two references are equal exactly
when they name the same object.
-/

universe u

structure Heap (α : Type u) where
  get : Nat → α
  next : Nat

namespace Heap

variable {α : Type u}

def alloc (h : Heap α) (a : α) : Heap α :=
  ⟨Function.update h.get h.next a, h.next + 1⟩

def modify (h : Heap α) (r : Nat) (f : α → α) : Heap α :=
  { h with get := Function.update h.get r (f (h.get r)) }

@[simp] theorem alloc_next (h : Heap α) (a : α) : (h.alloc a).next = h.next + 1 := rfl

@[simp] theorem modify_next (h : Heap α) (r : Nat) (f : α → α) :
    (h.modify r f).next = h.next := rfl

@[simp] theorem foldl_modify_next (h : Heap α) (f : α → α) (rs : List Nat) :
    (rs.foldl (fun h r => h.modify r f) h).next = h.next := by
  induction rs generalizing h with
  | nil => rfl
  | cons r rs ih => exact ih (h.modify r f)

@[simp] theorem alloc_get_next (h : Heap α) (a : α) : (h.alloc a).get h.next = a := by
  simp [alloc]

theorem alloc_get_of_ne (h : Heap α) (a : α) {r : Nat} (ne : r ≠ h.next) :
    (h.alloc a).get r = h.get r := by
  simp [alloc, ne]

theorem alloc_get_of_lt (h : Heap α) (a : α) {r : Nat} (lt : r < h.next) :
    (h.alloc a).get r = h.get r :=
  h.alloc_get_of_ne a (Nat.ne_of_lt lt)

@[simp] theorem modify_get_self (h : Heap α) (r : Nat) (f : α → α) :
    (h.modify r f).get r = f (h.get r) := by
  simp [modify]

theorem modify_get_of_ne (h : Heap α) {r k : Nat} (f : α → α) (ne : k ≠ r) :
    (h.modify r f).get k = h.get k := by
  simp [modify, ne]

theorem modify_get (h : Heap α) (r k : Nat) (f : α → α) :
    (h.modify r f).get k = if k = r then f (h.get r) else h.get k := by
  simp [modify, Function.update_apply]

/-- A view of the objects that the update keeps is kept at every reference. -/
theorem modify_get_view {β : Type*} (h : Heap α) (r k : Nat) (f : α → α) (view : α → β)
    (keep : ∀ a, view (f a) = view a) : view ((h.modify r f).get k) = view (h.get k) := by
  by_cases eq : k = r
  · subst eq
    rw [modify_get_self, keep]
  · rw [modify_get_of_ne h f eq]

/-! Heaps whose objects look the same. -/

/-- The same objects are there, and a view of each is as it was. -/
structure Alike {β : Type*} (view : α → β) (h h' : Heap α) : Prop where
  next : h'.next = h.next
  view : ∀ r, view (h'.get r) = view (h.get r)

namespace Alike

variable {β : Type*} {view : α → β} {h h' h'' : Heap α}

theorem refl (view : α → β) (h : Heap α) : h.Alike view h := ⟨rfl, fun _ => rfl⟩

theorem of_eq (same : h' = h) : h.Alike view h' := by
  subst same
  exact refl view h'

theorem trans (a : h.Alike view h') (b : h'.Alike view h'') : h.Alike view h'' :=
  ⟨b.next.trans a.next, fun r => (b.view r).trans (a.view r)⟩

theorem modify (h : Heap α) (r : Nat) {f : α → α} (keep : ∀ a, view (f a) = view a) :
    h.Alike view (h.modify r f) :=
  ⟨rfl, fun k => h.modify_get_view r k f view keep⟩

/-- Less is seen of the objects. -/
theorem narrow (a : h.Alike view h') {γ : Type*} {view' : α → γ} (f : β → γ)
    (factors : ∀ a, view' a = f (view a)) : h.Alike view' h' :=
  ⟨a.next, fun r => by rw [factors, factors, a.view]⟩

end Alike

/-- One object is new and the others are as they were. -/
theorem alloc_forall {P : Nat → α → Prop} {h : Heap α} {a : α} (old : ∀ r < h.next, P r (h.get r))
    (new : P h.next a) : ∀ r < (h.alloc a).next, P r ((h.alloc a).get r) := by
  intro r lt
  rcases Nat.lt_succ_iff_lt_or_eq.mp lt with lt | rfl
  · rw [h.alloc_get_of_lt a lt]
    exact old r lt
  · rw [h.alloc_get_next]
    exact new

end Heap
