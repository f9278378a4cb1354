import Mathlib.Data.List.Basic
import Mathlib.Data.List.Nodup
import Mathlib.Data.List.Perm.Subperm

/-!
# Maps in insertion order

A finite map is the list of its entries, in the order in which the keys were
first set, with no key twice. Setting a key that is present keeps its place,
which is what separates these maps from `AList`.
-/

universe u v

structure OrderedMap (α : Type u) (β : Type v) where
  entries : List (α × β)
  nodup : (entries.map Prod.fst).Nodup

namespace OrderedMap

variable {α : Type u} {β : Type v}

def empty : OrderedMap α β := ⟨[], List.nodup_nil⟩

instance : EmptyCollection (OrderedMap α β) := ⟨empty⟩

instance : Inhabited (OrderedMap α β) := ⟨empty⟩

def keys (m : OrderedMap α β) : List α := m.entries.map Prod.fst

def values (m : OrderedMap α β) : List β := m.entries.map Prod.snd

def size (m : OrderedMap α β) : Nat := m.entries.length

variable [DecidableEq α]

def get? (m : OrderedMap α β) (a : α) : Option β :=
  (m.entries.find? (fun e => e.1 = a)).map Prod.snd

/-- Put `f` of the old value under a key that is present. -/
def modify (m : OrderedMap α β) (a : α) (f : β → β) : OrderedMap α β where
  entries := m.entries.map (fun e => if e.1 = a then (e.1, f e.2) else e)
  nodup := by
    have keep : (m.entries.map (fun e => if e.1 = a then (e.1, f e.2) else e)).map Prod.fst =
        m.entries.map Prod.fst := by
      rw [List.map_map]
      exact List.map_congr_left fun e _ => by by_cases h : e.1 = a <;> simp [h]
    rw [keep]
    exact m.nodup

def set (m : OrderedMap α β) (a : α) (b : β) : OrderedMap α β :=
  if h : a ∈ m.keys then m.modify a (fun _ => b)
  else ⟨m.entries ++ [(a, b)], by
    rw [List.map_append]
    exact List.nodup_append.mpr ⟨m.nodup, by simp, by
      intro x hx y hy eq
      simp only [List.map_cons, List.map_nil, List.mem_singleton] at hy
      exact h (hy ▸ eq ▸ hx)⟩⟩

def delete (m : OrderedMap α β) (a : α) : OrderedMap α β :=
  ⟨m.entries.filter (fun e => e.1 ≠ a), m.nodup.sublist (List.filter_sublist.map _)⟩

@[simp] theorem get?_empty (a : α) : (∅ : OrderedMap α β).get? a = none := rfl

omit [DecidableEq α] in
@[simp] theorem values_empty : (∅ : OrderedMap α β).values = [] := rfl

theorem get?_eq_none_iff (m : OrderedMap α β) (a : α) : m.get? a = none ↔ a ∉ m.keys := by
  simp only [get?, keys, Option.map_eq_none_iff, List.find?_eq_none, List.mem_map, not_exists,
    not_and, decide_eq_true_eq]

theorem mem_entries {m : OrderedMap α β} {a : α} {b : β} (entry : m.get? a = some b) :
    (a, b) ∈ m.entries := by
  obtain ⟨⟨k, b⟩, found, rfl⟩ := Option.map_eq_some_iff.mp entry
  obtain rfl : k = a := by simpa using List.find?_some found
  exact List.mem_of_find?_eq_some found

theorem get?_of_mem {m : OrderedMap α β} {a : α} {b : β} (mem : (a, b) ∈ m.entries) :
    m.get? a = some b := by
  obtain ⟨found, here⟩ : ∃ e, m.entries.find? (fun e => e.1 = a) = some e :=
    Option.isSome_iff_exists.mp (List.find?_isSome.mpr ⟨_, mem, by simp⟩)
  have key : found.1 = a := by simpa using List.find?_some here
  have same : found = (a, b) :=
    List.inj_on_of_nodup_map m.nodup (List.mem_of_find?_eq_some here) mem key
  rw [get?, here, same]
  rfl

theorem mem_values {m : OrderedMap α β} {a : α} {b : β} (entry : m.get? a = some b) :
    b ∈ m.values := List.mem_map_of_mem (mem_entries entry)

theorem exists_of_mem_values {m : OrderedMap α β} {b : β} (mem : b ∈ m.values) :
    ∃ a, m.get? a = some b := by
  obtain ⟨⟨a, b⟩, entry, rfl⟩ := List.mem_map.mp mem
  exact ⟨a, get?_of_mem entry⟩

/-- No value occurs twice that tells its key. -/
theorem nodup_values {m : OrderedMap α β}
    (tells : ∀ a a' b, m.get? a = some b → m.get? a' = some b → a = a') : m.values.Nodup := by
  have entries : m.entries.Nodup := List.Nodup.of_map _ m.nodup
  refine entries.map_on ?_
  rintro ⟨a, b⟩ mem ⟨a', b'⟩ mem' same
  have same : b = b' := same
  subst same
  exact Prod.ext (tells a a' b (get?_of_mem mem) (get?_of_mem mem')) rfl

theorem size_set_of_absent {m : OrderedMap α β} {a : α} (b : β) (absent : m.get? a = none) :
    (m.set a b).size = m.size + 1 := by
  unfold set
  rw [dif_neg ((m.get?_eq_none_iff a).mp absent)]
  simp [size]

theorem size_delete_le (m : OrderedMap α β) (a : α) : (m.delete a).size ≤ m.size :=
  List.length_filter_le _ _

theorem size_set_of_present {m : OrderedMap α β} {a : α} (b : β) (present : m.get? a ≠ none) :
    (m.set a b).size = m.size := by
  unfold set
  rw [dif_pos (not_not.mp fun absent => present ((m.get?_eq_none_iff a).mpr absent))]
  simp [size, modify]

/-- A map has no more entries than another one that has its keys. -/
theorem size_le_of_absent {γ : Type*} {m : OrderedMap α β} {m' : OrderedMap α γ}
    (absent : ∀ a, m.get? a = none → m'.get? a = none) : m'.size ≤ m.size := by
  have keys : m'.keys ⊆ m.keys := by
    intro a mem
    by_contra missing
    exact (m'.get?_eq_none_iff a).mp (absent a ((m.get?_eq_none_iff a).mpr missing)) mem
  have bound := (List.subperm_of_subset m'.nodup keys).length_le
  simpa [OrderedMap.keys, size] using bound

theorem size_eq_zero_iff (m : OrderedMap α β) : m.size = 0 ↔ ∀ a, m.get? a = none := by
  simp only [get?_eq_none_iff, keys, size, List.length_eq_zero_iff]
  constructor
  · intro empty a
    simp [empty]
  · intro absent
    apply List.eq_nil_iff_forall_not_mem.mpr
    exact fun e mem => absent e.1 (List.mem_map_of_mem mem)

/-! How many values satisfy a predicate. -/

/-- No more values count than in another map that has one that counts wherever this has. -/
theorem countP_le {m m' : OrderedMap α β} {p : β → Bool}
    (keep : ∀ a b, m'.get? a = some b → p b = true → ∃ old, m.get? a = some old ∧ p old = true) :
    m'.values.countP p ≤ m.values.countP p := by
  let counted : OrderedMap α β → List α := fun m => (m.entries.filter fun e => p e.2).map Prod.fst
  have length : ∀ m : OrderedMap α β, m.values.countP p = (counted m).length := by
    intro m
    simp only [counted, values, List.length_map, List.countP_eq_length_filter, List.filter_map]
    rfl
  have nodup : (counted m').Nodup := m'.nodup.sublist (List.filter_sublist.map _)
  have among : counted m' ⊆ counted m := by
    intro a mem
    obtain ⟨e, there, rfl⟩ := List.mem_map.mp mem
    obtain ⟨entry, counts⟩ := List.mem_filter.mp there
    obtain ⟨old, found, before⟩ := keep e.1 e.2 (get?_of_mem entry) counts
    exact List.mem_map.mpr ⟨(e.1, old), List.mem_filter.mpr ⟨mem_entries found, before⟩, rfl⟩
  rw [length, length]
  exact (List.subperm_of_subset nodup among).length_le

/-- A value that counts where none did before. -/
theorem countP_set_of_not (m : OrderedMap α β) (a : α) {b : β} {p : β → Bool} (counts : p b = true)
    (before : ∀ old, m.get? a = some old → p old = false) :
    (m.set a b).values.countP p = m.values.countP p + 1 := by
  unfold set
  split
  · rename_i present
    obtain ⟨⟨k, old⟩, mem, rfl⟩ := List.mem_map.mp present
    obtain ⟨front, back, split⟩ := List.append_of_mem mem
    have nodup := m.nodup
    rw [split] at nodup
    simp only [List.map_append, List.map_cons, List.nodup_append, List.nodup_cons] at nodup
    have apart : ∀ e ∈ front ++ back, ¬ e.1 = k := by
      intro e there same
      rcases List.mem_append.mp there with inFront | inBack
      · exact nodup.2.2 e.1 (List.mem_map_of_mem inFront) k (by simp) same
      · exact nodup.2.1.1 (same ▸ List.mem_map_of_mem inBack)
    have kept : ∀ es : List (α × β), (∀ e ∈ es, ¬ e.1 = k) →
        es.map (fun e => if e.1 = k then (e.1, b) else e) = es := by
      intro es others
      conv_rhs => rw [← List.map_id es]
      exact List.map_congr_left fun e there => if_neg (others e there)
    have uncounted : p old = false := before old (get?_of_mem mem)
    have moved : (m.modify k fun _ => b).entries = front ++ (k, b) :: back := by
      simp only [modify]
      rw [split, List.map_append, List.map_cons, if_pos rfl,
        kept front fun e there => apart e (List.mem_append_left _ there),
        kept back fun e there => apart e (List.mem_append_right _ there)]
    simp only [values]
    rw [moved, split]
    simp only [List.map_append, List.map_cons, List.countP_append, List.countP_cons, counts,
      uncounted, if_true, Bool.false_eq_true, if_false]
    omega
  · simp [values, counts]

theorem get?_modify_self (m : OrderedMap α β) (a : α) (f : β → β) :
    (m.modify a f).get? a = (m.get? a).map f := by
  simp only [get?, modify]
  induction m.entries with
  | nil => rfl
  | cons e es ih => by_cases h : e.1 = a <;> simp_all

theorem get?_modify_of_ne (m : OrderedMap α β) {a k : α} (f : β → β) (h : k ≠ a) :
    (m.modify a f).get? k = m.get? k := by
  simp only [get?, modify]
  induction m.entries with
  | nil => rfl
  | cons e es ih =>
    by_cases he : e.1 = a
    · have hk : ¬ a = k := fun eq => h eq.symm
      simp_all
    · by_cases hk : e.1 = k <;> simp_all

@[simp] theorem get?_set_self (m : OrderedMap α β) (a : α) (b : β) :
    (m.set a b).get? a = some b := by
  unfold set
  split
  · rename_i h
    obtain ⟨old, hold⟩ := Option.ne_none_iff_exists'.mp
      (fun none => (m.get?_eq_none_iff a).mp none h)
    rw [get?_modify_self, hold]
    rfl
  · rename_i h
    have absent : m.entries.find? (fun e => e.1 = a) = none := by
      simpa [get?] using (m.get?_eq_none_iff a).mpr h
    simp [get?, List.find?_append, absent]

theorem get?_set_of_ne (m : OrderedMap α β) {a k : α} (b : β) (h : k ≠ a) :
    (m.set a b).get? k = m.get? k := by
  unfold set
  split
  · exact get?_modify_of_ne m _ h
  · have hk : ¬ a = k := fun eq => h eq.symm
    simp [get?, List.find?_append, hk]

@[simp] theorem get?_delete_self (m : OrderedMap α β) (a : α) : (m.delete a).get? a = none := by
  simp [get?, delete]

theorem get?_delete_of_ne (m : OrderedMap α β) {a k : α} (h : k ≠ a) :
    (m.delete a).get? k = m.get? k := by
  simp only [get?, delete]
  induction m.entries with
  | nil => rfl
  | cons e es ih => by_cases he : e.1 = a <;> by_cases hk : e.1 = k <;> simp_all

theorem get?_set (m : OrderedMap α β) (a k : α) (b : β) :
    (m.set a b).get? k = if k = a then some b else m.get? k := by
  split
  · rename_i h
    rw [h, get?_set_self]
  · rename_i h
    exact get?_set_of_ne m b h

theorem get?_modify (m : OrderedMap α β) (a k : α) (f : β → β) :
    (m.modify a f).get? k = if k = a then (m.get? a).map f else m.get? k := by
  split
  · rename_i h
    rw [h, get?_modify_self]
  · rename_i h
    exact get?_modify_of_ne m f h

theorem get?_delete (m : OrderedMap α β) (a k : α) :
    (m.delete a).get? k = if k = a then none else m.get? k := by
  split
  · rename_i h
    rw [h, get?_delete_self]
  · rename_i h
    exact get?_delete_of_ne m h

theorem get?_of_delete {m : OrderedMap α β} {a k : α} {b : β} (h : (m.delete a).get? k = some b) :
    m.get? k = some b := by
  rw [get?_delete] at h
  split at h
  · cases h
  · exact h

/-- Values that know their keys. -/
theorem values_map_key {m : OrderedMap α β} {key : β → α}
    (keyed : ∀ k b, m.get? k = some b → key b = k) :
    m.values.map key = m.keys := by
  rw [values, keys, List.map_map]
  exact List.map_congr_left fun e mem => keyed e.1 e.2 (get?_of_mem mem)

/-- Values are put in under their keys, which differ. -/
theorem get?_foldl_set {key : β → α} {bs : List β} (distinct : (bs.map key).Nodup)
    (m : OrderedMap α β)
    (k : α) (b : β) : (bs.foldl (fun m b => m.set (key b) b) m).get? k = some b ↔
      (b ∈ bs ∧ key b = k) ∨ (m.get? k = some b ∧ k ∉ bs.map key) := by
  induction bs generalizing m with
  | nil => simp
  | cons a bs ih =>
    rw [List.map_cons, List.nodup_cons] at distinct
    obtain ⟨first, distinct⟩ := distinct
    rw [List.foldl_cons, ih distinct, get?_set, List.map_cons]
    split
    · rename_i here
      subst here
      constructor
      · rintro (⟨mem, same⟩ | ⟨same, -⟩)
        · exact .inl ⟨List.mem_cons_of_mem a mem, same⟩
        · obtain rfl := Option.some.inj same
          exact .inl ⟨List.mem_cons_self, rfl⟩
      · rintro (⟨mem, same⟩ | ⟨-, absent⟩)
        · rcases List.mem_cons.mp mem with rfl | later
          · exact .inr ⟨rfl, first⟩
          · exact .inl ⟨later, same⟩
        · exact absurd List.mem_cons_self absent
    · rename_i other
      constructor
      · rintro (⟨mem, same⟩ | ⟨entry, absent⟩)
        · exact .inl ⟨List.mem_cons_of_mem a mem, same⟩
        · refine .inr ⟨entry, fun mem => ?_⟩
          rcases List.mem_cons.mp mem with here | later
          · exact other here
          · exact absent later
      · rintro (⟨mem, same⟩ | ⟨entry, absent⟩)
        · rcases List.mem_cons.mp mem with rfl | later
          · exact absurd same.symm other
          · exact .inl ⟨later, same⟩
        · exact .inr ⟨entry, fun later => absent (List.mem_cons_of_mem _ later)⟩

end OrderedMap
