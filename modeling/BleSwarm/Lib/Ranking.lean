import Mathlib.Data.List.Sort
import Mathlib.Data.List.TakeWhile

/-!
# The first of the greatest

A stable sort by a key lists the greatest key first and keeps the order of ties. The first
element of it that passes a test is the first of the greatest among those that pass.
-/

universe u v

namespace Ranking

variable {α : Type u} {ι : Type v} [LinearOrder ι] (key : α → ι)

/-- Greatest key first; ties keep their order. -/
def ranked (l : List α) : List α := l.insertionSort fun a b => key b ≤ key a

variable {key} {q : α → Bool} {l : List α}

theorem mem_ranked {a : α} : a ∈ ranked key l ↔ a ∈ l := List.mem_insertionSort _

theorem ranked_pairwise (l : List α) : (ranked key l).Pairwise fun a b => key b ≤ key a := by
  have total : Std.Total fun a b : α => key b ≤ key a := ⟨fun a b => le_total (key b) (key a)⟩
  have trans : IsTrans α fun a b => key b ≤ key a := ⟨fun a b c ab bc => bc.trans ab⟩
  exact List.pairwise_insertionSort _ l

/-- Behind the place of a new element stand the keys that are not greater. -/
theorem key_le_of_mem_dropWhile {a x : α} {s : List α} (sorted : s.Pairwise fun a b => key b ≤ key a)
    (mem : x ∈ s.dropWhile fun b => decide (key a < key b)) : key x ≤ key a := by
  induction s with
  | nil => cases mem
  | cons b s ih =>
    rw [List.dropWhile_cons] at mem
    rw [List.pairwise_cons] at sorted
    split at mem
    · exact ih sorted.2 mem
    · rename_i stop
      have first : key b ≤ key a := by simpa using stop
      rcases List.mem_cons.mp mem with rfl | later
      · exact first
      · exact (sorted.1 x later).trans first

/-- In front of it stand the keys that are greater. -/
theorem key_lt_of_mem_takeWhile {a x : α} {s : List α}
    (mem : x ∈ s.takeWhile fun b => decide (key a < key b)) : key a < key x := by
  simpa using List.mem_takeWhile_imp mem

theorem find?_ranked_eq_none : (ranked key l).find? q = none ↔ ∀ x ∈ l, q x = false := by
  simp [List.find?_eq_none, mem_ranked]

/-- The first of the greatest. -/
theorem find?_ranked {best : α} (found : (ranked key l).find? q = some best) :
    ∃ front back, l = front ++ best :: back ∧ (∀ x ∈ front, q x = true → key x < key best) ∧
      ∀ x ∈ back, q x = true → key x ≤ key best := by
  induction l generalizing best with
  | nil => cases found
  | cons a l ih =>
    let greater := (ranked key l).takeWhile fun b => decide (key a < key b)
    let rest := (ranked key l).dropWhile fun b => decide (key a < key b)
    have parts : greater ++ rest = ranked key l := List.takeWhile_append_dropWhile
    have placed : ranked key (a :: l) = greater ++ a :: rest := by
      have split := List.orderedInsert_eq_take_drop (fun a b => key b ≤ key a) a (ranked key l)
      simp only [not_le] at split
      exact split
    rw [placed, List.find?_append] at found
    cases before : greater.find? q with
    | some b =>
      -- a greater key in front of the place of `a` is found first
      rw [before] at found
      obtain rfl : b = best := Option.some.inj found
      have first : (ranked key l).find? q = some b := by
        rw [← parts, List.find?_append, before]
        rfl
      obtain ⟨front, back, split, above, below⟩ := ih first
      refine ⟨a :: front, back, by rw [split]; rfl, ?_, below⟩
      intro x mem passes
      rcases List.mem_cons.mp mem with rfl | mem
      · exact key_lt_of_mem_takeWhile (List.mem_of_find?_eq_some before)
      · exact above x mem passes
    | none =>
      rw [before, Option.none_or, List.find?_cons] at found
      split at found
      · obtain rfl := Option.some.inj found
        refine ⟨[], l, rfl, by simp, fun x mem passes => ?_⟩
        have mem : x ∈ ranked key l := mem_ranked.mpr mem
        rw [← parts, List.mem_append] at mem
        rcases mem with early | late
        · exact absurd passes (List.find?_eq_none.mp before x early)
        · exact key_le_of_mem_dropWhile (ranked_pairwise l) late
      · rename_i fails
        have first : (ranked key l).find? q = some best := by
          rw [← parts, List.find?_append, before, Option.none_or, found]
        obtain ⟨front, back, split, above, below⟩ := ih first
        refine ⟨a :: front, back, by rw [split]; rfl, ?_, below⟩
        intro x mem passes
        rcases List.mem_cons.mp mem with rfl | mem
        · rw [fails] at passes
          cases passes
        · exact above x mem passes

end Ranking
