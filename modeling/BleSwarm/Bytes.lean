import Mathlib.Algebra.GroupWithZero.Nat
import Mathlib.Data.List.Lex
import Mathlib.Order.Fin.Basic

/-!
# Buffers and hex strings

A buffer is a list of bytes. Hex text is a list of characters, the form in which
session ids and public keys serve as map keys.
-/

namespace BleSwarm

abbrev Byte := Fin 256

instance neZeroByte : NeZero 256 := ⟨by decide⟩

abbrev Bytes := List Byte

/-- A JavaScript string of hex digits. -/
abbrev Hex := List Char

/-- `b4a.toHex`: two lowercase digits a byte. -/
def toHex (bytes : Bytes) : Hex :=
  bytes.flatMap fun b => [Nat.digitChar (b.val / 16), Nat.digitChar (b.val % 16)]

def hexValue (c : Char) : Option Nat :=
  if '0' ≤ c ∧ c ≤ '9' then some (c.toNat - '0'.toNat)
  else if 'a' ≤ c ∧ c ≤ 'f' then some (c.toNat - 'a'.toNat + 10)
  else if 'A' ≤ c ∧ c ≤ 'F' then some (c.toNat - 'A'.toNat + 10)
  else none

/-- `b4a.from(text, 'hex')`: decoding stops at the first pair that is not hex. -/
def fromHex : Hex → Bytes
  | high :: low :: rest =>
    match hexValue high, hexValue low with
    | some h, some l => Fin.ofNat 256 (16 * h + l) :: fromHex rest
    | _, _ => []
  | _ => []

/-- `b4a.compare`: the first byte that differs decides, then the length. -/
def compare : Bytes → Bytes → Int
  | [], [] => 0
  | [], _ :: _ => -1
  | _ :: _, [] => 1
  | a :: as, b :: bs => if a < b then -1 else if b < a then 1 else compare as bs

theorem hexValue_digits (b : Byte) :
    hexValue (Nat.digitChar (b.val / 16)) = some (b.val / 16) ∧
      hexValue (Nat.digitChar (b.val % 16)) = some (b.val % 16) := by
  revert b
  decide +kernel

theorem fromHex_toHex (bytes : Bytes) : fromHex (toHex bytes) = bytes := by
  induction bytes with
  | nil => rfl
  | cons b bytes ih =>
    obtain ⟨high, low⟩ := hexValue_digits b
    have same : Fin.ofNat 256 (16 * (b.val / 16) + b.val % 16) = b := by
      rw [Nat.div_add_mod]
      exact Fin.ofNat_val_eq_self b
    have tail : fromHex (bytes.flatMap fun b =>
        [Nat.digitChar (b.val / 16), Nat.digitChar (b.val % 16)]) = bytes := ih
    simp only [toHex, List.flatMap_cons, List.cons_append, List.nil_append, fromHex, high, low,
      same, tail]

theorem toHex_injective : Function.Injective toHex :=
  Function.LeftInverse.injective fromHex_toHex

theorem compare_neg_iff (a b : Bytes) : compare a b < 0 ↔ a < b := by
  induction a generalizing b with
  | nil => cases b <;> simp [compare]
  | cons x xs ih =>
    cases b with
    | nil => simp [compare]
    | cons y ys =>
      rcases lt_trichotomy x y with lt | eq | gt
      · simp [compare, lt, List.cons_lt_cons_iff]
      · subst eq
        simpa [compare, List.cons_lt_cons_iff] using ih ys
      · have not : ¬ x < y := not_lt_of_gt gt
        simp [compare, gt, not, List.cons_lt_cons_iff, ne_of_gt gt]

end BleSwarm
