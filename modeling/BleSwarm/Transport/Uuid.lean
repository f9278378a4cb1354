import BleSwarm.Codec
import BleSwarm.Transport.Step

/-!
# Uuids as the platforms spell them

Backends report a uuid in upper or lower case, with dashes or without. `uuidEq` sees through
that: texts are equal to it exactly if they spell the same bytes.
-/

namespace BleSwarm

/-- What `uuidEq` compares: the text in lower case and without its dashes. -/
def bareUUID (a : Option Hex) : Hex := ((a.getD []).map Char.toLower).filter fun c => c ≠ '-'

def uuidEq (a b : Option Hex) : Bool := bareUUID a = bareUUID b

/-- The first of the items with the uuid. -/
def findByUUID {α : Type*} (uuid : α → Option Hex) (items : Option (List α)) (target : Hex) :
    Option α :=
  (items.getD []).find? fun i => uuidEq (uuid i) (some target)

/-- The uuid of the data characteristic. -/
def dataUUID : Hex := "ce1a0004-0000-1000-8000-00805f9b34fb".toList

/-- The text has the digits, in either case and with dashes anywhere. -/
inductive Spells : Hex → Hex → Prop
  | nil : Spells [] []
  | dash {digits text : Hex} (rest : Spells digits text) : Spells digits ('-' :: text)
  | digit {c : Char} {digits text : Hex} (digit : c.toLower ∈ hexDigits)
    (rest : Spells digits text) : Spells (c.toLower :: digits) (c :: text)

namespace Spells

variable {digits text : Hex}

theorem bare (h : Spells digits text) : bareUUID (some text) = digits := by
  induction h with
  | nil => rfl
  | dash _ ih => exact ih
  | @digit c digits text digit _ ih =>
    have kept : c.toLower ≠ '-' := by
      intro dash
      rw [dash] at digit
      revert digit
      decide
    simp only [bareUUID, Option.getD_some, List.map_cons] at ih ⊢
    rw [List.filter_cons_of_pos (by simpa using kept), ih]

theorem append {digits' text' : Hex} (h : Spells digits text) (h' : Spells digits' text') :
    Spells (digits ++ digits') (text ++ text') := by
  induction h with
  | nil => exact h'
  | dash _ ih => exact .dash ih
  | digit digit _ ih => exact .digit digit ih

/-- What a map of all digits changes nowhere, it does not change. -/
theorem of_map_eq {f : Char → Char} {c : Char} (all : hexDigits.map f = hexDigits)
    (mem : c ∈ hexDigits) : f c = c := by
  obtain ⟨n, here⟩ := List.mem_iff_getElem?.mp mem
  have mapped := congrArg (fun digits => digits[n]?) all
  simp only [List.getElem?_map, here, Option.map_some] at mapped
  exact Option.some.inj mapped

/-- Lowercase digits spell themselves. -/
theorem of_digits {digits : Hex} (lower : ∀ c ∈ digits, c ∈ hexDigits) : Spells digits digits := by
  induction digits with
  | nil => exact .nil
  | cons c digits ih =>
    have rest := ih fun d mem => lower d (List.mem_cons_of_mem _ mem)
    have mem := lower c List.mem_cons_self
    have same : c.toLower = c := of_map_eq (by decide) mem
    have spelled := Spells.digit (same.symm ▸ mem) rest
    rwa [same] at spelled

/-- Nor does the case matter. -/
theorem upper {digits : Hex} (lower : ∀ c ∈ digits, c ∈ hexDigits) :
    Spells digits (digits.map Char.toUpper) := by
  induction digits with
  | nil => exact .nil
  | cons c digits ih =>
    have rest := ih fun d mem => lower d (List.mem_cons_of_mem _ mem)
    have mem := lower c List.mem_cons_self
    have same := of_map_eq (f := fun c => c.toUpper.toLower) (by decide) mem
    have spelled := Spells.digit (c := c.toUpper) (same.symm ▸ mem) rest
    rwa [same] at spelled

/-- The grouping of a service uuid. -/
theorem uuidText {digits : Hex} (lower : ∀ c ∈ digits, c ∈ hexDigits) (short : digits.length ≤ 32) :
    Spells digits (uuidText digits) := by
  have part : ∀ n m, Spells ((digits.drop n).take m) ((digits.drop n).take m) := fun n m =>
    of_digits fun c mem => lower c (List.mem_of_mem_drop (List.mem_of_mem_take mem))
  have split : ∀ n m, digits.drop n = (digits.drop n).take m ++ digits.drop (n + m) := by
    intro n m
    rw [← List.drop_drop]
    exact (List.take_append_drop m _).symm
  have last : (digits.drop 20).take 12 = digits.drop 20 := by
    apply List.take_of_length_le
    rw [List.length_drop]
    omega
  have whole : digits.take 8 ++ (digits.drop 8).take 4 ++ (digits.drop 12).take 4 ++
      (digits.drop 16).take 4 ++ (digits.drop 20).take 12 = digits := by
    rw [last, List.append_assoc _ _ (digits.drop 20), ← split 16 4, List.append_assoc,
      ← split 12 4, List.append_assoc, ← split 8 4, List.take_append_drop]
  have spelled := ((((part 0 8).append (.dash (part 8 4))).append (.dash (part 12 4))).append
    (.dash (part 16 4))).append (.dash (part 20 12))
  rw [List.drop_zero, whole] at spelled
  exact spelled

end Spells

/-- Texts that spell bytes are equal to `uuidEq` exactly if the bytes are. -/
theorem uuidEq_iff {x y : Bytes} {a b : Hex} (spells : Spells (toHex x) a)
    (spells' : Spells (toHex y) b) :
    uuidEq (some a) (some b) = true ↔ x = y := by
  unfold uuidEq
  rw [spells.bare, spells'.bare, decide_eq_true_iff]
  exact toHex_injective.eq_iff

/-- The bytes of a service uuid. -/
def Config.uuidBytes (cfg : Config) (topic : Option Bytes) : Bytes :=
  (cfg.hash [cfg.tag, topic.getD discovery]).take 16

theorem Config.toServiceUUID_spells (cfg : Config) (topic : Option Bytes) :
    Spells (toHex (cfg.uuidBytes topic)) (cfg.toServiceUUID topic) := by
  apply Spells.uuidText
  · exact fun c mem => mem_hexDigits_of_mem_toHex mem
  · rw [length_toHex, Config.uuidBytes, List.length_take]
    omega

/-- A search by uuid finds the first item with the bytes, however the items spell them. -/
theorem findByUUID_eq {α : Type*} {target : Hex} {bytes : Bytes}
    (spells : Spells (toHex bytes) target)
    (items : List α) (uuid : α → Option Hex) (value : α → Bytes)
    (spelled : ∀ i ∈ items, ∃ text, uuid i = some text ∧ Spells (toHex (value i)) text) :
    findByUUID uuid (some items) target = items.find? (fun i => value i = bytes) := by
  unfold findByUUID
  dsimp only [Option.getD_some]
  induction items with
  | nil => rfl
  | cons i items ih =>
    obtain ⟨text, here, spells'⟩ := spelled i List.mem_cons_self
    have same : uuidEq (uuid i) (some target) = decide (value i = bytes) := by
      rw [here, Bool.eq_iff_iff, uuidEq_iff spells' spells, decide_eq_true_iff]
    rw [List.find?_cons, List.find?_cons, same,
      ih fun i mem => spelled i (List.mem_cons_of_mem _ mem)]

/-- The bytes of the data characteristic's uuid. -/
def dataBytes : Bytes :=
  [0xce, 0x1a, 0x00, 0x04, 0x00, 0x00, 0x10, 0x00, 0x80, 0x00, 0x00, 0x80, 0x5f, 0x9b, 0x34, 0xfb]

theorem dataUUID_spells : Spells (toHex dataBytes) dataUUID := by
  have text : dataUUID = uuidText (toHex dataBytes) := by decide +kernel
  rw [text]
  apply Spells.uuidText
  · exact fun c mem => mem_hexDigits_of_mem_toHex mem
  · rw [length_toHex]
    decide

namespace Core

/-- Every item has a uuid that spells the bytes. -/
def Listed {α : Type*} (items : List α) (uuid : α → Option Hex) (value : α → Bytes) : Prop :=
  ∀ i ∈ items, ∃ text, uuid i = some text ∧ Spells (toHex (value i)) text

theorem found_iff {α : Type*} {target : Hex} {bytes : Bytes} (spells : Spells (toHex bytes) target)
    {items : List α} {uuid : α → Option Hex} {value : α → Bytes} (listed : Listed items uuid value) :
    (findByUUID uuid (some items) target).isSome = true ↔ ∃ i ∈ items, value i = bytes := by
  rw [findByUUID_eq spells items uuid value listed, List.find?_isSome]
  simp only [decide_eq_true_eq]

/-- However the platform spells the uuids that it found, a dial goes on exactly if the service that
devices with this tag host is among the services, and then if the data characteristic is
among the characteristics. Otherwise it is aborted. -/
theorem discoveries_found {α : Type*} (env : Env) (c : Core) (p : Ref) (items : List α)
    (uuid : α → Option Hex) (value : α → Bytes) (listed : Listed items uuid value) :
    (c.onServicesDiscover env p
        (findByUUID uuid (some items) (env.cfg.toServiceUUID none)).isSome =
      if ∃ i ∈ items, value i = env.cfg.uuidBytes none then c.issue (.discoverCharacteristics p)
      else c.abortDial env p) ∧
    c.onCharacteristicsDiscover env p (findByUUID uuid (some items) dataUUID).isSome =
      if ∃ i ∈ items, value i = dataBytes then c.issue (.subscribe p) else c.abortDial env p := by
  have service := found_iff (env.cfg.toServiceUUID_spells none) listed
  have characteristic := found_iff dataUUID_spells listed
  exact ⟨if_congr service rfl rfl, if_congr characteristic rfl rfl⟩

/-- The service is found in upper case and without dashes. -/
theorem discoveries_found_in_upper_case :
    let cfg := { Config.plain (List.replicate 32 1) .gatt .ios with
      hash := fun _ => List.replicate 32 0xab }
    let env : Env := { cfg, life := {}, now := 0, native := {} }
    let c := (Transport.create cfg none false id).core
    let services : List Bytes := [[0x18, 0x0f], List.replicate 16 0xab]
    let uuid (service : Bytes) := some ((toHex service).map Char.toUpper)
    c.onServicesDiscover env 7 (findByUUID uuid (some services) (cfg.toServiceUUID none)).isSome =
      c.issue (.discoverCharacteristics 7) := by
  intro cfg env c services uuid
  have listed : Listed services uuid id := fun i _ =>
    ⟨_, rfl, .upper fun c mem => mem_hexDigits_of_mem_toHex mem⟩
  have hosted : ∃ i ∈ services, id i = env.cfg.uuidBytes none := by
    refine ⟨List.replicate 16 0xab, by simp [services], ?_⟩
    decide +kernel
  exact (discoveries_found env c 7 services uuid id listed).1.trans (if_pos hosted)

end Core

end BleSwarm
