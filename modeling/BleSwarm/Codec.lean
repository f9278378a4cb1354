import BleSwarm.Frames
import Mathlib.Logic.Equiv.PartialEquiv

/-!
# The codecs

Session routing keys on the hex form of an id, so the frame codec must give back
the very text it was given. Each codec is a partial equivalence between the values
it is used on and the buffers it can produce. The source and the target are what a
caller has to check. Exactness and injectivity follow from the two laws.
-/

namespace BleSwarm

/-! ## Hex text -/

/-- The digits that `b4a.toHex` writes. -/
def hexDigits : Hex :=
  ['0', '1', '2', '3', '4', '5', '6', '7', '8', '9', 'a', 'b', 'c', 'd', 'e', 'f']

theorem digitChar_mem_hexDigits (b : Byte) :
    Nat.digitChar (b.val / 16) ∈ hexDigits ∧ Nat.digitChar (b.val % 16) ∈ hexDigits := by
  revert b
  decide +kernel

/-- A lowercase digit is read as the value it is written for. -/
theorem hexValue_of_mem {c : Char} (lower : c ∈ hexDigits) :
    ∃ v : Fin 16, hexValue c = some v.val ∧ Nat.digitChar v.val = c := by
  have digits : hexDigits = List.ofFn fun v : Fin 16 => Nat.digitChar v.val := by decide
  have read : ∀ v : Fin 16, hexValue (Nat.digitChar v.val) = some v.val := by decide
  rw [digits, List.mem_ofFn] at lower
  obtain ⟨v, rfl⟩ := lower
  exact ⟨v, read v, rfl⟩

theorem length_toHex (bytes : Bytes) : (toHex bytes).length = 2 * bytes.length := by
  induction bytes with
  | nil => rfl
  | cons b bytes ih =>
    have tail : (toHex (b :: bytes)).length = 2 + (toHex bytes).length := by
      simp only [toHex, List.flatMap_cons, List.length_append, List.length_cons, List.length_nil]
    rw [tail, ih, List.length_cons]
    omega

theorem mem_hexDigits_of_mem_toHex {bytes : Bytes} {c : Char} (mem : c ∈ toHex bytes) :
    c ∈ hexDigits := by
  obtain ⟨b, -, digit⟩ := List.mem_flatMap.mp mem
  obtain ⟨high, low⟩ := digitChar_mem_hexDigits b
  rcases List.mem_pair.mp digit with rfl | rfl
  · exact high
  · exact low

/-- Two lowercase digits are the byte they are read as. -/
theorem digits_of_byte (h l : Fin 16) :
    (Fin.ofNat 256 (16 * h.val + l.val)).val / 16 = h.val ∧
      (Fin.ofNat 256 (16 * h.val + l.val)).val % 16 = l.val := by
  have high := h.isLt
  have low := l.isLt
  simp only [Fin.ofNat]
  omega

/-- Lowercase text of whole bytes is its own canonical form. -/
theorem toHex_fromHex : ∀ (bytes : Nat) {text : Hex}, text.length = 2 * bytes →
    (∀ c ∈ text, c ∈ hexDigits) → toHex (fromHex text) = text ∧ (fromHex text).length = bytes := by
  intro bytes
  induction bytes with
  | zero =>
    intro text whole _
    obtain rfl := List.length_eq_zero_iff.mp whole
    exact ⟨rfl, rfl⟩
  | succ bytes ih =>
    intro text whole lower
    match text, whole, lower with
    | high :: low :: rest, whole, lower =>
      obtain ⟨h, read, written⟩ := hexValue_of_mem (lower high (by simp))
      obtain ⟨l, read', written'⟩ := hexValue_of_mem (lower low (by simp))
      have shorter : rest.length = 2 * bytes := by
        simp only [List.length_cons] at whole
        omega
      obtain ⟨tail, length⟩ := ih shorter fun c mem => lower c (by simp [mem])
      obtain ⟨quotient, remainder⟩ := digits_of_byte h l
      have first : fromHex (high :: low :: rest) =
          Fin.ofNat 256 (16 * h.val + l.val) :: fromHex rest := by
        simp only [fromHex, read, read']
      rw [first]
      constructor
      · have flat : rest = (fromHex rest).flatMap fun b =>
            [Nat.digitChar (b.val / 16), Nat.digitChar (b.val % 16)] := tail.symm
        rw [toHex, List.flatMap_cons, ← flat, quotient, remainder, written, written']
        rfl
      · rw [List.length_cons, length]

/-! ## Frames -/

/-- A session id as the sessions map keys it: lowercase digits, two for each byte. -/
structure Canonical (id : Hex) : Prop where
  whole : id.length = 2 * sidLen
  lower : ∀ c ∈ id, c ∈ hexDigits

theorem canonical_toHex {sid : Bytes} (whole : sid.length = sidLen) : Canonical (toHex sid) where
  whole := by rw [length_toHex, whole]
  lower := fun _ mem => mem_hexDigits_of_mem_toHex mem

/-- A canonical id is the text of eight bytes. -/
theorem Canonical.bytes {id : Hex} (canonical : Canonical id) :
    ∃ sid : Bytes, sid.length = sidLen ∧ toHex sid = id := by
  obtain ⟨same, whole⟩ := toHex_fromHex sidLen canonical.whole canonical.lower
  exact ⟨fromHex id, whole, same⟩

/-- The frame encoder overwrites the whole of the buffer it is given. -/
theorem encodeFrameInto_eq {out payload : Bytes} {id : Hex} (canonical : Canonical id) (type : Byte)
    (room : out.length = header + payload.length) :
    encodeFrameInto out type id payload = encodeFrame type id payload := by
  obtain ⟨sid, whole, rfl⟩ := canonical.bytes
  rw [encodeFrameInto_toHex type whole room, encodeFrame_toHex type whole payload]

theorem length_encodeFrame {id : Hex} (canonical : Canonical id) (type : Byte) (payload : Bytes) :
    (encodeFrame type id payload).length = header + payload.length := by
  obtain ⟨sid, whole, rfl⟩ := canonical.bytes
  rw [encodeFrame_toHex type whole payload]
  simp only [List.cons_append, List.length_cons, List.length_append, whole, header]
  omega

/-- A buffer that holds a header is its first byte, the id and the rest. -/
theorem split_header {buf : Bytes} (long : header ≤ buf.length) :
    ((buf.take header).drop 1).length = sidLen ∧
      buf = buf.getD 0 0 :: ((buf.take header).drop 1) ++ buf.drop header := by
  cases buf with
  | nil => cases long
  | cons type rest =>
    have whole : sidLen ≤ rest.length := by
      simp only [List.length_cons, header] at long
      omega
    constructor
    · simp [header, Nat.add_comm 1, whole]
    · simp [header, Nat.add_comm 1]

theorem decodeFrame_of_long {buf : Bytes} (long : header ≤ buf.length) :
    decodeFrame (some buf) =
      some ⟨buf.getD 0 0, toHex ((buf.take header).drop 1), buf.drop header⟩ := by
  rw [decodeFrame, if_neg (Nat.not_lt.mpr long)]

/-- The decoder refuses what is missing and what cannot hold a header, and nothing else. -/
theorem decodeFrame_eq_none_iff (buf : Option Bytes) :
    decodeFrame buf = none ↔ ∀ bytes ∈ buf, bytes.length < header := by
  cases buf with
  | none => simp [decodeFrame]
  | some bytes =>
    by_cases short : bytes.length < header
    · simp [decodeFrame, short]
    · simp [decodeFrame, short]

/-- The frame codec: frames under canonical ids are the buffers that hold a header. -/
def frameCodec : PartialEquiv Frame Bytes where
  toFun frame := encodeFrame frame.type frame.id frame.payload
  invFun buf := (decodeFrame (some buf)).getD ⟨0, [], []⟩
  source := { frame | Canonical frame.id }
  target := { buf | header ≤ buf.length }
  map_source' := by
    intro frame canonical
    have long := length_encodeFrame canonical frame.type frame.payload
    apply le_of_le_of_eq (Nat.le_add_right header _) long.symm
  map_target' := by
    intro buf long
    simp only [decodeFrame_of_long long]
    exact canonical_toHex (split_header long).1
  left_inv' := by
    intro frame canonical
    obtain ⟨type, id, payload⟩ := frame
    obtain ⟨sid, whole, rfl⟩ := canonical.bytes
    simp only [decodeFrame_encodeFrame type whole payload, Option.getD_some]
  right_inv' := by
    intro buf long
    obtain ⟨whole, split⟩ := split_header long
    simp only [decodeFrame_of_long long, Option.getD_some]
    rw [encodeFrame_toHex _ whole]
    exact split.symm

theorem decodeFrame_eq_some {buf : Bytes} {frame : Frame}
    (decoded : decodeFrame (some buf) = some frame) :
    buf ∈ frameCodec.target ∧ frameCodec.symm buf = frame := by
  have long : header ≤ buf.length := by
    by_contra short
    have refused : decodeFrame (some buf) = none :=
      (decodeFrame_eq_none_iff (some buf)).mpr fun _ same => by
        obtain rfl := Option.some.inj same
        exact Nat.not_le.mp short
    rw [refused] at decoded
    cases decoded
  have parts : frameCodec.symm buf = (decodeFrame (some buf)).getD ⟨0, [], []⟩ := rfl
  exact ⟨long, by rw [parts, decoded, Option.getD_some]⟩

/-- The frame codec is exact both ways, and the old contents of the buffer do not
show in a frame. -/
theorem frameCodec_exact :
    (∀ (type : Byte) (id : Hex) (payload : Bytes), Canonical id →
      (∀ out : Bytes, out.length = header + payload.length →
        encodeFrameInto out type id payload = encodeFrame type id payload) ∧
      decodeFrame (some (encodeFrame type id payload)) = some ⟨type, id, payload⟩) ∧
    (∀ buf : Option Bytes, decodeFrame buf = none ↔ ∀ bytes ∈ buf, bytes.length < header) ∧
    (∀ (buf : Bytes) (frame : Frame), decodeFrame (some buf) = some frame →
      Canonical frame.id ∧ encodeFrame frame.type frame.id frame.payload = buf) ∧
    Set.InjOn (fun frame : Frame => encodeFrame frame.type frame.id frame.payload)
      { frame | Canonical frame.id } := by
  refine ⟨?_, decodeFrame_eq_none_iff, ?_, frameCodec.injOn⟩
  · intro type id payload canonical
    refine ⟨fun out room => encodeFrameInto_eq canonical type room, ?_⟩
    obtain ⟨sid, whole, rfl⟩ := canonical.bytes
    exact decodeFrame_encodeFrame type whole payload
  · intro buf frame decoded
    obtain ⟨long, parts⟩ := decodeFrame_eq_some decoded
    have canonical : frameCodec.symm buf ∈ frameCodec.source := frameCodec.map_target long
    have rebuilt : frameCodec (frameCodec.symm buf) = buf := frameCodec.right_inv long
    rw [parts] at canonical rebuilt
    exact ⟨canonical, rebuilt⟩

theorem frameCodec_exact_data :
    Canonical (List.replicate (2 * sidLen) 'a') ∧
      decodeFrame (some (encodeFrame typeData (List.replicate (2 * sidLen) 'a') [7, 9])) =
        some ⟨typeData, List.replicate (2 * sidLen) 'a', [7, 9]⟩ := by
  have canonical : Canonical (List.replicate (2 * sidLen) 'a') := by
    refine ⟨List.length_replicate, fun c mem => ?_⟩
    rw [List.eq_of_mem_replicate mem]
    decide
  exact ⟨canonical, (frameCodec_exact.1 typeData _ [7, 9] canonical).2⟩

/-! ## Key payloads -/

/-- What the caller of the key encoder passes: a whole key and a psm of two bytes. -/
structure KeyPayload.Fits (parts : KeyPayload) : Prop where
  whole : parts.key.length = keyLen
  small : ∀ psm ∈ parts.psm, psm < 65536

/-- What the key payload says of the parts: without flags the psm is not sent. -/
def KeyPayload.sent (parts : KeyPayload) : KeyPayload :=
  { parts with psm := if parts.flags = 0 then none else parts.psm }

theorem KeyPayload.sent_of_said {parts : KeyPayload} (said : parts.flags ≠ 0 ∨ parts.psm = none) :
    parts.sent = parts := by
  obtain ⟨key, flags, psm⟩ := parts
  rcases said with flagged | short
  · simp only [sent, if_neg flagged]
  · obtain rfl : psm = none := short
    simp only [sent, ite_self]

/-- The payloads that the key encoder writes: a bare key, or flags that are set, with
or without the two bytes of a psm. -/
def Layout (payload : Bytes) : Prop :=
  payload.length = keyLen ∨
    (payload.length = keyLen + 1 ∨ payload.length = keyLen + 3) ∧ payload.getD keyLen 0 ≠ 0

theorem layout_encodeKeyPayload {parts : KeyPayload} (fits : parts.Fits) :
    Layout (encodeKeyPayload parts.key parts.flags parts.psm) := by
  obtain ⟨key, flags, psm⟩ := parts
  have whole : key.length = keyLen := fits.whole
  by_cases bare : flags = 0
  · exact .inl (by simp [encodeKeyPayload, bare, whole])
  · cases psm with
    | none => exact .inr ⟨.inl (by simp [encodeKeyPayload, bare, whole]),
        by simp [encodeKeyPayload, bare, ← whole]⟩
    | some psm => exact .inr ⟨.inr (by simp [encodeKeyPayload, bare, whole]),
        by simp [encodeKeyPayload, bare, ← whole]⟩

/-- The two bytes of a psm come back from the number they make. -/
theorem bytes_of_psm (high low : Byte) :
    Fin.ofNat 256 ((high.val <<< 8 ||| low.val) >>> 8) = high ∧
      Fin.ofNat 256 (high.val <<< 8 ||| low.val) = low := by
  have upper := high.isLt
  have lower : low.val < 2 ^ 8 := low.isLt
  rw [← Nat.shiftLeft_add_eq_or_of_lt lower, Nat.shiftLeft_eq, Nat.shiftRight_eq_div_pow]
  constructor
  · apply Fin.ext
    simp only [Fin.ofNat]
    omega
  · apply Fin.ext
    simp only [Fin.ofNat]
    omega

/-- A payload of one of the three layouts is a key and what stands behind it. -/
theorem Layout.split {payload : Bytes} (layout : Layout payload) :
    ∃ key : Bytes, key.length = keyLen ∧
      (payload = key ∨
        (∃ flags : Byte, flags ≠ 0 ∧ payload = key ++ [flags]) ∨
        ∃ flags high low : Byte, flags ≠ 0 ∧ payload = key ++ [flags, high, low]) := by
  have keyed : payload = payload.take keyLen ++ payload.drop keyLen :=
    (List.take_append_drop keyLen payload).symm
  have behind : (payload.drop keyLen).length = payload.length - keyLen := List.length_drop
  have flag : payload.getD keyLen 0 = (payload.drop keyLen).getD 0 0 := by
    simp only [List.getD_eq_getElem?_getD, List.getElem?_drop, Nat.add_zero]
  have whole : keyLen ≤ payload.length := by
    rcases layout with bare | ⟨short | full, -⟩ <;> omega
  refine ⟨payload.take keyLen, List.length_take_of_le whole, ?_⟩
  rcases layout with bare | ⟨short | full, set⟩
  · left
    rw [List.take_of_length_le (Nat.le_of_eq bare)]
  · rw [short, Nat.add_sub_cancel_left] at behind
    obtain ⟨flags, rest⟩ := List.length_eq_one_iff.mp behind
    rw [flag, rest] at set
    rw [rest] at keyed
    exact .inr (.inl ⟨flags, set, keyed⟩)
  · rw [full, Nat.add_sub_cancel_left] at behind
    obtain ⟨flags, high, low, rest⟩ := List.length_eq_three.mp behind
    rw [flag, rest] at set
    rw [rest] at keyed
    exact .inr (.inr ⟨flags, high, low, set, keyed⟩)

/-- What is decoded from one of the layouts could have been passed, and is encoded to it. -/
theorem Layout.rebuild {payload : Bytes} (layout : Layout payload) :
    (decodeKeyPayload payload).Fits ∧
      (decodeKeyPayload payload).sent = decodeKeyPayload payload ∧
      encodeKeyPayload (decodeKeyPayload payload).key (decodeKeyPayload payload).flags
        (decodeKeyPayload payload).psm = payload := by
  obtain ⟨key, whole, rfl | ⟨flags, set, rfl⟩ | ⟨flags, high, low, set, rfl⟩⟩ := layout.split
  · have parts : decodeKeyPayload payload = ⟨payload, 0, none⟩ := by
      simp [decodeKeyPayload, ← whole]
    rw [parts]
    exact ⟨⟨whole, fun _ absent => by cases absent⟩, rfl, rfl⟩
  · have parts : decodeKeyPayload (key ++ [flags]) = ⟨key, flags, none⟩ := by
      simp [decodeKeyPayload, ← whole]
    rw [parts]
    refine ⟨⟨whole, fun _ absent => by cases absent⟩, ?_, ?_⟩
    · exact KeyPayload.sent_of_said (.inr rfl)
    · simp only [encodeKeyPayload, if_neg set]
  · have parts : decodeKeyPayload (key ++ [flags, high, low]) =
        ⟨key, flags, some (high.val <<< 8 ||| low.val)⟩ := by
      simp [decodeKeyPayload, ← whole]
    have small : high.val <<< 8 ||| low.val < 65536 := by
      have upper := high.isLt
      have lower : low.val < 2 ^ 8 := low.isLt
      rw [← Nat.shiftLeft_add_eq_or_of_lt lower, Nat.shiftLeft_eq]
      omega
    obtain ⟨first, second⟩ := bytes_of_psm high low
    rw [parts]
    refine ⟨⟨whole, fun psm same => by cases same; exact small⟩, ?_, ?_⟩
    · exact KeyPayload.sent_of_said (.inl set)
    · simp only [encodeKeyPayload, if_neg set, first, second]

/-- The key codec: whole keys, with a psm only behind flags, are the three layouts. -/
def keyCodec : PartialEquiv KeyPayload Bytes where
  toFun parts := encodeKeyPayload parts.key parts.flags parts.psm
  invFun := decodeKeyPayload
  source := { parts | parts.Fits ∧ parts.sent = parts }
  target := { payload | Layout payload }
  map_source' := fun _ valid => layout_encodeKeyPayload valid.1
  map_target' := fun _ layout => ⟨layout.rebuild.1, layout.rebuild.2.1⟩
  left_inv' := by
    intro parts valid
    obtain ⟨fits, said⟩ := valid
    rw [decodeKeyPayload_encodeKeyPayload fits.whole parts.flags fits.small]
    exact said
  right_inv' := fun _ layout => layout.rebuild.2.2

/-- The key payload codec is exact on its image, which is the three layouts. -/
theorem keyCodec_exact :
    (∀ (key : Bytes) (flags : Byte) (psm : Option Nat), key.length = keyLen →
      (∀ port ∈ psm, port < 65536) →
      (flags ≠ 0 ∨ psm = none →
        decodeKeyPayload (encodeKeyPayload key flags psm) = ⟨key, flags, psm⟩) ∧
      (¬ (flags ≠ 0 ∨ psm = none) →
        decodeKeyPayload (encodeKeyPayload key flags psm) = ⟨key, 0, none⟩)) ∧
    (∀ payload : Bytes, Layout payload →
      encodeKeyPayload (decodeKeyPayload payload).key (decodeKeyPayload payload).flags
        (decodeKeyPayload payload).psm = payload) ∧
    ∀ payload : Bytes, Layout payload ↔
      ∃ (key : Bytes) (flags : Byte) (psm : Option Nat), key.length = keyLen ∧
        (∀ port ∈ psm, port < 65536) ∧ encodeKeyPayload key flags psm = payload := by
  refine ⟨?_, fun _ layout => keyCodec.right_inv layout, ?_⟩
  · intro key flags psm whole small
    have decoded := decodeKeyPayload_encodeKeyPayload whole flags small
    constructor
    · intro said
      have sent : KeyPayload.sent ⟨key, flags, psm⟩ = ⟨key, flags, psm⟩ :=
        KeyPayload.sent_of_said said
      exact decoded.trans sent
    · intro unsaid
      obtain ⟨bare, _⟩ := not_or.mp unsaid
      have zero : flags = 0 := not_not.mp bare
      rw [decoded, if_pos zero, zero]
  · intro payload
    constructor
    · intro layout
      have valid : keyCodec.symm payload ∈ keyCodec.source := keyCodec.map_target layout
      exact ⟨_, _, _, valid.1.whole, valid.1.small, keyCodec.right_inv layout⟩
    · rintro ⟨key, flags, psm, whole, small, rfl⟩
      have fits : KeyPayload.Fits ⟨key, flags, psm⟩ := ⟨whole, small⟩
      exact layout_encodeKeyPayload fits

theorem keyCodec_exact_psm :
    decodeKeyPayload (encodeKeyPayload (List.replicate keyLen 7) pipeL2cap (some 193)) =
        ⟨List.replicate keyLen 7, pipeL2cap, some 193⟩ ∧
      decodeKeyPayload (encodeKeyPayload (List.replicate keyLen 7) 0 (some 193)) =
        ⟨List.replicate keyLen 7, 0, none⟩ := by
  have small : ∀ port ∈ some 193, port < 65536 := by decide
  obtain ⟨said, -⟩ :=
    keyCodec_exact.1 (List.replicate keyLen 7) pipeL2cap (some 193) (by decide) small
  obtain ⟨-, unsaid⟩ := keyCodec_exact.1 (List.replicate keyLen 7) 0 (some 193) (by decide) small
  exact ⟨said (by decide), unsaid (by decide)⟩

end BleSwarm
