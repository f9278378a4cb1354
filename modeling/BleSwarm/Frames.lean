import BleSwarm.Bytes

/-!
# Wire frames

Both directions carry `[type:1][sessionId:8][payload]`. OPEN carries the
initiator's public key and HELLO the responder's, each optionally followed by a
flag byte and, in HELLO, a big-endian psm. CLOSE optionally carries a reason.
-/

namespace BleSwarm

def typeOpen : Byte := 1
def typeData : Byte := 2
def typeClose : Byte := 3
def typeHello : Byte := 4

def sidLen : Nat := 8
def header : Nat := 1 + sidLen
def keyLen : Nat := 32

def pipeL2cap : Byte := 1
def reasonFinal : Byte := 1

/-- A decoded frame. -/
structure Frame where
  type : Byte
  id : Hex
  payload : Bytes
  deriving DecidableEq

/-- Overwrite a part of a buffer, as indexed writes, `b4a.write` and `b4a.copy` do. -/
def writeAt (out : Bytes) (offset : Nat) (src : Bytes) : Bytes :=
  out.take offset ++ src ++ out.drop (offset + src.length)

/-- `encodeFrame` over the old contents of the buffer that `allocUnsafe` returned. -/
def encodeFrameInto (out : Bytes) (type : Byte) (id : Hex) (payload : Bytes) : Bytes :=
  let out := writeAt out 0 [type]
  let out := writeAt out 1 ((fromHex id).take sidLen)
  if payload.length ≠ 0 then writeAt out header payload else out

def encodeFrame (type : Byte) (id : Hex) (payload : Bytes) : Bytes :=
  encodeFrameInto (List.replicate (header + payload.length) 0) type id payload

theorem writeAt_head? {out : Bytes} {offset : Nat} (src : Bytes) (pos : 0 < offset)
    (nonempty : out ≠ []) : (writeAt out offset src).head? = out.head? := by
  obtain ⟨b, out, rfl⟩ := List.exists_cons_of_ne_nil nonempty
  obtain ⟨offset, rfl⟩ := Nat.exists_eq_succ_of_ne_zero (Nat.ne_of_gt pos)
  rfl

/-- The type is the first byte of a frame, whatever the id. -/
@[simp] theorem encodeFrame_head? (type : Byte) (id : Hex) (payload : Bytes) :
    (encodeFrame type id payload).head? = some type := by
  have named : (writeAt (writeAt (List.replicate (header + payload.length) 0) 0 [type]) 1
      ((fromHex id).take sidLen)).head? = some type := writeAt_head? _ Nat.one_pos (by simp [writeAt])
  unfold encodeFrame encodeFrameInto
  dsimp only
  split
  · rw [writeAt_head? _ (by decide), named]
    intro empty
    rw [empty] at named
    cases named
  · exact named

/-- What is written behind a part that stays, over as much of the rest as it needs. -/
theorem writeAt_append (front src rest : Bytes) {offset : Nat} (behind : front.length = offset) :
    writeAt (front ++ rest) offset src = front ++ src ++ rest.drop src.length := by
  subst behind
  simp [writeAt, List.drop_append]

/-- A frame is its type, its id and its payload, whatever the buffer held before. -/
theorem encodeFrameInto_toHex {out : Bytes} (type : Byte) {sid : Bytes} (whole : sid.length = sidLen)
    {payload : Bytes} (room : out.length = header + payload.length) :
    encodeFrameInto out type (toHex sid) payload = type :: sid ++ payload := by
  have named : (fromHex (toHex sid)).take sidLen = sid := by
    rw [fromHex_toHex, ← whole, List.take_length]
  have typed : writeAt out 0 [type] = [type] ++ out.drop 1 := by
    have first :
        writeAt out 0 [type] = [] ++ [type] ++ out.drop 1 := writeAt_append [] [type] out rfl
    rw [first, List.nil_append]
  have known : writeAt ([type] ++ out.drop 1) 1 sid = [type] ++ sid ++ out.drop header := by
    have second : writeAt ([type] ++ out.drop 1) 1 sid =
        [type] ++ sid ++ (out.drop 1).drop sid.length := writeAt_append [type] sid _ rfl
    rw [second, List.drop_drop, whole]
    rfl
  have framed : writeAt ([type] ++ sid ++ out.drop header) header payload =
      [type] ++ sid ++ payload := by
    have spent : (out.drop header).drop payload.length = [] := by
      rw [List.drop_drop, ← room, List.drop_length]
    rw [writeAt_append ([type] ++ sid) payload _ (by simp [header, whole, Nat.add_comm]), spent,
      List.append_nil]
  unfold encodeFrameInto
  simp only [named]
  rw [typed, known]
  split
  · exact framed
  · rename_i empty
    have none : payload = [] := by simpa using empty
    have spent : out.drop header = [] := by
      apply List.drop_eq_nil_of_le
      simp [room, none]
    simp [none, spent]

theorem encodeFrame_toHex (type : Byte) {sid : Bytes} (whole : sid.length = sidLen) (payload : Bytes) :
    encodeFrame type (toHex sid) payload = type :: sid ++ payload :=
  encodeFrameInto_toHex type whole List.length_replicate

def encodeCloseReason (reason : Option Byte) : Bytes :=
  match reason with
  | some r => if r ≠ 0 then [r] else []
  | none => []

def decodeCloseReason (payload : Bytes) : Byte :=
  if 0 < payload.length then payload.getD 0 0 else 0

def decodeFrame (buf : Option Bytes) : Option Frame :=
  match buf with
  | none => none
  | some buf =>
    if buf.length < header then none
    else some ⟨buf.getD 0 0, toHex ((buf.take header).drop 1), buf.drop header⟩

/-- What was encoded under an id of the right length is decoded. -/
theorem decodeFrame_encodeFrame (type : Byte) {sid : Bytes} (whole : sid.length = sidLen)
    (payload : Bytes) :
    decodeFrame (some (encodeFrame type (toHex sid) payload)) = some ⟨type, toHex sid, payload⟩ := by
  have long : ¬ (type :: sid ++ payload).length < header := by
    simp only [List.cons_append, List.length_cons, List.length_append, whole, header]
    omega
  have taken : ((type :: sid ++ payload).take header).drop 1 = sid := by
    simp [header, Nat.add_comm 1, ← whole]
  have left :
      (type :: sid ++ payload).drop header = payload := by simp [header, Nat.add_comm 1, ← whole]
  rw [encodeFrame_toHex type whole, decodeFrame]
  simp only [long, if_false, taken, left]
  rfl

def encodeKeyPayload (key : Bytes) (flags : Byte) (psm : Option Nat) : Bytes :=
  if flags = 0 then key
  else
    match psm with
    | none => key ++ [flags]
    | some psm => key ++ [flags, Fin.ofNat 256 (psm >>> 8), Fin.ofNat 256 psm]

/-- What an OPEN or HELLO payload says; `psm` is missing from short payloads. -/
structure KeyPayload where
  key : Bytes
  flags : Byte
  psm : Option Nat
  deriving DecidableEq

def decodeKeyPayload (payload : Bytes) : KeyPayload where
  key := payload.take keyLen
  flags := if keyLen < payload.length then payload.getD keyLen 0 else 0
  psm :=
    if keyLen + 3 ≤ payload.length then
      some ((payload.getD (keyLen + 1) 0).val <<< 8 ||| (payload.getD (keyLen + 2) 0).val)
    else none

theorem decodeCloseReason_encodeCloseReason (reason : Byte) :
    decodeCloseReason (encodeCloseReason (some reason)) = reason := by
  unfold encodeCloseReason decodeCloseReason
  by_cases none : reason = 0
  · simp [none]
  · simp [none]

/-- The two bytes of a psm. -/
theorem psm_of_bytes {psm : Nat} (small : psm < 65536) :
    (Fin.ofNat 256 (psm >>> 8)).val <<< 8 ||| (Fin.ofNat 256 psm).val = psm := by
  have low : (Fin.ofNat 256 psm).val < 2 ^ 8 := (Fin.ofNat 256 psm).isLt
  rw [← Nat.shiftLeft_add_eq_or_of_lt low]
  simp only [Fin.ofNat, Nat.shiftLeft_eq, Nat.shiftRight_eq_div_pow]
  omega

/-- What was encoded behind a key of the right length is decoded; a psm needs flags. -/
theorem decodeKeyPayload_encodeKeyPayload {key : Bytes} (whole : key.length = keyLen) (flags : Byte)
    {psm : Option Nat} (small : ∀ port ∈ psm, port < 65536) :
    decodeKeyPayload (encodeKeyPayload key flags psm) =
      ⟨key, flags, if flags = 0 then none else psm⟩ := by
  unfold encodeKeyPayload
  by_cases bare : flags = 0
  · simp [decodeKeyPayload, bare, ← whole]
  · cases psm with
    | none => simp [decodeKeyPayload, bare, ← whole]
    | some psm =>
      have bytes := psm_of_bytes (small psm rfl)
      simpa [decodeKeyPayload, bare, ← whole] using bytes

end BleSwarm
