import BleSwarm.Transport.State

/-!
# The frames of a session's opening

What OPEN, HELLO and the final CLOSE say to whoever decodes them.
-/

namespace BleSwarm.Core

/-- The frame that `startCentralSession` sends. -/
def openFrame (cfg : Config) (id : Hex) : Bytes :=
  encodeFrame typeOpen id (encodeKeyPayload cfg.publicKey cfg.capabilities none)

/-- The frame that answers an OPEN which is accepted. -/
def helloFrame (cfg : Config) (id : Hex) (psm : Option Nat) : Bytes :=
  encodeFrame typeHello id
    (match cfg.pipe with
    | .l2cap => encodeKeyPayload cfg.publicKey pipeL2cap psm
    | .gatt => cfg.publicKey)

/-- The frame that answers an OPEN which can never be accepted. -/
def finalFrame (id : Hex) : Bytes := encodeFrame typeClose id (encodeCloseReason (some reasonFinal))

/-- The frame decodes to a type, an id and what its payload says. -/
def Reads (frame : Bytes) (type : Byte) (id : Hex) (said : KeyPayload) : Prop :=
  ∃ payload, decodeFrame (some frame) = some ⟨type, id, payload⟩ ∧ decodeKeyPayload payload = said

variable {sid : Bytes} {cfg : Config}

theorem openFrame_reads (whole : sid.length = sidLen) (key : cfg.publicKey.length = keyLen) :
    Reads (openFrame cfg (toHex sid)) typeOpen (toHex sid) ⟨cfg.publicKey, cfg.capabilities, none⟩ := by
  refine ⟨_, decodeFrame_encodeFrame typeOpen whole _, ?_⟩
  rw [decodeKeyPayload_encodeKeyPayload key _ (by simp)]
  simp

/-- A HELLO says the psm on the pipe that needs one. -/
theorem helloFrame_reads (whole : sid.length = sidLen) (key : cfg.publicKey.length = keyLen)
    {psm : Option Nat} (small : ∀ port ∈ psm, port < 65536) :
    Reads (helloFrame cfg (toHex sid) psm) typeHello (toHex sid)
      ⟨cfg.publicKey, cfg.capabilities, if cfg.pipe = .l2cap then psm else none⟩ := by
  refine ⟨_, decodeFrame_encodeFrame typeHello whole _, ?_⟩
  unfold Config.capabilities
  cases cfg.pipe with
  | l2cap =>
    simp only [if_true]
    rw [decodeKeyPayload_encodeKeyPayload key _ small]
    simp [pipeL2cap]
  | gatt =>
    have bare : encodeKeyPayload cfg.publicKey 0 none = cfg.publicKey := rfl
    have small : ∀ port ∈ (none : Option Nat), port < 65536 := by simp
    have said := decodeKeyPayload_encodeKeyPayload key 0 small
    rw [bare] at said
    simpa using said

end BleSwarm.Core
