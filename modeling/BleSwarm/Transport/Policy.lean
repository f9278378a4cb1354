import BleSwarm.Transport.Grounded
import BleSwarm.Transport.Peers

/-!
# The policy and the key the handshake proves

OPEN and HELLO are refused under a key the policy rejects, but they only announce
a key. What is delivered is keyed by the one the handshake proves, and nothing
asks the policy again, so the policy holds of what is delivered as far as the two
keys agree.
-/

namespace BleSwarm.Transport

open BleSwarm.Core

/-- Every link delivered so far has a remote key that the policy accepts. -/
def PolicyHolds (t : Transport) : Prop :=
  ∀ d ∈ t.core.links.delivered, t.cfg.accept d.2 = true

/-- A handshake that proves another key than was announced proves an accepted one. -/
def Authentic (t : Transport) : Action → Prop
  | .input i =>
    match i.event with
    | .connOpen r key => key = (t.core.links.conns.get r).announced ∨ t.cfg.accept key = true
    | _ => True
  | _ => True

instance (t : Transport) (a : Action) : Decidable (t.Authentic a) := by
  unfold Authentic
  rcases a with ⟨_, _, event⟩ | _
  · rcases event with _ | _ <;> infer_instance
  all_goals infer_instance

theorem policy_step {t : Transport} (h : Grounded .all t.cfg t.core ∧ t.PolicyHolds) (a : Action)
    (authentic : t.Authentic a) :
    Grounded .all (t.act a).cfg (t.act a).core ∧ (t.act a).PolicyHolds := by
  obtain ⟨grounded, holds⟩ := h
  refine ⟨act_grounded_all grounded, ?_⟩
  unfold PolicyHolds
  rw [act_cfg]
  rcases act_links t a with held | ⟨i, r, key, rfl, event, run⟩ | ⟨i, r, rfl, -, run⟩
  · rw [held.delivered]
    exact holds
  · rw [run]
    rcases onConnOpen_delivered (t.env i.now i.native) (t.begin i.native).core r key with
      same | ⟨bound, more⟩
    · rw [same]
      exact holds
    · rw [more]
      intro d hd
      rcases List.mem_append.mp hd with old | new
      · exact holds d old
      · rw [List.mem_singleton.mp new]
        simp only [Authentic, event] at authentic
        rcases authentic with announced | accepted
        · rw [announced]
          exact grounded.link_accepted bound
        · exact accepted
  · rw [run, (Links.onClose_lists _ _).1]
    exact holds

/-- The policy holds of every delivered link in a run of such handshakes. -/
theorem delivered_accepted (cfg : Config) (topic : Option Bytes) (online : Bool)
    (ids : Ref → PeripheralId) (actions : List Action)
    (authentic : Runs.Each act Authentic (create cfg topic online ids) actions) :
    (Runs.run act (create cfg topic online ids) actions).PolicyHolds :=
  (Runs.invariant (fun _ a h ok => policy_step h a ok)
    ⟨create_grounded cfg topic online ids, fun _ hd => by cases hd⟩ authentic).2

/-- A host that refuses every key but one. -/
def onlyKey : Config :=
  { Config.plain (List.replicate 32 1) .gatt .ios with
    shouldConnect := some fun key => key = List.replicate 32 2 }

/-- A remote announces the one key in its OPEN, then its handshake proves `proved`. -/
def announceThenProve (proved : Bytes) : List Action :=
  let announce := encodeFrame typeOpen (toHex (List.replicate 8 9)) (List.replicate 32 2)
  [.open .poweredOn .poweredOn 0,
    .input { now := 1, event := .writeRequests [(announce, false)] },
    .input { now := 2, event := .connOpen 0 proved }]

theorem delivered_accepted_honest :
    (Runs.run act (create onlyKey none false id) (announceThenProve (List.replicate 32 2))).PolicyHolds :=
  delivered_accepted _ _ _ _ _ (by decide +kernel)

/-- The link of a refused key is delivered. -/
theorem refused_key_delivered :
    ¬ (Runs.run act (create onlyKey none false id)
      (announceThenProve (List.replicate 32 3))).PolicyHolds := by
  intro holds
  have accepted := holds (0, List.replicate 32 3) (by decide +kernel)
  revert accepted
  decide +kernel

end BleSwarm.Transport
