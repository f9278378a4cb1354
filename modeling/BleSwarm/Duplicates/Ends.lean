import BleSwarm.Duplicates.Mesh
import BleSwarm.Transport.Calls
import BleSwarm.Transport.Tracking

/-!
# The ends of the mesh are transports

The noise streams of a device are those of its transport. On a running transport the
'open' and 'close' events do to them what the mesh says, so a run of the mesh is a run
of the transports of its devices.
-/

namespace BleSwarm

namespace Transport

/-- The transport listens and is not closing. -/
def Running (t : Transport) : Prop :=
  t.life.opened = true ∧ t.life.closing = false ∧ t.life.closed = false

theorem Running.input {t : Transport} (h : t.Running) (i : Input) : (t.input i).Running := by
  unfold Running
  rw [input_life]
  exact h

theorem connOpen_links {t : Transport} (h : t.Running) (now : Nat) (native : Native) (r : Ref)
    (key : Bytes) : (t.input ⟨now, native, .connOpen r key⟩).core.links =
      t.core.links.onOpen t.cfg.publicKey r key := by
  obtain ⟨opened, closing, closed⟩ := h
  simp only [input, begin_life, opened, if_true, handle, withCore_core, coreHandler, env,
    Core.onConnOpen, Links.onOpen, (begin_quiet t native).links]
  split
  · rw [Core.track_links, closing, closed]
    rfl
  · exact (begin_quiet t native).links

theorem connClose_links {t : Transport} (h : t.Running) (now : Nat) (native : Native) (r : Ref) :
    (t.input ⟨now, native, .connClose r⟩).core.links = t.core.links.onClose r := by
  simp only [input, begin_life, h.1, if_true, handle, withCore_core, coreHandler]
  rw [Core.onConnClose_links, (begin_quiet t native).links]

end Transport

namespace Mesh

variable {n : Nat} {key : Fin n → Bytes} {m : Mesh n} {ts : Fin n → Transport}

/-- A running transport with this static key has these noise streams. -/
def Describes (own : Bytes) (l : Links) (t : Transport) : Prop :=
  t.core.links = l ∧ t.cfg.publicKey = own ∧ t.Running

/-- One device handles an event of its transport. -/
def input (ts : Fin n → Transport) (d : Fin n) (i : Input) : Fin n → Transport :=
  Function.update ts d ((ts d).input i)

/-- The step of the mesh, taken by the transports at some time. -/
def deliver (key : Fin n → Bytes) (ts : Fin n → Transport) (i : Event n × Nat × Native) :
    Fin n → Transport :=
  match i.1 with
  | .opened e => input ts e.device ⟨i.2.1, i.2.2, .connOpen e.ref (key e.remote)⟩
  | .closed e =>
    if ((ts e.device).core.links.conns.get e.ref).destroyed ||
        ((ts e.remote).core.links.conns.get e.other.ref).destroyed then
      input ts e.device ⟨i.2.1, i.2.2, .connClose e.ref⟩
    else ts

theorem Describes.input {own : Bytes} {l l' : Links} {t : Transport} (h : Describes own l t)
    (i : Input) (links : (t.input i).core.links = l') : Describes own l' (t.input i) := by
  obtain ⟨-, key, running⟩ := h
  refine ⟨links, ?_, running.input i⟩
  rw [← key]
  exact congrArg Config.publicKey (t.act_cfg (.input i))

/-- When one device moves, the others are still described. -/
theorem update_describes (h : ∀ d, Describes (key d) (m d) (ts d)) {d : Fin n} {l : Links}
    {t : Transport} (moved : Describes (key d) l t) (k : Fin n) :
    Describes (key k) (Function.update m d l k) (Function.update ts d t k) := by
  by_cases eq : k = d
  · subst eq
    simpa only [Function.update_self] using moved
  · simpa only [Function.update_of_ne eq] using h k

theorem step_describes (h : ∀ d, Describes (key d) (m d) (ts d)) (i : Event n × Nat × Native) :
    ∀ d, Describes (key d) (m.step key i.1 d) (deliver key ts i d) := by
  obtain ⟨e, now, native⟩ := i
  cases e with
  | opened e =>
    obtain ⟨links, own, running⟩ := h e.device
    apply update_describes h
    apply (h e.device).input
    rw [Transport.connOpen_links running, links, own]
  | closed e =>
    obtain ⟨links, -, running⟩ := h e.device
    have here : (ts e.device).core.links.conns.get e.ref = m.conn e := by rw [links, conn]
    have there : (ts e.remote).core.links.conns.get e.other.ref = m.conn e.other := by
      rw [(h e.remote).1]
      rfl
    simp only [step, deliver, here, there]
    split
    · apply update_describes h
      apply (h e.device).input
      rw [Transport.connClose_links running, links]
    · exact h

/-- Every run of the mesh is one of the transports it describes. -/
theorem run_describes (h : ∀ d, Describes (key d) (m d) (ts d))
    (es : List (Event n × Nat × Native)) :
    ∀ d, Describes (key d) (Runs.run (step key) m (es.map Prod.fst) d)
      (Runs.run (deliver key) ts es d) :=
  Runs.simulation
    (R := fun (m : Mesh n) (ts : Fin n → Transport) => ∀ d, Describes (key d) (m d) (ts d))
    (fun _ _ i h => step_describes h i) h es

end Mesh

end BleSwarm
