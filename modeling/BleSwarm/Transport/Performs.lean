import BleSwarm.Transport.Performs.Parts

/-!
# The elementary changes in full

`Proceeds` is about the radio, the session table and what is issued. `Performs` lists the
same changes with all that they do to the core. What a handler leaves alone is read off the
changes that it is made of.
-/

namespace BleSwarm

/-- What the handlers of an event may do besides, in full. -/
structure Effects extends Scope where
  /-- Begin dials. -/
  dials : Bool := false
  /-- Change who reads a channel, and put a stream on one. -/
  channels : Bool := false
  /-- Push chunks into streams. -/
  receives : Bool := false
  /-- Close links and forget them. -/
  closes : Bool := false
  /-- Start the scan and stop it, and note the reported state. -/
  scans : Bool := false
  /-- Change what is known of dials, and bind streams of the central side. -/
  settles : Bool := false
  /-- Start sessions, make streams, links and attempts, and say more than CLOSE. -/
  begins : Bool := false
  /-- Go on with an attempt behind its await. -/
  resumes : Bool := false

def Effects.all : Effects where
  serves := true
  binds := true
  starts := true
  dials := true
  channels := true
  receives := true
  closes := true
  scans := true
  settles := true
  begins := true
  resumes := true

namespace Core

inductive Performs (env : Env) (effects : Effects) : Core → Core → Prop
  | refl (c : Core) : Performs env effects c c
  | trans {c c' c'' : Core} : Performs env effects c c' → Performs env effects c' c'' →
    Performs env effects c c''
  | issue (c : Core) {command : Command} (minor : command.minor = true) :
    Performs env effects c (c.issue command)
  | connect (c : Core) (p : Ref) (live : env.halted = false) (settles : effects.settles = true) :
    Performs env effects c (c.issue (.connect p))
  | sendOpen (c : Core) (p : Ref) (id : Hex) (payload : Bytes) (starts : effects.starts = true)
    (begins : effects.begins = true) :
    Performs env effects c (c.issue (.send p (encodeFrame typeOpen id payload) true))
  | askChannel (c : Core) (p : Ref) (psm : Nat) (begins : effects.begins = true) :
    Performs env effects c (c.issue (.openL2CAPChannel p psm))
  | maybeCycle (c : Core) (serves : effects.serves = true)
    (due : env.cfg.pipe = .l2cap ∧ env.halted = false ∨
      effects.binds = true ∧ c.server.cyclePending = true) :
    Performs env effects c (c.maybeCycle env)
  /-- The reported state, the hunt and the internet path are noted. -/
  | note (c : Core) (state : AppState) (huntUntil : Nat) (online : Bool)
    (noted : effects.scans = true ∨ state = c.radio.state) :
    Performs env effects c
      { c with radio.state := state, radio.huntUntil := huntUntil, radio.online := online }
  | startScan (c : Core) (scans : effects.scans = true) : Performs env effects c (c.startScan env)
  | stopScan (c : Core) (scans : effects.scans = true) : Performs env effects c c.stopScan
  | armScanRestart (c : Core) (live : env.halted = false) :
    Performs env effects c (c.armScanRestart env)
  | onScanTimer (c : Core) (scans : effects.scans = true) :
    Performs env effects c (c.onScanTimer env)
  | dial (c : Core) (dial : Dial) (calm : env.halted = true → c.dial.Idle → dial.Idle)
    (steady : effects.dials = true ∨ dial.inFlight ≤ c.dial.inFlight)
    (strays : dial.strays.Sublist c.dial.strays)
    (outlook : effects.settles = true ∨ dial.outlook = c.dial.outlook) :
    Performs env effects c { c with dial }
  | links (c : Core) (links : Links) (fades : c.links.Fades links)
    (holds : effects.closes = true ∨ c.links.Holds links)
    (alike : effects.begins = true ∨ c.links.conns.Alike Conn.identity links.conns) :
    Performs env effects c { c with links }
  | gatt (c : Core) (gatt : NotifyQueue)
    (passes : c.gatt.Passes (fun frame => frame.head? = some typeClose ∨
      effects.serves = true ∧ effects.begins = true) gatt) : Performs env effects c { c with gatt }
  | streams (c : Core) (streams : Heap Stream)
    (joins : Joins (effects.serves = true) c.streams streams)
    (flows : Flows (effects.receives = true) c.streams streams)
    (makes : Makes (effects.receives = true ∨ effects.begins = true) (effects.settles = true)
      c.streams streams)
    (opens : streams.next = c.streams.next ∨ env.cfg.pipe = .gatt) :
    Performs env effects c { c with streams }
  | sessions (c : Core) (table : OrderedMap Hex Ref) (sessions : Heap ServerSession)
    (serves : effects.serves = true)
    (fewer : effects.begins = true ∨ ∀ id r, table.get? id = some r → c.server.table.get? id = some r)
    (alike : effects.begins = true ∨
      c.server.sessions.Alike ServerSession.identity sessions) :
    Performs env effects c { c with server.table := table, server.sessions := sessions }
  /-- Readers come and go, and streams are put on channels. -/
  | channels (c : Core) (streams : Heap Stream) (acceptors : Heap Acceptor)
    (readers : Ref → List Reader) (joins : Joins (effects.serves = true) c.streams streams)
    (carried : ∀ st < c.streams.next, (streams.get st).pipe = (c.streams.get st).pipe ∧
      (streams.get st).channel = (c.streams.get st).channel)
    (makes : Makes (effects.receives = true ∨ effects.begins = true) (effects.settles = true)
      c.streams streams)
    (channels : effects.channels = true) :
    Performs env effects c
      { c with streams, server.acceptors := acceptors, server.readers := readers }
  | central (c : Core) (central : Central)
    (keeps : c.central.Keeps (effects.starts = true) (effects.begins = true)
      (effects.resumes = true) central) :
    Performs env effects c { c with central }

variable {env : Env} {effects : Effects} {c c' c'' : Core}

namespace Performs

theorem ite {p : Prop} [Decidable p] {a b : Core} (ha : Performs env effects c a)
    (hb : Performs env effects c b) : Performs env effects c (if p then a else b) := by
  split
  · exact ha
  · exact hb

theorem foldl {α : Type*} {f : Core → α → Core} (step : ∀ c a, Performs env effects c (f c a))
    (c : Core) (as : List α) : Performs env effects c (as.foldl f c) :=
  Runs.foldl_related .refl .trans step c as

theorem iterate {f : Core → Core} (step : ∀ c, Performs env effects c (f c)) (n : Nat) (c : Core) :
    Performs env effects c (f^[n] c) :=
  Runs.iterate_related .refl .trans step n c

/-- Go on with a handler, whatever the core. -/
theorem andThen (h : Performs env effects c c') {f : Core → Core}
    (op : ∀ c, Performs env effects c (f c)) : Performs env effects c (f c') := h.trans (op c')

theorem hunt (c : Core) (huntUntil : Nat) :
    Performs env effects c { c with radio.huntUntil := huntUntil } :=
  .note c c.radio.state huntUntil c.radio.online (.inr rfl)

theorem rests (c : Core) {dial : Dial} (rests : c.dial.Rests dial)
    (outlook : effects.settles = true ∨ dial.outlook = c.dial.outlook) :
    Performs env effects c { c with dial } :=
  .dial c dial (fun _ => rests.idle) (.inr rests.inFlight) rests.strays outlook

theorem proceeds (h : Performs env effects c c') : Proceeds env effects.toScope c c' := by
  induction h with
  | refl c => exact .rest rfl
  | trans _ _ ih ih' => exact ih.trans ih'
  | issue c minor => exact .issue c (Command.idle_of_minor minor)
  | connect c p live settles => exact .connect c p live
  | sendOpen c p id payload starts begins => exact .sendOpen c p id payload starts
  | askChannel c p psm begins => exact .issue c rfl
  | maybeCycle c serves due => exact .maybeCycle c serves due
  | note c state huntUntil online noted => exact .note c state huntUntil online
  | startScan c scans => exact .startScan c
  | stopScan c scans => exact .stopScan c
  | armScanRestart c live => exact .armScanRestart c live
  | onScanTimer c scans => exact .onScanTimer c
  | dial c dial calm steady strays outlook => exact .dial c dial calm
  | links c links fades holds alike => exact .links c links fades
  | gatt c gatt passes =>
    refine .gatt c gatt (passes.mono fun frame said => ?_)
    rcases said with close | ⟨serves, -⟩
    · exact .inr (by simp [close, typeClose, typeHello])
    · exact .inl serves
  | streams c streams joins flows makes opens => exact .streams c streams joins
  | sessions c table sessions serves fewer alike => exact .sessions c table sessions serves
  | channels c streams acceptors readers joins carried makes channels =>
    exact Proceeds.trans (.streams c streams joins) (.rest rfl)
  | central c central keeps => exact .rest rfl

end Performs

end Core

end BleSwarm
