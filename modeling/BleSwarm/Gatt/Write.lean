import BleSwarm.Transport.Frame
import Mathlib.Data.List.Range

/-!
# Fragmenting a write

`_write` of the gatt stream cuts a chunk at the stream's `maxPayload` and awaits
every send. The loop reads `maxPayload` once to cut the fragment and once more,
behind the await, to advance past it; an 'mtuChanged' event in between rewrites it.
-/

namespace BleSwarm

/-- One call of `_write`, from its first send on. -/
structure Write where
  chunk : Bytes
  /-- The stream's `maxPayload`, none while undefined. -/
  maxPayload : Option Nat
  /-- The loop variable, none for NaN. -/
  offset : Option Nat := some 0
  /-- The arguments of `subarray` for every send so far. -/
  spans : List (Nat × Nat) := []
  finished : Bool := false

namespace Write

inductive Event
  | mtuChanged (mtu : Nat)
  /-- The send of the fragment in flight resolves. -/
  | sent

/-- The test of the loop and, within the chunk, the send of the next fragment. An
undefined `maxPayload` makes the end NaN, which `subarray` takes for 0. -/
def loop (w : Write) : Write :=
  match w.offset with
  | some o =>
    if o < w.chunk.length then
      { w with spans := w.spans ++ [(o, (w.maxPayload.map (o + ·)).getD 0)] }
    else { w with finished := true }
  | none => { w with finished := true }

def start (chunk : Bytes) (maxPayload : Option Nat) : Write := loop { chunk, maxPayload }

/-- `offset += this.maxPayload`. -/
def advance (w : Write) : Write :=
  { w with offset := w.offset.bind fun o => w.maxPayload.map (o + ·) }

def step (cfg : Config) (w : Write) : Event → Write
  | .mtuChanged mtu => { w with maxPayload := cfg.getMaxPayload mtu }
  | .sent => if w.finished then w else w.advance.loop

/-- `chunk.subarray(start, end)`. -/
def payload (chunk : Bytes) (span : Nat × Nat) : Bytes := (chunk.take span.2).drop span.1

/-- The payloads handed to `send`, in order. -/
def payloads (w : Write) : List Bytes := w.spans.map (payload w.chunk)

/-- The positions of the chunk that a span covers. -/
def covers (length : Nat) (span : Nat × Nat) : List Nat :=
  List.range' span.1 (min span.2 length - span.1)

def positions (w : Write) : List Nat := w.spans.flatMap (covers w.chunk.length)

/-- No byte is skipped or repeated: the bytes sent are the chunk up to some point,
and all of it once the write has finished. -/
def Intact (w : Write) : Prop :=
  ∃ k, w.positions = List.range k ∧ w.payloads.flatten = w.chunk.take k ∧
    (w.finished = true → k = w.chunk.length)

/-- A send resolves while `maxPayload` is what its fragment was cut with, if bytes
are left, and does not fall short of the end of the chunk, if none are. -/
def steady (w : Write) : Event → Bool
  | .mtuChanged _ => true
  | .sent =>
    match w.spans.getLast? with
    | some (a, b) =>
      w.finished ||
        (if b < w.chunk.length then decide (w.maxPayload = some (b - a))
          else w.maxPayload.all fun m => w.chunk.length ≤ a + m)
    | none => true

/-- A step of a run over which the write must lose nothing. -/
def Steady (w : Write) (e : Event) : Prop := w.steady e = true

instance (w : Write) (e : Event) : Decidable (w.Steady e) :=
  inferInstanceAs (Decidable (w.steady e = true))

/-! Positions and payloads. -/

theorem filterMap_range' (chunk : Bytes) (a n : Nat) :
    (List.range' a n).filterMap (chunk[·]?) = (chunk.drop a).take n := by
  induction n generalizing a with
  | zero => rfl
  | succ n ih =>
    rw [List.range'_succ, List.filterMap_cons, ih]
    by_cases h : a < chunk.length
    · rw [List.getElem?_eq_getElem h, List.drop_eq_getElem_cons h, List.take_succ_cons]
    · have end_ : chunk.drop a = [] := List.drop_eq_nil_of_le (by omega)
      have end' : chunk.drop (a + 1) = [] := List.drop_eq_nil_of_le (by omega)
      simp [end_, end', List.getElem?_eq_none (Nat.le_of_not_lt h)]

theorem payload_eq (chunk : Bytes) (span : Nat × Nat) :
    payload chunk span = (covers chunk.length span).filterMap (chunk[·]?) := by
  rw [covers, filterMap_range', payload, List.drop_take, List.take_eq_take_iff, List.length_drop]
  omega

theorem payloads_flatten (w : Write) :
    w.payloads.flatten = w.positions.filterMap (w.chunk[·]?) := by
  rw [payloads, positions, List.filterMap_flatMap, ← List.flatMap_def]
  exact List.flatMap_congr fun span _ => payload_eq w.chunk span

theorem intact_iff (w : Write) :
    w.Intact ↔ ∃ k, w.positions = List.range k ∧ (w.finished = true → k = w.chunk.length) := by
  constructor
  · rintro ⟨k, positions, -, finished⟩
    exact ⟨k, positions, finished⟩
  · rintro ⟨k, positions, finished⟩
    refine ⟨k, positions, ?_, finished⟩
    rw [payloads_flatten, positions, List.range_eq_range', filterMap_range', List.drop_zero]

/-! A write in progress, and one that went wrong. -/

/-- The state between two sends of a write that has lost nothing so far. -/
inductive Progress (w : Write) : Prop
  | done (finished : w.finished = true) (positions : w.positions = List.range w.chunk.length)
  | sending (before : List (Nat × Nat)) (o m : Nat) (finished : w.finished = false)
    (pos : 0 < m) (inside : o < w.chunk.length) (offset : w.offset = some o)
    (spans : w.spans = before ++ [(o, o + m)])
    (prefix_ : before.flatMap (covers w.chunk.length) = List.range o)

/-- Bytes are missing or out of place already, whatever happens next. -/
def Broken (w : Write) : Prop :=
  (∀ k, w.positions ≠ List.range k) ∨
    (w.finished = true ∧ w.positions ≠ List.range w.chunk.length)

theorem Broken.not_intact {w : Write} (h : w.Broken) : ¬ w.Intact := by
  rw [intact_iff]
  rintro ⟨k, positions, finished⟩
  rcases h with h | ⟨done, h⟩
  · exact h k positions
  · exact h (finished done ▸ positions)

theorem positions_append (w : Write) (span : Nat × Nat) :
    ({ w with spans := w.spans ++ [span] } : Write).positions =
      w.positions ++ covers w.chunk.length span := by
  simp [positions]

/-- The first part of a range is a range. -/
theorem range_of_append {k : Nat} {xs ys : List Nat} (h : xs ++ ys = List.range k) :
    xs = List.range xs.length := by
  have cut : (List.range k).take xs.length = xs := by rw [← h, List.take_left]
  have le : xs.length ≤ k := by
    have := congrArg List.length h
    simp at this
    omega
  rwa [List.take_range, Nat.min_eq_left le, eq_comm] at cut

theorem Broken.step {cfg : Config} {w : Write} (h : w.Broken) (e : Event) :
    (w.step cfg e).Broken := by
  cases e with
  | mtuChanged mtu => exact h
  | sent =>
    simp only [Write.step]
    split
    · exact h
    · rename_i unfinished
      rcases h with h | ⟨done, -⟩
      · left
        intro k
        unfold loop
        split
        · split
          · rw [positions_append]
            exact fun eq => h _ (range_of_append eq)
          · exact h k
        · exact h k
      · exact absurd done unfinished

theorem getMaxPayload_pos {cfg : Config} {mtu m : Nat} (h : cfg.getMaxPayload mtu = some m) :
    0 < m := by
  simp only [Config.getMaxPayload] at h
  generalize (if mtu ≠ 0 then (mtu : Int) - 3 - header else cfg.maxPayload) = budget at h
  by_cases positive : 0 < budget
  · rw [if_pos positive] at h
    have eq := Option.some.inj h
    omega
  · rw [if_neg positive] at h
    cases h

/-- What has been sent while nothing is lost, the fragment in flight included. -/
theorem positions_sending {w : Write} {before : List (Nat × Nat)} {o m : Nat}
    (inside : o < w.chunk.length) (spans : w.spans = before ++ [(o, o + m)])
    (prefix_ : before.flatMap (covers w.chunk.length) = List.range o) :
    w.positions = List.range (min (o + m) w.chunk.length) := by
  have append : List.range' 0 o ++ List.range' (0 + o) (min (o + m) w.chunk.length - o) =
      List.range' 0 (o + (min (o + m) w.chunk.length - o)) := List.range'_append_1
  have total : o + (min (o + m) w.chunk.length - o) = min (o + m) w.chunk.length := by omega
  rw [Nat.zero_add, total] at append
  rw [positions, spans, List.flatMap_append, prefix_, List.range_eq_range', List.range_eq_range',
    ← append]
  simp [covers]

theorem Progress.intact {w : Write} (h : w.Progress) : w.Intact := by
  rw [intact_iff]
  cases h with
  | done finished positions => exact ⟨_, positions, fun _ => rfl⟩
  | sending before o m finished pos inside offset spans prefix_ =>
    exact ⟨_, positions_sending inside spans prefix_, fun done => by simp [finished] at done⟩

/-- A fragment that starts anywhere but behind the last one breaks the write. -/
theorem broken_of_gap {w : Write} {q n m : Nat} (positions : w.positions = List.range q)
    (ne : n ≠ q) (inside : n < w.chunk.length) (pos : 0 < m) :
    Broken { w with spans := w.spans ++ [(n, n + m)] } := by
  left
  intro k eq
  rw [positions_append, positions] at eq
  have nonempty : 0 < min (n + m) w.chunk.length - n := by omega
  have next : (List.range q ++ covers w.chunk.length (n, n + m))[q]? = some n := by
    rw [List.getElem?_append_right (by simp), List.length_range, Nat.sub_self, covers,
      List.getElem?_range' nonempty]
    simp
  rw [eq] at next
  have bound : q < k := by
    have := List.getElem?_eq_some_iff.mp next
    simpa using this.1
  rw [List.getElem?_range bound] at next
  exact ne (Option.some.inj next).symm

/-- `maxPayload` is never 0. -/
def Positive (w : Write) : Prop := ∀ m, w.maxPayload = some m → 0 < m

theorem Positive.step {cfg : Config} {w : Write} (h : w.Positive) (e : Event) :
    (w.step cfg e).Positive := by
  cases e with
  | mtuChanged mtu => exact fun m hm => getMaxPayload_pos hm
  | sent =>
    simp only [Write.step]
    split
    · exact h
    · unfold loop
      split
      · split <;> exact h
      · exact h

/-- One send resolves: a steady step makes progress and any other breaks the write. -/
theorem Progress.sent {cfg : Config} {w : Write} (h : w.Progress) (positive : w.Positive) :
    (w.Steady .sent → (w.step cfg .sent).Progress) ∧
      (¬ w.Steady .sent → (w.step cfg .sent).Broken) := by
  cases h with
  | done finished positions =>
    have same : w.step cfg .sent = w := by simp [Write.step, finished]
    rw [same]
    refine ⟨fun _ => .done finished positions, fun unsteady => absurd ?_ unsteady⟩
    unfold Steady steady
    cases w.spans.getLast? <;> simp [finished]
  | sending before o m finished pos inside offset spans prefix_ =>
    have sent := positions_sending inside spans prefix_
    have last : w.spans.getLast? = some (o, o + m) := by simp [spans]
    have steady : w.Steady .sent ↔ (if o + m < w.chunk.length then w.maxPayload = some m
        else ∀ m', w.maxPayload = some m' → w.chunk.length ≤ o + m') := by
      cases payload : w.maxPayload <;> by_cases left_ : o + m < w.chunk.length <;>
        simp [Steady, steady, finished, last, payload, left_]
    have moved : w.step cfg .sent = w.advance.loop := by simp [Write.step, finished]
    have short : o + m < w.chunk.length → w.positions ≠ List.range w.chunk.length := by
      intro left_ eq
      have lengths := congrArg List.length (sent.symm.trans eq)
      rw [List.length_range, List.length_range] at lengths
      omega
    have whole : ¬ o + m < w.chunk.length → w.positions = List.range w.chunk.length :=
      fun end_ => sent.trans (congrArg List.range (by omega))
    rw [steady, moved]
    cases payload : w.maxPayload with
    | none =>
      have stops : w.advance.loop = { w with offset := none, finished := true } := by
        simp [advance, loop, offset, payload]
      rw [stops]
      by_cases left_ : o + m < w.chunk.length
      · simp only [left_, if_true]
        exact ⟨fun eq => by simp at eq, fun _ => .inr ⟨rfl, short left_⟩⟩
      · simp only [left_, if_false]
        exact ⟨fun _ => .done rfl (whole left_), fun unsteady => absurd (by simp) unsteady⟩
    | some m' =>
      by_cases again : o + m' < w.chunk.length
      · have sends : w.advance.loop = { w with
            offset := some (o + m')
            spans := w.spans ++ [(o + m', o + m' + m')] } := by
          simp [advance, loop, offset, payload, again]
        have gap : o + m' ≠ min (o + m) w.chunk.length → Broken w.advance.loop := by
          intro ne
          rw [sends]
          exact broken_of_gap sent ne again (positive m' payload)
        by_cases left_ : o + m < w.chunk.length
        · simp only [left_, if_true, Option.some.injEq]
          refine ⟨?_, fun ne => gap (by omega)⟩
          rintro rfl
          rw [sends]
          refine .sending w.spans (o + m') m' finished pos again rfl rfl ?_
          exact sent.trans (congrArg List.range (by omega))
        · simp only [left_, if_false]
          exact ⟨fun ends => absurd (ends m' rfl) (by omega), fun _ => gap (by omega)⟩
      · have stops : w.advance.loop = { w with offset := some (o + m'), finished := true } := by
          simp [advance, loop, offset, payload, again]
        rw [stops]
        by_cases left_ : o + m < w.chunk.length
        · simp only [left_, if_true, Option.some.injEq]
          exact ⟨fun eq => absurd again (by omega), fun _ => .inr ⟨rfl, short left_⟩⟩
        · simp only [left_, if_false, Option.some.injEq, forall_eq']
          exact ⟨fun _ => .done rfl (whole left_), fun unsteady => absurd (by omega) unsteady⟩

theorem Progress.start (chunk : Bytes) {m : Nat} (pos : 0 < m) :
    (start chunk (some m)).Progress := by
  by_cases nonempty : 0 < chunk.length
  · have sends : Write.start chunk (some m) =
        { chunk, maxPayload := some m, spans := [(0, 0 + m)] } := by
      simp [Write.start, loop, nonempty]
    rw [sends]
    exact .sending [] 0 m rfl pos nonempty rfl rfl rfl
  · have stops : Write.start chunk (some m) = { chunk, maxPayload := some m, finished := true } := by
      simp [Write.start, loop, nonempty]
    have empty : chunk.length = 0 := by omega
    rw [stops]
    exact .done rfl (by simp [positions, empty])

/-- From any write that has lost nothing: it stays intact exactly on steady runs. -/
theorem Progress.run {cfg : Config} {w : Write} (h : w.Progress) (positive : w.Positive)
    (events : List Event) :
    (Runs.run (Write.step cfg) w events).Intact ↔ Runs.Each (Write.step cfg) Steady w events := by
  induction events generalizing w with
  | nil => exact ⟨fun _ => trivial, fun _ => h.intact⟩
  | cons e events ih =>
    have next :
        (w.Steady e → (w.step cfg e).Progress) ∧ (¬ w.Steady e → (w.step cfg e).Broken) := by
      cases e with
      | sent => exact h.sent positive
      | mtuChanged mtu =>
        refine ⟨fun _ => ?_, fun unsteady => absurd rfl unsteady⟩
        cases h with
        | done finished positions => exact .done finished positions
        | sending before o m finished pos inside offset spans prefix_ =>
          exact .sending before o m finished pos inside offset spans prefix_
    by_cases steady : w.Steady e
    · simpa [Runs.Each, steady] using ih (next.1 steady) (positive.step e)
    · have broken : (Runs.run (Write.step cfg) (w.step cfg e) events).Broken :=
        Runs.always (fun _ e h => h.step e) (next.2 steady) events
      simp [Runs.Each, steady, broken.not_intact]

theorem start_positive (chunk : Bytes) {m : Nat} (pos : 0 < m) :
    (start chunk (some m)).Positive := by
  have same : (start chunk (some m)).maxPayload = some m := by
    unfold start loop
    split
    · split <;> rfl
    · rfl
  intro k hk
  rw [same] at hk
  exact Option.some.inj hk ▸ pos

/-! A stream whose `maxPayload` never changes. -/

/-- Every fragment was cut at `m`, which the stream still has. -/
structure Even (m : Nat) (w : Write) : Prop where
  payload : w.maxPayload = some m
  spans : ∀ span ∈ w.spans, span.2 = span.1 + m

theorem Even.loop {m : Nat} {w : Write} (h : w.Even m) : w.loop.Even m := by
  unfold Write.loop
  split
  · split
    · refine ⟨h.payload, fun span mem => ?_⟩
      rcases List.mem_append.mp mem with old | new
      · exact h.spans span old
      · simp [List.mem_singleton.mp new, h.payload]
    · exact ⟨h.payload, h.spans⟩
  · exact ⟨h.payload, h.spans⟩

theorem Even.start (chunk : Bytes) (m : Nat) : (start chunk (some m)).Even m :=
  Even.loop ⟨rfl, List.forall_mem_nil _⟩

theorem Even.sent {m : Nat} {w : Write} (h : w.Even m) (cfg : Config) :
    (w.step cfg .sent).Even m := by
  simp only [Write.step]
  split
  · exact h
  · have advanced : w.advance.Even m := ⟨h.payload, h.spans⟩
    exact advanced.loop

theorem Even.steady {m : Nat} {w : Write} (h : w.Even m) : w.Steady .sent := by
  unfold Steady Write.steady
  dsimp only
  split
  · rename_i a b last
    have cut : b = a + m := h.spans (a, b) (List.mem_of_getLast? last)
    rw [h.payload, Bool.or_eq_true]
    right
    split
    · simp [cut]
    · simp only [Option.all_some, decide_eq_true_eq]
      omega
  · rfl

/-- What the sends before the last one carried, and the last. -/
theorem payloads_snoc {w : Write} (sending : w.spans ≠ []) :
    w.payloads = w.payloads.dropLast ++ [w.payloads.getLastD []] := by
  have nonempty : w.payloads ≠ [] := by simpa [payloads] using sending
  rw [List.getLastD_eq_getLast?, List.getLast?_eq_some_getLast nonempty]
  exact (List.dropLast_append_getLast nonempty).symm

/-- A send that resolves is followed by the next one, or the loop is over. -/
theorem sent_cases (cfg : Config) {w : Write} (unfinished : w.finished = false) :
    ((w.step cfg .sent).finished = true ∧ (w.step cfg .sent).payloads = w.payloads) ∨
    ((w.step cfg .sent).finished = false ∧ (w.step cfg .sent).payloads.dropLast = w.payloads) := by
  have moved : w.step cfg .sent = w.advance.loop := by simp [Write.step, unfinished]
  rw [moved]
  unfold loop
  split
  · split
    · right
      exact ⟨unfinished, by simp [payloads, advance]⟩
    · exact .inl ⟨rfl, rfl⟩
  · exact .inl ⟨rfl, rfl⟩

/-- The loop is over, or its variable has passed at least `sends` bytes. -/
def Passed (w : Write) (sends : Nat) : Prop :=
  w.finished = true ∨ ∃ o, w.offset = some o ∧ o < w.chunk.length ∧ sends ≤ o

theorem Passed.sent {cfg : Config} {w : Write} {sends : Nat} (h : w.Passed sends)
    (positive : w.Positive) : (w.step cfg .sent).Passed (sends + 1) := by
  rcases h with done | ⟨o, offset, inside, le⟩
  · exact .inl (by simp [Write.step, done])
  · cases finished : w.finished
    · cases payload : w.maxPayload with
      | none => exact .inl (by simp [Write.step, finished, advance, loop, offset, payload])
      | some m =>
        have pos := positive m payload
        by_cases again : o + m < w.chunk.length
        · refine .inr ⟨o + m, ?_, ?_, by omega⟩ <;>
            simp [Write.step, finished, advance, loop, offset, payload, again]
        · exact .inl (by simp [Write.step, finished, advance, loop, offset, payload, again])
    · exact .inl (by simp [Write.step, finished])

@[simp] theorem loop_chunk (w : Write) : w.loop.chunk = w.chunk := by
  unfold loop
  split
  · split <;> rfl
  · rfl

@[simp] theorem step_chunk (cfg : Config) (w : Write) (e : Event) :
    (w.step cfg e).chunk = w.chunk := by
  cases e with
  | mtuChanged mtu => rfl
  | sent =>
    simp only [Write.step]
    split
    · rfl
    · rw [loop_chunk]
      rfl

/-- Every send that resolves advances the loop variable, so the loop ends. -/
theorem Passed.run {cfg : Config} {w : Write} {sends : Nat} (h : w.Passed sends)
    (positive : w.Positive) (events : List Event)
    (enough : w.chunk.length ≤ sends + (events.filter (· matches .sent)).length) :
    (Runs.run (Write.step cfg) w events).finished = true := by
  induction events generalizing w sends with
  | nil =>
    rcases h with done | ⟨o, -, inside, le⟩
    · exact done
    · simp at enough
      omega
  | cons e events ih =>
    rw [Runs.run_cons]
    cases e with
    | mtuChanged mtu =>
      refine ih (h : (w.step cfg (.mtuChanged mtu)).Passed sends) (positive.step _) ?_
      simpa using enough
    | sent =>
      apply ih (h.sent positive) (positive.step _)
      simp at enough ⊢
      omega

/-- A write finishes once as many sends have resolved as the chunk has bytes. -/
theorem finishes (cfg : Config) (chunk : Bytes) (m : Nat) (pos : 0 < m) (events : List Event)
    (enough : chunk.length ≤ (events.filter (· matches .sent)).length) :
    (Runs.run (step cfg) (start chunk (some m)) events).finished = true := by
  have first : (start chunk (some m)).Passed 0 := by
    by_cases nonempty : 0 < chunk.length
    · exact .inr ⟨0, by simp [start, loop, nonempty], by simp [start, nonempty], le_refl 0⟩
    · exact .inl (by simp [start, loop, nonempty])
  exact first.run (start_positive chunk pos) events (by simpa [start] using enough)

/-- The stream of a central session that opens the gatt pipe can be written to. -/
theorem openCentralGatt_pos (env : Env) (c : Core) (p sess : Ref) (announced : Bytes) :
    ∃ m, 0 < m ∧ ((c.openCentralGatt env p sess announced).streams.get c.streams.next).maxPayload =
      some m := by
  refine ⟨(env.cfg.getMaxPayload (c.peripheral p).mtu).getD defaultPayload, ?_, ?_⟩
  · cases budget : env.cfg.getMaxPayload (c.peripheral p).mtu with
    | none => exact Nat.succ_pos _
    | some m => exact getMaxPayload_pos budget
  · simp only [Core.openCentralGatt, Core.bindCentralStream]
    apply (Core.onChannel_view env _ _ true _ announced _ Stream.maxPayload fun _ => rfl).trans
    rw [(Core.clearDial_quiet _ _).streams]
    simp [Core.setPeripheral]

/-- An 'mtuChanged' event of a peripheral is one of every write to its stream. -/
theorem onMtuChanged_maxPayload (env : Env) (c : Core) {p st : Ref} (mtu : Nat)
    (bound : (c.peripheral p).stream = some st) (w : Write) :
    ((c.onMtuChanged env p mtu).streams.get st).maxPayload =
      (w.step env.cfg (.mtuChanged mtu)).maxPayload := by
  have kept :
      ((c.setPeripheral p fun q => { q with mtu := mtu }).peripheral p).stream = some st := by
    simpa [Core.peripheral, Core.setPeripheral] using bound
  simp only [Core.onMtuChanged, kept, Core.setStream, Heap.modify_get_self]
  rfl

/-- A write keeps every byte in place exactly when each send resolves while the
stream's `maxPayload` still fits the fragment that was sent. -/
theorem write_intact_iff (cfg : Config) (chunk : Bytes) (m : Nat) (pos : 0 < m)
    (events : List Event) :
    (Runs.run (step cfg) (start chunk (some m)) events).Intact ↔
      Runs.Each (step cfg) Steady (start chunk (some m)) events :=
  (Progress.start chunk pos).run (start_positive chunk pos) events

/-- Two fragments of 150 bytes, with the same mtu negotiated again in between. -/
theorem write_intact_steady :
    (Runs.run (step (Config.plain [0] .gatt .android)) (start (List.replicate 200 7) (some 150))
      [.mtuChanged 162, .sent, .sent]).Intact :=
  (write_intact_iff _ _ 150 (by decide) _).mpr (by decide +kernel)

/-- A larger mtu negotiated while the first fragment is in flight skips the rest. -/
theorem raised_mtu_loses_bytes :
    ¬ (Runs.run (step (Config.plain [0] .gatt .android)) (start (List.replicate 200 7) (some 150))
      [.mtuChanged 517, .sent]).Intact := by
  apply Broken.not_intact
  right
  decide +kernel

end Write

end BleSwarm
