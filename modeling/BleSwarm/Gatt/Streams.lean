import BleSwarm.Gatt.Write

/-!
# Writers on one queue

Every stream of the server side sends its fragments through the one notify queue, and
awaits each of them. So the queue holds at most one data frame of a session, and what
was accepted of it is a first part of what was written to its stream.
-/

namespace BleSwarm

/-- The bytes that a frame carries for a session. -/
def dataFor (id : Hex) (frame : Bytes) : Option Bytes :=
  match decodeFrame (some frame) with
  | some f => if f.type = typeData ∧ f.id = id then some f.payload else none
  | none => none

/-- The frame is a HELLO for a session. -/
def greets (id : Hex) (frame : Bytes) : Bool :=
  match decodeFrame (some frame) with
  | some f => decide (f.type = typeHello ∧ f.id = id)
  | none => false

/-- What the frames carry for a session, put together. -/
def carried (id : Hex) (frames : List Bytes) : Bytes := (frames.filterMap (dataFor id)).flatten

/-- A stream of a server session, as its writer sees it. -/
structure ServerStream where
  /-- Everything that was written to the stream. -/
  written : Bytes := []
  /-- The chunk being written, and the promise that its writer awaits. -/
  write : Option (Write × Nat) := none
  destroyed : Bool := false

/-! What frames carry. -/

theorem carried_append (id : Hex) (frames frames' : List Bytes) :
    carried id (frames ++ frames') = carried id frames ++ carried id frames' := by
  simp [carried, List.filterMap_append]

theorem carried_eq_nil {id : Hex} {frames : List Bytes}
    (foreign : ∀ frame ∈ frames, dataFor id frame = none) : carried id frames = [] := by
  rw [carried, List.filterMap_eq_nil_iff.mpr foreign]
  rfl

theorem carried_singleton (id : Hex) (frame : Bytes) :
    carried id [frame] = (dataFor id frame).getD [] := by
  unfold carried
  cases carries : dataFor id frame <;> simp [carries]

variable {sid : Bytes}

theorem dataFor_data (whole : sid.length = sidLen) (payload : Bytes) :
    dataFor (toHex sid) (encodeFrame typeData (toHex sid) payload) = some payload := by
  simp [dataFor, decodeFrame_encodeFrame _ whole]

theorem dataFor_of_ne (whole : sid.length = sidLen) {id : Hex} (type : Byte) (payload : Bytes)
    (other : type ≠ typeData ∨ toHex sid ≠ id) :
    dataFor id (encodeFrame type (toHex sid) payload) = none := by
  simp only [dataFor, decodeFrame_encodeFrame _ whole]
  rw [if_neg]
  rintro ⟨data, same⟩
  exact other.elim (fun ne => ne data) fun ne => ne same

theorem greets_of_ne (whole : sid.length = sidLen) {id : Hex} (type : Byte) (payload : Bytes)
    (other : type ≠ typeHello ∨ toHex sid ≠ id) :
    greets id (encodeFrame type (toHex sid) payload) = false := by
  simp only [greets, decodeFrame_encodeFrame _ whole, decide_eq_false_iff_not]
  rintro ⟨hello, same⟩
  exact other.elim (fun ne => ne hello) fun ne => ne same

/-- A frame that begins with neither type carries nothing and greets nobody. -/
theorem control_frame {frame : Bytes} (id : Hex) (data : frame.head? ≠ some typeData)
    (hello : frame.head? ≠ some typeHello) : dataFor id frame = none ∧ greets id frame = false := by
  have first : ∀ {f}, decodeFrame (some frame) = some f → frame.head? = some f.type := by
    intro f decoded
    simp only [decodeFrame] at decoded
    split at decoded
    · cases decoded
    · rename_i long
      obtain rfl := Option.some.inj decoded
      cases frame with
      | nil => simp [header] at long
      | cons b frame => rfl
  unfold dataFor greets
  cases decoded : decodeFrame (some frame) with
  | none => exact ⟨rfl, rfl⟩
  | some f =>
    have type := first decoded
    refine ⟨if_neg fun both => data ?_, decide_eq_false fun both => hello ?_⟩
    · rw [type, both.1]
    · rw [type, both.1]

namespace NotifyQueue

variable {g g' : NotifyQueue}

/-- The frames that were accepted and those that may be. -/
def frames (g : NotifyQueue) : List Bytes := g.accepted ++ g.queue.map NotifyItem.frame

/-- The data frames of a session that are queued. -/
def pending (g : NotifyQueue) (id : Hex) : List NotifyItem :=
  g.queue.filter fun item => (dataFor id item.frame).isSome

/-- No promise is given twice. -/
structure Numbered (g : NotifyQueue) : Prop where
  nodup : (g.queue.map NotifyItem.promise).Nodup
  queued : ∀ item ∈ g.queue, item.promise < g.promises
  settled : ∀ e ∈ g.settled, e.1 < g.promises

/-- The head of the queue settles. -/
theorem Numbered.pop (h : g.Numbered) {item : NotifyItem} {rest : List NotifyItem}
    (head : g.queue = item :: rest) (resolved : Bool) (retry : Option Nat) (accepted : List Bytes)
    (outcomes : List UpdateOutcome) : Numbered { g with
      queue := rest, settled := g.settled ++ [(item.promise, resolved)], retry, accepted, outcomes } := by
  obtain ⟨nodup, queued, settled⟩ := h
  rw [head] at nodup queued
  refine ⟨(List.nodup_cons.mp nodup).2, fun k mem => queued k (List.mem_cons_of_mem _ mem), ?_⟩
  intro e mem
  rcases List.mem_append.mp mem with old | new
  · exact settled e old
  · rw [List.mem_singleton.mp new]
    exact queued item List.mem_cons_self

/-- A promise that settled stays as it settled, and the next to settle is that of `e`. -/
theorem verdict_append (g g' : NotifyQueue) (e : Nat × Bool) (n : Nat)
    (settled : g'.settled = g.settled ++ [e]) :
    g'.verdict n = (g.verdict n).or (if e.1 = n then some e.2 else none) := by
  simp only [verdict, settled, List.find?_append, Option.map_or]
  congr 1
  simp only [List.find?_cons, List.find?_nil]
  by_cases same : e.1 = n <;> simp [same]

theorem verdict_fresh (h : g.Numbered) : g.verdict g.promises = none := by
  rw [verdict, Option.map_eq_none_iff, List.find?_eq_none]
  intro e mem same
  have lt := h.settled e mem
  simp only [decide_eq_true_eq] at same
  omega

/-- Frames leave the queue, and none comes or overtakes another. -/
theorem Moves.frames (h : Moves g g') : g'.frames.Sublist g.frames := by
  induction h with
  | trans _ _ ih ih' => exact ih'.trans ih
  | rest g retry outcomes => exact List.Sublist.refl _
  | accept g item rest head =>
    simp [NotifyQueue.frames, head]
  | reject g item rest head =>
    simp [NotifyQueue.frames, head]

theorem Moves.numbered (h : Moves g g') (numbered : g.Numbered) : g'.Numbered := by
  induction h with
  | trans _ _ ih ih' => exact ih' (ih numbered)
  | rest g retry outcomes => exact ⟨numbered.nodup, numbered.queued, numbered.settled⟩
  | accept g item rest head => exact numbered.pop head true _ _ _
  | reject g item rest head => exact numbered.pop head false _ _ _

theorem Numbered.submit (h : g.Numbered) (frame : Bytes) : (g.submit frame).Numbered := by
  refine ⟨?_, fun item mem => ?_, fun e mem => (h.settled e mem).trans (Nat.lt_succ_self _)⟩
  · simp only [NotifyQueue.submit, List.map_append, List.map_cons, List.map_nil]
    refine List.nodup_append.mpr ⟨h.nodup, by simp, ?_⟩
    intro n old k new same
    obtain ⟨item, mem, rfl⟩ := List.mem_map.mp old
    have lt := h.queued item mem
    rw [same, List.mem_singleton.mp new] at lt
    exact lt_irrefl _ lt
  · rcases List.mem_append.mp mem with old | new
    · exact (h.queued item old).trans (Nat.lt_succ_self _)
    · rw [List.mem_singleton.mp new]
      exact Nat.lt_succ_self _

theorem pending_of_head {id : Hex} {item : NotifyItem} {rest : List NotifyItem}
    (head : g.queue = item :: rest) (empty : g.pending id = []) :
    dataFor id item.frame = none ∧ (rest.filter fun item => (dataFor id item.frame).isSome) = [] := by
  simp only [pending, head, List.filter_eq_nil_iff, List.mem_cons, forall_eq_or_imp] at empty ⊢
  exact ⟨by simpa using empty.1, empty.2⟩

/-- Without a data frame of the session in the queue, none is accepted. -/
theorem Moves.silent (h : Moves g g') {id : Hex} (empty : g.pending id = []) :
    g'.pending id = [] ∧ carried id g'.accepted = carried id g.accepted := by
  induction h with
  | trans _ _ ih ih' =>
    obtain ⟨empty', same⟩ := ih empty
    obtain ⟨empty'', same'⟩ := ih' empty'
    exact ⟨empty'', same'.trans same⟩
  | rest g retry outcomes => exact ⟨empty, rfl⟩
  | accept g item rest head =>
    obtain ⟨first, later⟩ := pending_of_head head empty
    refine ⟨later, ?_⟩
    rw [carried_append, carried_singleton, first]
    exact List.append_nil _
  | reject g item rest head => exact ⟨(pending_of_head head empty).2, rfl⟩

theorem Moves.verdict (h : Moves g g') {n : Nat} {resolved : Bool} (settled : g.verdict n = some resolved) :
    g'.verdict n = some resolved := by
  induction h with
  | trans _ _ ih ih' => exact ih' (ih settled)
  | rest g retry outcomes => exact settled
  | accept g item rest head =>
    rw [verdict_append g _ (item.promise, true) n rfl, settled]
    rfl
  | reject g item rest head =>
    rw [verdict_append g _ (item.promise, false) n rfl, settled]
    rfl

/-- A data frame of a session that its writer awaits: it is the only one that is queued, or
it was accepted or rejected. The bytes `sent` were accepted before it, and it carries
`tail`. -/
inductive Awaits (g : NotifyQueue) (id : Hex) (n : Nat) (frame sent tail : Bytes) : Prop
  | queued (unsettled : g.verdict n = none) (pending : g.pending id = [⟨n, frame⟩])
    (accepted : carried id g.accepted = sent)
  | resolved (settled : g.verdict n = some true) (pending : g.pending id = [])
    (accepted : carried id g.accepted = sent ++ tail)
  | rejected (settled : g.verdict n = some false) (pending : g.pending id = [])
    (accepted : carried id g.accepted = sent)

/-- The head of the queue is the frame that is awaited, or one that does not matter. -/
theorem Awaits.head {id : Hex} {n : Nat} {frame : Bytes} (numbered : g.Numbered)
    (pending : g.pending id = [⟨n, frame⟩])
    {item : NotifyItem} {rest : List NotifyItem} (head : g.queue = item :: rest) :
    (item = ⟨n, frame⟩ ∧ (rest.filter fun item => (dataFor id item.frame).isSome) = []) ∨
    (item.promise ≠ n ∧ dataFor id item.frame = none ∧
      (rest.filter fun item => (dataFor id item.frame).isSome) = [⟨n, frame⟩]) := by
  have cut : g.pending id = if (dataFor id item.frame).isSome then
      item :: rest.filter fun item => (dataFor id item.frame).isSome
      else rest.filter fun item => (dataFor id item.frame).isSome := by
    simp only [NotifyQueue.pending, head, List.filter_cons]
  rw [pending] at cut
  cases first : dataFor id item.frame with
  | some payload =>
    simp only [first, Option.isSome_some, if_true, List.cons.injEq] at cut
    exact .inl ⟨cut.1.symm, cut.2.symm⟩
  | none =>
    simp only [first, Option.isSome_none, Bool.false_eq_true, if_false] at cut
    refine .inr ⟨fun same => ?_, rfl, cut.symm⟩
    have mem : ⟨n, frame⟩ ∈ rest := List.mem_of_mem_filter (cut ▸ List.mem_singleton_self _)
    have nodup := numbered.nodup
    rw [head] at nodup
    exact (List.nodup_cons.mp nodup).1 (same ▸ List.mem_map_of_mem mem)

theorem Awaits.moves {id : Hex} {n : Nat} {frame sent tail : Bytes}
    (carries : dataFor id frame = some tail) (moves : Moves g g') (numbered : g.Numbered)
    (h : Awaits g id n frame sent tail) : Awaits g' id n frame sent tail := by
  induction moves with
  | trans first _ ih ih' => exact ih' (first.numbered numbered) (ih numbered h)
  | rest g retry outcomes =>
    cases h with
    | queued unsettled pending accepted => exact .queued unsettled pending accepted
    | resolved settled pending accepted => exact .resolved settled pending accepted
    | rejected settled pending accepted => exact .rejected settled pending accepted
  | accept g item rest head =>
    have move := Moves.accept g item rest head
    cases h with
    | queued unsettled pending accepted =>
      have settles := verdict_append g { g with
        queue := rest
        accepted := g.accepted ++ [item.frame]
        settled := g.settled ++ [(item.promise, true)] } (item.promise, true) n rfl
      rcases Awaits.head numbered pending head with ⟨rfl, alone⟩ | ⟨other, nothing, still⟩
      · refine .resolved (settles.trans ?_) alone ?_
        · simp [unsettled]
        · rw [carried_append, carried_singleton, accepted, carries]
          rfl
      · refine .queued (settles.trans ?_) still ?_
        · simp [unsettled, other]
        · rw [carried_append, carried_singleton, accepted, nothing]
          exact List.append_nil _
    | resolved settled pending accepted =>
      obtain ⟨empty, same⟩ := move.silent pending
      exact .resolved (move.verdict settled) empty (same.trans accepted)
    | rejected settled pending accepted =>
      obtain ⟨empty, same⟩ := move.silent pending
      exact .rejected (move.verdict settled) empty (same.trans accepted)
  | reject g item rest head =>
    have move := Moves.reject g item rest head
    cases h with
    | queued unsettled pending accepted =>
      have settles := verdict_append g { g with
        queue := rest
        settled := g.settled ++ [(item.promise, false)] } (item.promise, false) n rfl
      rcases Awaits.head numbered pending head with ⟨rfl, alone⟩ | ⟨other, -, still⟩
      · exact .rejected (settles.trans (by simp [unsettled])) alone accepted
      · exact .queued (settles.trans (by simp [unsettled, other])) still accepted
    | resolved settled pending accepted =>
      obtain ⟨empty, same⟩ := move.silent pending
      exact .resolved (move.verdict settled) empty (same.trans accepted)
    | rejected settled pending accepted =>
      obtain ⟨empty, same⟩ := move.silent pending
      exact .rejected (move.verdict settled) empty (same.trans accepted)

theorem Moves.accepted (h : Moves g g') : g.accepted <+: g'.accepted := by
  obtain ⟨sent, accepted, -⟩ := (h.passes : Passes (fun _ => True) g g').accepted
  exact ⟨sent, accepted.symm⟩

/-- A frame of another kind or session at the end of the queue changes nothing for a session. -/
theorem pending_submit {id : Hex} {frame : Bytes} (foreign : dataFor id frame = none) :
    (g.submit frame).pending id = g.pending id := by
  simp [pending, NotifyQueue.submit, foreign]

theorem Awaits.submit {id : Hex} {n : Nat} {frame sent tail : Bytes} {foreign : Bytes}
    (other : dataFor id foreign = none) (h : Awaits g id n frame sent tail) :
    Awaits (g.submit foreign) id n frame sent tail := by
  have same := pending_submit (g := g) other
  cases h with
  | queued unsettled pending accepted => exact .queued unsettled (same.trans pending) accepted
  | resolved settled pending accepted => exact .resolved settled (same.trans pending) accepted
  | rejected settled pending accepted => exact .rejected settled (same.trans pending) accepted

/-- The frame that is submitted is awaited. -/
theorem Numbered.awaits (h : g.Numbered) {id : Hex} {frame tail : Bytes}
    (carries : dataFor id frame = some tail) (empty : g.pending id = []) :
    Awaits (g.submit frame) id g.promises frame (carried id g.accepted) tail := by
  refine .queued (verdict_fresh h) ?_ rfl
  simp only [pending, NotifyQueue.submit, List.filter_append] at empty ⊢
  rw [empty]
  simp [carries]

end NotifyQueue

/-! One write after another. -/

namespace Write

/-- A write in progress that has lost nothing. -/
structure Going (w : Write) : Prop where
  unfinished : w.finished = false
  progress : w.Progress
  even : w.Even defaultPayload

/-- The fragment in flight. -/
def last (w : Write) : Bytes := w.payloads.getLastD []

theorem Going.payloads {w : Write} (h : w.Going) :
    w.payloads = w.payloads.dropLast ++ [w.last] := by
  apply payloads_snoc
  rcases h.progress with ⟨finished, -⟩ | ⟨before, o, m, -, -, -, -, spans, -⟩
  · rw [h.unfinished] at finished
    cases finished
  · simp [spans]

/-- What the fragments carried, up to the one in flight. -/
theorem Going.flatten {w : Write} (h : w.Going) :
    w.payloads.flatten = w.payloads.dropLast.flatten ++ w.last := by
  nth_rewrite 1 [h.payloads]
  simp

theorem Going.begins {w : Write} (h : w.Going) : w.payloads.flatten <+: w.chunk := by
  obtain ⟨k, -, sent, -⟩ := h.progress.intact
  exact ⟨w.chunk.drop k, by rw [sent, List.take_append_drop]⟩

/-- The first fragment of a chunk, or the end of an empty one. -/
theorem start_cases (chunk : Bytes) :
    ((start chunk (some defaultPayload)).finished = true ∧ chunk = []) ∨
    ((start chunk (some defaultPayload)).Going ∧
      (start chunk (some defaultPayload)).payloads.dropLast = []) := by
  by_cases nonempty : 0 < chunk.length
  · have sends : start chunk (some defaultPayload) =
        { chunk, maxPayload := some defaultPayload, spans := [(0, 0 + defaultPayload)] } := by
      simp [start, loop, nonempty]
    refine .inr ⟨⟨?_, Progress.start chunk (by decide), Even.start chunk _⟩, ?_⟩
    · rw [sends]
    · rw [sends]
      rfl
  · have empty : chunk = [] := List.eq_nil_of_length_eq_zero (by omega)
    exact .inl ⟨by simp [start, loop, empty], empty⟩

/-- The fragment in flight was the last of the chunk, or the next one follows. -/
theorem Going.sent {w : Write} (h : w.Going) (cfg : Config) :
    ((w.step cfg .sent).finished = true ∧ w.payloads.flatten = w.chunk) ∨
    ((w.step cfg .sent).Going ∧ (w.step cfg .sent).payloads.dropLast = w.payloads) := by
  have positive : w.Positive := by
    intro m payload
    rw [h.even.payload] at payload
    exact Option.some.inj payload ▸ Nat.succ_pos _
  have progress : (w.step cfg .sent).Progress := (h.progress.sent positive).1 h.even.steady
  rcases sent_cases cfg h.unfinished with ⟨finished, same⟩ | ⟨unfinished, next⟩
  · obtain ⟨k, -, sent, whole⟩ := progress.intact
    refine .inl ⟨finished, ?_⟩
    rw [← same, sent, whole finished, step_chunk, List.take_length]
  · exact .inr ⟨⟨unfinished, progress, h.even.sent cfg⟩, next⟩

end Write

open NotifyQueue

/-- What was accepted of a stream, and what its writer waits for. -/
inductive Flow (g : NotifyQueue) (id : Hex) (s : ServerStream) : Prop
  | idle (quiet : s.write = none) (pending : g.pending id = [])
    (accepted : carried id g.accepted <+: s.written)
    (whole : s.destroyed = false → carried id g.accepted = s.written)
  | busy (w : Write) (n : Nat) (before : Bytes) (writing : s.write = some (w, n)) (going : w.Going)
    (written : s.written = before ++ w.chunk)
    (awaits : Awaits g id n (encodeFrame typeData id w.last)
      (before ++ w.payloads.dropLast.flatten) w.last)

variable {g g' : NotifyQueue} {id : Hex} {s : ServerStream} {sid : Bytes}

/-- What was accepted of a stream is a first part of what was written to it. -/
theorem Flow.begins (h : Flow g id s) : carried id g.accepted <+: s.written := by
  cases h with
  | idle quiet pending accepted whole => exact accepted
  | busy w n before writing going written awaits =>
    have sent : before ++ w.payloads.flatten <+: s.written := by
      rw [written, List.prefix_append_right_inj]
      exact going.begins
    rw [going.flatten, ← List.append_assoc] at sent
    cases awaits with
    | queued unsettled pending accepted => exact accepted ▸ (List.prefix_append _ _).trans sent
    | resolved settled pending accepted => exact accepted ▸ sent
    | rejected settled pending accepted => exact accepted ▸ (List.prefix_append _ _).trans sent

theorem Flow.moves (whole : sid.length = sidLen) (moves : Moves g g') (numbered : g.Numbered)
    (h : Flow g (toHex sid) s) : Flow g' (toHex sid) s := by
  cases h with
  | idle quiet pending accepted all =>
    obtain ⟨empty, same⟩ := moves.silent pending
    exact .idle quiet empty (same ▸ accepted) fun alive => same.trans (all alive)
  | busy w n before writing going written awaits =>
    exact .busy w n before writing going written
      (awaits.moves (dataFor_data whole _) moves numbered)

theorem Flow.submit {frame : Bytes} (foreign : dataFor id frame = none) (h : Flow g id s) :
    Flow (g.submit frame) id s := by
  cases h with
  | idle quiet pending accepted all =>
    exact .idle quiet ((pending_submit foreign).trans pending) accepted all
  | busy w n before writing going written awaits =>
    exact .busy w n before writing going written (awaits.submit foreign)

/-- The streams of a server in step with its queue. -/
structure Orderly (g : NotifyQueue) (streams : OrderedMap Hex ServerStream) : Prop where
  numbered : g.Numbered
  /-- Sessions go by ids as frames carry them. -/
  named : ∀ id s, streams.get? id = some s → ∃ sid, sid.length = sidLen ∧ id = toHex sid
  flow : ∀ id s, streams.get? id = some s → Flow g id s
  /-- No session is heard of before it has its stream. -/
  silent : ∀ id, streams.get? id = none → ∀ frame ∈ g.frames, dataFor id frame = none
  /-- Nor does a data frame of a session stand before its HELLO. -/
  greeted : ∀ id, g.frames.Pairwise fun early late => greets id late = true → dataFor id early = none

namespace Orderly

variable {streams : OrderedMap Hex ServerStream}

theorem frames_submit (g : NotifyQueue) (frame : Bytes) :
    (g.submit frame).frames = g.frames ++ [frame] := by
  simp [NotifyQueue.frames, NotifyQueue.submit]

theorem moves (h : Orderly g streams) (moves : Moves g g') : Orderly g' streams := by
  refine ⟨moves.numbered h.numbered, h.named, ?_, ?_, fun id => (h.greeted id).sublist moves.frames⟩
  · intro id s found
    obtain ⟨sid, whole, rfl⟩ := h.named id s found
    exact (h.flow _ s found).moves whole moves h.numbered
  · exact fun id unknown frame mem => h.silent id unknown frame (moves.frames.mem mem)

/-- A frame without data joins the queue, and a HELLO comes before the data of its session. -/
theorem submit (h : Orderly g streams) {frame : Bytes} (foreign : ∀ id, dataFor id frame = none)
    (first : ∀ id, greets id frame = true → ∀ early ∈ g.frames, dataFor id early = none) :
    Orderly (g.submit frame) streams := by
  refine ⟨h.numbered.submit frame, h.named, ?_, ?_, ?_⟩
  · exact fun id s found => (h.flow id s found).submit (foreign id)
  · intro id unknown other mem
    rw [frames_submit] at mem
    rcases List.mem_append.mp mem with old | new
    · exact h.silent id unknown other old
    · rw [List.mem_singleton.mp new]
      exact foreign id
  · intro id
    rw [frames_submit]
    refine List.pairwise_append.mpr ⟨h.greeted id, List.pairwise_singleton _ _, ?_⟩
    intro early old late new hello
    rw [List.mem_singleton.mp new] at hello
    exact first id hello early old

/-- A stream goes on without a frame. -/
theorem set (h : Orderly g streams) {id : Hex} {s : ServerStream}
    (named : ∃ sid, sid.length = sidLen ∧ id = toHex sid) (flow : Flow g id s) :
    Orderly g (streams.set id s) := by
  refine ⟨h.numbered, ?_, ?_, ?_, h.greeted⟩
  · intro k s' found
    rw [OrderedMap.get?_set] at found
    split at found
    · rename_i same
      exact same ▸ named
    · exact h.named k s' found
  · intro k s' found
    rw [OrderedMap.get?_set] at found
    split at found
    · rename_i same
      rw [same, ← Option.some.inj found]
      exact flow
    · exact h.flow k s' found
  · intro k unknown
    rw [OrderedMap.get?_set] at unknown
    split at unknown
    · cases unknown
    · exact h.silent k unknown

/-- A session gets its stream. -/
theorem accept (h : Orderly g streams) {sid : Bytes} (whole : sid.length = sidLen)
    (fresh : streams.get? (toHex sid) = none) : Orderly g (streams.set (toHex sid) {}) := by
  have silent := h.silent _ fresh
  have queued : ∀ item ∈ g.queue, dataFor (toHex sid) item.frame = none := fun item mem =>
    silent item.frame (List.mem_append_right _ (List.mem_map_of_mem mem))
  have accepted : carried (toHex sid) g.accepted = [] :=
    carried_eq_nil fun frame mem => silent frame (List.mem_append_left _ mem)
  apply h.set ⟨sid, whole, rfl⟩
  refine .idle rfl (List.filter_eq_nil_iff.mpr fun item mem => ?_) ?_ fun _ => accepted
  · simp [queued item mem]
  · exact accepted ▸ List.nil_prefix

/-- The next fragment of a write joins the queue. -/
theorem send (h : Orderly g streams) {id : Hex} {old s : ServerStream} {w : Write} {before : Bytes}
    (known : streams.get? id = some old) (going : w.Going) (empty : g.pending id = [])
    (written : s.written = before ++ w.chunk)
    (accepted : carried id g.accepted = before ++ w.payloads.dropLast.flatten) :
    Orderly (g.submit (encodeFrame typeData id w.last))
      (streams.set id { s with write := some (w, g.promises) }) := by
  obtain ⟨sid, whole, rfl⟩ := h.named id old known
  have foreign : ∀ k, k ≠ toHex sid → dataFor k (encodeFrame typeData (toHex sid) w.last) = none :=
    fun k other => dataFor_of_ne whole _ _ (.inr fun same => other same.symm)
  refine ⟨h.numbered.submit _, ?_, ?_, ?_, ?_⟩
  · intro k s' found
    rw [OrderedMap.get?_set] at found
    split at found
    · rename_i same
      exact ⟨sid, whole, same⟩
    · exact h.named k s' found
  · intro k s' found
    rw [OrderedMap.get?_set] at found
    split at found
    · rename_i same
      rw [same, ← Option.some.inj found]
      have awaits := h.numbered.awaits (dataFor_data whole w.last) empty
      exact .busy w g.promises before rfl going written (accepted ▸ awaits)
    · rename_i other
      exact (h.flow k s' found).submit (foreign k other)
  · intro k unknown frame mem
    rw [OrderedMap.get?_set] at unknown
    split at unknown
    · cases unknown
    · rename_i other
      rw [frames_submit] at mem
      rcases List.mem_append.mp mem with old | new
      · exact h.silent k unknown frame old
      · rw [List.mem_singleton.mp new]
        exact foreign k other
  · intro k
    rw [frames_submit]
    refine List.pairwise_append.mpr ⟨h.greeted k, List.pairwise_singleton _ _, ?_⟩
    intro early _ late new hello
    rw [List.mem_singleton.mp new, greets_of_ne whole _ _ (.inl (by decide))] at hello
    cases hello

end Orderly

end BleSwarm
