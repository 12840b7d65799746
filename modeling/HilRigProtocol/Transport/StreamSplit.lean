/-
  The stream parser splits its stream on zero.

  `Fed` are the runs of a caller that pushes bytes only while no body is ready, in
  chunks of any sizes. `parser_splits_on_zero`: the outcomes of such a run are the
  nonempty segments of what was consumed (`expected`), and the parser holds the rest.
  `offerChunks` is the caller that consumes a body as soon as it is ready.
-/
import HilRigProtocol.Library.Split
import HilRigProtocol.Transport.Refinement.Receive

namespace HilRigProtocol.Transport.Parser

open Library.Split

/-! ## Outcomes -/

/-- What the parser reports of one body. -/
inductive Outcome
  | ready (body : List UInt8)
  | discarded
  deriving DecidableEq, Repr

/-- The report that a push makes by its result; a ready body is there to be peeked at. -/
def outcome (result : ParserResult) (parser : Parser) : List Outcome :=
  match result with
  | .bodyReady => [.ready parser.peekBody.2]
  | .discardedBody => [.discarded]
  | _ => []

/-- What should become of a segment. -/
def outcomeOf (capacity : Nat) (segment : List UInt8) : Outcome :=
  if segment.length ≤ capacity then .ready segment else .discarded

/-- What should become of a stream: its nonempty segments, in order. -/
def expected (capacity : Nat) (stream : List UInt8) : List Outcome :=
  ((segments 0 stream).filter (· ≠ [])).map (outcomeOf capacity)

/-- The unfinished tail is buffered while it fits and discarded when it does not. -/
def tailIntake (capacity : Nat) (tail : List UInt8) : Intake :=
  if tail.length ≤ capacity then .filling tail else .discarding

/-- The parser that holds the unfinished tail of a stream, and no body. -/
def atRest (capacity : Nat) (stream : List UInt8) : Parser :=
  (tailIntake capacity (remainder 0 stream)).toParser capacity

/-- The parser holds the tail of the stream, or the last segment, which is ready. -/
def Tracks (capacity : Nat) (stream : List UInt8) (parser : Parser) : Prop :=
  parser = atRest capacity stream ∨
    ∃ front body, segments 0 stream = front ++ [body] ∧ remainder 0 stream = [] ∧ body ≠ [] ∧
      body.length ≤ capacity ∧ parser = (Intake.ready body).toParser capacity

/-! ## One byte -/

theorem stateIsValid_tailIntake {capacity : Nat} (hpos : 0 < capacity) (tail : List UInt8) :
    ((tailIntake capacity tail).toParser capacity).stateIsValid = true := by
  unfold tailIntake
  by_cases hfits : tail.length ≤ capacity
  · rw [if_pos hfits]
    simp [stateIsValid, Intake.toParser, Intake.accumulated, hfits]
    omega
  · rw [if_neg hfits]
    simp [stateIsValid, Intake.toParser, Intake.accumulated]
    omega

theorem stateIsValid_ready {capacity : Nat} {body : List UInt8} (hne : body ≠ [])
    (hfits : body.length ≤ capacity) :
    ((Intake.ready body).toParser capacity).stateIsValid = true := by
  have hpos := List.length_pos_of_ne_nil hne
  simp [stateIsValid, Intake.toParser, Intake.accumulated, hfits, hne]
  omega

theorem peekBody_ready {capacity : Nat} {body : List UInt8} (hne : body ≠ [])
    (hfits : body.length ≤ capacity) :
    ((Intake.ready body).toParser capacity).peekBody = (.ok, body) := by
  unfold peekBody
  rw [if_neg (by simp [stateIsValid_ready hne hfits]), if_neg (by simp [Intake.toParser])]
  rfl

theorem atRest_bodyReady (capacity : Nat) (stream : List UInt8) :
    (atRest capacity stream).bodyReady = 0 := by
  unfold atRest tailIntake
  split_ifs <;> rfl

/-- While no body is ready, the parser holds the tail. -/
theorem Tracks.eq_atRest {capacity : Nat} {stream : List UInt8} {parser : Parser}
    (h : Tracks capacity stream parser) (hfree : parser.bodyReady = 0) :
    parser = atRest capacity stream := by
  rcases h with h | ⟨front, body, -, -, -, -, rfl⟩
  · exact h
  · cases hfree

theorem expected_append_ne {capacity : Nat} {byte : UInt8} (hbyte : byte ≠ 0)
    (stream : List UInt8) : expected capacity (stream ++ [byte]) = expected capacity stream := by
  unfold expected
  rw [(append_ne hbyte stream).1]

theorem expected_append_zero (capacity : Nat) (stream : List UInt8) :
    expected capacity (stream ++ [0]) = expected capacity stream ++
      if remainder 0 stream = [] then [] else [outcomeOf capacity (remainder 0 stream)] := by
  unfold expected
  rw [(append_separator 0 stream).1, List.filter_append, List.map_append]
  by_cases hempty : remainder 0 stream = []
  · rw [if_pos hempty, hempty]
    rfl
  · rw [if_neg hempty, List.filter_singleton]
    simp [hempty]

/-- What pushing data onto a resting parser does, of which `consumed` bytes are consumed. -/
structure Pushed (capacity : Nat) (stream data : List UInt8) (result : ParserResult)
    (parser : Parser) (consumed : Nat) : Prop where
  consumed_le : consumed ≤ data.length
  outcomes : expected capacity (stream ++ data.take consumed) =
    expected capacity stream ++ outcome result parser
  tracks : Tracks capacity (stream ++ data.take consumed) parser
  noError : result ≠ .error
  /-- Only an outcome stops a push before the end of the data. -/
  whole : outcome result parser = [] →
    consumed = data.length ∧ parser = atRest capacity (stream ++ data)
  progress : data ≠ [] → 0 < consumed

theorem pushByte_tailIntake {capacity : Nat} (hpos : 0 < capacity) (tail : List UInt8)
    (byte : UInt8) :
    ((tailIntake capacity tail).toParser capacity).pushByte byte =
      if byte = 0 then
        if tail = [] then (.needMoreData, (tailIntake capacity tail).toParser capacity)
        else if tail.length ≤ capacity then (.bodyReady, (Intake.ready tail).toParser capacity)
        else (.discardedBody, (tailIntake capacity []).toParser capacity)
      else (if tail.length < capacity then .needMoreData else .discarding,
        (tailIntake capacity (tail ++ [byte])).toParser capacity) := by
  have hvalid := stateIsValid_tailIntake hpos tail
  have hempty : tailIntake capacity [] = .filling [] := if_pos (Nat.zero_le _)
  have hlength : (tail ++ [byte]).length = tail.length + 1 := List.length_append
  rw [hempty]
  by_cases hfits : tail.length ≤ capacity
  · have htail : tailIntake capacity tail = .filling tail := if_pos hfits
    rw [htail] at hvalid ⊢
    rw [pushByte_filling byte hvalid, if_pos hfits]
    by_cases hfull : tail.length = capacity
    · have hnext : tailIntake capacity (tail ++ [byte]) = .discarding := if_neg (by omega)
      rw [if_pos hfull, if_neg (by omega : ¬ tail.length < capacity), hnext]
    · have hnext : tailIntake capacity (tail ++ [byte]) = .filling (tail ++ [byte]) :=
        if_pos (by omega)
      rw [if_neg hfull, if_pos (by omega : tail.length < capacity), hnext]
  · have htail : tailIntake capacity tail = .discarding := if_neg hfits
    have hnext : tailIntake capacity (tail ++ [byte]) = .discarding := if_neg (by omega)
    have hne : tail ≠ [] := by
      intro hnil
      rw [hnil] at hfits
      exact hfits (Nat.zero_le _)
    rw [htail] at hvalid ⊢
    rw [pushByte_discarding byte hvalid, if_neg hne, if_neg hfits, hnext,
      if_neg (by omega : ¬ tail.length < capacity)]

/-- A byte that ends no body leaves the parser at rest, with the byte counted. -/
theorem pushed_quiet {capacity : Nat} {stream : List UInt8} {byte : UInt8} {result : ParserResult}
    (hresult : result = .needMoreData ∨ result = .discarding)
    (hsame : expected capacity (stream ++ [byte]) = expected capacity stream) :
    Pushed capacity stream [byte] result (atRest capacity (stream ++ [byte])) 1 := by
  have hnone : ∀ parser, outcome result parser = [] := by
    rcases hresult with rfl | rfl <;> exact fun _ => rfl
  exact
    { consumed_le := le_rfl
      outcomes := by rw [hnone, List.append_nil]; exact hsame
      tracks := Or.inl rfl
      noError := by rcases hresult with rfl | rfl <;> decide
      whole := fun _ => ⟨rfl, rfl⟩
      progress := fun _ => Nat.one_pos }

theorem pushByte_atRest {capacity : Nat} (hpos : 0 < capacity) (stream : List UInt8)
    (byte : UInt8) {result : ParserResult} {next : Parser}
    (h : (atRest capacity stream).pushByte byte = (result, next)) :
    Pushed capacity stream [byte] result next 1 := by
  unfold atRest at h
  rw [pushByte_tailIntake hpos] at h
  by_cases hbyte : byte = 0
  · subst hbyte
    obtain ⟨hsegments, hremainder⟩ := append_separator 0 stream
    have hexpected := expected_append_zero capacity stream
    have hcleared : (tailIntake capacity []).toParser capacity = atRest capacity (stream ++ [0]) := by
      unfold atRest
      rw [hremainder]
    rw [if_pos rfl, hcleared] at h
    by_cases hempty : remainder 0 stream = []
    · rw [if_pos hempty, hempty, hcleared] at h
      rw [if_pos hempty, List.append_nil] at hexpected
      cases h
      exact pushed_quiet (Or.inl rfl) hexpected
    rw [if_neg hempty] at h hexpected
    unfold outcomeOf at hexpected
    by_cases hfits : (remainder 0 stream).length ≤ capacity
    · rw [if_pos hfits] at h hexpected
      cases h
      exact
        { consumed_le := le_rfl
          outcomes := by
            rw [outcome, peekBody_ready hempty hfits]
            exact hexpected
          tracks := Or.inr ⟨_, _, hsegments, hremainder, hempty, hfits, rfl⟩
          noError := by simp
          whole := fun hnone => by cases hnone
          progress := fun _ => Nat.one_pos }
    · rw [if_neg hfits] at h hexpected
      cases h
      exact
        { consumed_le := le_rfl
          outcomes := hexpected
          tracks := Or.inl rfl
          noError := by simp
          whole := fun hnone => by cases hnone
          progress := fun _ => Nat.one_pos }
  · rw [if_neg hbyte, ← (append_ne hbyte stream).2] at h
    cases h
    refine pushed_quiet ?_ (expected_append_ne hbyte stream)
    by_cases hroom : (remainder 0 stream).length < capacity
    · exact Or.inl (if_pos hroom)
    · exact Or.inr (if_neg hroom)

/-! ## Data -/

theorem pushBytesLoop_atRest {capacity : Nat} (hpos : 0 < capacity) (data : List UInt8)
    (stream : List UInt8) (last : ParserResult)
    (hlast : last = .needMoreData ∨ last = .discarding) :
    Pushed capacity stream data (pushBytesLoop last (atRest capacity stream) data).1
      (pushBytesLoop last (atRest capacity stream) data).2.1
      (pushBytesLoop last (atRest capacity stream) data).2.2 := by
  induction data generalizing stream last with
  | nil =>
      have hnone : ∀ parser, outcome last parser = [] := by
        rcases hlast with rfl | rfl <;> exact fun _ => rfl
      exact
        { consumed_le := le_rfl
          outcomes := by
            rw [pushBytesLoop, hnone, List.append_nil, List.take_nil, List.append_nil]
          tracks := Or.inl (by rw [pushBytesLoop, List.take_nil, List.append_nil])
          noError := by rcases hlast with rfl | rfl <;> simp [pushBytesLoop]
          whole := fun _ => ⟨rfl, by rw [pushBytesLoop, List.append_nil]⟩
          progress := fun hne => absurd rfl hne }
  | cons byte rest ih =>
      cases hpush : (atRest capacity stream).pushByte byte with
      | mk result next =>
        have hbyte := pushByte_atRest hpos stream byte hpush
        have hstop : outcome result next ≠ [] →
            Pushed capacity stream (byte :: rest) result next 1 := fun hsome =>
          { consumed_le := Nat.succ_le_succ (Nat.zero_le _)
            outcomes := hbyte.outcomes
            tracks := hbyte.tracks
            noError := hbyte.noError
            whole := fun hnone => absurd hnone hsome
            progress := fun _ => Nat.one_pos }
        have hgo : outcome result next = [] → (result = .needMoreData ∨ result = .discarding) →
            Pushed capacity stream (byte :: rest) (pushBytesLoop result next rest).1
              (pushBytesLoop result next rest).2.1
              ((pushBytesLoop result next rest).2.2 + 1) := by
          intro hnone hresult
          obtain ⟨-, hnext⟩ := hbyte.whole hnone
          have hsame := hbyte.outcomes
          rw [hnone, List.append_nil, List.take_of_length_le (by simp)] at hsame
          have hrest := ih (stream ++ [byte]) result hresult
          rw [← hnext] at hrest
          exact
            { consumed_le := Nat.succ_le_succ hrest.consumed_le
              outcomes := by
                have := hrest.outcomes
                rw [hsame, List.append_assoc] at this
                exact this
              tracks := by
                have := hrest.tracks
                rw [List.append_assoc] at this
                exact this
              noError := hrest.noError
              whole := by
                intro hquiet
                obtain ⟨hall, heq⟩ := hrest.whole hquiet
                rw [List.append_assoc] at heq
                exact ⟨congrArg (· + 1) hall, heq⟩
              progress := fun _ => Nat.succ_pos _ }
        rw [pushBytesLoop, hpush]
        cases result with
        | error => exact absurd rfl hbyte.noError
        | bodyReady => exact hstop (by simp [outcome])
        | discardedBody => exact hstop (by simp [outcome])
        | needMoreData => exact hgo rfl (Or.inl rfl)
        | discarding => exact hgo rfl (Or.inr rfl)

theorem pushBytes_atRest {capacity : Nat} (hpos : 0 < capacity) (stream data : List UInt8) :
    Pushed capacity stream data ((atRest capacity stream).pushBytes data).1
      ((atRest capacity stream).pushBytes data).2.1
      ((atRest capacity stream).pushBytes data).2.2 := by
  have hvalid : (atRest capacity stream).stateIsValid = true := stateIsValid_tailIntake hpos _
  unfold pushBytes
  rw [if_neg (by simp [hvalid]), if_neg (by simp [atRest_bodyReady])]
  exact pushBytesLoop_atRest hpos data stream _ (Or.inl rfl)

/-! ## Callers -/

/-- The runs of callers that push only while no body is ready: the parser, the bytes
    consumed so far and the outcomes reported so far. -/
inductive Fed (initial : Parser) : Parser → List UInt8 → List Outcome → Prop
  | start : Fed initial initial [] []
  | pushByte {parser stream outcomes} (h : Fed initial parser stream outcomes)
      (free : parser.bodyReady = 0) (byte : UInt8) :
      Fed initial (parser.pushByte byte).2 (stream ++ [byte])
        (outcomes ++ outcome (parser.pushByte byte).1 (parser.pushByte byte).2)
  | pushBytes {parser stream outcomes} (h : Fed initial parser stream outcomes)
      (free : parser.bodyReady = 0) (data : List UInt8) :
      Fed initial (parser.pushBytes data).2.1
        (stream ++ data.take (parser.pushBytes data).2.2)
        (outcomes ++ outcome (parser.pushBytes data).1 (parser.pushBytes data).2.1)
  | consumeBody {parser stream outcomes} (h : Fed initial parser stream outcomes) :
      Fed initial parser.consumeBody.2 stream outcomes

/-- The caller that offers the rest of a chunk again after every outcome, and consumes
    a body when it is ready; `fuel` bounds the pushes. -/
def offer : Nat → Parser → List UInt8 → List Outcome × Parser
  | 0, parser, _ => ([], parser)
  | fuel + 1, parser, data =>
      if data = [] then ([], parser)
      else
        let (result, pushed, consumed) := parser.pushBytes data
        let (later, last) := offer fuel pushed.consumeBody.2 (data.drop consumed)
        (outcome result pushed ++ later, last)

/-- Every push consumes a byte, so the length of a chunk is enough fuel for it. -/
def offerChunks (parser : Parser) : List (List UInt8) → List Outcome × Parser
  | [] => ([], parser)
  | chunk :: chunks =>
      let (reported, parser) := offer chunk.length parser chunk
      let (later, last) := offerChunks parser chunks
      (reported ++ later, last)

theorem consumeBody_ready {capacity : Nat} {body : List UInt8} (hne : body ≠ [])
    (hfits : body.length ≤ capacity) :
    ((Intake.ready body).toParser capacity).consumeBody =
      (.ok, (Intake.filling []).toParser capacity) := by
  unfold consumeBody
  rw [if_neg (by simp [stateIsValid_ready hne hfits]), if_neg (by simp [Intake.toParser])]
  rfl

/-- After `Consume_Body`, whatever it returns, the parser holds the tail. -/
theorem Tracks.consumeBody {capacity : Nat} {stream : List UInt8} {parser : Parser}
    (hpos : 0 < capacity) (h : Tracks capacity stream parser) :
    parser.consumeBody.2 = atRest capacity stream := by
  rcases h with rfl | ⟨front, body, -, hremainder, hne, hfits, rfl⟩
  · have hvalid : (atRest capacity stream).stateIsValid = true := stateIsValid_tailIntake hpos _
    unfold Parser.consumeBody
    rw [if_neg (by simp [hvalid]), if_pos (atRest_bodyReady capacity stream)]
  · rw [consumeBody_ready hne hfits]
    unfold atRest
    rw [hremainder]
    rfl

theorem init_atRest {scratchBuffer capacity : Nat} {parser : Parser}
    (h : Parser.init scratchBuffer capacity = (.ok, parser)) :
    0 < capacity ∧ parser = atRest capacity [] := by
  unfold Parser.init at h
  dsimp only at h
  split_ifs at h with hbad
  · cases h
  · cases h
    exact ⟨by omega, rfl⟩

theorem fed_tracks {initial parser : Parser} {capacity : Nat} {stream : List UInt8}
    {outcomes : List Outcome} (hpos : 0 < capacity) (hinitial : initial = atRest capacity [])
    (h : Fed initial parser stream outcomes) :
    outcomes = expected capacity stream ∧ Tracks capacity stream parser := by
  induction h with
  | start => exact ⟨rfl, Or.inl hinitial⟩
  | @pushByte parser stream outcomes h free byte ih =>
      obtain ⟨rfl, htracks⟩ := ih
      have hpush := pushByte_atRest hpos stream byte
        (congrArg (·.pushByte byte) (htracks.eq_atRest free).symm)
      exact ⟨hpush.outcomes.symm, hpush.tracks⟩
  | @pushBytes parser stream outcomes h free data ih =>
      obtain ⟨rfl, htracks⟩ := ih
      have hpush := pushBytes_atRest hpos stream data
      rw [← htracks.eq_atRest free] at hpush
      exact ⟨hpush.outcomes.symm, hpush.tracks⟩
  | consumeBody h ih =>
      exact ⟨ih.1, Or.inl (ih.2.consumeBody hpos)⟩

/-- One chunk is consumed whole, whatever bodies end in it. -/
theorem offer_atRest {capacity : Nat} (hpos : 0 < capacity) (fuel : Nat) (stream data : List UInt8)
    (hfuel : data.length ≤ fuel) :
    expected capacity stream ++ (offer fuel (atRest capacity stream) data).1 =
        expected capacity (stream ++ data) ∧
      (offer fuel (atRest capacity stream) data).2 = atRest capacity (stream ++ data) := by
  induction fuel generalizing stream data with
  | zero =>
      rw [List.length_eq_zero_iff.mp (Nat.le_zero.mp hfuel), offer, List.append_nil, List.append_nil]
      exact ⟨rfl, rfl⟩
  | succ fuel ih =>
      rw [offer]
      by_cases hempty : data = []
      · rw [if_pos hempty, hempty, List.append_nil, List.append_nil]
        exact ⟨rfl, rfl⟩
      rw [if_neg hempty]
      have hpush := pushBytes_atRest hpos stream data
      generalize (atRest capacity stream).pushBytes data = pushed at hpush ⊢
      obtain ⟨result, parser, consumed⟩ := pushed
      dsimp only at hpush ⊢
      have hprogress := hpush.progress hempty
      obtain ⟨houtcomes, hlast⟩ := ih (stream ++ data.take consumed) (data.drop consumed) (by
        rw [List.length_drop]
        omega)
      rw [List.append_assoc, List.take_append_drop] at houtcomes hlast
      rw [hpush.tracks.consumeBody hpos, ← List.append_assoc, ← hpush.outcomes]
      exact ⟨houtcomes, hlast⟩

theorem offerChunks_atRest {capacity : Nat} (hpos : 0 < capacity) (chunks : List (List UInt8))
    (stream : List UInt8) :
    expected capacity stream ++ (offerChunks (atRest capacity stream) chunks).1 =
        expected capacity (stream ++ chunks.flatten) ∧
      (offerChunks (atRest capacity stream) chunks).2 =
        atRest capacity (stream ++ chunks.flatten) := by
  induction chunks generalizing stream with
  | nil =>
      rw [offerChunks, List.flatten_nil, List.append_nil, List.append_nil]
      exact ⟨rfl, rfl⟩
  | cons chunk chunks ih =>
      obtain ⟨hreported, hnext⟩ := offer_atRest hpos chunk.length stream chunk le_rfl
      obtain ⟨hlater, hlast⟩ := ih (stream ++ chunk)
      rw [offerChunks, List.flatten_cons, ← List.append_assoc stream]
      dsimp only
      rw [hnext, ← List.append_assoc, hreported]
      exact ⟨hlater, hlast⟩

/-! ## The split -/

/-- What holds at every point of a run. -/
structure Splits (capacity : Nat) (stream : List UInt8) (reported : List Outcome)
    (parser : Parser) : Prop where
  /-- The outcomes so far are the segments so far. -/
  outcomes : reported = expected capacity stream
  /-- Without a ready body, the unfinished tail is buffered or being discarded. -/
  tail : parser.bodyReady = 0 → parser = atRest capacity stream
  /-- A ready body is the last outcome and stays until it is consumed. -/
  pinned : parser.bodyReady ≠ 0 → ∃ body, reported.getLast? = some (.ready body) ∧
    parser.peekBody = (.ok, body) ∧ remainder 0 stream = [] ∧
    (∀ byte, parser.pushByte byte = (.bodyReady, parser)) ∧
    (∀ data, parser.pushBytes data = (.bodyReady, parser, 0)) ∧
    parser.consumeBody = (.ok, atRest capacity stream)
  /-- A push fails nowhere, consumes a byte, and stops early only with an outcome. -/
  progress : parser.bodyReady = 0 → ∀ data result next consumed,
    parser.pushBytes data = (result, next, consumed) →
    result ≠ .error ∧ consumed ≤ data.length ∧ (data ≠ [] → 0 < consumed) ∧
      (consumed < data.length → outcome result next ≠ [])

theorem splits_of_tracks {capacity : Nat} {stream : List UInt8} {parser : Parser}
    (hpos : 0 < capacity) (h : Tracks capacity stream parser) :
    Splits capacity stream (expected capacity stream) parser where
  outcomes := rfl
  tail := h.eq_atRest
  pinned := by
    intro hready
    rcases h with rfl | ⟨front, body, hsegments, hremainder, hne, hfits, rfl⟩
    · exact absurd (atRest_bodyReady capacity stream) hready
    have hvalid := stateIsValid_ready hne hfits
    refine ⟨body, ?_, peekBody_ready hne hfits, hremainder, ?_, ?_, ?_⟩
    · unfold expected
      rw [hsegments, List.filter_append, List.map_append, List.filter_singleton]
      simp [hne, outcomeOf, hfits]
    · intro byte
      unfold Parser.pushByte
      rw [if_neg (by simp [hvalid]), if_pos (by simp [Intake.toParser])]
    · intro data
      unfold Parser.pushBytes
      rw [if_neg (by simp [hvalid]), if_pos (by simp [Intake.toParser])]
    · rw [consumeBody_ready hne hfits]
      unfold atRest
      rw [hremainder]
      rfl
  progress := by
    intro hfree data result next consumed heq
    have hpush := pushBytes_atRest hpos stream data
    rw [← h.eq_atRest hfree, heq] at hpush
    refine ⟨hpush.noError, hpush.consumed_le, hpush.progress, fun hearly hnone => ?_⟩
    exact absurd (hpush.whole hnone).1 (Nat.ne_of_lt hearly)

/-- The parser is a split on zero: at every point of every caller's run, and for every
    chunking of every stream. -/
theorem parser_splits_on_zero {scratchBuffer capacity : Nat} {initial : Parser}
    (hinit : Parser.init scratchBuffer capacity = (.ok, initial)) :
    (∀ parser stream outcomes, Fed initial parser stream outcomes →
      Splits capacity stream outcomes parser) ∧
    ∀ chunks, offerChunks initial chunks =
      (expected capacity chunks.flatten, atRest capacity chunks.flatten) := by
  obtain ⟨hpos, hinitial⟩ := init_atRest hinit
  constructor
  · intro parser stream outcomes hfed
    obtain ⟨rfl, htracks⟩ := fed_tracks hpos hinitial hfed
    exact splits_of_tracks hpos htracks
  · intro chunks
    obtain ⟨houtcomes, hlast⟩ := offerChunks_atRest hpos chunks []
    rw [← hinitial] at houtcomes hlast
    exact Prod.ext houtcomes hlast

/-- Two bytes of capacity: the longer segment is discarded and the next one is intact. -/
theorem parser_splits_on_zero_two :
    (∀ parser stream outcomes,
      Fed { scratchBufferSize := 2, accumulated := [], bodyReady := 0, discarding := 0 }
        parser stream outcomes → Splits 2 stream outcomes parser) ∧
    ∀ chunks, offerChunks
        { scratchBufferSize := 2, accumulated := [], bodyReady := 0, discarding := 0 } chunks =
      (expected 2 chunks.flatten, atRest 2 chunks.flatten) :=
  @parser_splits_on_zero 0x10000 2 _ rfl

example : expected 2 [7, 8, 9, 0, 0, 1, 2, 0, 3] = [.discarded, .ready [1, 2]] := by decide

end HilRigProtocol.Transport.Parser
