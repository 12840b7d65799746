/-
  Received bytes on the root of an endpoint.

  The code hands its parser as many bytes as the parser takes; the endpoint takes
  one byte at a time. Both stop where a body is complete, so they agree byte by
  byte.
-/
import HilRigProtocol.Transport.Refinement.Dispatch

namespace HilRigProtocol.Transport

section
variable [Target] {s : Setup}

/-! ## Recovery and diagnostics -/

theorem parser_toRoot (e : Endpoint) :
    (e.toRoot s).parser = e.intake.toParser (s.config.maxEncodedFrameSize - 1) := rfl

theorem advance_ready {e : Endpoint} (ha : e.activity = .recovering none)
    (hd : e.diagnosticPending = false) (hi : e.intake = .filling []) :
    e.advance s = e.beginEstablishment s := by
  unfold Endpoint.advance
  rw [if_pos ⟨ha, hd, hi⟩]

theorem advance_waiting {e : Endpoint}
    (h : ¬ (e.activity = .recovering none ∧ e.diagnosticPending = false ∧
      e.intake = .filling [])) :
    e.advance s = e := by
  unfold Endpoint.advance
  rw [if_neg h]

/-- The recovery boundary of the code is the endpoint's. -/
theorem tryAdvanceRecovery_refines {e : Endpoint} (h : e.Wf s) :
    Receive.tryAdvanceRecovery (e.toRoot s) = (.ok, (e.advance s).toRoot s) := by
  unfold Receive.tryAdvanceRecovery
  by_cases hready : e.activity = .recovering none ∧ e.diagnosticPending = false ∧
      e.intake = .filling []
  · obtain ⟨ha, hd, hi⟩ := hready
    rw [advance_ready ha hd hi, if_neg, if_neg]
    · exact beginEstablishment_refines h ha hi hd
    · simp [Endpoint.toRoot, ha, hd, hi, Activity.recoveryReset, Activity.controlItem,
        Setup.item, Intake.toParser, Intake.accumulated]
    · simp [Endpoint.toRoot, Endpoint.toSession, ha, Activity.sessionState]
  · rw [advance_waiting hready]
    by_cases hrecovering : ∃ reset, e.activity = .recovering reset
    · obtain ⟨reset, ha⟩ := hrecovering
      rw [if_neg (by simp [Endpoint.toRoot, Endpoint.toSession, ha, Activity.sessionState]), if_pos]
      cases reset with
      | some r => simp [Endpoint.toRoot, ha, Activity.recoveryReset]
      | none =>
          cases hd : e.diagnosticPending with
          | true => simp [Endpoint.toRoot, hd]
          | false =>
              cases hi : e.intake with
              | filling bytes =>
                  have hne : bytes ≠ [] := fun hnil => hready ⟨ha, hd, by rw [hi, hnil]⟩
                  simp [Endpoint.toRoot, hi, Intake.toParser, Intake.accumulated, hne]
              | ready body => simp [Endpoint.toRoot, hi, Intake.toParser]
              | discarding => simp [Endpoint.toRoot, hi, Intake.toParser]
    · rw [if_pos]
      cases ha : e.activity with
      | recovering reset => exact absurd ⟨reset, ha⟩ hrecovering
      | _ => simp [Endpoint.toRoot, Endpoint.toSession, ha, Activity.sessionState]

/-- A dropped input is diagnosed now, or its diagnostic is kept. -/
theorem processPendingError_pending {e : Endpoint} (h : e.events.Wf) :
    Receive.processPendingError { e.toRoot s with receiveProtocolErrorPending := 1 } =
      rooted s e.diagnose := by
  have hroot : ({ e.toRoot s with receiveProtocolErrorPending := 1 } : Root) =
      ({ e with diagnosticPending := true } : Endpoint).toRoot s := rfl
  have hevents : ({ e with diagnosticPending := true } : Endpoint).events.Wf := h
  unfold Receive.processPendingError
  rw [if_neg (by simp), hroot, publishProtocolError_toRoot hevents]
  unfold Endpoint.diagnose Endpoint.publish rooted
  cases e.events.full with
  | true => rfl
  | false => rfl

theorem processPendingError_refines {e : Endpoint} (h : e.Wf s) :
    Receive.processPendingError (e.toRoot s) = rooted s e.settleDiagnostic := by
  unfold Endpoint.settleDiagnostic
  cases hd : e.diagnosticPending with
  | true =>
      have hroot : e.toRoot s = { e.toRoot s with receiveProtocolErrorPending := 1 } := by
        simp [Endpoint.toRoot, hd]
      rw [if_pos rfl, hroot]
      exact processPendingError_pending h.events
  | false =>
      rw [if_neg (by simp)]
      unfold Receive.processPendingError
      rw [if_pos (by simp [Endpoint.toRoot, hd])]
      rfl

/-! ## The parser, byte by byte -/

omit [Target] in
theorem pushByte_filling {capacity : Nat} {bytes : List UInt8} (byte : UInt8)
    (hvalid : ((Intake.filling bytes).toParser capacity).stateIsValid = true) :
    ((Intake.filling bytes).toParser capacity).pushByte byte =
      if byte = 0 then
        if bytes = [] then (.needMoreData, (Intake.filling bytes).toParser capacity)
        else (.bodyReady, (Intake.ready bytes).toParser capacity)
      else if bytes.length = capacity then (.discarding, Intake.discarding.toParser capacity)
      else (.needMoreData, (Intake.filling (bytes ++ [byte])).toParser capacity) := by
  unfold Parser.pushByte
  rw [if_neg (by simp [hvalid]), if_neg (by simp [Intake.toParser]),
    if_neg (by simp [Intake.toParser])]
  by_cases hzero : byte = 0
  · cases bytes <;> simp [Intake.toParser, Intake.accumulated, hzero]
  · by_cases hfull : bytes.length = capacity <;>
      simp [Intake.toParser, Intake.accumulated, hzero, hfull]

omit [Target] in
theorem pushByte_discarding {capacity : Nat} (byte : UInt8)
    (hvalid : (Intake.discarding.toParser capacity).stateIsValid = true) :
    (Intake.discarding.toParser capacity).pushByte byte =
      if byte = 0 then (.discardedBody, (Intake.filling []).toParser capacity)
      else (.discarding, Intake.discarding.toParser capacity) := by
  unfold Parser.pushByte
  rw [if_neg (by simp [hvalid]), if_neg (by simp [Intake.toParser]),
    if_pos (by simp [Intake.toParser])]
  simp only [Intake.toParser, Intake.accumulated]

omit [Target] in
theorem pushBytes_extend {parser next : Parser} {byte : UInt8} {result : ParserResult}
    (hvalid : parser.stateIsValid = true) (hfree : parser.bodyReady = 0)
    (hnext : next.stateIsValid = true) (hnextFree : next.bodyReady = 0)
    (hresult : result = .needMoreData ∨ result = .discarding)
    (hpush : parser.pushByte byte = (result, next)) (head : UInt8) (rest : List UInt8) :
    parser.pushBytes (byte :: head :: rest) =
      ((next.pushBytes (head :: rest)).1, (next.pushBytes (head :: rest)).2.1,
        (next.pushBytes (head :: rest)).2.2 + 1) := by
  unfold Parser.pushBytes
  rw [if_neg (by simp [hvalid]), if_neg (by simp [hfree]), if_neg (by simp [hnext]),
    if_neg (by simp [hnextFree]), Parser.pushBytesLoop, hpush]
  rcases hresult with rfl | rfl <;> rfl

omit [Target] in
theorem pushBytes_last {parser next : Parser} {byte : UInt8} {result : ParserResult}
    (hvalid : parser.stateIsValid = true) (hfree : parser.bodyReady = 0)
    (hpush : parser.pushByte byte = (result, next)) (herror : result ≠ .error) :
    parser.pushBytes [byte] = (result, next, 1) := by
  unfold Parser.pushBytes
  rw [if_neg (by simp [hvalid]), if_neg (by simp [hfree]), Parser.pushBytesLoop, hpush]
  cases result with
  | error => exact absurd rfl herror
  | _ => rfl

omit [Target] in
/-- A complete body or a discarded one ends the push. -/
theorem pushBytes_ends {parser next : Parser} {byte : UInt8} {result : ParserResult}
    (hvalid : parser.stateIsValid = true) (hfree : parser.bodyReady = 0)
    (hresult : result = .bodyReady ∨ result = .discardedBody)
    (hpush : parser.pushByte byte = (result, next)) (rest : List UInt8) :
    parser.pushBytes (byte :: rest) = (result, next, 1) := by
  unfold Parser.pushBytes
  rw [if_neg (by simp [hvalid]), if_neg (by simp [hfree]), Parser.pushBytesLoop, hpush]
  rcases hresult with rfl | rfl <;> rfl

/-- A byte that completes nothing may be pushed alone. -/
theorem receiveLoop_extend {root : Root} {next : Parser} {byte : UInt8} {result : ParserResult}
    (hvalid : root.parser.stateIsValid = true) (hfree : root.parser.bodyReady = 0)
    (hnext : next.stateIsValid = true) (hnextFree : next.bodyReady = 0)
    (hresult : result = .needMoreData ∨ result = .discarding)
    (hpush : root.parser.pushByte byte = (result, next)) (fuel : Nat) (rest : List UInt8) :
    Receive.receiveLoop (fuel + 1) root (byte :: rest) =
      ((Receive.receiveLoop (fuel + 1) { root with parser := next } rest).1,
        (Receive.receiveLoop (fuel + 1) { root with parser := next } rest).2.1 + 1,
        (Receive.receiveLoop (fuel + 1) { root with parser := next } rest).2.2) := by
  cases rest with
  | nil =>
      have hlast := pushBytes_last hvalid hfree hpush (by rcases hresult with rfl | rfl <;> simp)
      rw [Receive.receiveLoop, Receive.receiveLoop, hlast]
      rcases hresult with rfl | rfl <;> rfl
  | cons head rest =>
      have hextend := pushBytes_extend hvalid hfree hnext hnextFree hresult hpush head rest
      rw [Receive.receiveLoop, Receive.receiveLoop, hextend]
      dsimp only
      generalize next.pushBytes (head :: rest) = pushed
      obtain ⟨last, parser, accepted⟩ := pushed
      have hcount : accepted + 1 ≠ (byte :: head :: rest).length ↔
          accepted ≠ (head :: rest).length := by simp
      have hdrop : (byte :: head :: rest).drop (accepted + 1) = (head :: rest).drop accepted := rfl
      cases last with
      | needMoreData =>
          dsimp only
          by_cases hshort : accepted ≠ (head :: rest).length
          · rw [if_pos hshort, if_pos (hcount.mpr hshort)]
          · rw [if_neg hshort, if_neg (fun hlong => hshort (hcount.mp hlong))]
      | discarding =>
          dsimp only
          by_cases hshort : accepted ≠ (head :: rest).length
          · rw [if_pos hshort, if_pos (hcount.mpr hshort)]
          · rw [if_neg hshort, if_neg (fun hlong => hshort (hcount.mp hlong))]
      | bodyReady =>
          dsimp only
          rw [hdrop]
          split_ifs
          · rfl
          · rfl
          · rw [Nat.add_right_comm]
      | discardedBody =>
          dsimp only
          rw [hdrop]
          split_ifs
          · rfl
          · rfl
          · rw [Nat.add_right_comm]
      | error => rfl

/-- The rest of a pass after a body was resolved or an input diagnosed. -/
def continueLoop (fuel : Nat) (rest : List UInt8) (result : Status × Root) :
    Status × Nat × Root :=
  if result.1 ≠ .ok then (result.1, 1, result.2)
  else
    let advanced := Receive.tryAdvanceRecovery result.2
    if advanced.1 ≠ .ok then (advanced.1, 1, advanced.2)
    else
      let last := Receive.receiveLoop fuel advanced.2 rest
      (last.1, 1 + last.2.1, last.2.2)

theorem receiveLoop_bodyReady {root : Root} {next : Parser} {byte : UInt8}
    (hvalid : root.parser.stateIsValid = true) (hfree : root.parser.bodyReady = 0)
    (hpush : root.parser.pushByte byte = (.bodyReady, next)) (fuel : Nat) (rest : List UInt8) :
    Receive.receiveLoop (fuel + 1) root (byte :: rest) =
      continueLoop fuel rest (Receive.processRetainedBody { root with parser := next }) := by
  rw [Receive.receiveLoop, pushBytes_ends hvalid hfree (Or.inl rfl) hpush]
  rfl

theorem receiveLoop_discardedBody {root : Root} {next : Parser} {byte : UInt8}
    (hvalid : root.parser.stateIsValid = true) (hfree : root.parser.bodyReady = 0)
    (hpush : root.parser.pushByte byte = (.discardedBody, next)) (fuel : Nat) (rest : List UInt8) :
    Receive.receiveLoop (fuel + 1) root (byte :: rest) =
      continueLoop fuel rest (Receive.processPendingError
        { root with parser := next, receiveProtocolErrorPending := 1 }) := by
  rw [Receive.receiveLoop, pushBytes_ends hvalid hfree (Or.inr rfl) hpush]
  rfl

/-- A result of the byte loop on the endpoint, with its root. -/
def rootedBytes (s : Setup) (result : Status × Nat × Endpoint) : Status × Nat × Root :=
  (result.1, result.2.1, result.2.2.toRoot s)

theorem continueLoop_rooted {result : Status × Endpoint} (h : result.2.Wf s) {fuel : Nat}
    {rest : List UInt8}
    (ih : result.1 = .ok → Receive.receiveLoop fuel ((result.2.advance s).toRoot s) rest =
      rootedBytes s ((result.2.advance s).feed s rest)) :
    continueLoop fuel rest (rooted s result) =
      rootedBytes s
        (if (Endpoint.advanceIfOk s result).1 ≠ .ok then
          ((Endpoint.advanceIfOk s result).1, 1, (Endpoint.advanceIfOk s result).2)
        else
          (((Endpoint.advanceIfOk s result).2.feed s rest).1,
            ((Endpoint.advanceIfOk s result).2.feed s rest).2.1 + 1,
            ((Endpoint.advanceIfOk s result).2.feed s rest).2.2)) := by
  unfold continueLoop Endpoint.advanceIfOk rooted
  dsimp only
  by_cases hok : result.1 = .ok
  · rw [if_neg (by simp [hok]), if_pos hok, tryAdvanceRecovery_refines h]
    dsimp only
    rw [if_neg (by simp), if_neg (by simp), ih hok]
    unfold rootedBytes
    rw [Nat.add_comm 1]
  · rw [if_pos hok, if_neg hok, if_pos hok]
    rfl

/-! ## The byte loop -/

/-- The loop of the code is `feed`. -/
theorem receiveLoop_refines (data : List UInt8) {e : Endpoint} (h : Endpoint.WfConnected s e)
    (hs : Endpoint.Settled e) (fuel : Nat) (hfuel : data.length ≤ fuel) :
    Receive.receiveLoop fuel (e.toRoot s) data = rootedBytes s (e.feed s data) := by
  induction data generalizing e fuel with
  | nil =>
      cases fuel <;> rfl
  | cons byte rest ih =>
      obtain ⟨fuel, rfl⟩ : ∃ k, fuel = k + 1 := ⟨fuel - 1, by simp at hfuel; omega⟩
      have hrest : rest.length ≤ fuel := by simpa using hfuel
      have hvalid := parser_stateIsValid_toRoot h.wf
      have hfree : (e.toRoot s).parser.bodyReady = 0 := by
        have := hs.intake
        cases hi : e.intake <;> rw [hi] at this <;> simp [Endpoint.toRoot, hi, Intake.toParser]
        cases this
      have hnext := Endpoint.wf_feedByte h hs.diagnostic byte
      -- A byte that only changes what the parser holds.
      have hextend : ∀ (intake : Intake) (result : ParserResult),
          (e.toRoot s).parser.pushByte byte =
              (result, intake.toParser (s.config.maxEncodedFrameSize - 1)) →
            (result = .needMoreData ∨ result = .discarding) →
            e.feedByte s byte = (.ok, { e with intake := intake }) → intake.isReady = false →
            Receive.receiveLoop (fuel + 1) (e.toRoot s) (byte :: rest) =
              rootedBytes s (e.feed s (byte :: rest)) := by
        intro intake result hpush hresult hfeed hready
        rw [hfeed] at hnext
        have hextended := receiveLoop_extend hvalid hfree
          (parser_stateIsValid_toRoot hnext.wf)
          (by cases intake <;> simp [Endpoint.toRoot, Intake.toParser, Intake.isReady] at hready ⊢)
          hresult hpush fuel rest
        rw [hextended, Endpoint.feed, hfeed]
        have hloop := ih hnext ⟨hs.diagnostic, hready⟩ (fuel + 1) (by omega)
        have hroot : ({ e.toRoot s with
            parser := ({ e with intake := intake } : Endpoint).toRoot s |>.parser } : Root) =
              ({ e with intake := intake } : Endpoint).toRoot s := rfl
        rw [hroot, hloop]
        dsimp only
        rw [if_neg (by simp)]
        rfl
      -- A byte that ends a body, complete or discarded.
      have hends : ∀ result : Status × Endpoint, Endpoint.WfConnected s result.2 →
          Receive.receiveLoop (fuel + 1) (e.toRoot s) (byte :: rest) =
              continueLoop fuel rest (rooted s result) →
            e.feedByte s byte = Endpoint.advanceIfOk s result →
            Receive.receiveLoop (fuel + 1) (e.toRoot s) (byte :: rest) =
              rootedBytes s (e.feed s (byte :: rest)) := by
        intro result hresult hloop hfeed
        rw [hloop, Endpoint.feed, hfeed]
        apply continueLoop_rooted hresult.wf
        intro hok
        have hadvance : Endpoint.advanceIfOk s result = (.ok, result.2.advance s) := by
          unfold Endpoint.advanceIfOk
          rw [if_pos hok]
        have hsettled := @Endpoint.settled_feedByte _ s e hs byte
        rw [hfeed, hadvance] at hsettled hnext
        exact ih hnext (hsettled rfl) fuel hrest
      cases hi : e.intake with
      | ready body =>
          have := hs.intake
          rw [hi] at this
          cases this
      | discarding =>
          have hparser : (e.toRoot s).parser =
              Intake.discarding.toParser (s.config.maxEncodedFrameSize - 1) := by
            rw [parser_toRoot, hi]
          have hpush := pushByte_discarding byte (hparser ▸ hvalid)
          rw [← hparser] at hpush
          by_cases hzero : byte = 0
          · rw [if_pos hzero] at hpush
            refine hends e.release.diagnose
              (Endpoint.wf_diagnose ⟨Endpoint.wf_release h.wf, h.linkState⟩ rfl) ?_ ?_
            · rw [receiveLoop_discardedBody hvalid hfree hpush, ← processPendingError_pending
                (Endpoint.wf_release h.wf).events]
              rfl
            · unfold Endpoint.feedByte
              rw [hi]
              exact if_pos hzero
          · rw [if_neg hzero] at hpush
            refine hextend .discarding _ (hpush.trans (by rw [hparser])) (Or.inr rfl) ?_ rfl
            unfold Endpoint.feedByte
            rw [hi]
            dsimp only
            rw [if_neg hzero, ← hi]
      | filling bytes =>
          have hle : bytes.length ≤ s.config.maxEncodedFrameSize - 1 := by
            have := h.wf.intake
            rwa [hi] at this
          have hparser : (e.toRoot s).parser =
              (Intake.filling bytes).toParser (s.config.maxEncodedFrameSize - 1) := by
            rw [parser_toRoot, hi]
          have hpush := pushByte_filling byte (hparser ▸ hvalid)
          rw [← hparser] at hpush
          have hfeed : e.feedByte s byte =
              if byte = 0 then
                if bytes = [] then (.ok, e)
                else Endpoint.advanceIfOk s
                  (({ e with intake := .ready bytes } : Endpoint).processBody s bytes)
              else if bytes.length = s.config.maxEncodedFrameSize - 1 then
                (.ok, { e with intake := .discarding })
              else (.ok, { e with intake := .filling (bytes ++ [byte]) }) := by
            unfold Endpoint.feedByte
            rw [hi]
          by_cases hzero : byte = 0
          · rw [if_pos hzero] at hpush hfeed
            by_cases hempty : bytes = []
            · rw [if_pos hempty] at hpush hfeed
              refine hextend (.filling bytes) _ (hpush.trans (by rw [hparser])) (Or.inl rfl) ?_ rfl
              rw [hfeed, ← hi]
            · rw [if_neg hempty] at hpush hfeed
              have hready := Endpoint.wf_ready h hempty hle hs.diagnostic
              refine hends _ (Endpoint.wf_processBody_connected hready bytes) ?_ hfeed
              rw [receiveLoop_bodyReady hvalid hfree hpush, ← processRetainedBody_refines hready.wf
                hready.linkState rfl hs.diagnostic]
              rfl
          · rw [if_neg hzero] at hpush hfeed
            by_cases hfull : bytes.length = s.config.maxEncodedFrameSize - 1
            · rw [if_pos hfull] at hpush hfeed
              exact hextend .discarding _ hpush (Or.inr rfl) hfeed rfl
            · rw [if_neg hfull] at hpush hfeed
              exact hextend (.filling (bytes ++ [byte])) _ hpush (Or.inl rfl) hfeed rfl

/-! ## The call -/

theorem settleBody_refines {e : Endpoint} (h : Endpoint.WfConnected s e)
    (hd : e.diagnosticPending = false) :
    (if (e.toRoot s).parser.bodyReady ≠ 0 then Receive.processRetainedBody (e.toRoot s)
      else (.ok, e.toRoot s)) = rooted s (e.settleBody s) := by
  unfold Endpoint.settleBody
  cases hi : e.intake with
  | ready body =>
      rw [if_pos (by simp [Endpoint.toRoot, hi, Intake.toParser])]
      exact processRetainedBody_refines h.wf h.linkState hi hd
  | filling bytes =>
      rw [if_neg (by simp [Endpoint.toRoot, hi, Intake.toParser])]
      rfl
  | discarding =>
      rw [if_neg (by simp [Endpoint.toRoot, hi, Intake.toParser])]
      rfl

/-- `Receive_Bytes`, with any bound on the passes of its loop that the bytes allow. -/
theorem receiveBytesWithin_refines {e : Endpoint} (h : e.Wf s) (data : List UInt8) {fuel : Nat}
    (hfuel : data.length ≤ fuel) :
    Receive.receiveBytesWithin fuel (e.toRoot s) data = rootedBytes s (e.receiveBytes s data) := by
  unfold Receive.receiveBytesWithin Endpoint.receiveBytes
  rw [receive_validateRoot h]
  with_reducible conv_lhs => whnf
  rw [if_neg (by simp)]
  by_cases hlink : e.activity.linkState = .disconnected
  · rw [if_pos (by exact hlink), if_pos hlink]
    rfl
  rw [if_neg (by exact hlink), if_neg hlink, processPendingError_refines h]
  have hconnected : Endpoint.WfConnected s e := ⟨h, Endpoint.linkState_connected hlink⟩
  have hdiagnosed := Endpoint.wf_settleDiagnostic hconnected
  have hpending := @Endpoint.diagnostic_settleDiagnostic e
  have hsettled := @Endpoint.settled_settle _ s e
  have hwf := Endpoint.wf_settle hconnected
  unfold Endpoint.settle at hsettled hwf ⊢
  unfold rooted
  generalize e.settleDiagnostic = diagnosed at hdiagnosed hpending hsettled hwf
  obtain ⟨status, e⟩ := diagnosed
  dsimp only at hdiagnosed hpending hsettled hwf
  dsimp only
  by_cases hok : status = .ok
  · rw [if_neg (not_not.mpr hok)] at hsettled hwf
    rw [if_neg (not_not.mpr hok), if_neg (not_not.mpr hok), settleBody_refines hdiagnosed
      (hpending hok)]
    have hbody := Endpoint.wf_settleBody hdiagnosed
    unfold Endpoint.advanceIfOk at hsettled hwf ⊢
    unfold rooted
    generalize e.settleBody s = resolved at hbody hsettled hwf
    obtain ⟨status, e⟩ := resolved
    dsimp only at hbody hsettled hwf
    dsimp only
    by_cases hok : status = .ok
    · rw [if_pos hok] at hsettled hwf
      rw [if_neg (not_not.mpr hok), if_pos hok, tryAdvanceRecovery_refines hbody.wf]
      exact receiveLoop_refines data hwf (hsettled rfl) fuel hfuel
    · rw [if_pos hok, if_neg hok, if_pos hok]
      rfl
  · rw [if_pos hok, if_pos hok, if_pos hok]
    rfl

/-- `Receive_Bytes` -/
theorem receiveBytes_refines {e : Endpoint} (h : e.Wf s) (data : List UInt8) :
    Receive.receiveBytes (e.toRoot s) data = rootedBytes s (e.receiveBytes s data) :=
  receiveBytesWithin_refines h data (Nat.le_refl _)

end

end HilRigProtocol.Transport
