/-
  Chunking: how a byte stream is split into `Receive_Bytes` calls does not matter.

  After a call that succeeds, the endpoint owes no work to the next one (`Quiet`), so
  a call on `a ++ b` is the call on `a` followed by the call on `b`; a call that fails
  stops at a byte of its own prefix.
-/
import HilRigProtocol.Transport.EndpointStatus
import HilRigProtocol.Transport.Refinement.Steps

namespace HilRigProtocol.Transport

namespace Endpoint

section
variable [Target] {s : Setup}

/-! ## The byte loop -/

theorem feed_cons_ok {e : Endpoint} {byte : UInt8} (h : (e.feedByte s byte).1 = .ok)
    (rest : List UInt8) :
    e.feed s (byte :: rest) =
      (((e.feedByte s byte).2.feed s rest).1, ((e.feedByte s byte).2.feed s rest).2.1 + 1,
        ((e.feedByte s byte).2.feed s rest).2.2) := by
  rw [feed]
  dsimp only
  rw [if_neg (not_not.mpr h)]

theorem feed_cons_fail {e : Endpoint} {byte : UInt8} (h : (e.feedByte s byte).1 ≠ .ok)
    (rest : List UInt8) :
    e.feed s (byte :: rest) = ((e.feedByte s byte).1, 1, (e.feedByte s byte).2) := by
  rw [feed]
  dsimp only
  rw [if_pos h]

theorem feed_append_ok (a b : List UInt8) {e : Endpoint} (h : (e.feed s a).1 = .ok) :
    e.feed s (a ++ b) =
      (((e.feed s a).2.2.feed s b).1, (e.feed s a).2.1 + ((e.feed s a).2.2.feed s b).2.1,
        ((e.feed s a).2.2.feed s b).2.2) := by
  induction a generalizing e with
  | nil =>
      rw [List.nil_append, feed]
      dsimp only
      rw [Nat.zero_add]
  | cons byte rest ih =>
      rw [List.cons_append]
      by_cases hbyte : (e.feedByte s byte).1 = .ok
      · rw [feed_cons_ok hbyte] at h ⊢
        rw [feed_cons_ok hbyte, ih h]
        dsimp only
        rw [Nat.add_right_comm]
      · rw [feed_cons_fail hbyte] at h
        exact absurd h hbyte

theorem feed_append_fail (a b : List UInt8) {e : Endpoint} (h : (e.feed s a).1 ≠ .ok) :
    e.feed s (a ++ b) = e.feed s a := by
  induction a generalizing e with
  | nil => exact absurd rfl h
  | cons byte rest ih =>
      rw [List.cons_append]
      by_cases hbyte : (e.feedByte s byte).1 = .ok
      · rw [feed_cons_ok hbyte] at h ⊢
        rw [feed_cons_ok hbyte, ih h]
      · rw [feed_cons_fail hbyte, feed_cons_fail hbyte]

theorem consumed_feed_le (data : List UInt8) (e : Endpoint) :
    (e.feed s data).2.1 ≤ data.length := by
  induction data generalizing e with
  | nil => exact Nat.le_refl _
  | cons byte rest ih =>
      rw [feed]
      dsimp only
      split_ifs
      · exact Nat.succ_le_succ (Nat.zero_le _)
      · exact Nat.succ_le_succ (ih _)

theorem consumed_feed_ok (data : List UInt8) (e : Endpoint) (hok : (e.feed s data).1 = .ok) :
    (e.feed s data).2.1 = data.length := by
  induction data generalizing e with
  | nil => rfl
  | cons byte rest ih =>
      rw [feed] at hok ⊢
      dsimp only at hok ⊢
      by_cases hbyte : (e.feedByte s byte).1 ≠ .ok
      · rw [if_pos hbyte] at hok
        exact absurd hok hbyte
      · rw [if_neg hbyte] at hok ⊢
        exact congrArg Nat.succ (ih _ hok)

/-! ## Endpoints that owe no work -/

/-- Nothing is left to do on entry to a call. -/
structure Quiet (s : Setup) (e : Endpoint) : Prop where
  settled : Settled e
  advanced : e.advance s = e

theorem advance_advance (e : Endpoint) : (e.advance s).advance s = e.advance s := by
  by_cases hready : e.activity = .recovering none ∧ e.diagnosticPending = false ∧
      e.intake = .filling []
  · have hadvance : e.advance s = e.beginEstablishment s := by
      unfold advance
      rw [if_pos hready]
    rw [hadvance]
    apply advance_waiting
    rintro ⟨ha, -, -⟩
    unfold beginEstablishment at ha
    split_ifs at ha
  · rw [advance_waiting hready, advance_waiting hready]

theorem quiet_advanceIfOk {result : Status × Endpoint}
    (hok : (advanceIfOk s result).1 = .ok) (hsettled : Settled (advanceIfOk s result).2) :
    Quiet s (advanceIfOk s result).2 := by
  refine ⟨hsettled, ?_⟩
  unfold advanceIfOk at hok ⊢
  split_ifs at hok ⊢ with hresult
  · exact advance_advance _
  · exact absurd hok hresult

theorem quiet_settle {e : Endpoint} (hok : (e.settle s).1 = .ok) : Quiet s (e.settle s).2 := by
  have hsettled := settled_settle hok
  unfold settle at hok hsettled ⊢
  dsimp only at hok hsettled ⊢
  by_cases hd : e.settleDiagnostic.1 ≠ .ok
  · rw [if_pos hd] at hok
    exact absurd hok hd
  · rw [if_neg hd] at hok hsettled ⊢
    exact quiet_advanceIfOk hok hsettled

/-- A byte of an unfinished body keeps the recovery boundary closed. -/
theorem quiet_feedByte {e : Endpoint} (h : Quiet s e) {byte : UInt8}
    (hok : (e.feedByte s byte).1 = .ok) : Quiet s (e.feedByte s byte).2 := by
  have hsettled := settled_feedByte h.settled hok
  unfold feedByte at hok hsettled ⊢
  cases hi : e.intake with
  | filling bytes =>
      rw [hi] at hok hsettled
      dsimp only at hok hsettled ⊢
      split_ifs at hok hsettled ⊢ with hzero hempty hfull
      · exact h
      · exact quiet_advanceIfOk hok hsettled
      · exact ⟨hsettled, advance_waiting (by simp)⟩
      · exact ⟨hsettled, advance_waiting (by simp)⟩
  | discarding =>
      rw [hi] at hok hsettled
      dsimp only at hok hsettled ⊢
      split_ifs at hok hsettled ⊢ with hzero
      · exact quiet_advanceIfOk hok hsettled
      · exact h
  | ready body => exact h

theorem quiet_feed (data : List UInt8) {e : Endpoint} (h : Quiet s e)
    (hok : (e.feed s data).1 = .ok) : Quiet s (e.feed s data).2.2 := by
  induction data generalizing e with
  | nil => exact h
  | cons byte rest ih =>
      rw [feed] at hok ⊢
      dsimp only at hok ⊢
      by_cases hbyte : (e.feedByte s byte).1 ≠ .ok
      · rw [if_pos hbyte] at hok
        exact absurd hok hbyte
      · rw [if_neg hbyte] at hok ⊢
        exact ih (quiet_feedByte h (not_not.mp hbyte)) hok

theorem settle_quiet {e : Endpoint} (h : Quiet s e) : e.settle s = (.ok, e) := by
  have hbody : e.settleBody s = (.ok, e) := by
    have hready := h.settled.intake
    unfold settleBody
    cases hi : e.intake with
    | ready body =>
        rw [hi] at hready
        cases hready
    | _ => rfl
  unfold settle settleDiagnostic
  rw [h.settled.diagnostic]
  dsimp only
  rw [if_neg (by simp), if_neg (by simp), hbody]
  unfold advanceIfOk
  rw [if_pos rfl, h.advanced]

/-! ## The call -/

theorem receiveBytes_disconnected {e : Endpoint} (h : e.activity.linkState = .disconnected)
    (data : List UInt8) : e.receiveBytes s data = (.notReady, 0, e) := by
  unfold receiveBytes
  rw [if_pos h]

theorem receiveBytes_settled {e : Endpoint} (hlink : ¬ e.activity.linkState = .disconnected)
    (hok : (e.settle s).1 = .ok) (data : List UInt8) :
    e.receiveBytes s data = (e.settle s).2.feed s data := by
  unfold receiveBytes
  rw [if_neg hlink]
  dsimp only
  rw [if_neg (not_not.mpr hok)]

theorem receiveBytes_unsettled {e : Endpoint} (hlink : ¬ e.activity.linkState = .disconnected)
    (hfail : (e.settle s).1 ≠ .ok) (data : List UInt8) :
    e.receiveBytes s data = ((e.settle s).1, 0, (e.settle s).2) := by
  unfold receiveBytes
  rw [if_neg hlink]
  dsimp only
  rw [if_pos hfail]

theorem receiveBytes_quiet {e : Endpoint} (h : Quiet s e)
    (hlink : e.activity.linkState = .connected) (data : List UInt8) :
    e.receiveBytes s data = e.feed s data := by
  have hsettle := settle_quiet h
  rw [receiveBytes_settled (by rw [hlink]; simp) (by rw [hsettle]), hsettle]

theorem consumed_receiveBytes_le (e : Endpoint) (data : List UInt8) :
    (e.receiveBytes s data).2.1 ≤ data.length := by
  unfold receiveBytes
  dsimp only
  split_ifs
  · exact Nat.zero_le _
  · exact Nat.zero_le _
  · exact consumed_feed_le _ _

/-- A call that succeeds leaves the next one nothing but its bytes. -/
theorem receiveBytes_append_ok {e : Endpoint} (h : e.Wf s) (a b : List UInt8)
    (hok : (e.receiveBytes s a).1 = .ok) :
    (e.receiveBytes s a).2.1 = a.length ∧
      e.receiveBytes s (a ++ b) =
        (((e.receiveBytes s a).2.2.receiveBytes s b).1,
          a.length + ((e.receiveBytes s a).2.2.receiveBytes s b).2.1,
          ((e.receiveBytes s a).2.2.receiveBytes s b).2.2) := by
  by_cases hlink : e.activity.linkState = .disconnected
  · rw [receiveBytes_disconnected hlink] at hok
    cases hok
  by_cases hsettle : (e.settle s).1 = .ok
  · rw [receiveBytes_settled hlink hsettle] at hok ⊢
    have hcount := consumed_feed_ok a _ hok
    have hwf := wf_settle ⟨h, linkState_connected hlink⟩
    have hlast := wf_feed a hwf (settled_settle hsettle)
    have hquiet := quiet_feed a (quiet_settle hsettle) hok
    refine ⟨hcount, ?_⟩
    rw [receiveBytes_settled hlink hsettle, feed_append_ok a b hok, hcount,
      receiveBytes_quiet hquiet hlast.linkState]
  · rw [receiveBytes_unsettled hlink hsettle] at hok
    exact absurd hok hsettle

/-- A call that fails stops before it sees more bytes. -/
theorem receiveBytes_append_fail {e : Endpoint} (a b : List UInt8)
    (hfail : (e.receiveBytes s a).1 ≠ .ok) :
    e.receiveBytes s (a ++ b) = e.receiveBytes s a := by
  by_cases hlink : e.activity.linkState = .disconnected
  · rw [receiveBytes_disconnected hlink, receiveBytes_disconnected hlink]
  by_cases hsettle : (e.settle s).1 = .ok
  · rw [receiveBytes_settled hlink hsettle] at hfail ⊢
    rw [receiveBytes_settled hlink hsettle]
    exact feed_append_fail a b hfail
  · rw [receiveBytes_unsettled hlink hsettle, receiveBytes_unsettled hlink hsettle]

end

end Endpoint

section
variable [Target]

/-! ## Streams -/

/-- `Delivers root retries data rest last`: some calls, each on a prefix of what is
    left of `data`, lead from `root` to `last` and leave `rest`. A call that fails is
    retried on the unconsumed suffix, `retries` times in all. The last call takes
    everything or fails. -/
inductive Delivers : Root → Nat → List UInt8 → List UInt8 → Root → Prop
  | done {root last : Root} {data : List UInt8} {consumed : Nat}
      (hcall : Receive.receiveBytes root data = (.ok, consumed, last)) :
      Delivers root 0 data [] last
  | stop {root last : Root} {chunk suffix : List UInt8} {status : Status} {consumed : Nat}
      (hcall : Receive.receiveBytes root chunk = (status, consumed, last)) (hfail : status ≠ .ok) :
      Delivers root 0 (chunk ++ suffix) ((chunk ++ suffix).drop consumed) last
  | proceed {root next last : Root} {chunk suffix rest : List UInt8} {retries consumed : Nat}
      (hcall : Receive.receiveBytes root chunk = (.ok, consumed, next))
      (hrest : Delivers next retries suffix rest last) :
      Delivers root retries (chunk ++ suffix) rest last
  | retry {root next last : Root} {chunk suffix rest : List UInt8} {status : Status}
      {retries consumed : Nat}
      (hcall : Receive.receiveBytes root chunk = (status, consumed, next)) (hfail : status ≠ .ok)
      (hrest : Delivers next retries ((chunk ++ suffix).drop consumed) rest last) :
      Delivers root (retries + 1) (chunk ++ suffix) rest last

/-- The calls that are each given everything that is left. -/
def deliverWhole : Nat → Root → List UInt8 → List UInt8 × Root
  | retries, root, data =>
      let (status, consumed, next) := Receive.receiveBytes root data
      if status = .ok then ([], next)
      else
        match retries with
        | 0 => (data.drop consumed, next)
        | retries + 1 => deliverWhole retries next (data.drop consumed)

theorem deliverWhole_ok {root next : Root} {data : List UInt8} {consumed : Nat}
    (hcall : Receive.receiveBytes root data = (.ok, consumed, next)) (retries : Nat) :
    deliverWhole retries root data = ([], next) := by
  cases retries <;> rw [deliverWhole, hcall] <;> rfl

theorem deliverWhole_fail {root next : Root} {data : List UInt8} {status : Status} {consumed : Nat}
    (hcall : Receive.receiveBytes root data = (status, consumed, next)) (hfail : status ≠ .ok)
    (retries : Nat) :
    deliverWhole retries root data =
      match retries with
      | 0 => (data.drop consumed, next)
      | retries + 1 => deliverWhole retries next (data.drop consumed) := by
  cases retries <;> rw [deliverWhole, hcall] <;> exact if_neg hfail

/-- The law of a call that succeeds. -/
theorem receiveBytes_concat_ok {root next : Root} (h : Reachable root) {a : List UInt8}
    {consumed : Nat} (hcall : Receive.receiveBytes root a = (.ok, consumed, next))
    (b : List UInt8) :
    consumed = a.length ∧
      Receive.receiveBytes root (a ++ b) =
        ((Receive.receiveBytes next b).1, a.length + (Receive.receiveBytes next b).2.1,
          (Receive.receiveBytes next b).2.2) := by
  obtain ⟨s, e, hwf, -, rfl⟩ := reachable_endpoint h
  have hnext := Endpoint.wf_receiveBytes hwf a
  rw [receiveBytes_refines hwf] at hcall ⊢
  obtain ⟨hok, hcount, rfl⟩ : (e.receiveBytes s a).1 = .ok ∧
      (e.receiveBytes s a).2.1 = consumed ∧ (e.receiveBytes s a).2.2.toRoot s = next := by
    simpa [rootedBytes] using hcall
  obtain ⟨hlength, happend⟩ := Endpoint.receiveBytes_append_ok hwf a b hok
  rw [receiveBytes_refines hnext, happend]
  exact ⟨hcount.symm.trans hlength, rfl⟩

/-- The law of a call that fails. -/
theorem receiveBytes_concat_fail {root next : Root} (h : Reachable root) {a : List UInt8}
    {status : Status} {consumed : Nat}
    (hcall : Receive.receiveBytes root a = (status, consumed, next)) (hfail : status ≠ .ok)
    (b : List UInt8) : Receive.receiveBytes root (a ++ b) = (status, consumed, next) := by
  obtain ⟨s, e, hwf, -, rfl⟩ := reachable_endpoint h
  rw [← hcall, receiveBytes_refines hwf, receiveBytes_refines hwf,
    Endpoint.receiveBytes_append_fail a b]
  rw [receiveBytes_refines hwf] at hcall
  intro hok
  exact hfail ((congrArg Prod.fst hcall).symm.trans hok)

theorem reachable_receiveBytes {root next : Root} (h : Reachable root) {data : List UInt8}
    {status : Status} {consumed : Nat}
    (hcall : Receive.receiveBytes root data = (status, consumed, next)) : Reachable next := by
  have hstep := reachable_step h (.receiveBytes data)
  have hnext : (step root (.receiveBytes data)).2 = next := by
    show (Receive.receiveBytes root data).2.2 = next
    rw [hcall]
  rwa [hnext] at hstep

/-- Every way of splitting the stream does what the whole stream does. -/
theorem deliverWhole_of_delivers {root last : Root} {retries : Nat} {data rest : List UInt8}
    (h : Reachable root) (hdelivers : Delivers root retries data rest last) :
    deliverWhole retries root data = (rest, last) := by
  induction hdelivers with
  | done hcall => exact deliverWhole_ok hcall 0
  | stop hcall hfail =>
      exact deliverWhole_fail (receiveBytes_concat_fail h hcall hfail _) hfail 0
  | @retry root next last chunk suffix rest status retries consumed hcall hfail hrest ih =>
      rw [deliverWhole_fail (receiveBytes_concat_fail h hcall hfail suffix) hfail]
      exact ih (reachable_receiveBytes h hcall)
  | @proceed root next last chunk suffix rest retries consumed hcall hrest ih =>
      have hih := ih (reachable_receiveBytes h hcall)
      obtain ⟨-, hwhole⟩ := receiveBytes_concat_ok h hcall suffix
      cases hsuffix : Receive.receiveBytes next suffix with
      | mk status result =>
        obtain ⟨count, final⟩ := result
        rw [hsuffix] at hwhole
        by_cases hok : status = .ok
        · subst hok
          rw [deliverWhole_ok hwhole, ← hih, deliverWhole_ok hsuffix]
        · rw [deliverWhole_fail hwhole hok, ← hih, deliverWhole_fail hsuffix hok]
          dsimp only
          rw [List.drop_append]
          have hdrop : chunk.drop (chunk.length + count) = [] :=
            List.drop_eq_nil_of_le (Nat.le_add_right _ _)
          rw [hdrop, List.nil_append, Nat.add_sub_cancel_left]

/-- Reception does not depend on how the bytes are split into calls. -/
theorem receiveBytes_chunking {root : Root} (h : Reachable root) :
    (∀ a b consumed next, Receive.receiveBytes root a = (.ok, consumed, next) →
      consumed = a.length ∧
        Receive.receiveBytes root (a ++ b) =
          ((Receive.receiveBytes next b).1, a.length + (Receive.receiveBytes next b).2.1,
            (Receive.receiveBytes next b).2.2)) ∧
    (∀ a b status consumed next, Receive.receiveBytes root a = (status, consumed, next) →
      status ≠ .ok → Receive.receiveBytes root (a ++ b) = (status, consumed, next)) ∧
    (∀ retries data rest last rest' last', Delivers root retries data rest last →
      Delivers root retries data rest' last' → rest = rest' ∧ last = last') ∧
    (∀ data, (Receive.receiveBytes root data).2.1 ≤ data.length) ∧
    (∀ data fuel, data.length ≤ fuel →
      Receive.receiveBytesWithin fuel root data = Receive.receiveBytes root data) := by
  refine ⟨fun a b consumed next hcall => receiveBytes_concat_ok h hcall b,
    fun a b status consumed next hcall hfail => receiveBytes_concat_fail h hcall hfail b,
    ?_, ?_, ?_⟩
  · intro retries data rest last rest' last' hfirst hsecond
    have heq := (deliverWhole_of_delivers h hfirst).symm.trans (deliverWhole_of_delivers h hsecond)
    exact Prod.mk.inj heq
  · intro data
    obtain ⟨s, e, hwf, -, rfl⟩ := reachable_endpoint h
    rw [receiveBytes_refines hwf]
    exact Endpoint.consumed_receiveBytes_le e data
  · intro data fuel hfuel
    obtain ⟨s, e, hwf, -, rfl⟩ := reachable_endpoint h
    rw [receiveBytesWithin_refines hwf data hfuel, receiveBytes_refines hwf]

end

theorem receiveBytes_chunking_host :
    ∃ next : Root,
      @Receive.receiveBytes .lp64 connectedHost [5] = (.ok, 1, next) ∧
      @Receive.receiveBytes .lp64 connectedHost ([5] ++ [6, 0]) =
        ((@Receive.receiveBytes .lp64 next [6, 0]).1,
          1 + (@Receive.receiveBytes .lp64 next [6, 0]).2.1,
          (@Receive.receiveBytes .lp64 next [6, 0]).2.2) :=
  ⟨_, rfl, ((@receiveBytes_chunking .lp64 _ reachable_connectedHost).1 [5] [6, 0] 1 _ rfl).2⟩

end HilRigProtocol.Transport
