/-
  The Python Transport adds nothing to the endpoint.

  The facade checks whatever the native side returns: that a status is documented for the
  call, that sizes fit each other, that enumerators and flags are known. On an endpoint that
  `Init` has started none of these checks ever fails. A run of the facade is then a run of
  the endpoint itself, where `peek_output` and `read_application_data` are single calls with
  a buffer of the configured size (`plainStep`).
-/
import HilRigProtocol.Binding.Construction
import HilRigProtocol.Transport.Chunking
import HilRigProtocol.Transport.Transmissions

namespace HilRigProtocol.Binding

open HilRigProtocol.Transport

/-! ## The plain endpoint -/

/-- The call that a method stands for. -/
def plainCall [Target] (config : TransportConfig) : Method → Except Raised Call
  | .reset => .ok .reset
  | .notifyLinkState linkState nowMs =>
      match linkState with
      | .linkState member => .notifyLinkState member.1 <$> validateNowMs nowMs
      | _ => .error (.typeError "link_state must be a LinkState")
  | .submitApplicationData data => do
      let data ← borrowBuffer data
      if data.length = 0 then
        .error (.valueError "empty Application messages are not supported by the MVP")
      else .ok (.submitApplicationData data)
  | .receiveBytes data => .receiveBytes <$> borrowBuffer data
  | .process nowMs operatingMode => do
      let nowMs ← validateNowMs nowMs
      match operatingMode with
      | .operatingMode member => .ok (.process nowMs member.1)
      | _ => .error (.typeError "operating_mode must be an OperatingMode")
  | .peekOutput => .ok (.peekOutput (some config.maxEncodedFrameSize))
  | .commitOutput nowMs => .commitOutput <$> validateNowMs nowMs
  | .readApplicationData => .ok (.readApplicationData (some config.maxApplicationMessageSize))
  | .readEvent => .ok .readEvent
  | .getStatus => .ok .getStatus

def plainSnapshot (snapshot : StatusSnapshot) : TransportSnapshot where
  role := snapshot.role
  linkState := snapshot.linkState
  sessionState := snapshot.sessionState
  operatingMode := if snapshot.operatingModeValid = 1 then some snapshot.operatingMode else none
  outputPending := snapshot.outputPending
  applicationMessagePending := snapshot.applicationMessagePending = 1
  eventPending := snapshot.eventPending
  reliableDeliveryPending := snapshot.reliableDeliveryPending
  lastFailure := snapshot.lastFailure

/-- What a method returns for the response of its call. -/
def plainResult (response : Response) : Method → Returned
  | .receiveBytes _ => .receive response.status response.size
  | .peekOutput | .readApplicationData =>
      if response.status = .ok then .bytes response.bytes else .none
  | .readEvent => response.event.elim .none .event
  | .getStatus => response.snapshot.elim .none fun snapshot => .snapshot (plainSnapshot snapshot)
  | _ => .status response.status

/-- A method on the plain endpoint. -/
def plainMethod [Target] (config : TransportConfig) (root : Root) (method : Method) :
    Except Raised Returned × Root :=
  match plainCall config method with
  | .error raised => (.error raised, root)
  | .ok call => (.ok (plainResult (step root call).1 method), (step root call).2)

/-- A request to the plain endpoint; `none` is a closed one. -/
def plainStep [Target] (config : TransportConfig) (ownerThread : Nat) (root : Option Root)
    (request : Nat × Request) : Except Raised Returned × Option Root :=
  let closed : Except Raised Returned :=
    .error (.transportError .closed "Transport is closed" none none)
  let foreign : Except Raised Returned :=
    .error (.transportError .ownership
      "Transport native lifetime may only be used by its creating thread" none none)
  match request.2, root with
  | .copy, root => (.error (.typeError "Transport instances cannot be copied"), root)
  | .deepcopy, root => (.error (.typeError "Transport instances cannot be deep-copied"), root)
  | .reduce, root => (.error (.typeError "Transport instances cannot be pickled"), root)
  | .close, none => (.ok .none, none)
  | .exit, none => (.ok .false, none)
  | .enter, none | .method _, none => (closed, none)
  | .close, some root =>
      if request.1 ≠ ownerThread then (foreign, some root) else (.ok .none, none)
  | .exit, some root =>
      if request.1 ≠ ownerThread then (foreign, some root) else (.ok .false, none)
  | .enter, some root =>
      if request.1 ≠ ownerThread then (foreign, some root) else (.ok .transport, some root)
  | .method method, some root =>
      if request.1 ≠ ownerThread then (foreign, some root)
      else
        let (result, root) := plainMethod config root method
        (result, some root)

/-! ## Numbers -/

theorem transportStatus_number {status : Status} (h : status.isListed = true) :
    transportStatus (statusNumber status) = some status := by
  cases status with
  | unlisted raw => cases h
  | _ => rfl

theorem pythonRole_number {role : Role} (h : role.isListed = true) :
    pythonRole (roleNumber role) = some role := by
  cases role with
  | unlisted raw => cases h
  | _ => rfl

theorem pythonLinkState_number {linkState : LinkState} (h : linkState.isListed = true) :
    pythonLinkState (linkStateNumber linkState) = some linkState := by
  cases linkState with
  | unlisted raw => cases h
  | _ => rfl

theorem pythonOperatingMode_number {operatingMode : OperatingMode}
    (h : operatingMode.isListed = true) :
    pythonOperatingMode (operatingModeNumber operatingMode) = some operatingMode := by
  cases operatingMode with
  | unlisted raw => cases h
  | _ => rfl

theorem pythonSessionState_number {sessionState : SessionState}
    (h : sessionState.isListed = true) :
    pythonSessionState (sessionStateNumber sessionState) = some sessionState := by
  cases sessionState with
  | unlisted raw => cases h
  | _ => rfl

theorem pythonFailure_number {failure : Failure} (h : failure.isListed = true) :
    pythonFailure (failureNumber failure) = some failure := by
  cases failure with
  | unlisted raw => cases h
  | _ => rfl

theorem pythonEventType_number {type : EventType} (h : type.isListed = true) :
    pythonEventType (eventTypeNumber type) = some type := by
  cases type with
  | unlisted raw => cases h
  | _ => rfl

/-- A status that a call may return. -/
def Status.Usable (status : Status) : Prop :=
  status.isListed = true ∧ status ≠ .internalError ∧ status ≠ .invalidArgument

instance (status : Status) : Decidable (Status.Usable status) :=
  inferInstanceAs (Decidable (_ ∧ _ ∧ _))

theorem operationStatus_ok {status : Status} {allowed : List Status}
    (hall : ∀ status ∈ allowed, Status.Usable status) (h : status ∈ allowed) (operation : String)
    (bytesConsumed : Option Nat) :
    operationStatus (statusNumber status) operation allowed bytesConsumed = .ok status := by
  obtain ⟨hlisted, hinternal, hargument⟩ := hall status h
  unfold operationStatus
  rw [transportStatus_number hlisted]
  dsimp only
  rw [if_neg hinternal, if_neg hargument, if_neg (not_not.mpr h)]

theorem nativeBool_toNat (flag : Bool) (fieldName : String) :
    nativeBool flag.toNat fieldName = .ok flag := by
  cases flag <;> rfl

theorem nativeBool_flag (flag : Bool) (fieldName : String) :
    nativeBool (if flag = true then (1 : UInt8) else 0).toNat fieldName = .ok flag := by
  cases flag <;> rfl

/-! ## A live object -/

section
variable [Target] {s : Setup}

/-- The native object holds the endpoint. -/
structure Holds (s : Setup) (native : Native) (e : Endpoint) : Prop where
  root : Profile.rootFromContext native.context = some (e.toRoot s)
  wf : e.Wf s

theorem rootFromContext_some {context : Context} {root : Root}
    (h : Profile.rootFromContext context = some root) :
    context.implementation = some root ∧ ∀ next : Root,
      Profile.rootFromContext { context with implementation := some next } = some next := by
  unfold Profile.rootFromContext at h ⊢
  split at h
  case isTrue => cases h
  case isFalse hvalid => exact ⟨h, fun next => if_neg hvalid⟩

namespace Holds

variable {native : Native} {e : Endpoint}

theorem call_fst (h : Holds s native e) (call : Call) :
    (native.call call).1 = (e.step s call).1 := by
  unfold Native.call
  rw [h.root]
  dsimp only
  rw [step_refines h.wf]

theorem call_snd (h : Holds s native e) (call : Call) :
    Holds s (native.call call).2 (e.step s call).2 := by
  refine ⟨?_, Endpoint.wf_step h.wf call⟩
  unfold Native.call
  rw [h.root]
  dsimp only
  rw [(rootFromContext_some h.root).2, step_refines h.wf]

/-- What a call does depends on the step alone. -/
theorem call_congr (h : Holds s native e) {call other : Call}
    (hsame : e.step s call = e.step s other) : native.call call = native.call other := by
  unfold Native.call
  rw [h.root]
  dsimp only
  rw [step_refines h.wf, step_refines h.wf, hsame]

theorem call_unchanged (h : Holds s native e) {call : Call} (hsame : (e.step s call).2 = e) :
    (native.call call).2 = native := by
  unfold Native.call
  rw [h.root]
  dsimp only
  rw [step_refines h.wf]
  dsimp only
  rw [hsame, ← (rootFromContext_some h.root).1]

end Holds

/-! ## Copies to the caller -/

/-- The outcome of a call that reads. -/
def copyResponse (read : Status × Nat × List UInt8 × Endpoint) : Response × Endpoint :=
  ({ Response.ofStatus read.1 with size := read.2.1, bytes := read.2.2.1 }, read.2.2.2)

/-- A read that takes what `copyOut` shows, at most `limit` bytes, or has nothing to show. -/
inductive Copies (e : Endpoint) (limit : Nat)
    (read : Option Nat → Status × Nat × List UInt8 × Endpoint) : Prop
  | nothing : (∀ outBuffer, read outBuffer = (.notReady, 0, [], e)) → Copies e limit read
  | shows {bytes : List UInt8} {next : Endpoint} : bytes ≠ [] → bytes.length ≤ limit →
      (∀ outBuffer, read outBuffer =
        ((Endpoint.copyOut bytes outBuffer).1, (Endpoint.copyOut bytes outBuffer).2.1,
          (Endpoint.copyOut bytes outBuffer).2.2,
          if (Endpoint.copyOut bytes outBuffer).1 = .ok then next else e)) →
      Copies e limit read

theorem copies_peekOutput {e : Endpoint} (h : e.Wf s) :
    Copies e s.config.maxEncodedFrameSize (e.peekOutput s) := by
  unfold Endpoint.peekOutput
  split
  case h_1 item hitem =>
    obtain ⟨_, _, _, hvalid⟩ := item_wf h.activity hitem
    exact .shows (List.ne_nil_of_length_pos (length_encodedFrame_pos _))
      (length_encodedFrame_le_frameSize s hvalid) fun _ => rfl
  case h_2 item hitem =>
    have hvalid := (controlItem_wf h.activity hitem).2
    exact .shows (List.ne_nil_of_length_pos (length_encodedFrame_pos _))
      (length_encodedFrame_le_frameSize s hvalid) fun _ => rfl
  case h_3 => exact .nothing fun _ => rfl

theorem copies_readMessage {e : Endpoint} (h : e.Wf s) :
    Copies e s.config.maxApplicationMessageSize e.readMessage := by
  unfold Endpoint.readMessage
  cases ha : e.activity with
  | established id x =>
      have hwf := h.activity
      rw [ha] at hwf
      dsimp only
      cases hunread : x.unread with
      | none => exact .nothing fun _ => rfl
      | some payload =>
          obtain ⟨hne, hle⟩ := hwf.2.unread payload hunread
          exact .shows hne hle fun _ => rfl
  | _ => exact .nothing fun _ => rfl

/-! ## The statuses that are documented -/

theorem notifyLinkState_resolved (e : Endpoint) {linkState : LinkState}
    (h : linkState.isListed = true) : (e.notifyLinkState s linkState).1.Resolved := by
  rcases @Endpoint.notifyLinkState_status _ s e linkState with hbad | hresolved
  · exfalso
    unfold Endpoint.notifyLinkState at hbad
    split at hbad
    · cases hbad
    · cases hbad
    · dsimp only [Endpoint.bothOk] at hbad
      split_ifs at hbad
    · have hpublish := Endpoint.resolved_publish e (Session.linkEvent .connected)
      rw [hbad] at hpublish
      rcases hpublish with h | h <;> cases h
    · cases hbad
    · cases h
  · exact hresolved

theorem progress_documented (e : Endpoint) (nowMs : UInt32) :
    (e.progress s nowMs).1 = .deliveryFailed ∨ (e.progress s nowMs).1.Resolved := by
  unfold Endpoint.progress
  dsimp only
  split_ifs
  · unfold Endpoint.giveUp
    split
    · dsimp only
      split_ifs
      · exact Or.inl rfl
      · exact Or.inr (Or.inr rfl)
    · exact Or.inr (Endpoint.resolved_abandon _ _ _)
  · exact Or.inr (Or.inl rfl)

theorem process_documented (e : Endpoint) (nowMs : UInt32) {operatingMode : OperatingMode}
    (h : operatingMode.isListed = true) :
    (e.process s nowMs operatingMode).1 = .deliveryFailed ∨
      (e.process s nowMs operatingMode).1.Resolved := by
  have hsettled : ∀ e : Endpoint, (e.processSettled s nowMs).1 = .deliveryFailed ∨
      (e.processSettled s nowMs).1.Resolved := by
    intro e
    unfold Endpoint.processSettled
    split
    · exact Or.inr (Or.inl rfl)
    · split_ifs
      · exact progress_documented _ _
      · exact Or.inr (Or.inl rfl)
    · exact progress_documented _ _
  unfold Endpoint.process
  rw [if_pos h]
  dsimp only
  split_ifs
  · exact Or.inr (Or.inl rfl)
  · exact Or.inr (Endpoint.resolved_settle _)
  · exact hsettled _
  · exact Or.inr (Or.inl rfl)
  · exact hsettled _

theorem submit_documented (e : Endpoint) {payload : List UInt8} (h : payload ≠ []) :
    (e.submit s payload).1 ∈
      [Status.ok, .notReady, .messageTooLarge, .capacityExhausted] := by
  unfold Endpoint.submit
  rw [if_neg h]
  split
  · split_ifs <;> simp
  · simp

/-- A call that takes all bytes returns OK, one that is not ready takes none. -/
theorem receiveBytes_documented (e : Endpoint) (data : List UInt8) :
    (e.receiveBytes s data).1 ∈ [Status.ok, .notReady, .capacityExhausted] ∧
      (e.receiveBytes s data).2.1 ≤ data.length ∧
      ((e.receiveBytes s data).1 = .ok → (e.receiveBytes s data).2.1 = data.length) ∧
      ((e.receiveBytes s data).1 = .notReady → (e.receiveBytes s data).2.1 = 0) := by
  refine ⟨?_, Endpoint.consumed_receiveBytes_le e data, ?_, ?_⟩
  · rcases @Endpoint.receiveBytes_status _ s e data with h | h | h <;> rw [h] <;> simp
  · unfold Endpoint.receiveBytes
    dsimp only
    split_ifs with hdisconnected hwork
    · simp
    · exact fun hok => absurd hok hwork
    · exact Endpoint.consumed_feed_ok data _
  · unfold Endpoint.receiveBytes
    dsimp only
    split_ifs
    · exact fun _ => rfl
    · exact fun _ => rfl
    · intro hnot
      rcases @Endpoint.resolved_feed _ s data (e.settle s).2 with h | h <;>
        · rw [h] at hnot
          cases hnot

omit [Target] in
theorem readEvent_documented {e : Endpoint} (h : e.events.Wf) :
    (e.readEvent.1 = .notReady ∧ e.readEvent.2.1 = none) ∨
      ∃ event, e.readEvent.1 = .ok ∧ e.readEvent.2.1 = some event ∧
        Events.valueIsValid event = true := by
  unfold Endpoint.readEvent
  split_ifs with hempty
  · exact Or.inl ⟨rfl, rfl⟩
  · exact Or.inr ⟨_, rfl, rfl, h.valid 0 (Nat.pos_of_ne_zero hempty)⟩

omit [Target] in
theorem convertEvent_ok {event : Event} (h : Events.valueIsValid event = true) :
    convertEvent event = .ok event := by
  unfold Events.valueIsValid at h
  simp only [Bool.and_eq_true, bne_iff_ne, ne_eq] at h
  obtain ⟨⟨⟨hnone, htype⟩, hstatus⟩, hfailure⟩ := h
  unfold convertEvent enumValue
  rw [pythonEventType_number htype, transportStatus_number hstatus,
    pythonFailure_number hfailure]
  exact if_neg hnone

theorem convertSnapshot_ok {e : Endpoint} (h : e.Wf s) :
    convertSnapshot (e.status s) = .ok (plainSnapshot (e.status s)) := by
  have hrole : s.role.isListed = true := by
    rcases s.role_cases with hrole | hrole <;> rw [hrole] <;> rfl
  have hlink : e.activity.linkState.isListed = true := by
    cases e.activity <;> rfl
  have hstate : e.activity.sessionState.isListed = true := by
    cases e.activity <;> rfl
  unfold convertSnapshot Endpoint.status plainSnapshot
  dsimp only
  rw [nativeBool_flag, nativeBool_toNat, nativeBool_flag, nativeBool_toNat, nativeBool_toNat]
  unfold enumValue
  rw [pythonRole_number hrole, pythonLinkState_number hlink, pythonSessionState_number hstate,
    pythonFailure_number h.lastFailure, pythonOperatingMode_number h.operatingMode]
  cases e.operatingModeValid <;> cases e.activity.unread <;> rfl

/-! ## The methods -/

/-- What a method makes of the native object. -/
def plainOutcome (config : TransportConfig) (native : Native) (method : Method) :
    Except Raised Returned × Native :=
  match plainCall config method with
  | .error raised => (.error raised, native)
  | .ok call => (.ok (plainResult (native.call call).1 method), (native.call call).2)

namespace Holds

variable {native : Native} {e : Endpoint} {config : TransportConfig}

theorem reset_eq (h : Holds s native e) : reset native = plainOutcome config native .reset := by
  unfold reset plainOutcome plainCall
  dsimp only
  rw [h.call_fst]
  rfl

theorem notifyLinkState_eq (h : Holds s native e) (linkState nowMs : Argument) :
    notifyLinkState native linkState nowMs =
      plainOutcome config native (.notifyLinkState linkState nowMs) := by
  unfold notifyLinkState plainOutcome plainCall
  cases linkState with
  | linkState member =>
      dsimp only
      cases validateNowMs nowMs with
      | error raised => rfl
      | ok nowMs =>
          have hstatus : (e.step s (.notifyLinkState member.1 nowMs)).1.status ∈
              [Status.ok, .capacityExhausted] := by
            rcases @notifyLinkState_resolved _ s e _ member.2 with hok | hfull
            · exact List.mem_cons.mpr (Or.inl hok)
            · exact List.mem_cons_of_mem _ (List.mem_singleton.mpr hfull)
          dsimp only [Functor.map, Except.map]
          rw [h.call_fst, operationStatus_ok (by decide) hstatus]
          rfl
  | _ => rfl

theorem submitApplicationData_eq (h : Holds s native e) (data : Argument) :
    submitApplicationData native data =
      plainOutcome config native (.submitApplicationData data) := by
  unfold submitApplicationData plainOutcome plainCall
  dsimp only [bind, Except.bind]
  cases borrowBuffer data with
  | error raised => rfl
  | ok data =>
      dsimp only
      by_cases hempty : data.length = 0
      · rw [if_pos hempty, if_pos hempty]
      · rw [if_neg hempty, if_neg hempty]
        have hstatus : (e.step s (.submitApplicationData data)).1.status ∈
            [Status.ok, .notReady, .messageTooLarge, .capacityExhausted] :=
          submit_documented e fun hnil => hempty (by rw [hnil]; rfl)
        dsimp only
        rw [h.call_fst, operationStatus_ok (by decide) hstatus]
        rfl

theorem receiveBytes_eq (h : Holds s native e) (data : Argument) :
    receiveBytes native data = plainOutcome config native (.receiveBytes data) := by
  unfold receiveBytes plainOutcome plainCall
  dsimp only [Functor.map, Except.map]
  cases borrowBuffer data with
  | error raised => rfl
  | ok data =>
      obtain ⟨hmem, hle, hall, hnone⟩ := @receiveBytes_documented _ s e data
      have hstatus : (e.step s (.receiveBytes data)).1.status ∈
          [Status.ok, .notReady, .capacityExhausted] := hmem
      have hsize : ¬(e.step s (.receiveBytes data)).1.size > data.length := Nat.not_lt.mpr hle
      have hfull : ¬((e.step s (.receiveBytes data)).1.status = .ok ∧
          (e.step s (.receiveBytes data)).1.size ≠ data.length) :=
        fun hboth => hboth.2 (hall hboth.1)
      have hzero : ¬((e.step s (.receiveBytes data)).1.status = .notReady ∧
          (e.step s (.receiveBytes data)).1.size ≠ 0) :=
        fun hboth => hboth.2 (hnone hboth.1)
      dsimp only
      rw [h.call_fst, operationStatus_ok (by decide) hstatus, if_neg hsize]
      dsimp only [bind, Except.bind]
      rw [if_neg hfull, if_neg hzero]
      rfl

theorem process_eq (h : Holds s native e) (nowMs operatingMode : Argument) :
    process native nowMs operatingMode =
      plainOutcome config native (.process nowMs operatingMode) := by
  unfold process plainOutcome plainCall
  dsimp only [bind, Except.bind]
  cases validateNowMs nowMs with
  | error raised => rfl
  | ok nowMs =>
      cases operatingMode with
      | operatingMode member =>
          have hstatus : (e.step s (.process nowMs member.1)).1.status ∈
              [Status.ok, .notReady, .capacityExhausted, .deliveryFailed] := by
            show (e.process s nowMs member.1).1 ∈ _
            rcases @process_documented _ s e nowMs _ member.2 with h | h | h <;> rw [h] <;> simp
          dsimp only
          rw [h.call_fst, operationStatus_ok (by decide) hstatus]
          rfl
      | _ => rfl

theorem commitOutput_eq (h : Holds s native e) (nowMs : Argument) :
    commitOutput native nowMs = plainOutcome config native (.commitOutput nowMs) := by
  unfold commitOutput plainOutcome plainCall
  dsimp only [Functor.map, Except.map]
  cases validateNowMs nowMs with
  | error raised => rfl
  | ok nowMs =>
      have hstatus : (e.step s (.commitOutput nowMs)).1.status ∈ [Status.ok, .notReady] := by
        show (e.commitOutput s nowMs).1 ∈ _
        unfold Endpoint.commitOutput
        split_ifs <;> simp
      dsimp only
      rw [h.call_fst, operationStatus_ok (by decide) hstatus]
      rfl

theorem readEvent_eq (h : Holds s native e) :
    readEvent native = plainOutcome config native .readEvent := by
  unfold readEvent plainOutcome plainCall
  dsimp only
  rw [h.call_fst]
  rcases readEvent_documented h.wf.events with ⟨hstatus, hevent⟩ | ⟨event, hstatus, hevent, hvalid⟩
  · have hstatus' : (e.step s .readEvent).1.status = .notReady := hstatus
    have hevent' : (e.step s .readEvent).1.event = none := hevent
    unfold plainResult
    dsimp only
    rw [hstatus', hevent']
    rfl
  · have hstatus' : (e.step s .readEvent).1.status = .ok := hstatus
    have hevent' : (e.step s .readEvent).1.event = some event := hevent
    unfold plainResult
    dsimp only
    rw [hstatus', hevent', Option.getD_some, convertEvent_ok hvalid]
    rfl

theorem getStatus_eq (h : Holds s native e) :
    getStatus native = plainOutcome config native .getStatus := by
  have hresponse : (e.step s .getStatus).1 =
      { Response.ofStatus .ok with snapshot := some (e.status s) } := rfl
  unfold getStatus plainOutcome plainCall plainResult
  dsimp only
  rw [h.call_fst, hresponse]
  dsimp only
  rw [Option.getD_some, convertSnapshot_ok h.wf]
  rfl

/-- A read has nothing to show to any buffer, or shows its bytes to a query and to every
    buffer with room for them. -/
theorem read_cases (h : Holds s native e) {limit : Nat}
    {read : Option Nat → Status × Nat × List UInt8 × Endpoint} (hcopies : Copies e limit read)
    {call : Option Nat → Call}
    (hstep : ∀ outBuffer, e.step s (call outBuffer) = copyResponse (read outBuffer)) :
    (∀ outBuffer, native.call (call outBuffer) = (.ofStatus .notReady, native)) ∨
      ∃ bytes copied, bytes ≠ [] ∧ bytes.length ≤ limit ∧
        native.call (call none) =
          ({ Response.ofStatus .bufferTooSmall with size := bytes.length }, native) ∧
        ∀ size, bytes.length ≤ size → native.call (call (some size)) =
          ({ Response.ofStatus .ok with size := bytes.length, bytes := bytes }, copied) := by
  rcases hcopies with hnothing | @⟨bytes, next, hne, hle, hshows⟩
  · refine Or.inl fun outBuffer => Prod.ext ?_ (h.call_unchanged ?_)
    · rw [h.call_fst, hstep, hnothing]
      rfl
    · rw [hstep, hnothing]
      rfl
  · have hcopy : ∀ size, bytes.length ≤ size → e.step s (call (some size)) =
        ({ Response.ofStatus .ok with size := bytes.length, bytes := bytes }, next) := by
      intro size hsize
      rw [hstep, hshows, Endpoint.copyOut_room hsize]
      rfl
    refine Or.inr ⟨bytes, (native.call (call (some bytes.length))).2, hne, hle,
      Prod.ext ?_ (h.call_unchanged ?_), fun size hsize => Prod.ext ?_ ?_⟩
    · rw [h.call_fst, hstep, hshows]
      rfl
    · rw [hstep, hshows]
      rfl
    · rw [h.call_fst, hcopy size hsize]
    · rw [h.call_congr ((hcopy size hsize).trans (hcopy _ le_rfl).symm)]

theorem peekOutput_eq (h : Holds s native e)
    (hsize : config.maxEncodedFrameSize = s.config.maxEncodedFrameSize) :
    peekOutput config native = plainOutcome config native .peekOutput := by
  unfold peekOutput plainOutcome plainCall plainResult
  dsimp only
  have hstep : ∀ outBuffer, e.step s (.peekOutput outBuffer) =
      copyResponse (e.peekOutput s outBuffer) := fun _ => rfl
  rcases h.read_cases (copies_peekOutput h.wf) hstep with
    hnothing | ⟨bytes, copied, hne, hle, hquery, hcopy⟩
  · rw [hnothing none, hnothing (some config.maxEncodedFrameSize)]
    rfl
  · rw [← hsize] at hle
    rw [hquery, hcopy _ hle]
    dsimp only [Response.ofStatus]
    rw [operationStatus_ok (by decide) (by decide)]
    dsimp only
    rw [if_neg (by decide), if_neg fun hzero => hne (List.eq_nil_of_length_eq_zero hzero),
      if_neg (Nat.not_lt.mpr hle), hcopy _ le_rfl]
    dsimp only [Response.ofStatus]
    rw [operationStatus_ok (by decide) (by decide)]
    dsimp only
    rw [if_neg fun hsizes => hsizes rfl]
    rfl

theorem readApplicationData_eq (h : Holds s native e)
    (hsize : config.maxApplicationMessageSize = s.config.maxApplicationMessageSize) :
    readApplicationData config native = plainOutcome config native .readApplicationData := by
  unfold readApplicationData plainOutcome plainCall plainResult
  dsimp only
  have hstep : ∀ outBuffer, e.step s (.readApplicationData outBuffer) =
      copyResponse (e.readMessage outBuffer) := fun _ => rfl
  rcases h.read_cases (copies_readMessage h.wf) hstep with
    hnothing | ⟨bytes, copied, hne, hle, hquery, hcopy⟩
  · rw [hnothing none, hnothing (some config.maxApplicationMessageSize)]
    rfl
  · rw [← hsize] at hle
    rw [hquery, hcopy _ hle]
    dsimp only [Response.ofStatus]
    rw [operationStatus_ok (by decide) (by decide)]
    dsimp only
    rw [if_neg (by decide), if_neg (by decide), if_neg (Nat.not_lt.mpr hle), hcopy _ le_rfl]
    dsimp only [Response.ofStatus]
    rw [operationStatus_ok (by decide) (by decide)]
    dsimp only
    rw [if_neg fun hsizes => hsizes rfl,
      if_neg fun hzero => hne (List.eq_nil_of_length_eq_zero hzero)]
    rfl

theorem onNative_eq (h : Holds s native e)
    (hframe : config.maxEncodedFrameSize = s.config.maxEncodedFrameSize)
    (hmessage : config.maxApplicationMessageSize = s.config.maxApplicationMessageSize)
    (method : Method) :
    Transport.onNative config native method = plainOutcome config native method := by
  cases method with
  | reset => exact h.reset_eq
  | notifyLinkState linkState nowMs => exact h.notifyLinkState_eq linkState nowMs
  | submitApplicationData data => exact h.submitApplicationData_eq data
  | receiveBytes data => exact h.receiveBytes_eq data
  | process nowMs operatingMode => exact h.process_eq nowMs operatingMode
  | peekOutput => exact h.peekOutput_eq hframe
  | commitOutput nowMs => exact h.commitOutput_eq nowMs
  | readApplicationData => exact h.readApplicationData_eq hmessage
  | readEvent => exact h.readEvent_eq
  | getStatus => exact h.getStatus_eq

end Holds

/-! ## Runs -/

/-- The Transport is the plain endpoint: both are closed, or its object holds the endpoint. -/
structure Mirrors (s : Setup) (config : TransportConfig) (ownerThread : Nat)
    (transport : Transport) (root : Option Root) : Prop where
  config_eq : transport.config = config
  ownerThread_eq : transport.ownerThread = ownerThread
  frameSize : config.maxEncodedFrameSize = s.config.maxEncodedFrameSize
  messageSize : config.maxApplicationMessageSize = s.config.maxApplicationMessageSize
  handle : (transport.nativeHandle = none ∧ root = none) ∨
    ∃ native e, transport.nativeHandle = some native ∧ root = some (e.toRoot s) ∧
      Holds s native e

namespace Mirrors

variable {config : TransportConfig} {ownerThread : Nat} {transport : Transport}
  {root : Option Root}

/-- A method on the object that holds an endpoint is the method on the endpoint. -/
theorem method_live (h : Mirrors s config ownerThread transport root) {native : Native}
    {e : Endpoint} (hnative : Holds s native e) (method : Method) :
    ∃ next, Holds s (Transport.onNative transport.config native method).2 next ∧
      plainMethod config (e.toRoot s) method =
        ((Transport.onNative transport.config native method).1, next.toRoot s) := by
  rw [h.config_eq, hnative.onNative_eq h.frameSize h.messageSize]
  unfold plainOutcome plainMethod
  cases plainCall config method with
  | error raised => exact ⟨e, hnative, rfl⟩
  | ok call =>
      refine ⟨_, hnative.call_snd call, ?_⟩
      dsimp only
      rw [hnative.call_fst, step_refines hnative.wf]

theorem perform_closed (h : Mirrors s config ownerThread transport none)
    (request : Nat × Request) :
    (transport.perform request).1 = (plainStep config ownerThread none request).1 ∧
      Mirrors s config ownerThread (transport.perform request).2
        (plainStep config ownerThread none request).2 := by
  rcases h.handle with ⟨hclosed, -⟩ | ⟨native, e, -, hroot, -⟩
  · obtain ⟨thread, request⟩ := request
    have hclose : transport.close thread = (.ok .none, transport) := by
      unfold Transport.close
      rw [hclosed]
    have hrequire : transport.requireOpenOwner thread =
        .error (.transportError .closed "Transport is closed" none none) := by
      unfold Transport.requireOpenOwner
      rw [hclosed]
    unfold Transport.perform Transport.enter Transport.exit plainStep
    dsimp only
    rw [hclose, hrequire]
    cases request with
    | _ => exact ⟨rfl, h⟩
  · cases hroot

/-- A request from another thread is refused and changes nothing. -/
theorem perform_foreign {live : Root} (h : Mirrors s config ownerThread transport (some live))
    {thread : Nat} (hthread : thread ≠ ownerThread) (request : Request) :
    (transport.perform (thread, request)).1 =
        (plainStep config ownerThread (some live) (thread, request)).1 ∧
      Mirrors s config ownerThread (transport.perform (thread, request)).2
        (plainStep config ownerThread (some live) (thread, request)).2 := by
  rcases h.handle with ⟨-, hroot⟩ | ⟨native, e, hopen, -, -⟩
  · cases hroot
  · have howner : transport.requireOwner thread =
        .error (.transportError .ownership
          "Transport native lifetime may only be used by its creating thread" none none) := by
      unfold Transport.requireOwner
      rw [h.ownerThread_eq, if_pos hthread]
    have hclose : transport.close thread =
        (.error (.transportError .ownership
          "Transport native lifetime may only be used by its creating thread" none none),
          transport) := by
      unfold Transport.close
      rw [hopen, howner]
    have hrequire : transport.requireOpenOwner thread =
        .error (.transportError .ownership
          "Transport native lifetime may only be used by its creating thread" none none) := by
      unfold Transport.requireOpenOwner
      rw [hopen, howner]
      rfl
    unfold Transport.perform Transport.enter Transport.exit plainStep
    dsimp only
    rw [hclose, hrequire]
    cases request with
    | copy | deepcopy | reduce => exact ⟨rfl, h⟩
    | _ =>
        dsimp only
        rw [if_pos hthread]
        exact ⟨rfl, h⟩

theorem perform_own {live : Root} (h : Mirrors s config ownerThread transport (some live))
    (request : Request) :
    (transport.perform (ownerThread, request)).1 =
        (plainStep config ownerThread (some live) (ownerThread, request)).1 ∧
      Mirrors s config ownerThread (transport.perform (ownerThread, request)).2
        (plainStep config ownerThread (some live) (ownerThread, request)).2 := by
  rcases h.handle with ⟨-, hroot⟩ | ⟨native, e, hopen, hroot, hnative⟩
  · cases hroot
  · cases hroot
    have howner : transport.requireOwner ownerThread = .ok () := by
      unfold Transport.requireOwner
      rw [if_neg (not_not.mpr h.ownerThread_eq.symm)]
    have hclose : transport.close ownerThread =
        (.ok .none, { transport with nativeHandle := none }) := by
      unfold Transport.close
      rw [hopen, howner]
    have hrequire : transport.requireOpenOwner ownerThread = .ok native := by
      unfold Transport.requireOpenOwner
      rw [hopen, howner]
      rfl
    have hclosed : Mirrors s config ownerThread { transport with nativeHandle := none } none :=
      { h with handle := Or.inl ⟨rfl, rfl⟩ }
    unfold Transport.perform Transport.enter Transport.exit plainStep
    dsimp only
    rw [hclose, hrequire]
    cases request with
    | copy | deepcopy | reduce => exact ⟨rfl, h⟩
    | close | exit =>
        dsimp only
        rw [if_neg (not_not.mpr rfl)]
        exact ⟨rfl, hclosed⟩
    | enter =>
        dsimp only
        rw [if_neg (not_not.mpr rfl)]
        exact ⟨rfl, h⟩
    | method method =>
        obtain ⟨next, hnext, hmethod⟩ := h.method_live hnative method
        dsimp only
        rw [if_neg (not_not.mpr rfl), hmethod]
        exact ⟨rfl, { h with handle := Or.inr ⟨_, next, rfl, rfl, hnext⟩ }⟩

theorem perform (h : Mirrors s config ownerThread transport root) (request : Nat × Request) :
    (transport.perform request).1 = (plainStep config ownerThread root request).1 ∧
      Mirrors s config ownerThread (transport.perform request).2
        (plainStep config ownerThread root request).2 := by
  cases root with
  | none => exact h.perform_closed request
  | some live =>
      obtain ⟨thread, request⟩ := request
      by_cases hthread : thread = ownerThread
      · subst hthread
        exact h.perform_own request
      · exact h.perform_foreign hthread request

/-- The endpoint that a Transport holds is the plain one. -/
theorem root_eq (h : Mirrors s config ownerThread transport root) :
    (transport.nativeHandle.bind fun native => Profile.rootFromContext native.context) = root := by
  rcases h.handle with ⟨hclosed, rfl⟩ | ⟨native, e, hopen, rfl, hnative⟩
  · rw [hclosed]
    rfl
  · rw [hopen]
    exact hnative.root

end Mirrors

/-! ## What the plain endpoint raises -/

omit [Target] in
theorem validateNowMs_error {nowMs : Argument} {raised : Raised}
    (h : validateNowMs nowMs = .error raised) : raised.mistrusts = false := by
  unfold validateNowMs at h
  split at h
  · split_ifs at h
    cases h
    rfl
  · cases h
    rfl

omit [Target] in
theorem borrowBuffer_error {data : Argument} {raised : Raised}
    (h : borrowBuffer data = .error raised) : raised.mistrusts = false := by
  unfold borrowBuffer at h
  cases data with
  | buffer data cContiguous =>
      dsimp only at h
      split_ifs at h
      cases h
      rfl
  | _ =>
      cases h
      rfl

omit [Target] in
theorem map_error {α β : Type} {f : α → β} {result : Except Raised α} {raised : Raised}
    (h : f <$> result = .error raised) : result = .error raised := by
  cases result with
  | error other =>
      cases h
      rfl
  | ok value => cases h

theorem plainCall_error {config : TransportConfig} {method : Method} {raised : Raised}
    (h : plainCall config method = .error raised) : raised.mistrusts = false := by
  cases method with
  | notifyLinkState linkState nowMs =>
      cases linkState with
      | linkState member => exact validateNowMs_error (map_error h)
      | _ =>
          cases h
          rfl
  | submitApplicationData data =>
      unfold plainCall at h
      dsimp only at h
      cases hdata : borrowBuffer data with
      | error other =>
          rw [hdata] at h
          cases h
          exact borrowBuffer_error hdata
      | ok data =>
          rw [hdata] at h
          dsimp only [bind, Except.bind] at h
          split_ifs at h
          cases h
          rfl
  | receiveBytes data => exact borrowBuffer_error (map_error h)
  | process nowMs operatingMode =>
      unfold plainCall at h
      dsimp only at h
      cases hnow : validateNowMs nowMs with
      | error other =>
          rw [hnow] at h
          cases h
          exact validateNowMs_error hnow
      | ok nowMs =>
          rw [hnow] at h
          cases operatingMode with
          | operatingMode member => cases h
          | _ =>
              cases h
              rfl
  | commitOutput nowMs => exact validateNowMs_error (map_error h)
  | _ => cases h

theorem plainMethod_error {config : TransportConfig} {root : Root} {method : Method}
    {raised : Raised} (h : (plainMethod config root method).1 = .error raised) :
    raised.mistrusts = false := by
  unfold plainMethod at h
  cases hcall : plainCall config method with
  | error other =>
      rw [hcall] at h
      cases h
      exact plainCall_error hcall
  | ok call =>
      rw [hcall] at h
      cases h

theorem plainStep_error {config : TransportConfig} {ownerThread : Nat} {root : Option Root}
    {request : Nat × Request} {raised : Raised}
    (h : (plainStep config ownerThread root request).1 = .error raised) :
    raised.mistrusts = false := by
  obtain ⟨thread, request⟩ := request
  unfold plainStep at h
  cases root with
  | none =>
      cases request with
      | close | exit => cases h
      | _ =>
          cases h
          rfl
  | some live =>
      cases request with
      | copy | deepcopy | reduce =>
          cases h
          rfl
      | method method =>
          dsimp only at h
          split_ifs at h
          · cases h
            rfl
          · exact plainMethod_error h
      | _ =>
          dsimp only at h
          split_ifs at h
          cases h
          rfl

/-! ## Every run -/

theorem mirrors_constructed {role : { role : Role // role.isListed = true }}
    {config : TransportConfig} {draw : Nat} {memory : Memory} {thread : Nat}
    {transport : Transport}
    (h : Transport.construct (some role) (some config) draw memory thread = .ok transport) :
    ∃ (s : Setup) (root : Root), Started role.1 root ∧
      Mirrors s transport.config thread transport (some root) := by
  obtain ⟨seed, native, root, hconfig, howner, hhandle, hroot, hstarted, hbase⟩ :=
    construct_live h
  obtain ⟨s, -, rfl, hvalid⟩ := hstarted.setup
  have hsizes : s.config = config.native seed := hbase
  refine ⟨s, _, hstarted, ⟨rfl, howner, ?_, ?_, Or.inr ⟨native, _, hhandle, rfl, hroot, ?_⟩⟩⟩
  · rw [hconfig, hsizes]
    rfl
  · rw [hconfig, hsizes]
    rfl
  · exact hvalid.1

/-- A run of a Transport, by any threads and with any arguments, is the run of a plain
    endpoint that `Init` has started. It never blames the native side. -/
theorem facade_transparent {role : { role : Role // role.isListed = true }}
    {config : TransportConfig} {draw : Nat} {memory : Memory} {thread : Nat}
    {transport : Transport}
    (h : Transport.construct (some role) (some config) draw memory thread = .ok transport) :
    ∃ root, Started role.1 root ∧ ∀ requests : List (Nat × Request),
      (Library.run Transport.perform transport requests).1 =
          (Library.run (plainStep transport.config thread) (some root) requests).1 ∧
        ((Library.run Transport.perform transport requests).2.nativeHandle.bind
            fun native => Profile.rootFromContext native.context) =
          (Library.run (plainStep transport.config thread) (some root) requests).2 ∧
        ∀ raised, .error raised ∈ (Library.run Transport.perform transport requests).1 →
          raised.mistrusts = false := by
  obtain ⟨s, root, hstarted, hmirrors⟩ := mirrors_constructed h
  refine ⟨root, hstarted, fun requests => ?_⟩
  have hrun := @Library.run_alike _ _ _ _ _ Transport.perform (plainStep transport.config thread)
    (Mirrors s transport.config thread) id (fun _ _ request hsame => hsame.perform request)
    _ _ hmirrors requests
  rw [List.map_id, List.map_id] at hrun
  refine ⟨hrun.1, hrun.2.root_eq, ?_⟩
  intro raised hraised
  rw [hrun.1] at hraised
  have hnever := @Library.run_output _ _ _ (plainStep transport.config thread) (fun _ => True)
    (fun outcome => ∀ raised, outcome = .error raised → raised.mistrusts = false)
    (fun _ _ _ => trivial) (fun _ _ _ _ herror => plainStep_error herror) (some root) trivial
    requests
  exact hnever _ hraised raised rfl

end

/-- Uses of a Transport: on its thread, on another one, with bad arguments, and closed. -/
def mixedRequests : List (Nat × Request) :=
  [(1, .enter), (1, .method (.notifyLinkState (.linkState ⟨.connected, rfl⟩) (.int 0))),
    (1, .method (.process (.int 0) (.operatingMode ⟨.normal, rfl⟩))), (1, .method .peekOutput),
    (2, .method .peekOutput), (1, .method (.commitOutput (.int (-1)))),
    (1, .method (.receiveBytes (.raising "ValueError"
      "operation forbidden on released memoryview object"))),
    (1, .method (.commitOutput (.int 0))), (1, .method .readEvent), (1, .copy), (1, .exit),
    (1, .method .getStatus)]

theorem facade_transparent_mixed :
    ∃ transport,
      @Transport.construct .lp64 (some ⟨.host, rfl⟩) (some facadeConfig) 6 facadeMemory 1 =
        .ok transport ∧
      ∃ root, @Started .lp64 .host root ∧
        (Library.run (@Transport.perform .lp64) transport mixedRequests).1 =
          (Library.run (@plainStep .lp64 (@Transport.config .lp64 transport) 1) (some root)
            mixedRequests).1 := by
  refine ⟨_, rfl, ?_⟩
  obtain ⟨root, hstarted, hruns⟩ := @facade_transparent .lp64 ⟨.host, rfl⟩ facadeConfig 6
    facadeMemory 1 _ rfl
  exact ⟨root, hstarted, (hruns mixedRequests).1⟩

end HilRigProtocol.Binding
