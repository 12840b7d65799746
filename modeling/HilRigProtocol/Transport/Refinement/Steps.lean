/-
  Every call on the root of an endpoint is the call on the endpoint, and `Init`
  writes the root of an endpoint. So every reachable root is the root of a
  well-formed endpoint.
-/
import HilRigProtocol.Library.Machine
import HilRigProtocol.Transport.Refinement.Process

namespace HilRigProtocol.Transport

section
variable [Target] {s : Setup}

/-! ## One call -/

/-- A public call on the root of a well-formed endpoint. -/
theorem step_refines {e : Endpoint} (h : e.Wf s) (call : Call) :
    step (e.toRoot s) call = ((e.step s call).1, (e.step s call).2.toRoot s) := by
  unfold step
  cases call with
  | reset =>
      dsimp only
      rw [reset_refines h]
      rfl
  | notifyLinkState linkState nowMs =>
      dsimp only
      rw [notifyLinkState_refines h]
      rfl
  | submitApplicationData payload =>
      dsimp only
      rw [submit_refines h]
      rfl
  | receiveBytes data =>
      dsimp only
      rw [receiveBytes_refines h]
      rfl
  | process nowMs operatingMode =>
      dsimp only
      rw [process_refines h]
      rfl
  | peekOutput outBuffer =>
      dsimp only
      rw [peekOutput_refines h.activity]
      rfl
  | commitOutput nowMs =>
      dsimp only
      rw [commitOutput_refines h.activity]
      rfl
  | readApplicationData outBuffer =>
      dsimp only
      rw [read_refines h]
      rfl
  | readEvent =>
      dsimp only
      rw [readEvent_refines h]
      rfl
  | getStatus =>
      dsimp only
      rw [getStatus_refines h]
      rfl

/-! ## Initialization -/

/-- The endpoint of a fresh context. -/
def Endpoint.initial (s : Setup) : Endpoint where
  activity := .disconnected false
  cursor := s.config.sessionSeed
  operatingMode := .normal
  operatingModeValid := false
  lastFailure := .none
  abandoned := none
  diagnosticPending := false
  intake := .filling []
  events := { queue := fun _ => Profile.zeroEvent, readIndex := 0, count := 0 }

theorem checkedAdd_eq_some {left right sum : Nat}
    (h : Profile.checkedAdd left right = some sum) : sum = left + right := by
  unfold Profile.checkedAdd at h
  split_ifs at h
  cases h
  rfl

theorem le_of_checkedAdd {left right sum : Nat} (h : Profile.checkedAdd left right = some sum)
    (hleft : 0 < left) : sum ≤ Target.sizeMax := by
  rw [checkedAdd_eq_some h]
  unfold Profile.checkedAdd at h
  split_ifs at h with hbig
  omega

theorem maxEncodedSize_ne_zero {maximumApplicationMessageSize : Nat}
    (h : maxEncodedSize maximumApplicationMessageSize ≠ 0) :
    0 < maximumApplicationMessageSize ∧
      maximumApplicationMessageSize + rawOverhead ≤ Target.sizeMax ∧
      maxEncodedSize maximumApplicationMessageSize =
        maximumApplicationMessageSize + rawOverhead
          + (maximumApplicationMessageSize + rawOverhead + 253) / 254 + 1 := by
  have hpos : rawOverhead = 18 := rfl
  unfold maxEncodedSize at h ⊢
  by_cases hsize : maximumApplicationMessageSize = 0 ∨
      maximumApplicationMessageSize > Target.sizeMax - rawOverhead
  · rw [if_pos hsize] at h
    exact absurd rfl h
  rw [if_neg hsize] at h ⊢
  refine ⟨by omega, by omega, ?_⟩
  unfold cobsMaxEncodedSize at h ⊢
  rw [if_neg (by omega)] at h ⊢
  dsimp only at h ⊢
  split_ifs at h ⊢ <;> simp_all

/-- What the configuration check ensures. -/
theorem validateConfigAndSize_ok {config : Config} {size : Nat}
    (h : Profile.validateConfigAndSize config = (.ok, size)) :
    0 < config.maxApplicationMessageSize ∧
      config.maxApplicationMessageSize + rawOverhead ≤ Target.sizeMax ∧
      config.maxApplicationMessageSize + rawOverhead
        + (config.maxApplicationMessageSize + rawOverhead + 253) / 254 + 1
          ≤ config.maxEncodedFrameSize ∧
      config.maxEncodedFrameSize ≤ Target.sizeMax ∧
      size = Target.sizeofRoot + config.maxApplicationMessageSize + config.maxEncodedFrameSize
        + (config.maxEncodedFrameSize - 1) + (config.maxApplicationMessageSize + rawOverhead)
        + config.maxApplicationMessageSize ∧
      size ≤ Target.sizeMax := by
  unfold Profile.validateConfigAndSize at h
  by_cases hzero : config.maxApplicationMessageSize = 0 ∨ config.maxEncodedFrameSize = 0
  · rw [if_pos hzero] at h
    cases h
  rw [if_neg hzero] at h
  by_cases htimeout : config.connectionTimeoutMs ≠ 0
  · rw [if_pos htimeout] at h
    cases h
  rw [if_neg htimeout] at h
  dsimp only at h
  by_cases hminimum : maxEncodedSize config.maxApplicationMessageSize = 0 ∨
      config.maxEncodedFrameSize < maxEncodedSize config.maxApplicationMessageSize
  · rw [if_pos hminimum] at h
    cases h
  rw [if_neg hminimum] at h
  obtain ⟨hpos, hraw, hencoded⟩ := maxEncodedSize_ne_zero (fun hz => hminimum (Or.inl hz))
  have hframe : maxEncodedSize config.maxApplicationMessageSize ≤ config.maxEncodedFrameSize :=
    Nat.le_of_not_lt fun hlt => hminimum (Or.inr hlt)
  split at h
  · cases h
  · next requiredSize htotal =>
    cases h
    simp only [Option.bind_eq_bind, Option.bind_eq_some_iff] at htotal
    obtain ⟨scratch, hscratch, total, h1, total', h2, total'', h3, total''', h4, h5⟩ := htotal
    have htotal := checkedAdd_eq_some h1
    have htotal' := checkedAdd_eq_some h2
    have hbound := le_of_checkedAdd h2 (by omega)
    have htotal'' := checkedAdd_eq_some h3
    have htotal''' := checkedAdd_eq_some h4
    have hsize := checkedAdd_eq_some h5
    have hscratch := checkedAdd_eq_some hscratch
    have hroom := le_of_checkedAdd h5 (by omega)
    refine ⟨hpos, hraw, ?_, by omega, ?_, hroom⟩
    · omega
    · omega

/-- Storage that an overlap check passes does not wrap around the address space. -/
theorem le_of_storageOverlaps {object objectSize : Nat} {storage : Storage}
    (hnonzero : storage.workspace ≠ 0)
    (h : Profile.storageOverlaps object objectSize storage = false) :
    storage.workspace + storage.workspaceSize ≤ Target.uintptrMax := by
  unfold Profile.storageOverlaps at h
  split_ifs at h with hwraps
  omega

/-- What `Init` checks before it writes the root. -/
theorem init_eq {context next : Context} {role : Role} {config : Config} {storage : Storage}
    {placement : Placement} (h : Profile.init context role config storage placement = (.ok, next)) :
    (role = .host ∨ role = .rig) ∧ Session.seedIsInvalid role config.sessionSeed = false ∧
      storage.workspace ≠ 0 ∧ ∃ requiredSize session parser,
        (Profile.validateConfigAndSize config = (.ok, requiredSize) ∧
          requiredSize ≤ storage.workspaceSize ∧
          storage.workspace + storage.workspaceSize ≤ Target.uintptrMax) ∧
        Session.init role config.sessionSeed config.initialReliableSequence = (.ok, some session) ∧
        Parser.init (Profile.carveRegions config storage.workspace).parserScratch
          (config.maxEncodedFrameSize - 1) = (.ok, parser) ∧
        next =
          { implementation := some (Events.reset (Profile.initialRoot role config
              (Profile.carveRegions config storage.workspace) session parser))
            implementationSize := requiredSize
            initializationCookie := initializationCookie } := by
  unfold Profile.init at h
  by_cases hfacade : context.implementation.isSome ∨ context.implementationSize ≠ 0 ∨
      context.initializationCookie ≠ 0
  · rw [if_pos hfacade] at h
    cases h
  rw [if_neg hfacade] at h
  by_cases hrole : role ≠ .host ∧ role ≠ .rig
  · rw [if_pos hrole] at h
    cases h
  rw [if_neg hrole] at h
  by_cases hseed : Session.seedIsInvalid role config.sessionSeed = true
  · rw [if_pos hseed] at h
    cases h
  rw [if_neg hseed] at h
  cases hsize : Profile.validateConfigAndSize config with
  | mk status requiredSize =>
    rw [hsize] at h
    dsimp only at h
    by_cases hok : status ≠ .ok
    · rw [if_pos hok] at h
      cases h
      exact absurd rfl hok
    rw [if_neg hok] at h
    rw [not_not] at hok
    subst hok
    by_cases hworkspace : storage.workspace = 0 ∨
        storage.workspace % Target.workspaceAlignment ≠ 0
    · rw [if_pos hworkspace] at h
      cases h
    rw [if_neg hworkspace] at h
    by_cases hsmall : storage.workspaceSize < requiredSize
    · rw [if_pos hsmall] at h
      cases h
    rw [if_neg hsmall] at h
    by_cases hoverlap : Profile.storageOverlaps placement.context Target.sizeofContext storage = true
        ∨ Profile.storageOverlaps placement.config Target.sizeofConfig storage = true
        ∨ Profile.storageOverlaps placement.storage Target.sizeofStorage storage = true
    · rw [if_pos hoverlap] at h
      cases h
    rw [if_neg hoverlap] at h
    have hnonzero : storage.workspace ≠ 0 := fun hzero => hworkspace (Or.inl hzero)
    have hend : storage.workspace + storage.workspaceSize ≤ Target.uintptrMax :=
      le_of_storageOverlaps hnonzero (by simpa using fun h => hoverlap (Or.inl h))
    refine ⟨by tauto, by simpa using hseed, hnonzero, requiredSize, ?_⟩
    obtain ⟨session, hsession⟩ : ∃ session,
        Session.init role config.sessionSeed config.initialReliableSequence =
          (.ok, some session) := by
      unfold Session.init
      rw [if_neg hrole, if_neg hseed]
      exact ⟨_, rfl⟩
    rw [hsession] at h
    dsimp only at h
    cases hparser : Parser.init (Profile.carveRegions config storage.workspace).parserScratch
        (config.maxEncodedFrameSize - 1) with
    | mk status parser =>
      rw [hparser] at h
      dsimp only at h
      by_cases hok : status ≠ .ok
      · rw [if_pos hok] at h
        cases h
        exact absurd rfl hok
      rw [if_neg hok] at h
      rw [not_not] at hok
      subst hok
      cases h
      exact ⟨session, parser, ⟨rfl, Nat.le_of_not_lt hsmall, hend⟩, hsession, rfl, rfl⟩

/-- `Init` succeeds exactly on what a `Setup` asks for, and writes the root of the
    fresh endpoint. -/
theorem init_refines {context next : Context} {role : Role} {config : Config} {storage : Storage}
    {placement : Placement} (h : Profile.init context role config storage placement = (.ok, next)) :
    ∃ s : Setup, s.role = role ∧ s.config = config ∧
      Profile.rootFromContext next = some ((Endpoint.initial s).toRoot s) ∧
      (Endpoint.initial s).Wf s := by
  obtain ⟨hrole, hseed, hworkspace, requiredSize, session, parser, ⟨hsize, -, -⟩, hsession,
    hparser, rfl⟩ := init_eq h
  obtain ⟨hpos, hraw, hframe, hmax, hsum, -⟩ := validateConfigAndSize_ok hsize
  let s : Setup :=
    { role := role
      config := config
      firstSequence := config.initialReliableSequence
      regions := Profile.carveRegions config storage.workspace
      role_cases := hrole
      submittedMessage_ne := by simp [Profile.carveRegions]; omega
      encodedOutput_ne := by simp [Profile.carveRegions]; omega
      codecScratch_ne := by simp [Profile.carveRegions]; omega
      receivedMessage_ne := by simp [Profile.carveRegions]; omega
      message_pos := hpos
      rawSize_le := hraw
      frameSize_ge := hframe
      frameSize_le := hmax }
  refine ⟨s, rfl, rfl, ?_, ?_⟩
  · have hsession' : session = (Endpoint.initial s).toSession s := by
      unfold Session.init at hsession
      rw [if_neg (by tauto), if_neg (by simp [hseed])] at hsession
      cases hsession
      rfl
    have hparser' : parser = (Intake.filling []).toParser (config.maxEncodedFrameSize - 1) := by
      unfold Parser.init at hparser
      dsimp only at hparser
      split_ifs at hparser
      · cases hparser
      · cases hparser
        rfl
    have hroot : Target.sizeofRoot ≤ requiredSize := by omega
    unfold Profile.rootFromContext
    rw [if_neg (by simp [hroot]), hsession', hparser']
    rfl
  · exact
      { activity := trivial
        cursor_host := by
          intro hhost
          have hhost' : role = .host := hhost
          show sessionIdentifierIsValid config.sessionSeed = true
          simp [hhost', Session.seedIsInvalid] at hseed
          simp [sessionIdentifierIsValid, hseed]
        cursor_rig := by
          intro hrig
          have hrig' : role = .rig := hrig
          show config.sessionSeed = sessionSeedInvalid
          simpa [hrig', Session.seedIsInvalid] using hseed
        operatingMode := rfl
        lastFailure := rfl
        abandoned := by
          intro id hid
          cases hid
        intake := Nat.zero_le _
        diagnostic := by
          intro hd
          cases hd
        disconnected := fun _ => ⟨rfl, rfl⟩
        events :=
          { readIndex_lt := show 0 < eventQueueCapacity by decide
            count_le := Nat.zero_le _
            valid := by
              intro offset hlt
              exact absurd hlt (Nat.not_lt_zero _) } }

/-! ## Reachable roots -/

/-- A root that calls can lead to, from one that `Init` writes. -/
def Reachable (root : Root) : Prop :=
  ∃ context role config storage placement next initial calls,
    Profile.init context role config storage placement = (.ok, next) ∧
      Profile.rootFromContext next = some initial ∧
      (Library.run step initial calls).2 = root

theorem reachable_step {root : Root} (h : Reachable root) (call : Call) :
    Reachable (step root call).2 := by
  obtain ⟨context, role, config, storage, placement, next, initial, calls, hinit, hroot, rfl⟩ := h
  refine ⟨context, role, config, storage, placement, next, initial, calls ++ [call], hinit, hroot,
    ?_⟩
  rw [Library.run_append]
  rfl

theorem reachable_run {root : Root} (h : Reachable root) (calls : List Call) :
    Reachable (Library.run step root calls).2 :=
  @Library.run_invariant _ _ _ step Reachable (fun _ call h => reachable_step h call) _ h calls

/-- An endpoint that calls can lead to. -/
def Endpoint.Reachable (s : Setup) (e : Endpoint) : Prop :=
  ∃ calls, (Library.run (Endpoint.step s) (Endpoint.initial s) calls).2 = e

/-- The runs of a well-formed root are the runs of its endpoint. -/
theorem run_toRoot {s : Setup} {e : Endpoint} (h : e.Wf s) (calls : List Call) :
    Library.run step (e.toRoot s) calls =
        ((Library.run (Endpoint.step s) e calls).1,
          (Library.run (Endpoint.step s) e calls).2.toRoot s) ∧
      (Library.run (Endpoint.step s) e calls).2.Wf s := by
  have hstep : ∀ (e : Endpoint) call, e.Wf s → (e.step s call).2.Wf s :=
    fun e call he => Endpoint.wf_step he call
  exact ⟨Library.run_refines hstep (fun e call he => step_refines he call) h calls,
    Library.run_invariant hstep h calls⟩

/-- Every reachable root is the root of a reachable, well-formed endpoint. -/
theorem reachable_endpoint {root : Root} (h : Reachable root) :
    ∃ (s : Setup) (e : Endpoint), e.Wf s ∧ e.Reachable s ∧ root = e.toRoot s := by
  obtain ⟨context, role, config, storage, placement, next, initial, calls, hinit, hroot, rfl⟩ := h
  obtain ⟨s, _, _, hinitial, hwf⟩ := init_refines hinit
  rw [hinitial] at hroot
  cases hroot
  obtain ⟨hrun, hlast⟩ := run_toRoot hwf calls
  exact ⟨s, (Library.run (Endpoint.step s) (Endpoint.initial s) calls).2, hlast, ⟨calls, rfl⟩,
    by rw [hrun]⟩

end

/-! ## A host and a rig to run fixed inputs on -/

/-- A host with one retry, in a workspace of 8 KiB. -/
def sampleConfig : Config :=
  { Profile.defaultConfig with sessionSeed := 7, retransmitTimeoutMs := 10, maxRetries := 1 }

def sampleStorage : Storage where
  workspace := 0x10000
  workspaceSize := 0x2000

def samplePlacement : Placement where
  context := 0x20000
  config := 0x20100
  storage := 0x20200

/-- The sample host on a connected link. -/
def connectedHost : Root :=
  (Library.run (@step .lp64)
    ((@Profile.rootFromContext .lp64 (@Profile.init .lp64 .zero .host sampleConfig sampleStorage
      samplePlacement).2).get rfl) [.notifyLinkState .connected 0]).2

theorem reachable_connectedHost : @Reachable .lp64 connectedHost :=
  ⟨.zero, .host, sampleConfig, sampleStorage, samplePlacement, _, _,
    [.notifyLinkState .connected 0], rfl, rfl, rfl⟩

/-- A rig with the policy of the sample host, on a connected link. -/
def connectedRig : Root :=
  (Library.run (@step .lp64)
    ((@Profile.rootFromContext .lp64 (@Profile.init .lp64 .zero .rig
      { sampleConfig with sessionSeed := 0 } sampleStorage samplePlacement).2).get rfl)
    [.notifyLinkState .connected 0]).2

theorem reachable_connectedRig : @Reachable .lp64 connectedRig :=
  ⟨.zero, .rig, { sampleConfig with sessionSeed := 0 }, sampleStorage, samplePlacement, _, _,
    [.notifyLinkState .connected 0], rfl, rfl, rfl⟩

end HilRigProtocol.Transport
