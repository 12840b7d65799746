/-
  What a construction of a Python Transport comes to.

  The Python check of the seed refuses what `Init` would refuse, and nothing else. Past that
  check the native side has three answers: the configuration does not fit, there is no
  memory, or the object holds a fresh endpoint. The checks that the facade makes on these
  answers never fail.
-/
import HilRigProtocol.Binding.Creation
import HilRigProtocol.Transport.Conversation

namespace HilRigProtocol.Binding

open HilRigProtocol.Transport

section
variable [Target]

/-- The native configuration with a seed. -/
def TransportConfig.native (config : TransportConfig) (seed : UInt64) : Config where
  maxApplicationMessageSize := config.maxApplicationMessageSize
  maxEncodedFrameSize := config.maxEncodedFrameSize
  sessionSeed := seed
  initialReliableSequence := config.initialReliableSequence
  connectionTimeoutMs := config.connectionTimeoutMs
  retransmitTimeoutMs := config.retransmitTimeoutMs
  maxRetries := config.maxRetries

/-- The bytes that the native side needs; the seed has no part in it. -/
def TransportConfig.storageSize (config : TransportConfig) : Status × Nat :=
  Profile.requiredStorageSize (config.native 0)

/-- What the allocator and the runtime promise for a workspace of a size: it is aligned, and
    no object wraps around the address space or overlaps it. -/
structure Memory.Sound (memory : Memory) (size : Nat) : Prop where
  aligned : memory.workspace % Target.workspaceAlignment = 0
  workspace : memory.workspace + size ≤ Target.uintptrMax
  transport : memory.transport + Target.sizeofContext ≤ Target.uintptrMax ∧
    (memory.transport + Target.sizeofContext ≤ memory.workspace ∨
      memory.workspace + size ≤ memory.transport)
  config : memory.config + Target.sizeofConfig ≤ Target.uintptrMax ∧
    (memory.config + Target.sizeofConfig ≤ memory.workspace ∨
      memory.workspace + size ≤ memory.config)
  storage : memory.storage + Target.sizeofStorage ≤ Target.uintptrMax ∧
    (memory.storage + Target.sizeofStorage ≤ memory.workspace ∨
      memory.workspace + size ≤ memory.storage)

/-- The seed of a side: the given one, if there is one, and one that `Init` takes. -/
structure SeedFor (role : Role) (config : TransportConfig) (seed : UInt64) : Prop where
  given : ∀ given, config.sessionSeed = some given → seed = given
  valid : Session.seedIsInvalid role seed = false

/-! ## The seed -/

omit [Target] in
theorem seedIsInvalid_host {seed : UInt64} :
    Session.seedIsInvalid .host seed = true ↔ seed = 0 ∨ seed = 0xFFFFFFFFFFFFFFFF := by
  simp [Session.seedIsInvalid, sessionSeedInvalid, sessionSeedReserved]

omit [Target] in
theorem seedIsInvalid_rig {seed : UInt64} :
    Session.seedIsInvalid .rig seed = true ↔ seed ≠ 0 := by
  simp [Session.seedIsInvalid, sessionSeedInvalid]

omit [Target] in
/-- A drawn seed is neither zero nor the reserved value. -/
theorem seedIsInvalid_drawn {draw : Nat} (h : draw < 2 ^ 64 - 2) :
    Session.seedIsInvalid .host (UInt64.ofNat (draw + 1)) = false := by
  rw [Bool.eq_false_iff, ne_eq, seedIsInvalid_host]
  have hnat : (UInt64.ofNat (draw + 1)).toNat = draw + 1 := by
    rw [UInt64.toNat_ofNat']
    exact Nat.mod_eq_of_lt (by omega)
  rintro (hseed | hseed)
  · rw [hseed] at hnat
    have hzero : (0 : UInt64).toNat = 0 := rfl
    omega
  · rw [hseed] at hnat
    have hlast : (0xFFFFFFFFFFFFFFFF : UInt64).toNat = 2 ^ 64 - 1 := rfl
    omega

theorem resolve_cases {role : Role} (hrole : role = .host ∨ role = .rig)
    (config : TransportConfig) {draw : Nat} (hdraw : draw < 2 ^ 64 - 2) :
    (∃ seed message, config.sessionSeed = some seed ∧ Session.seedIsInvalid role seed = true ∧
      resolveEffectiveConfig role config draw = configurationError message) ∨
    ∃ seed, SeedFor role config seed ∧
      resolveEffectiveConfig role config draw = .ok { config with sessionSeed := some seed } := by
  unfold resolveEffectiveConfig
  rcases hrole with rfl | rfl
  · rw [if_pos rfl]
    cases hgiven : config.sessionSeed with
    | none =>
        refine Or.inr ⟨UInt64.ofNat (draw + 1), ⟨?_, seedIsInvalid_drawn hdraw⟩, rfl⟩
        intro given h
        rw [hgiven] at h
        cases h
    | some seed =>
        dsimp only [bind, Except.bind]
        by_cases hbad : seed = 0 ∨ seed = 0xFFFFFFFFFFFFFFFF
        · rw [if_pos hbad]
          exact Or.inl ⟨seed, _, rfl, seedIsInvalid_host.mpr hbad, rfl⟩
        · rw [if_neg hbad]
          refine Or.inr ⟨seed, ⟨?_, ?_⟩, rfl⟩
          · intro given h
            rw [hgiven] at h
            cases h
            rfl
          · rw [Bool.eq_false_iff, ne_eq, seedIsInvalid_host]
            exact hbad
  · rw [if_neg (by decide)]
    cases hgiven : config.sessionSeed with
    | none =>
        refine Or.inr ⟨0, ⟨?_, rfl⟩, rfl⟩
        intro given h
        rw [hgiven] at h
        cases h
    | some seed =>
        dsimp only [bind, Except.bind]
        by_cases hbad : seed ≠ 0
        · rw [if_pos hbad]
          exact Or.inl ⟨seed, _, rfl, seedIsInvalid_rig.mpr hbad, rfl⟩
        · rw [if_neg hbad]
          refine Or.inr ⟨seed, ⟨?_, ?_⟩, rfl⟩
          · intro given h
            rw [hgiven] at h
            cases h
            rfl
          · rw [Bool.eq_false_iff, ne_eq, seedIsInvalid_rig]
            exact hbad

/-! ## The native side -/

theorem requiredStorageSize_native (config : TransportConfig) (seed : UInt64) :
    Profile.requiredStorageSize (config.native seed) = config.storageSize := rfl

/-- With positive sizes the only complaint is that the configuration does not fit. -/
theorem storageSize_cases (config : TransportConfig) :
    config.storageSize.1 = .ok ∨ config.storageSize.1 = .unsupportedConfiguration := by
  have hzero : ¬((config.native 0).maxApplicationMessageSize = 0 ∨
      (config.native 0).maxEncodedFrameSize = 0) := by
    have hmessage := config.message_pos
    have hframe := config.frame_pos
    rintro (h | h)
    · have h' : config.maxApplicationMessageSize = 0 := h
      omega
    · have h' : config.maxEncodedFrameSize = 0 := h
      omega
  unfold TransportConfig.storageSize Profile.requiredStorageSize Profile.validateConfigAndSize
  rw [if_neg hzero]
  dsimp only
  split_ifs
  · exact Or.inr rfl
  · exact Or.inr rfl
  · split
    · exact Or.inr rfl
    · exact Or.inl rfl

theorem storageOverlaps_apart {object objectSize : Nat} {storage : Storage}
    (hspace : storage.workspace + storage.workspaceSize ≤ Target.uintptrMax)
    (h : object + objectSize ≤ Target.uintptrMax ∧
      (object + objectSize ≤ storage.workspace ∨
        storage.workspace + storage.workspaceSize ≤ object)) :
    Profile.storageOverlaps object objectSize storage = false := by
  unfold Profile.storageOverlaps
  rw [if_neg (by omega), decide_eq_false_iff_not]
  omega

/-- `Init` takes a valid seed, a configuration that fits and sound memory. -/
theorem init_ok {role : Role} (hrole : role = .host ∨ role = .rig) {config : TransportConfig}
    {seed : UInt64} (hseed : Session.seedIsInvalid role seed = false) {size : Nat}
    (hsize : config.storageSize = (.ok, size)) {memory : Memory} (hworkspace : memory.workspace ≠ 0)
    (hsound : memory.Sound size) :
    ∃ next, Profile.init .zero role (config.native seed)
      { workspace := memory.workspace, workspaceSize := size }
      { context := memory.transport, config := memory.config, storage := memory.storage } =
        (.ok, next) := by
  have hvalid : Profile.validateConfigAndSize (config.native seed) = (.ok, size) := hsize
  have hnone : ¬(role ≠ .host ∧ role ≠ .rig) := by
    rintro ⟨hhost, hrig⟩
    rcases hrole with h | h
    · exact hhost h
    · exact hrig h
  have hstorage : ¬(memory.workspace = 0 ∨ memory.workspace % Target.workspaceAlignment ≠ 0) := by
    rintro (h | h)
    · exact hworkspace h
    · exact h hsound.aligned
  have hsession : ∃ session, Session.init role (config.native seed).sessionSeed
      (config.native seed).initialReliableSequence = (.ok, some session) := by
    have hseed' : Session.seedIsInvalid role (config.native seed).sessionSeed = false := hseed
    unfold Session.init
    rw [if_neg hnone, hseed', if_neg Bool.false_ne_true]
    exact ⟨_, rfl⟩
  have hparser : ∃ parser, Parser.init
      (Profile.carveRegions (config.native seed) memory.workspace).parserScratch
      ((config.native seed).maxEncodedFrameSize - 1) = (.ok, parser) := by
    obtain ⟨-, -, hframe, -, -, -⟩ := validateConfigAndSize_ok hvalid
    have hoverhead : rawOverhead = 18 := rfl
    have hscratch : ¬((Profile.carveRegions (config.native seed) memory.workspace).parserScratch = 0
        ∨ (config.native seed).maxEncodedFrameSize - 1 = 0) := by
      simp only [Profile.carveRegions]
      omega
    unfold Parser.init
    dsimp only
    rw [if_neg hscratch]
    exact ⟨_, rfl⟩
  obtain ⟨session, hsession⟩ := hsession
  obtain ⟨parser, hparser⟩ := hparser
  have hseed' : Session.seedIsInvalid role (config.native seed).sessionSeed = false := hseed
  unfold Profile.init
  rw [if_neg (by simp [Context.zero]), if_neg hnone, hseed', if_neg Bool.false_ne_true, hvalid]
  dsimp only
  rw [if_neg (not_not.mpr rfl), if_neg hstorage, if_neg (Nat.lt_irrefl size),
    storageOverlaps_apart hsound.workspace hsound.transport,
    storageOverlaps_apart hsound.workspace hsound.config,
    storageOverlaps_apart hsound.workspace hsound.storage, if_neg (by decide), hsession]
  dsimp only
  rw [hparser]
  exact ⟨_, rfl⟩

/-- What the adapter returns. A published object holds what `Init` has written. -/
inductive Created (role : Role) (config : Config) (memory : Memory) :
    AdapterStatus × Status × Option Native → Prop
  | unfit : (Profile.requiredStorageSize config).1 ≠ .ok →
      Created role config memory
        (.transportError, (Profile.requiredStorageSize config).1, none)
  | noMemory : (Profile.requiredStorageSize config).1 = .ok →
      memory.transport = 0 ∨ memory.workspace = 0 →
      Created role config memory (.allocationFailed, .ok, none)
  | refused {status : Status} {next : Context} :
      (Profile.requiredStorageSize config).1 = .ok →
      memory.transport ≠ 0 → memory.workspace ≠ 0 → status ≠ .ok →
      Profile.init .zero role config
        { workspace := memory.workspace
          workspaceSize := (Profile.requiredStorageSize config).2 }
        { context := memory.transport, config := memory.config, storage := memory.storage } =
          (status, next) →
      Created role config memory (.transportError, status, none)
  | live {next : Context} :
      (Profile.requiredStorageSize config).1 = .ok →
      memory.transport ≠ 0 → memory.workspace ≠ 0 →
      Profile.init .zero role config
        { workspace := memory.workspace
          workspaceSize := (Profile.requiredStorageSize config).2 }
        { context := memory.transport, config := memory.config, storage := memory.storage } =
          (.ok, next) →
      Created role config memory
        (.ok, .ok, some
          { context := next
            workspace := memory.workspace
            workspaceSize := (Profile.requiredStorageSize config).2 })

theorem created (role : Role) (config : Config) (memory : Memory) :
    Created role config memory (adapterCreate role config memory) := by
  unfold adapterCreate
  dsimp only
  split_ifs with hsize htransport hworkspace hinit
  · exact .unfit hsize
  · exact .noMemory (not_not.mp hsize) (Or.inl htransport)
  · exact .noMemory (not_not.mp hsize) (Or.inr hworkspace)
  · exact .refused (not_not.mp hsize) htransport hworkspace hinit rfl
  · exact .live (not_not.mp hsize) htransport hworkspace (Prod.ext (not_not.mp hinit) rfl)

/-! ## The construction -/

/-- What a construction comes to, in the order of its checks. -/
inductive Constructed (memory : Memory) (thread : Nat) :
    Option { role : Role // role.isListed = true } → Option TransportConfig →
      Except Raised Transport → Prop
  | notRole {config : Option TransportConfig} :
      Constructed memory thread none config (.error (.typeError "role must be a Role"))
  | notConfig {role : { role : Role // role.isListed = true }} :
      Constructed memory thread (some role) none
        (.error (.typeError "config must be a TransportConfig"))
  | badSeed {role : { role : Role // role.isListed = true }} {config : TransportConfig}
      {seed : UInt64} {message : String} : config.sessionSeed = some seed →
      Session.seedIsInvalid role.1 seed = true →
      Constructed memory thread (some role) (some config) (configurationError message)
  | unfit {role : { role : Role // role.isListed = true }} {config : TransportConfig}
      {seed : UInt64} : SeedFor role.1 config seed →
      config.storageSize.1 = .unsupportedConfiguration →
      Constructed memory thread (some role) (some config)
        (.error (.transportError .configuration
          "native Transport rejected the configuration: UNSUPPORTED_CONFIGURATION"
          (some .unsupportedConfiguration) none))
  | noMemory {role : { role : Role // role.isListed = true }} {config : TransportConfig}
      {seed : UInt64} : SeedFor role.1 config seed → config.storageSize.1 = .ok →
      memory.transport = 0 ∨ memory.workspace = 0 →
      Constructed memory thread (some role) (some config)
        (.error (.memoryError "native Transport adapter allocation failed"))
  | live {role : { role : Role // role.isListed = true }} {config : TransportConfig}
      {seed : UInt64} {native : Native} {root : Root} : SeedFor role.1 config seed →
      config.storageSize = (.ok, native.workspaceSize) →
      memory.transport ≠ 0 → memory.workspace ≠ 0 → native.workspace = memory.workspace →
      Profile.rootFromContext native.context = some root → Started role.1 root →
      root.base.config = config.native seed →
      Constructed memory thread (some role) (some config)
        (.ok
          { role := role.1
            config := { config with sessionSeed := some seed }
            ownerThread := thread
            nativeHandle := some native })

section
variable {role : { role : Role // role.isListed = true }} {config : TransportConfig} {draw : Nat}
  {memory : Memory} {thread : Nat}

theorem construct_eq {seed : UInt64}
    (h : resolveEffectiveConfig role.1 config draw =
      .ok { config with sessionSeed := some seed }) :
    Transport.construct (some role) (some config) draw memory thread =
      (match interpretCreationResult
          (adapterStatusNumber (adapterCreate role.1 (config.native seed) memory).1)
          (statusNumber (adapterCreate role.1 (config.native seed) memory).2.1)
          (adapterCreate role.1 (config.native seed) memory).2.2.isSome with
        | .error raised => .error raised
        | .ok _ =>
            .ok
              { role := role.1
                config := { config with sessionSeed := some seed }
                ownerThread := thread
                nativeHandle := (adapterCreate role.1 (config.native seed) memory).2.2 }) := by
  unfold Transport.construct
  dsimp only
  rw [h]
  dsimp only [bind, Except.bind, buildNativeConfig]
  rw [← TransportConfig.native]
  cases interpretCreationResult _ _ _ <;> rfl

/-- What a construction from a role and a configuration comes to. -/
theorem constructed_given (hdraw : draw < 2 ^ 64 - 2)
    (hsound : memory.transport ≠ 0 → memory.workspace ≠ 0 → memory.Sound config.storageSize.2) :
    Constructed memory thread (some role) (some config)
      (Transport.construct (some role) (some config) draw memory thread) := by
  have hrole : role.1 = .host ∨ role.1 = .rig := by
    obtain ⟨role, hlisted⟩ := role
    cases role with
    | host => exact Or.inl rfl
    | rig => exact Or.inr rfl
    | unlisted raw => cases hlisted
  rcases resolve_cases hrole config hdraw with
    ⟨seed, message, hgiven, hbad, hresolve⟩ | ⟨seed, hseed, hresolve⟩
  · unfold Transport.construct
    dsimp only
    rw [hresolve]
    exact .badSeed hgiven hbad
  rw [construct_eq hresolve]
  have hcreated := created role.1 (config.native seed) memory
  generalize adapterCreate role.1 (config.native seed) memory = result at hcreated
  cases hcreated with
  | unfit hsize =>
      rw [requiredStorageSize_native] at hsize ⊢
      have hunfit := (storageSize_cases config).resolve_left hsize
      rw [hunfit]
      exact .unfit hseed hunfit
  | noMemory hsize hnone => exact .noMemory hseed hsize hnone
  | refused hsize htransport hworkspace hstatus hinit =>
      obtain ⟨next, hok⟩ := init_ok hrole hseed.valid (Prod.ext hsize rfl) hworkspace
        (hsound htransport hworkspace)
      have hsame := hinit.symm.trans hok
      cases hsame
      exact absurd rfl hstatus
  | live hsize htransport hworkspace hinit =>
      obtain ⟨s, -, hconfig, hroot, -⟩ := init_refines hinit
      exact .live hseed (Prod.ext hsize rfl) htransport hworkspace rfl hroot
        ⟨_, _, _, _, _, hinit, hroot⟩ hconfig

end

/-- A construction is refused for the type of an argument, for its seed or for its sizes, or
    it fails for memory, or it yields a Transport with a fresh endpoint. -/
theorem construction_classified (role : Option { role : Role // role.isListed = true })
    (config : Option TransportConfig) {draw : Nat} (hdraw : draw < 2 ^ 64 - 2) {memory : Memory}
    (hsound : ∀ given ∈ config, memory.transport ≠ 0 → memory.workspace ≠ 0 →
      memory.Sound given.storageSize.2)
    (thread : Nat) :
    Constructed memory thread role config
      (Transport.construct role config draw memory thread) := by
  cases role with
  | none => exact .notRole
  | some role =>
      cases config with
      | none => exact .notConfig
      | some config => exact constructed_given hdraw (hsound config rfl)

end

/-- The default sizes, without a seed. -/
def facadeConfig : @TransportConfig .lp64 :=
  @TransportConfig.mk .lp64 512 640 none 0 0 10 1 (by decide) (by decide) (by decide) (by decide)

def facadeMemory : Memory where
  transport := 0x20000
  workspace := 0x10000
  config := 0x20100
  storage := 0x20200

theorem construction_classified_drawn :
    @Constructed .lp64 facadeMemory 1 (some ⟨.host, rfl⟩) (some facadeConfig)
      (@Transport.construct .lp64 (some ⟨.host, rfl⟩) (some facadeConfig) 6 facadeMemory 1) :=
  @construction_classified .lp64 (some ⟨.host, rfl⟩) (some facadeConfig) 6 (by decide) facadeMemory
    (fun given hgiven _ _ => by
      obtain rfl := Option.some.inj hgiven
      exact @Memory.Sound.mk .lp64 facadeMemory 3433 (by decide) (by decide) (by decide)
        (by decide) (by decide)) 1

/-! ## What a construction yields -/

section
variable [Target]

omit [Target] in
theorem bind_ok {α β : Type} {x : Except Raised α} {f : α → Except Raised β} {b : β}
    (h : x >>= f = .ok b) : ∃ a, x = .ok a ∧ f a = .ok b := by
  cases x with
  | error raised => cases h
  | ok a => exact ⟨a, rfl, h⟩

theorem resolve_ok {role : Role} {config effective : TransportConfig} {draw : Nat}
    (h : resolveEffectiveConfig role config draw = .ok effective) :
    ∃ seed, effective = { config with sessionSeed := some seed } := by
  unfold resolveEffectiveConfig at h
  dsimp only [bind, Except.bind] at h
  split at h
  · split at h
    · cases h
      exact ⟨_, rfl⟩
    · split at h
      · cases h
      · cases h
        exact ⟨_, rfl⟩
  · split at h
    · cases h
      exact ⟨_, rfl⟩
    · split at h
      · cases h
      · cases h
        exact ⟨_, rfl⟩

omit [Target] in
theorem interpretCreationResult_ok {adapterStatus coreStatusValue : Nat} {handlePublished : Bool}
    (h : interpretCreationResult adapterStatus coreStatusValue handlePublished = .ok ()) :
    handlePublished = true := by
  unfold interpretCreationResult bindingError at h
  dsimp only at h
  by_cases hknown : adapterStatus ∉ [0, 1, 2, 3]
  · rw [if_pos hknown] at h
    cases h
  · rw [if_neg hknown] at h
    split at h
    · cases h
    · split_ifs at h with hsame hsuccess
      exact (not_not.mp hsame).trans hsuccess

/-- A Transport holds the endpoint that `Init` has started. -/
theorem construct_live {role : { role : Role // role.isListed = true }} {config : TransportConfig}
    {draw : Nat} {memory : Memory} {thread : Nat} {transport : Transport}
    (h : Transport.construct (some role) (some config) draw memory thread = .ok transport) :
    ∃ seed native root, transport.config = { config with sessionSeed := some seed } ∧
      transport.ownerThread = thread ∧ transport.nativeHandle = some native ∧
      Profile.rootFromContext native.context = some root ∧ Started role.1 root ∧
      root.base.config = config.native seed := by
  obtain ⟨effective, hresolve, -⟩ := bind_ok h
  obtain ⟨seed, rfl⟩ := resolve_ok hresolve
  rw [construct_eq hresolve] at h
  have hcreated := created role.1 (config.native seed) memory
  generalize adapterCreate role.1 (config.native seed) memory = result at h hcreated
  split at h
  · cases h
  · next hinterpret =>
    have hpublished := interpretCreationResult_ok hinterpret
    cases hcreated with
    | live hsize htransport hworkspace hinit =>
        obtain ⟨s, -, hconfig, hroot, -⟩ := init_refines hinit
        cases h
        exact ⟨seed, _, _, rfl, rfl, rfl, hroot, ⟨_, _, _, _, _, hinit, hroot⟩, hconfig⟩
    | _ => cases hpublished

end

end HilRigProtocol.Binding
