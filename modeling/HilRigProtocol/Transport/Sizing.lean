/-
  The sizes and regions of a configuration that `Init` accepts.

   * `SizeT.validateConfigAndSize_eq`: computed in `size_t`, the required size is the
     sum it stands for.
   * `carved_eq_place`: `Init` places the root and its regions one after another.
   * `exactCobsSize_ok`: the size computed in advance is what the encoder writes.
-/
import HilRigProtocol.Library.Layout
import HilRigProtocol.Transport.FrameRoundTrip
import HilRigProtocol.Transport.Refinement.Steps

namespace HilRigProtocol.Transport

open Library.Cobs

section
variable [Target]

/-! ## The computation in `size_t`

The definitions of the codec and of the profile add natural numbers. Here every
addition wraps, as `size_t` does. The subtractions are the same: each is from
SIZE_MAX, or of one from a size that is not zero. -/

namespace SizeT

/-- `left + right` in `size_t`. -/
def add (left right : Nat) : Nat := (left + right) % (Target.sizeMax + 1)

/-- `HIL_TRANSPORT_COBS_Max_Encoded_Size` -/
def cobsMaxEncodedSize (inputSize : Nat) : Status × Nat :=
  if inputSize = 0 then (.ok, 1)
  else if inputSize > Target.sizeMax - 253 then (.unsupportedConfiguration, 0)
  else
    let blockCount := add inputSize 253 / 254
    if inputSize > Target.sizeMax - blockCount then (.unsupportedConfiguration, 0)
    else (.ok, add inputSize blockCount)

/-- `HIL_TRANSPORT_MVP_Max_Encoded_Size` -/
def maxEncodedSize (maximumApplicationMessageSize : Nat) : Nat :=
  if maximumApplicationMessageSize = 0
      ∨ maximumApplicationMessageSize > Target.sizeMax - rawOverhead then 0
  else
    let (status, cobsSize) := cobsMaxEncodedSize (add maximumApplicationMessageSize rawOverhead)
    if status ≠ .ok then 0
    else if cobsSize = Target.sizeMax then 0
    else add cobsSize 1

/-- `HIL_TRANSPORT_MVP_Checked_Add` -/
def checkedAdd (left right : Nat) : Option Nat :=
  if left > Target.sizeMax - right then none else some (add left right)

/-- `HIL_TRANSPORT_MVP_Validate_Config_And_Size` -/
def validateConfigAndSize (config : Config) : Status × Nat :=
  if config.maxApplicationMessageSize = 0 ∨ config.maxEncodedFrameSize = 0 then
    (.invalidArgument, 0)
  else if config.connectionTimeoutMs ≠ 0 then (.unsupportedConfiguration, 0)
  else
    let encodedMinimum := maxEncodedSize config.maxApplicationMessageSize
    if encodedMinimum = 0 ∨ config.maxEncodedFrameSize < encodedMinimum then
      (.unsupportedConfiguration, 0)
    else
      let totalSize := do
        let rawScratchSize ← checkedAdd config.maxApplicationMessageSize rawOverhead
        let total ← checkedAdd Target.sizeofRoot config.maxApplicationMessageSize
        let total ← checkedAdd total config.maxEncodedFrameSize
        let total ← checkedAdd total (config.maxEncodedFrameSize - 1)
        let total ← checkedAdd total rawScratchSize
        checkedAdd total config.maxApplicationMessageSize
      match totalSize with
      | none => (.unsupportedConfiguration, 0)
      | some requiredSize => (.ok, requiredSize)

theorem add_eq {left right : Nat} (h : left + right ≤ Target.sizeMax) :
    add left right = left + right :=
  Nat.mod_eq_of_lt (Nat.lt_succ_of_le h)

theorem cobsMaxEncodedSize_eq (inputSize : Nat) :
    cobsMaxEncodedSize inputSize = Transport.cobsMaxEncodedSize inputSize := by
  unfold cobsMaxEncodedSize Transport.cobsMaxEncodedSize
  by_cases hzero : inputSize = 0
  · rw [if_pos hzero, if_pos hzero]
  rw [if_neg hzero, if_neg hzero]
  by_cases hlarge : inputSize > Target.sizeMax - 253
  · rw [if_pos hlarge, if_pos hlarge]
  rw [if_neg hlarge, if_neg hlarge, add_eq (by omega)]
  dsimp only
  by_cases hsum : inputSize > Target.sizeMax - (inputSize + 253) / 254
  · rw [if_pos hsum, if_pos hsum]
  rw [if_neg hsum, if_neg hsum, add_eq (by omega)]

theorem cobsMaxEncodedSize_le {inputSize : Nat} (h : 0 < inputSize) :
    (Transport.cobsMaxEncodedSize inputSize).2 ≤ Target.sizeMax := by
  unfold Transport.cobsMaxEncodedSize
  rw [if_neg (by omega)]
  by_cases hlarge : inputSize > Target.sizeMax - 253
  · rw [if_pos hlarge]
    exact Nat.zero_le _
  rw [if_neg hlarge]
  dsimp only
  split_ifs <;> dsimp only <;> omega

theorem maxEncodedSize_eq (maximumApplicationMessageSize : Nat) :
    maxEncodedSize maximumApplicationMessageSize =
      Transport.maxEncodedSize maximumApplicationMessageSize := by
  unfold maxEncodedSize Transport.maxEncodedSize
  by_cases hrange : maximumApplicationMessageSize = 0
      ∨ maximumApplicationMessageSize > Target.sizeMax - rawOverhead
  · rw [if_pos hrange, if_pos hrange]
  rw [if_neg hrange, if_neg hrange, add_eq (by omega), cobsMaxEncodedSize_eq]
  dsimp only
  by_cases hstatus : (Transport.cobsMaxEncodedSize
      (maximumApplicationMessageSize + rawOverhead)).1 ≠ .ok
  · rw [if_pos hstatus, if_pos hstatus]
  rw [if_neg hstatus, if_neg hstatus]
  by_cases hmax : (Transport.cobsMaxEncodedSize
      (maximumApplicationMessageSize + rawOverhead)).2 = Target.sizeMax
  · rw [if_pos hmax, if_pos hmax]
  rw [if_neg hmax, if_neg hmax, add_eq]
  have hle : (Transport.cobsMaxEncodedSize
      (maximumApplicationMessageSize + rawOverhead)).2 ≤ Target.sizeMax :=
    cobsMaxEncodedSize_le (by omega)
  omega

theorem checkedAdd_eq {left right : Nat} (h : 0 < left ∨ right ≤ Target.sizeMax) :
    checkedAdd left right = Profile.checkedAdd left right := by
  unfold checkedAdd Profile.checkedAdd
  by_cases hlarge : left > Target.sizeMax - right
  · rw [if_pos hlarge, if_pos hlarge]
  rw [if_neg hlarge, if_neg hlarge, add_eq (by omega)]

/-- Continuations that agree on the sum agree after the checked addition. -/
theorem checkedAdd_bind {left right : Nat} {f g : Nat → Option Nat}
    (h : 0 < left ∨ right ≤ Target.sizeMax) (hcontinue : f (left + right) = g (left + right)) :
    (checkedAdd left right).bind f = (Profile.checkedAdd left right).bind g := by
  rw [checkedAdd_eq h]
  cases hsum : Profile.checkedAdd left right with
  | none => rfl
  | some sum =>
      rw [checkedAdd_eq_some hsum]
      exact hcontinue

/-- The wrapping computation is the exact one, for every configuration. -/
theorem validateConfigAndSize_eq (config : Config) :
    validateConfigAndSize config = Profile.validateConfigAndSize config := by
  unfold validateConfigAndSize Profile.validateConfigAndSize
  by_cases hzero : config.maxApplicationMessageSize = 0 ∨ config.maxEncodedFrameSize = 0
  · rw [if_pos hzero, if_pos hzero]
  rw [if_neg hzero, if_neg hzero]
  by_cases htimeout : config.connectionTimeoutMs ≠ 0
  · rw [if_pos htimeout, if_pos htimeout]
  rw [if_neg htimeout, if_neg htimeout, maxEncodedSize_eq]
  dsimp only
  by_cases hminimum : Transport.maxEncodedSize config.maxApplicationMessageSize = 0 ∨
      config.maxEncodedFrameSize < Transport.maxEncodedSize config.maxApplicationMessageSize
  · rw [if_pos hminimum, if_pos hminimum]
  rw [if_neg hminimum, if_neg hminimum]
  obtain ⟨hpos, hraw, -⟩ := maxEncodedSize_ne_zero fun hz => hminimum (Or.inl hz)
  -- every later sum contains the maximum message size, which is not zero
  congr 1
  refine checkedAdd_bind (Or.inl hpos) ?_
  refine checkedAdd_bind (Or.inr (by omega)) ?_
  refine checkedAdd_bind (Or.inl (by omega)) ?_
  refine checkedAdd_bind (Or.inl (by omega)) ?_
  refine checkedAdd_bind (Or.inl (by omega)) ?_
  exact checkedAdd_eq (Or.inl (by omega))

end SizeT

/-! ## The regions -/

/-- The start and the size of the root and of each region after it. -/
def carved (workspace : Nat) (root : Root) : List (Nat × Nat) :=
  [(workspace, Target.sizeofRoot),
   (root.regions.submittedMessage, root.base.config.maxApplicationMessageSize),
   (root.regions.encodedOutput, root.encodedOutputCapacity),
   (root.regions.parserScratch, root.parser.scratchBufferSize),
   (root.regions.codecScratch, root.codecScratchSize),
   (root.regions.receivedMessage, root.base.config.maxApplicationMessageSize)]

/-- The sizes of the regions of a configuration. -/
def regionSizes (config : Config) : List Nat :=
  [Target.sizeofRoot, config.maxApplicationMessageSize, config.maxEncodedFrameSize,
   config.maxEncodedFrameSize - 1, config.maxApplicationMessageSize + rawOverhead,
   config.maxApplicationMessageSize]

/-- The root that `Init` writes for a configuration has the sizes of the configuration. -/
structure SizedFor (config : Config) (workspace : Nat) (root : Root) : Prop where
  sameConfig : root.base.config = config
  regions : root.regions = Profile.carveRegions config workspace
  encodedOutput : root.encodedOutputCapacity = config.maxEncodedFrameSize
  parser : root.parser.scratchBufferSize = config.maxEncodedFrameSize - 1
  codecScratch : root.codecScratchSize = config.maxApplicationMessageSize + rawOverhead

theorem sizedFor_of_init {context next : Context} {role : Role} {config : Config}
    {storage : Storage} {placement : Placement} {root : Root}
    (hinit : Profile.init context role config storage placement = (.ok, next))
    (hroot : Profile.rootFromContext next = some root) :
    SizedFor config storage.workspace root := by
  obtain ⟨-, -, -, requiredSize, session, parser, -, -, hparser, rfl⟩ := init_eq hinit
  unfold Profile.rootFromContext at hroot
  dsimp only at hroot
  split_ifs at hroot
  cases hroot
  have hscratch : parser.scratchBufferSize = config.maxEncodedFrameSize - 1 := by
    unfold Parser.init at hparser
    dsimp only at hparser
    split_ifs at hparser
    · cases hparser
    · cases hparser
      rfl
  exact ⟨rfl, rfl, rfl, hscratch, rfl⟩

theorem carved_eq_place {config : Config} {workspace : Nat} {root : Root}
    (h : SizedFor config workspace root) :
    carved workspace root = Library.Layout.place workspace (regionSizes config) := by
  unfold carved
  rw [h.sameConfig, h.regions, h.encodedOutput, h.parser, h.codecScratch]
  rfl

/-! ## The frames -/

/-- Where a frame that passes the checks has room, `validateFrame` alone decides how
    encoding ends. -/
theorem encodeFrame_fits {frame : Frame} {maximum rawScratchSize outBufferSize : Nat}
    (hrawMax : rawScratchSize ≤ Target.sizeMax) (houtMax : outBufferSize ≤ Target.sizeMax)
    (hroom : validateFrame frame maximum = .ok →
      (rawFrame frame).length ≤ rawScratchSize ∧ (encodedFrame frame).length ≤ outBufferSize) :
    encodeFrame frame maximum rawScratchSize outBufferSize =
      (validateFrame frame maximum,
        if validateFrame frame maximum = .ok then encodedFrame frame else []) := by
  by_cases hvalid : validateFrame frame maximum = .ok
  · obtain ⟨hraw, hout⟩ := hroom hvalid
    rw [length_rawFrame, Nat.add_comm] at hraw
    rw [if_pos hvalid, hvalid]
    exact encodeFrame_eq hvalid hraw hrawMax hout houtMax
  · rw [if_neg hvalid]
    unfold encodeFrame
    dsimp only
    rw [if_pos hvalid]

omit [Target] in
/-- The checks of a frame never speak about buffers. -/
theorem validateFrame_ne (frame : Frame) (maximum : Nat) :
    validateFrame frame maximum ≠ .bufferTooSmall ∧
      validateFrame frame maximum ≠ .internalError := by
  obtain ⟨type, sessionIdentifier, sequence, acknowledgementSequence, payload⟩ := frame
  cases type <;> simp only [validateFrame] <;> split_ifs <;> simp_all

omit [Target] in
/-- An ACK or a RESET that passes the checks has no payload. -/
theorem payload_nil_of_validateFrame {frame : Frame} {maximum : Nat}
    (htype : frame.type = .ack ∨ frame.type = .reset)
    (hvalid : validateFrame frame maximum = .ok) : frame.payload = [] := by
  have happlication : frame.type ≠ .applicationMessage := by
    rcases htype with htype | htype <;> rw [htype] <;> decide
  unfold validateFrame at hvalid
  rw [if_neg (fun h => by rw [if_pos h] at hvalid; cases hvalid), if_neg happlication] at hvalid
  by_contra hpayload
  rw [if_pos (by simpa using hpayload)] at hvalid
  cases hvalid

/-! ## Soundness -/

/-- What sizing promises of a configuration, the storage and the root in it. -/
structure SizingSound (config : Config) (storage : Storage) (requiredSize : Nat) (root : Root) :
    Prop where
  /-- No addition of the computation wraps, and its result is the sum of the regions. -/
  neverWraps : SizeT.validateConfigAndSize config = (.ok, requiredSize) ∧
    requiredSize = (regionSizes config).sum ∧ requiredSize ≤ Target.sizeMax ∧
    SizeT.add config.maxApplicationMessageSize rawOverhead = root.codecScratchSize
  insideStorage : requiredSize ≤ storage.workspaceSize ∧
    storage.workspace + requiredSize ≤ Target.uintptrMax
  disjoint : (carved storage.workspace root).Pairwise fun region other =>
    Disjoint (Library.Layout.addresses region) (Library.Layout.addresses other)
  fills : (⋃ region ∈ carved storage.workspace root, Library.Layout.addresses region) =
    Library.Layout.addresses (storage.workspace, requiredSize)
  /-- Only `validateFrame` decides whether a frame with such a payload is encoded. -/
  encodes : ∀ frame : Frame, frame.payload.length ≤ config.maxApplicationMessageSize →
    ∀ status bytes,
      encodeFrame frame config.maxApplicationMessageSize root.codecScratchSize
        root.encodedOutputCapacity = (status, bytes) →
      status = validateFrame frame config.maxApplicationMessageSize ∧
        status ≠ .bufferTooSmall ∧ status ≠ .internalError
  /-- What is encoded fits where it is produced and where the peer takes it apart. -/
  fits : ∀ frame bytes,
    encodeFrame frame config.maxApplicationMessageSize root.codecScratchSize
      root.encodedOutputCapacity = (.ok, bytes) →
    bytes.length ≤ root.encodedOutputCapacity ∧ ∃ body, bytes = body ++ [0] ∧
      body.length ≤ root.parser.scratchBufferSize ∧
      (rawFrame frame).length ≤ root.codecScratchSize ∧
      decodeFrameView body root.codecScratchSize config.maxApplicationMessageSize =
        (.ok, frame, .valid)
  control : ∀ frame : Frame, frame.type = .ack ∨ frame.type = .reset →
    ∀ status bytes,
      encodeFrame frame config.maxApplicationMessageSize root.codecScratchSize
        controlOutputCapacity = (status, bytes) →
      status = validateFrame frame config.maxApplicationMessageSize ∧
        bytes.length ≤ controlOutputCapacity

/-- The size computed for an input is the number of bytes that the encoder writes. -/
structure CobsSizeExact : Prop where
  exact : ∀ input size, exactCobsSize input = (.ok, size) →
    ∀ outputSize, size ≤ outputSize →
      ∃ code, cobsEncode input outputSize = (.ok, code) ∧ code.length = size
  bounded : ∀ input size, exactCobsSize input = (.ok, size) →
    size ≤ input.length + (input.length + 253) / 254
  computed : ∀ input : List UInt8, input ≠ [] →
    input.length + (input.length + 253) / 254 ≤ Target.sizeMax →
    ∃ size, exactCobsSize input = (.ok, size)

theorem cobsSizeExact : CobsSizeExact where
  exact := by
    intro input size h outputSize hroom
    obtain ⟨hne, rfl⟩ := exactCobsSize_ok h
    exact ⟨_, cobsEncode_eq hne hroom, rfl⟩
  bounded := by
    intro input size h
    obtain ⟨hne, rfl⟩ := exactCobsSize_ok h
    exact length_cobsCode_le hne
  computed := by
    intro input hne hmax
    exact ⟨_, exactCobsSize_eq hne (le_trans (length_cobsCode_le hne) hmax)⟩

/-- The regions of a sized root lie in the storage without overlap, and none is too
    small. -/
theorem sizingSound_of_sizedFor {config : Config} {storage : Storage} {requiredSize : Nat}
    {root : Root} (hsize : Profile.validateConfigAndSize config = (.ok, requiredSize))
    (hstorage : requiredSize ≤ storage.workspaceSize)
    (hend : storage.workspace + storage.workspaceSize ≤ Target.uintptrMax)
    (h : SizedFor config storage.workspace root) :
    SizingSound config storage requiredSize root := by
  obtain ⟨hpos, hraw, hframe, hmax, hsum, hsizeMax⟩ := validateConfigAndSize_ok hsize
  have hoverhead : rawOverhead = 18 := rfl
  have hcontrol : controlOutputCapacity = 20 := rfl
  have hscratch := h.codecScratch
  have hregions : requiredSize = (regionSizes config).sum := by
    rw [hsum]
    simp [regionSizes, Nat.add_assoc]
  have hroom : ∀ frame : Frame, frame.payload.length ≤ config.maxApplicationMessageSize →
      (rawFrame frame).length ≤ root.codecScratchSize ∧
        (encodedFrame frame).length ≤ root.encodedOutputCapacity := by
    intro frame hpayload
    rw [h.encodedOutput, h.codecScratch, length_rawFrame]
    exact ⟨by omega, le_trans (length_encodedFrame_le hpayload) hframe⟩
  have hencode : ∀ frame : Frame, encodeFrame frame config.maxApplicationMessageSize
      root.codecScratchSize root.encodedOutputCapacity =
        (validateFrame frame config.maxApplicationMessageSize,
          if validateFrame frame config.maxApplicationMessageSize = .ok then encodedFrame frame
          else []) := by
    intro frame
    refine encodeFrame_fits (by omega) (by rw [h.encodedOutput]; exact hmax) ?_
    exact fun hvalid => hroom frame (length_payload_le_of_validateFrame hvalid)
  constructor
  · refine ⟨by rw [SizeT.validateConfigAndSize_eq, hsize], hregions, hsizeMax, ?_⟩
    rw [SizeT.add_eq hraw, h.codecScratch]
  · exact ⟨hstorage, by omega⟩
  · rw [carved_eq_place h]
    exact Library.Layout.place_disjoint _ _
  · rw [carved_eq_place h, hregions]
    exact Library.Layout.place_fills _ _
  · intro frame _ status bytes hbytes
    rw [hencode frame] at hbytes
    cases hbytes
    exact ⟨rfl, validateFrame_ne frame _⟩
  · intro frame bytes hbytes
    rw [hencode frame, Prod.mk.injEq] at hbytes
    obtain ⟨hvalid, rfl⟩ := hbytes
    obtain ⟨hfitsRaw, hfitsOut⟩ := hroom frame (length_payload_le_of_validateFrame hvalid)
    rw [if_pos hvalid]
    refine ⟨hfitsOut, cobsCode (rawFrame frame), rfl, ?_, hfitsRaw, ?_⟩
    · rw [encodedFrame, List.length_append, List.length_singleton, h.encodedOutput] at hfitsOut
      rw [h.parser]
      omega
    · exact decodeFrameView_cobsCode hvalid (by omega) (by omega)
  · intro frame htype status bytes hbytes
    have hshort : validateFrame frame config.maxApplicationMessageSize = .ok →
        (encodedFrame frame).length ≤ controlOutputCapacity := fun hvalid =>
      length_encodedFrame_of_payload_nil (payload_nil_of_validateFrame htype hvalid)
    rw [encodeFrame_fits (by omega) (by omega) fun hvalid =>
      ⟨(hroom frame (length_payload_le_of_validateFrame hvalid)).1, hshort hvalid⟩] at hbytes
    cases hbytes
    refine ⟨rfl, ?_⟩
    by_cases hvalid : validateFrame frame config.maxApplicationMessageSize = .ok
    · rw [if_pos hvalid]
      exact hshort hvalid
    · rw [if_neg hvalid]
      exact Nat.zero_le _

/-- Sizing is sound for every configuration that is sized and initialized, for any range
    of `size_t`, and the exact COBS size is exact for every input. -/
theorem sizing_sound {context next : Context} {role : Role} {config : Config} {storage : Storage}
    {placement : Placement} {requiredSize : Nat} {root : Root}
    (hsize : Profile.requiredStorageSize config = (.ok, requiredSize))
    (hinit : Profile.init context role config storage placement = (.ok, next))
    (hroot : Profile.rootFromContext next = some root) :
    SizingSound config storage requiredSize root ∧ CobsSizeExact := by
  obtain ⟨-, -, -, size, -, -, ⟨hvalid, hstorage, hend⟩, -⟩ := init_eq hinit
  have hsame : size = requiredSize := by
    have heq : (Status.ok, size) = (.ok, requiredSize) := hvalid.symm.trans hsize
    cases heq
    rfl
  subst hsame
  exact ⟨sizingSound_of_sizedFor hvalid hstorage hend (sizedFor_of_init hinit hroot),
    cobsSizeExact⟩

end

theorem sizing_sound_host :
    ∃ root : Root,
      @Profile.rootFromContext .lp64 (@Profile.init .lp64 .zero .host sampleConfig sampleStorage
        samplePlacement).2 = some root ∧
      @SizingSound .lp64 sampleConfig sampleStorage 3433 root ∧ @CobsSizeExact .lp64 :=
  ⟨_, rfl, @sizing_sound .lp64 .zero
    (@Profile.init .lp64 .zero .host sampleConfig sampleStorage samplePlacement).2 .host
    sampleConfig sampleStorage samplePlacement 3433 _ rfl rfl rfl⟩

end HilRigProtocol.Transport
