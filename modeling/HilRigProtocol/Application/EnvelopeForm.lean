/-
  The envelope on the wire.

  `HIL_APPLICATION_Header_Decoding` accepts the bytes that start with the 23 bytes of an
  envelope whose fields pass its checks. The envelope and its payload make up the message:
  the length field is what is left of it.
-/
import HilRigProtocol.Application.StorageSize

namespace HilRigProtocol.Application

open Library Library.Reader

/-! ## Types -/

theorem MessageType.ofByte_value (type : MessageType) :
    MessageType.ofByte? type.value = some type := by
  cases type <;> rfl

/-- One comparison of the chain. -/
theorem ofByte_step {byte value : UInt8} {type found : MessageType} {rest : Option MessageType}
    (hvalue : value = type.value) (hrest : rest = some found → byte = found.value)
    (h : (if byte = value then some type else rest) = some found) : byte = found.value := by
  by_cases heq : byte = value
  · rw [if_pos heq] at h
    rw [heq, hvalue, Option.some.inj h]
  · rw [if_neg heq] at h
    exact hrest h

theorem MessageType.ofByte_eq_some {wireType : UInt8} {type : MessageType} :
    MessageType.ofByte? wireType = some type ↔ wireType = type.value := by
  constructor
  · intro h
    revert h
    iterate 16 refine ofByte_step rfl ?_
    intro h
    exact absurd h (by simp)
  · rintro rfl
    exact type.ofByte_value

/-! ## Headers -/

/-- The envelope passes the checks of its own that every typed message repeats. -/
def Envelope.Checked (envelope : Envelope) : Prop :=
  validateEnvelopeFields envelope.type envelope.subtype envelope.hasTestId = .ok ()

/-- The header of an envelope: it speaks the version of this codec unless the message is a
    discovery message, and an absent Test ID is zero. -/
structure Envelope.Form (envelope : Envelope) (form : List UInt8) : Prop where
  checked : envelope.Checked
  absent : envelope.hasTestId = 0 → testIdIsZero envelope.testId
  version : ¬ envelope.type.isDiscovery → envelope.protocolMajor = protocolVersionMajor.toUInt8
    ∧ envelope.protocolMinor = protocolVersionMinor.toUInt8
  layout : ∃ wireSubtype, enumToU8 envelope.subtype = some wireSubtype
    ∧ form = [envelope.protocolMajor, envelope.protocolMinor, envelope.hasTestId]
      ++ envelope.testId.toList ++ [envelope.type.value, wireSubtype]
      ++ encodeU16Le envelope.payloadLength

theorem Envelope.Form.length_eq {envelope : Envelope} {form : List UInt8}
    (h : envelope.Form form) : form.length = headerSizeBytes := by
  obtain ⟨wireSubtype, -, rfl⟩ := h.layout
  simp only [List.length_append, List.Vector.toList_length, length_encodeU16Le, List.length_cons,
    List.length_nil]
  rfl

theorem Envelope.Checked.hasTestId_le {envelope : Envelope} (h : envelope.Checked) :
    ¬ envelope.hasTestId > 1 := by
  intro hgt
  unfold Envelope.Checked validateEnvelopeFields at h
  rw [bind_eq_ok] at h
  obtain ⟨⟨⟩, -, h⟩ := h
  rw [if_pos hgt] at h
  exact fail_ne_ok _ _ h

theorem headerDecoding_iff {encodedMessage : List UInt8} {envelope : Envelope} :
    headerDecoding encodedMessage = .ok envelope ↔
      ∃ form rest, envelope.Form form ∧ encodedMessage = form ++ rest := by
  constructor
  · intro h
    unfold headerDecoding at h
    split at h
    case isTrue => exact absurd h (fail_ne_ok _ _)
    rw [bind_eq_ok] at h
    obtain ⟨⟨protocolMajor, _⟩, hmajor, h⟩ := h
    obtain ⟨_, rfl, rfl⟩ := (read_eq_ok reads_byte).mp hmajor
    rw [bind_eq_ok] at h
    obtain ⟨⟨protocolMinor, _⟩, hminor, h⟩ := h
    obtain ⟨_, rfl, rfl⟩ := (read_eq_ok reads_byte).mp hminor
    rw [bind_eq_ok] at h
    obtain ⟨⟨hasTestId, _⟩, hhas, h⟩ := h
    obtain ⟨_, rfl, rfl⟩ := (read_eq_ok reads_byte).mp hhas
    dsimp only at h
    split at h
    case isTrue => exact absurd h (fail_ne_ok _ _)
    rw [bind_eq_ok] at h
    obtain ⟨⟨testId, _⟩, hid, h⟩ := h
    obtain ⟨_, rfl, rfl⟩ := (read_eq_ok (reads_bytes 16)).mp hid
    dsimp only at h
    split at h
    case isTrue => exact absurd h (fail_ne_ok _ _)
    case isFalse habsent =>
    rw [bind_eq_ok] at h
    obtain ⟨⟨wireType, _⟩, hwireType, h⟩ := h
    obtain ⟨_, rfl, rfl⟩ := (read_eq_ok reads_byte).mp hwireType
    rw [bind_eq_ok] at h
    obtain ⟨⟨subtype, _⟩, hsubtype, h⟩ := h
    obtain ⟨_, ⟨wireSubtype, hwire, rfl⟩, rfl⟩ := (read_eq_ok reads_enum).mp hsubtype
    rw [bind_eq_ok] at h
    obtain ⟨⟨payloadLength, rest⟩, hlength, h⟩ := h
    obtain ⟨_, rfl, rfl⟩ := (read_eq_ok reads_u16).mp hlength
    rw [bind_eq_ok] at h
    obtain ⟨type, htype, h⟩ := h
    rw [checked_eq_ok, MessageType.ofByte_eq_some] at htype
    rw [bind_eq_ok] at h
    obtain ⟨⟨⟩, hchecked, h⟩ := h
    split at h
    case isTrue => exact absurd h (fail_ne_ok _ _)
    case isFalse hversion =>
    obtain rfl := Except.ok.inj h
    refine ⟨_, rest, ⟨hchecked, fun hzero => ?_, fun hdiscovery => ?_, wireSubtype, hwire, rfl⟩, ?_⟩
    · by_contra hid
      exact habsent ⟨hzero, hid⟩
    · by_contra hother
      exact hversion ⟨hdiscovery, not_and_or.mp hother⟩
    · subst htype
      simp only [List.append_assoc]
      rfl
  · rintro ⟨form, rest, h, rfl⟩
    have hlen := h.length_eq
    obtain ⟨wireSubtype, hwire, rfl⟩ := h.layout
    unfold headerDecoding
    rw [if_neg (by rw [List.length_append, hlen]; omega)]
    simp only [List.append_assoc]
    rw [show ∀ a b c : UInt8, ∀ xs, [a, b, c] ++ xs = [a] ++ ([b] ++ ([c] ++ xs)) from
      fun _ _ _ _ => rfl, read_append reads_byte rfl, ok_bind]
    dsimp only
    rw [read_append reads_byte rfl, ok_bind]
    dsimp only
    rw [read_append reads_byte rfl, ok_bind]
    dsimp only
    rw [if_neg h.checked.hasTestId_le, read_append (reads_bytes 16) rfl, ok_bind]
    dsimp only
    rw [if_neg fun habsent => habsent.2 (h.absent habsent.1),
      show ∀ a b : UInt8, ∀ xs, [a, b] ++ xs = [a] ++ ([b] ++ xs) from fun _ _ _ => rfl,
      read_append reads_byte rfl, ok_bind]
    dsimp only
    rw [read_append reads_enum ⟨wireSubtype, hwire, rfl⟩, ok_bind]
    dsimp only
    rw [read_append reads_u16 rfl, ok_bind]
    dsimp only
    rw [MessageType.ofByte_value, checked, ok_bind]
    have hchecked := h.checked
    unfold Envelope.Checked at hchecked
    rw [hchecked, ok_bind, if_neg]
    rintro ⟨hdiscovery, hother⟩
    exact not_and_or.mpr hother (h.version hdiscovery)

/-! ## Framing -/

section
variable [Target]

theorem payloadOf_iff {envelope : Envelope} {encodedMessage payload : List UInt8} :
    payloadOf envelope encodedMessage = .ok payload ↔
      encodedMessage.length = headerSizeBytes + envelope.payloadLength.toNat
        ∧ payload = encodedMessage.drop headerSizeBytes := by
  have hlength := envelope.payloadLength.toNat_lt
  have hheader : headerSizeBytes = 23 := rfl
  unfold payloadOf
  rw [checkedAddSize_of_le (le_sizeMax (by omega)), checked, ok_bind]
  constructor
  · intro h
    split at h
    case isTrue => exact absurd h (fail_ne_ok _ _)
    split at h
    case isTrue => exact absurd h (fail_ne_ok _ _)
    case isFalse htotal => exact ⟨(not_not.mp htotal).symm, (Except.ok.inj h).symm⟩
  · rintro ⟨htotal, rfl⟩
    rw [if_neg (by omega), if_neg (by omega)]

/-- A message is its header and as many bytes as the header says. -/
theorem framed_iff {envelope : Envelope} {encodedMessage payload : List UInt8} :
    headerDecoding encodedMessage = .ok envelope ∧ payloadOf envelope encodedMessage = .ok payload ↔
      ∃ header, envelope.Form header ∧ encodedMessage = header ++ payload
        ∧ payload.length = envelope.payloadLength.toNat := by
  rw [headerDecoding_iff, payloadOf_iff]
  constructor
  · rintro ⟨⟨header, rest, hform, rfl⟩, htotal, rfl⟩
    rw [List.length_append, hform.length_eq] at htotal
    rw [List.drop_left' hform.length_eq]
    exact ⟨header, hform, rfl, Nat.add_left_cancel htotal⟩
  · rintro ⟨header, hform, rfl, hlength⟩
    refine ⟨⟨header, payload, hform, rfl⟩, ?_, (List.drop_left' hform.length_eq).symm⟩
    rw [List.length_append, hform.length_eq, hlength]

end

end HilRigProtocol.Application
