import MannyUploader.Application.ConfigurationService

/-! The envelope of a stored secret. It names the secret it belongs to, and a checksum stands
at its end. -/
namespace MannyUploader.Application

/-- The discriminants of the enumeration. -/
def SecretId.code : SecretId → Nat
  | .dpsReportUserToken => 1
  | .donBotGw2ApiKey => 2
  | .twitchOAuthSession => 3

theorem SecretId.code_injective {id id' : SecretId} (same : id.code = id'.code) : id = id' := by
  cases id <;> cases id' <;> first | rfl | cases same

theorem SecretId.code_lt (id : SecretId) : id.code < 256 ^ 4 := by
  cases id <;> decide

end MannyUploader.Application

namespace MannyUploader.Config.SecretEnvelope
open Application Domain Foundation

/-- `MNYSECR1`. -/
def magic : List UInt8 := [77, 78, 89, 83, 69, 67, 82, 49]

def headerBytes : Nat := 20
def checksumBytes : Nat := 4

/-- The envelope without its checksum. -/
def sealed (id : SecretId) (value : SecretValue) : List UInt8 :=
  magic ++ (toLittle 4 1 ++ (toLittle 4 id.code ++ (toLittle 4 value.length ++ value)))

/-- `hash` is the CRC of the library. -/
def encodeEnvelope (hash : List UInt8 → UInt32) (id : SecretId) (value : SecretValue) :
    List UInt8 :=
  sealed id value ++ toLittle 4 (hash (sealed id value)).toNat

def corrupt (id : SecretId) : SecretStoreError := ⟨some id, .corruptRecord, none⟩

def number (bytes : List UInt8) (start : Nat) : Nat := ofLittle (slice bytes start 4)

def decodeEnvelope (hash : List UInt8 → UInt32) (id : SecretId) (bytes : List UInt8) :
    Except SecretStoreError SecretValue :=
  if !(headerBytes + checksumBytes + 1 ≤ bytes.length &&
      bytes.length ≤ headerBytes + checksumBytes + maxSecretBytes) then .error (corrupt id)
  else if slice bytes 0 8 != magic || number bytes 8 != 1 || number bytes 12 != id.code then
    .error (corrupt id)
  else
    let payload := number bytes 16
    if !(1 ≤ payload && payload ≤ maxSecretBytes) ||
        payload != bytes.length - headerBytes - checksumBytes then .error (corrupt id)
    else
      let stop := bytes.length - checksumBytes
      if number bytes stop != (hash (bytes.take stop)).toNat then .error (corrupt id)
      else .ok (slice bytes headerBytes (stop - headerBytes))

section envelope
variable (hash : List UInt8 → UInt32) {id id' : SecretId} {value bytes : List UInt8}

variable (id value) in
theorem length_sealed : (sealed id value).length = headerBytes + value.length := by
  simp only [sealed, magic, headerBytes, List.length_append, length_toLittle, List.length_cons,
    List.length_nil]
  omega

variable (id value) in
theorem length_envelope : (encodeEnvelope hash id value).length =
    headerBytes + value.length + checksumBytes := by
  rw [encodeEnvelope, List.length_append, length_sealed, length_toLittle, checksumBytes]

variable (id value) in
/-- The envelope, field by field. -/
theorem envelope_eq : encodeEnvelope hash id value = magic ++ (toLittle 4 1 ++
    (toLittle 4 id.code ++ (toLittle 4 value.length ++ (value ++
      toLittle 4 (hash (sealed id value)).toNat)))) := by
  simp only [encodeEnvelope, sealed, List.append_assoc]

variable (id value) in
theorem fields_envelope (small : value.length < 256 ^ 4) :
    slice (encodeEnvelope hash id value) 0 8 = magic ∧
      number (encodeEnvelope hash id value) 8 = 1 ∧
      number (encodeEnvelope hash id value) 12 = id.code ∧
      number (encodeEnvelope hash id value) 16 = value.length ∧
      slice (encodeEnvelope hash id value) headerBytes value.length = value := by
  have magicLength : magic.length = 8 := rfl
  rw [envelope_eq]
  refine ⟨slice_front _ _ rfl, ?_, ?_, ?_, ?_⟩
  · rw [number, slice_behind _ _ 0 (by simp [magicLength]), slice_front _ _ (by simp),
      ofLittle_toLittle (by decide)]
  · rw [number, slice_behind _ _ 4 (by simp [magicLength]), slice_behind _ _ 0 (by simp),
      slice_front _ _ (by simp), ofLittle_toLittle id.code_lt]
  · rw [number, slice_behind _ _ 8 (by simp [magicLength]), slice_behind _ _ 4 (by simp),
      slice_behind _ _ 0 (by simp), slice_front _ _ (by simp), ofLittle_toLittle small]
  · rw [slice_behind _ _ 12 (by simp [magicLength, headerBytes]), slice_behind _ _ 8 (by simp),
      slice_behind _ _ 4 (by simp), slice_behind _ _ 0 (by simp), slice_front _ _ rfl]

variable (id value) in
theorem checksum_envelope :
    number (encodeEnvelope hash id value) (headerBytes + value.length) =
        (hash (sealed id value)).toNat ∧
      (encodeEnvelope hash id value).take (headerBytes + value.length) = sealed id value := by
  have length := length_sealed id value
  constructor
  · rw [number, encodeEnvelope, slice_behind _ _ 0 (by simp [length]), slice, List.drop_zero,
      List.take_of_length_le (by simp)]
    exact ofLittle_toLittle (hash (sealed id value)).toNat_lt
  · rw [encodeEnvelope, ← length, List.take_left]

/-- An envelope opens for its own secret only. -/
theorem decode_encode (id id' : SecretId) (nonempty : 1 ≤ value.length)
    (fits : value.length ≤ maxSecretBytes) :
    decodeEnvelope hash id (encodeEnvelope hash id' value) =
      if id = id' then .ok value else .error (corrupt id) := by
  have limit : maxSecretBytes < 256 ^ 4 := by decide
  obtain ⟨marked, version, named, sized, payload⟩ :=
    fields_envelope hash id' value (Nat.lt_of_le_of_lt fits limit)
  obtain ⟨sum, front⟩ := checksum_envelope hash id' value
  have length := length_envelope hash id' value
  unfold decodeEnvelope
  have stop : (encodeEnvelope hash id' value).length - checksumBytes =
      headerBytes + value.length := by omega
  rw [if_neg (by simp only [length, headerBytes, checksumBytes]; simp; omega)]
  split
  next refused =>
    simp only [marked, version, named, bne_self_eq_false, Bool.false_or, bne_iff_ne] at refused
    rw [if_neg]
    rintro rfl
    exact refused rfl
  next accepted =>
    simp only [marked, version, named, bne_self_eq_false, Bool.false_or, bne_iff_ne, ne_eq,
      not_not] at accepted
    rw [if_pos (SecretId.code_injective accepted.symm)]
    dsimp only
    have whole : value.length =
        (encodeEnvelope hash id' value).length - headerBytes - checksumBytes := by omega
    rw [stop, sum, front, sized, ← whole, if_neg (by simp [nonempty, fits]), if_neg (by simp),
      Nat.add_sub_cancel_left, payload]

/-- Only its own envelope is opened as a secret. -/
theorem encode_decode (decoded : decodeEnvelope hash id bytes = .ok value) :
    bytes = encodeEnvelope hash id value ∧ 1 ≤ value.length ∧ value.length ≤ maxSecretBytes := by
  unfold decodeEnvelope at decoded
  split at decoded
  · cases decoded
  rename_i sized
  split at decoded
  · cases decoded
  rename_i named
  dsimp only at decoded
  split at decoded
  · cases decoded
  rename_i length
  split at decoded
  · cases decoded
  rename_i sum
  cases decoded
  simp only [Bool.or_eq_true, Bool.not_eq_true', Bool.and_eq_false_iff, decide_eq_false_iff_not,
    bne_iff_ne, ne_eq, not_or, not_not, headerBytes, checksumBytes]
    at sized named length sum
  obtain ⟨⟨marked, version⟩, named⟩ := named
  obtain ⟨⟨nonempty, fits⟩, payload⟩ := length
  obtain ⟨count, long⟩ : ∃ count, bytes.length = 24 + count := ⟨bytes.length - 24, by omega⟩
  have stop : bytes.length - checksumBytes - headerBytes = count := by
    simp only [headerBytes, checksumBytes]
    omega
  have inner : (slice bytes 20 count).length = count := length_slice (by omega)
  have front : bytes.take (20 + count) = sealed id (slice bytes 20 count) := by
    have cut : bytes.take (20 + count) = slice bytes 0 8 ++ (slice bytes 8 4 ++ (slice bytes 12 4 ++
        (slice bytes 16 4 ++ slice bytes 20 count))) := by
      rw [slice_join bytes 16 4, slice_join bytes 12 4, slice_join bytes 8 4, slice_join bytes 0 8,
        slice, List.drop_zero]
      congr 1
      omega
    rw [cut, marked, sealed, inner, toLittle_slice (by omega) version,
      toLittle_slice (by omega) named, toLittle_slice (by omega) (payload.trans (by omega))]
  rw [stop]
  refine ⟨?_, by rw [headerBytes, inner]; omega, by rw [headerBytes, inner]; omega⟩
  rw [encodeEnvelope, headerBytes, ← front]
  have tail : bytes.length - 4 = 20 + count := by omega
  have checksum : toLittle 4 (hash (bytes.take (20 + count))).toNat = slice bytes (20 + count) 4 := by
    rw [tail] at sum
    exact toLittle_slice (by omega) sum
  have behind : slice bytes (20 + count) 4 = bytes.drop (20 + count) := by
    rw [slice, List.take_of_length_le]
    rw [List.length_drop]
    omega
  rw [checksum, behind, List.take_append_drop]

/-- The envelope is bound to its secret, and there is one for each value only. -/
theorem envelope_bound :
    (∀ id id' value, 1 ≤ value.length → value.length ≤ maxSecretBytes →
      decodeEnvelope hash id (encodeEnvelope hash id' value) =
        if id = id' then .ok value else .error (corrupt id)) ∧
    ∀ id bytes value, decodeEnvelope hash id bytes = .ok value →
      bytes = encodeEnvelope hash id value :=
  ⟨fun id id' _ => decode_encode hash id id', fun _ _ _ opened => (encode_decode hash opened).1⟩

/-- The envelope of one byte. -/
def smallEnvelope : List UInt8 :=
  magic ++ [1, 0, 0, 0] ++ [2, 0, 0, 0] ++ [1, 0, 0, 0] ++ [7] ++ [188, 32, 105, 33]

theorem envelope_bound_sample :
    decodeEnvelope crc32 .twitchOAuthSession (encodeEnvelope crc32 .donBotGw2ApiKey [7]) =
      .error (corrupt .twitchOAuthSession) ∧
    smallEnvelope = encodeEnvelope crc32 .donBotGw2ApiKey [7] :=
  have opened : decodeEnvelope crc32 .donBotGw2ApiKey smallEnvelope = .ok [7] := by decide +kernel
  ⟨(envelope_bound crc32).1 .twitchOAuthSession .donBotGw2ApiKey [7] (by decide) (by decide),
    (envelope_bound crc32).2 _ _ _ opened⟩

end envelope
end MannyUploader.Config.SecretEnvelope
