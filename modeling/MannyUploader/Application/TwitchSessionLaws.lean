import Mathlib.Algebra.Order.BigOperators.Group.List
import Mathlib.Algebra.Order.Group.Nat
import MannyUploader.Application.TwitchSession

/-! A session that can be stored is read back as it was, up to the fraction of a second of
its expiry. -/
namespace MannyUploader.Application
open Domain Foundation TwitchSession

/-- The expiry as the record keeps it. -/
def TwitchSession.wholeSeconds (time : SystemTime) : SystemTime :=
  ((unixSeconds time).bind ofUnixSeconds).getD time

/-- The session as the record keeps it. -/
def TwitchSession.stored (session : TwitchSession) : TwitchSession :=
  { session with
    credentials := { session.credentials with
      accessExpiresAt := wholeSeconds session.credentials.accessExpiresAt } }

/-- What `encode_twitch_session` requires. -/
structure TwitchSession.Storable (session : TwitchSession) (seconds : Nat) : Prop where
  expires : unixSeconds session.credentials.accessExpiresAt = some seconds
  positive : 1 ≤ seconds
  bounded : seconds ≤ maxUnixSeconds
  access : validTwitchToken session.credentials.accessToken = true
  refresh : validTwitchToken session.credentials.refreshToken = true
  user : validTwitchUserId session.userId = true
  name : validTwitchLogin session.login = true
  scope : session.scopes = [twitchChatScope]
  fits : headerBytes + (session.fields.map List.length).sum + 4 + (utf8 twitchChatScope).length ≤
    maxTwitchSessionBytes

theorem encode_ok {session : TwitchSession} {bytes : SecretValue}
    (encoded : encodeTwitchSession session = .ok bytes) :
    ∃ seconds, session.Storable seconds ∧ bytes = session.record seconds := by
  unfold encodeTwitchSession at encoded
  split at encoded
  · contradiction
  next seconds expires =>
    split at encoded
    · contradiction
    next valid =>
      simp only at encoded
      split at encoded
      · contradiction
      next fits =>
        simp only [Bool.or_eq_true, Bool.not_eq_true', Bool.and_eq_false_iff, bne_iff_ne, ne_eq,
          decide_eq_false_iff_not, not_or, Bool.not_eq_false, not_not, Nat.not_le,
          Nat.not_lt] at valid
        obtain ⟨⟨⟨⟨⟨⟨positive, bounded⟩, access⟩, refresh⟩, user⟩, name⟩, scope⟩ := valid
        cases encoded
        exact ⟨seconds, ⟨expires, positive, bounded, access, refresh, user, name, scope,
          Nat.le_of_not_gt fits⟩, rfl⟩

theorem ofUnixSeconds_of_le {seconds : Nat} (bounded : seconds ≤ maxUnixSeconds) :
    ∃ time, ofUnixSeconds seconds = some time := by
  have low : SystemTime.minNanos ≤ (seconds : Int) * nanosPerSecond := by
    simp only [SystemTime.minNanos, windowsEpochTicks, nanosPerSecond]
    omega
  have high : (seconds : Int) * nanosPerSecond ≤ SystemTime.maxNanos := by
    simp only [SystemTime.maxNanos, windowsEpochTicks, nanosPerSecond, maxUnixSeconds] at bounded ⊢
    omega
  exact ⟨_, dif_pos ⟨low, high⟩⟩

theorem splitFields_flatten {bytes rest : List UInt8} {indices : List Nat}
    {fields : List (List UInt8)}
    (lengths : List.Forall₂
      (fun index field => ofLittle (slice bytes (20 + index * 4) 4) = field.length) indices fields) :
    splitFields bytes indices (fields.flatten ++ rest) = .ok (fields, rest) := by
  induction lengths with
  | nil => rfl
  | @cons index field indices fields length _ ih =>
    have room : ¬ field.length > ((field :: fields).flatten ++ rest).length := by
      simp only [List.flatten_cons, List.length_append]
      omega
    have behind : ((field :: fields).flatten ++ rest).drop field.length =
        fields.flatten ++ rest := by
      rw [List.flatten_cons, List.append_assoc, List.drop_left]
    have front : ((field :: fields).flatten ++ rest).take field.length = field := by
      rw [List.flatten_cons, List.append_assoc, List.take_left]
    simp only [splitFields, length, if_neg room, behind, ih, front]

section record
variable (session : TwitchSession) (seconds : Nat)

@[simp] theorem length_magic : magic.length = 8 := rfl

theorem length_record :
    (session.record seconds).length =
      headerBytes + (session.fields.map List.length).sum + 4 + (utf8 twitchChatScope).length := by
  simp only [record, fields, headerBytes, List.length_append, length_magic, length_toLittle,
    List.flatMap_cons, List.flatMap_nil, List.flatten_cons, List.flatten_nil, List.map_cons,
    List.map_nil, List.sum_cons, List.sum_nil, List.length_nil]
  omega

/-- Cutting the record at an offset of the header. -/
theorem slice_magic : slice (session.record seconds) 0 8 = magic :=
  slice_front magic _ rfl

theorem slice_version : slice (session.record seconds) 8 4 = toLittle 4 1 := by
  rw [record, slice_behind magic _ 0 (by simp)]
  exact slice_front _ _ (by simp)

theorem slice_seconds : slice (session.record seconds) 12 8 = toLittle 8 seconds := by
  rw [record, slice_behind magic _ 4 (by simp), slice_behind _ _ 0 (by simp)]
  exact slice_front _ _ (by simp)

/-- The header behind the expiry: the lengths, the count of scopes and what follows. -/
theorem slice_tail (offset length : Nat) :
    slice (session.record seconds) (20 + offset) length =
      slice (session.fields.flatMap (fun field => toLittle 4 field.length) ++ (toLittle 4 1 ++
        (session.fields.flatten ++
          (toLittle 4 (utf8 twitchChatScope).length ++ utf8 twitchChatScope)))) offset length := by
  rw [record, slice_behind magic _ (12 + offset) (by simp only [length_magic]; omega),
    slice_behind _ _ (8 + offset) (by simp only [length_toLittle]; omega),
    slice_behind _ _ offset (by simp)]

theorem slice_lengths :
    List.Forall₂ (fun index field =>
      slice (session.record seconds) (20 + index * 4) 4 = toLittle 4 field.length)
      [0, 1, 2, 3] session.fields := by
  simp only [fields, List.forall₂_cons, List.Forall₂.nil, and_true, slice_tail, List.flatMap_cons,
    List.append_assoc]
  refine ⟨slice_front _ _ (by simp), ?_, ?_, ?_⟩
  · rw [slice_behind _ _ 0 (by simp)]
    exact slice_front _ _ (by simp)
  · rw [slice_behind _ _ 4 (by simp), slice_behind _ _ 0 (by simp)]
    exact slice_front _ _ (by simp)
  · rw [slice_behind _ _ 8 (by simp), slice_behind _ _ 4 (by simp), slice_behind _ _ 0 (by simp)]
    exact slice_front _ _ (by simp)

theorem slice_scopes : slice (session.record seconds) 36 4 = toLittle 4 1 := by
  rw [slice_tail session seconds 16 4, slice_behind _ _ 0 (by simp [fields])]
  exact slice_front _ _ (by simp)

theorem drop_header :
    (session.record seconds).drop headerBytes = session.fields.flatten ++
      (toLittle 4 (utf8 twitchChatScope).length ++ utf8 twitchChatScope) := by
  have front : session.record seconds =
      (magic ++ toLittle 4 1 ++ toLittle 8 seconds ++
        session.fields.flatMap (fun field => toLittle 4 field.length) ++ toLittle 4 1) ++
        (session.fields.flatten ++
          (toLittle 4 (utf8 twitchChatScope).length ++ utf8 twitchChatScope)) := by
    simp only [record, List.append_assoc]
  rw [front]
  exact List.drop_left' (by simp [fields, headerBytes])

end record

theorem signed_seconds {seconds : Nat} (bounded : seconds ≤ maxUnixSeconds) :
    signed 8 (ofLittle (toLittle 8 seconds)) = seconds := by
  have fits : seconds < 256 ^ 8 / 2 := Nat.lt_of_le_of_lt bounded (by decide)
  rw [ofLittle_toLittle (Nat.lt_trans fits (by decide)), signed, if_pos fits]

theorem ofLittle_length {session : TwitchSession} {seconds : Nat}
    (storable : session.Storable seconds) :
    ∀ field ∈ session.fields, ofLittle (toLittle 4 field.length) = field.length := by
  intro field member
  have total := storable.fits
  have part : field.length ≤ (session.fields.map List.length).sum :=
    List.le_sum_of_mem (List.mem_map_of_mem member)
  have limit : maxTwitchSessionBytes < 256 ^ 4 := by decide
  exact ofLittle_toLittle (by omega)

theorem splitFields_record {session : TwitchSession} {seconds : Nat}
    (storable : session.Storable seconds) :
    splitFields (session.record seconds) [0, 1, 2, 3]
        ((session.record seconds).drop headerBytes) =
      .ok (session.fields, toLittle 4 (utf8 twitchChatScope).length ++ utf8 twitchChatScope) := by
  rw [drop_header]
  apply splitFields_flatten
  have cut := slice_lengths session seconds
  have small := ofLittle_length storable
  simp only [fields, List.forall₂_cons, List.Forall₂.nil, and_true, List.mem_cons,
    List.not_mem_nil, or_false, forall_eq_or_imp, forall_eq] at cut small ⊢
  obtain ⟨access, refresh, user, name⟩ := cut
  obtain ⟨access', refresh', user', name'⟩ := small
  rw [access, refresh, user, name]
  exact ⟨access', refresh', user', name'⟩

section checks
variable {session : TwitchSession} {seconds : Nat}

theorem header_in_record : ¬ (session.record seconds).length < headerBytes := by
  have size := length_record session seconds
  omega

theorem sized_record (storable : session.Storable seconds) :
    ((session.record seconds).isEmpty ||
      (session.record seconds).length > maxTwitchSessionBytes) = false := by
  have full := @header_in_record session seconds
  have limit := storable.fits
  rw [← length_record session seconds] at limit
  simp only [Bool.or_eq_false_iff, decide_eq_false_iff_not, Nat.not_lt, limit, and_true]
  rw [List.isEmpty_eq_false_iff, ← List.length_pos_iff]
  simp only [headerBytes] at full
  omega

theorem marked_record :
    ((session.record seconds).length < 12 ||
      slice (session.record seconds) 0 8 != magic) = false := by
  have full := @header_in_record session seconds
  simp only [slice_magic, bne_self_eq_false, Bool.or_false, decide_eq_false_iff_not]
  simp only [headerBytes] at full
  omega

theorem dated_record (storable : session.Storable seconds) :
    ((seconds : Int) ≤ 0 || (seconds : Int) > maxUnixSeconds ||
      slice (session.record seconds) 36 4 != toLittle 4 1) = false := by
  have positive := storable.positive
  have bounded := storable.bounded
  simp only [slice_scopes, bne_self_eq_false, Bool.or_false, Bool.or_eq_false_iff,
    decide_eq_false_iff_not]
  omega

theorem scope_record (storable : session.Storable seconds) :
    ((toLittle 4 (utf8 twitchChatScope).length ++ utf8 twitchChatScope).length !=
        4 + (utf8 twitchChatScope).length ||
      slice (toLittle 4 (utf8 twitchChatScope).length ++ utf8 twitchChatScope) 0 4 !=
        toLittle 4 (utf8 twitchChatScope).length ||
      (toLittle 4 (utf8 twitchChatScope).length ++ utf8 twitchChatScope).drop 4 !=
        utf8 twitchChatScope ||
      !validTwitchToken session.credentials.accessToken ||
      !validTwitchToken session.credentials.refreshToken) = false := by
  rw [storable.access, storable.refresh, slice_front _ _ (length_toLittle _ _),
    List.drop_left' (length_toLittle _ _), List.length_append, length_toLittle]
  simp only [bne_self_eq_false, Bool.not_true, Bool.or_false]

end checks

theorem decode_record {session : TwitchSession} {seconds : Nat} {time : SystemTime}
    (storable : session.Storable seconds) (readable : ofUnixSeconds seconds = some time) :
    decodeTwitchSession (session.record seconds) =
      .ok { credentials := { session.credentials with accessExpiresAt := time }
            userId := session.userId, login := session.login, scopes := [twitchChatScope] } := by
  unfold decodeTwitchSession
  rw [sized_record storable, if_neg Bool.false_ne_true, marked_record,
    if_neg Bool.false_ne_true, slice_version,
    if_neg (by rw [bne_self_eq_false]; exact Bool.false_ne_true), if_neg header_in_record]
  simp only [slice_seconds, signed_seconds storable.bounded]
  rw [dated_record storable, if_neg Bool.false_ne_true, splitFields_record storable]
  simp only [fields]
  rw [scope_record storable, if_neg Bool.false_ne_true]
  simp only [fromUTF8_utf8]
  rw [if_neg (by rw [storable.user, storable.name]; decide), Int.toNat_natCast, readable]

/-- Storing a session and reading the record back gives the session. -/
theorem decode_encode {session : TwitchSession} {bytes : SecretValue}
    (encoded : encodeTwitchSession session = .ok bytes) :
    decodeTwitchSession bytes = .ok session.stored := by
  obtain ⟨seconds, storable, rfl⟩ := encode_ok encoded
  obtain ⟨time, readable⟩ := ofUnixSeconds_of_le storable.bounded
  have expires : wholeSeconds session.credentials.accessExpiresAt = time := by
    rw [wholeSeconds, storable.expires, Option.bind_some, readable, Option.getD_some]
  have same : ({ credentials := { session.credentials with accessExpiresAt := time }
                 userId := session.userId, login := session.login,
                 scopes := [twitchChatScope] } : TwitchSession) = session.stored := by
    rw [stored, expires, storable.scope]
  rw [← same]
  exact decode_record storable readable

section canonical
variable {bytes remaining rest : List UInt8} {session : TwitchSession} {seconds : Nat}

/-- What `decode_twitch_session` requires of the bytes of a session. -/
structure TwitchSession.ReadFrom (session : TwitchSession) (bytes : List UInt8) (seconds : Nat) :
    Prop where
  sized : bytes.length ≤ maxTwitchSessionBytes
  full : headerBytes ≤ bytes.length
  marked : slice bytes 0 8 = magic
  version : slice bytes 8 4 = toLittle 4 1
  dated : signed 8 (ofLittle (slice bytes 12 8)) = seconds
  positive : 1 ≤ seconds
  bounded : seconds ≤ maxUnixSeconds
  one : slice bytes 36 4 = toLittle 4 1
  split : splitFields bytes [0, 1, 2, 3] (bytes.drop headerBytes) =
    .ok (session.fields, toLittle 4 (utf8 twitchChatScope).length ++ utf8 twitchChatScope)
  access : validTwitchToken session.credentials.accessToken = true
  refresh : validTwitchToken session.credentials.refreshToken = true
  user : validTwitchUserId session.userId = true
  name : validTwitchLogin session.login = true
  expires : ofUnixSeconds seconds = some session.credentials.accessExpiresAt
  scope : session.scopes = [twitchChatScope]

theorem decode_ok (decoded : decodeTwitchSession bytes = .ok session) :
    ∃ seconds, session.ReadFrom bytes seconds := by
  unfold decodeTwitchSession at decoded
  split at decoded
  · cases decoded
  rename_i sized
  split at decoded
  · cases decoded
  rename_i marked
  split at decoded
  · cases decoded
  rename_i version
  split at decoded
  · cases decoded
  rename_i full
  dsimp only at decoded
  split at decoded
  · cases decoded
  rename_i dated
  split at decoded
  · cases decoded
  next access refresh user name remaining split =>
    split at decoded
    · cases decoded
    rename_i tail
    split at decoded
    next userId login user' name' =>
      split at decoded
      · cases decoded
      rename_i valid
      split at decoded
      · cases decoded
      next time expires =>
        cases decoded
        simp only [Bool.or_eq_true, decide_eq_true_eq, bne_iff_ne, ne_eq, not_or, not_not,
          Bool.not_eq_true', Bool.not_eq_false, Int.not_le, Nat.not_lt, Int.not_lt]
          at sized marked version full dated tail valid
        obtain ⟨⟨positive, bounded⟩, one⟩ := dated
        obtain ⟨⟨⟨⟨length, counted⟩, scope⟩, access'⟩, refresh'⟩ := tail
        have whole : remaining = toLittle 4 (utf8 twitchChatScope).length ++ utf8 twitchChatScope := by
          rw [← counted, ← scope, slice, List.drop_zero, List.take_append_drop]
        refine ⟨(signed 8 (ofLittle (slice bytes 12 8))).toNat, {
          sized := sized.2
          full
          marked := marked.2
          version
          dated := by omega
          positive := by omega
          bounded := by omega
          one
          split := ?_
          access := access'
          refresh := refresh'
          user := valid.1
          name := valid.2
          expires
          scope := rfl }⟩
        rw [split, whole]
        simp only [fields, utf8_of_fromUTF8 user', utf8_of_fromUTF8 name']
    · cases decoded
  · cases decoded

/-- The fields are cut one behind the other, with the lengths of the header. -/
theorem splitFields_ok {indices : List Nat} {fields : List (List UInt8)}
    (split : splitFields bytes indices remaining = .ok (fields, rest)) :
    remaining = fields.flatten ++ rest ∧ List.Forall₂
      (fun index field => ofLittle (slice bytes (20 + index * 4) 4) = field.length)
      indices fields := by
  induction indices generalizing remaining fields with
  | nil =>
    cases split
    exact ⟨rfl, .nil⟩
  | cons index indices ih =>
    simp only [splitFields] at split
    split at split
    · cases split
    next room =>
      split at split
      · cases split
      next others left inner =>
        cases split
        obtain ⟨behind, lengths⟩ := ih inner
        refine ⟨?_, .cons ?_ lengths⟩
        · rw [List.flatten_cons, List.append_assoc, ← behind, List.take_append_drop]
        · rw [List.length_take]
          omega

theorem TwitchSession.ReadFrom.record_eq (h : session.ReadFrom bytes seconds) :
    session.record seconds = bytes := by
  have full : 40 ≤ bytes.length := h.full
  obtain ⟨behind, lengths⟩ := splitFields_ok h.split
  simp only [fields, List.forall₂_cons, List.Forall₂.nil, and_true] at lengths
  obtain ⟨access, refresh, user, name⟩ := lengths
  have date : toLittle 8 seconds = slice bytes 12 8 := by
    apply toLittle_slice (by omega)
    have dated := h.dated
    have small := ofLittle_lt (slice bytes 12 8)
    rw [length_slice (by omega)] at small
    unfold signed at dated
    split at dated <;> omega
  have header : bytes = slice bytes 0 8 ++ (slice bytes 8 4 ++ (slice bytes 12 8 ++
      (slice bytes 20 4 ++ (slice bytes 24 4 ++ (slice bytes 28 4 ++ (slice bytes 32 4 ++
        (slice bytes 36 4 ++ bytes.drop 40))))))) := by
    rw [slice_drop bytes 36 4, slice_drop bytes 32 4, slice_drop bytes 28 4, slice_drop bytes 24 4,
      slice_drop bytes 20 4, slice_drop bytes 12 8, slice_drop bytes 8 4, slice_drop bytes 0 8,
      List.drop_zero]
  have body : bytes.drop 40 = session.fields.flatten ++
      (toLittle 4 (utf8 twitchChatScope).length ++ utf8 twitchChatScope) := behind
  rw [header, h.marked, h.version, h.one, body, ← date,
    ← toLittle_slice (by omega) access, ← toLittle_slice (by omega) refresh,
    ← toLittle_slice (by omega) user, ← toLittle_slice (by omega) name]
  simp only [record, fields, List.flatMap_cons, List.flatMap_nil, List.append_assoc,
    List.append_nil]

theorem unixSeconds_ofUnixSeconds {time : SystemTime} (read : ofUnixSeconds seconds = some time) :
    unixSeconds time = some seconds := by
  unfold ofUnixSeconds at read
  dsimp only at read
  split at read
  · cases read
    have scale : nanosPerSecond = 1_000_000_000 := rfl
    unfold unixSeconds
    dsimp only
    rw [if_pos (by rw [scale]; omega), Int.mul_ediv_cancel _ (by rw [scale]; decide),
      Int.toNat_natCast]
  · cases read

/-- Only its own record is read as a session. -/
theorem encode_decode (decoded : decodeTwitchSession bytes = .ok session) :
    encodeTwitchSession session = .ok bytes := by
  obtain ⟨seconds, read⟩ := decode_ok decoded
  have total := length_record session seconds
  rw [read.record_eq] at total
  unfold encodeTwitchSession
  rw [unixSeconds_ofUnixSeconds read.expires]
  dsimp only
  rw [if_neg, if_neg, read.record_eq]
  · rw [← total]
    exact Nat.not_lt.mpr read.sized
  · simp [read.positive, read.bounded, read.access, read.refresh, read.user, read.name, read.scope]

end canonical

/-- Encoding and decoding are inverse to each other, but for the fraction of a second. -/
theorem session_codec_bijective :
    (∀ session bytes, encodeTwitchSession session = .ok bytes →
      decodeTwitchSession bytes = .ok session.stored) ∧
    ∀ bytes session, decodeTwitchSession bytes = .ok session →
      encodeTwitchSession session = .ok bytes :=
  ⟨fun _ _ => decode_encode, fun _ _ => encode_decode⟩

/-- A session that expires in the middle of a second. -/
def shortSession : TwitchSession where
  credentials :=
    { accessToken := [65], refreshToken := [66], accessExpiresAt := ⟨1_500_000_000, by decide⟩ }
  userId := "1"
  login := "a"
  scopes := [twitchChatScope]

theorem session_codec_bijective_sample :
    shortSession.stored.credentials.accessExpiresAt.nanos = 1_000_000_000 ∧
      decodeTwitchSession (shortSession.record 1) = .ok shortSession.stored ∧
      encodeTwitchSession shortSession.stored = .ok (shortSession.record 1) :=
  have encoded : encodeTwitchSession shortSession = .ok (shortSession.record 1) := by
    decide +kernel
  have decoded := session_codec_bijective.1 shortSession _ encoded
  ⟨by decide, decoded, session_codec_bijective.2 _ _ decoded⟩
end MannyUploader.Application
