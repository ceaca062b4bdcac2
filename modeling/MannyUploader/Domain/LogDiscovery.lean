import MannyUploader.Domain.UploadJob

/-! When a log counts as finished: after enough observations in a row that agree. An
accepted identity is remembered, within a limit, so that it is not accepted again. -/
namespace MannyUploader.Domain

inductive DiscoveryError
  | invalidConfiguration | invalidCandidate | resourceLimit
deriving DecidableEq, Repr

/-- An extension that spells `zevtc` is ASCII, so `to_str` does not refuse it. -/
def isZevtcCandidate (path : PathBuf) : Bool :=
  path.extension.any fun extension => extension.map Path.asciiLowercase == utf8 "zevtc"

/-- The three numbers that `new` checks. -/
def DiscoveryBounds (requiredMatches pendingLimit historyLimit : Nat) : Prop :=
  2 ≤ requiredMatches ∧ (1 ≤ pendingLimit ∧ pendingLimit ≤ 10_000) ∧
    1 ≤ historyLimit ∧ historyLimit ≤ 10_000

instance (requiredMatches pendingLimit historyLimit : Nat) :
    Decidable (DiscoveryBounds requiredMatches pendingLimit historyLimit) :=
  inferInstanceAs (Decidable (_ ∧ _))

/-- The hash containers are lists: `pending` holds one element for each path, and `known`
one for each identity. -/
structure LogDiscovery where
  requiredMatches : Nat
  pendingLimit : Nat
  historyLimit : Nat
  bounds : DiscoveryBounds requiredMatches pendingLimit historyLimit
  pending : List (PathBuf × LogFileIdentity × Nat)
  accepted : List LogFileIdentity
  known : List LogFileIdentity

/-- How often a file is among others. -/
def occurrences (file : LogFileIdentity) (files : List LogFileIdentity) : Nat :=
  files.countP (· == file)

@[simp] theorem occurrences_nil (file : LogFileIdentity) : occurrences file [] = 0 := rfl

@[simp] theorem occurrences_append (file : LogFileIdentity) (first second : List LogFileIdentity) :
    occurrences file (first ++ second) = occurrences file first + occurrences file second :=
  List.countP_append

theorem occurrences_eq_zero {file : LogFileIdentity} {files : List LogFileIdentity}
    (other : ∀ x ∈ files, (x == file) = false) : occurrences file files = 0 :=
  List.countP_eq_zero.mpr fun x member => by simp [other x member]

namespace LogDiscovery

def new (requiredMatches pendingLimit historyLimit : Nat) : Except DiscoveryError LogDiscovery :=
  if bounds : DiscoveryBounds requiredMatches pendingLimit historyLimit then
    .ok { requiredMatches, pendingLimit, historyLimit, bounds
          pending := [], accepted := [], known := [] }
  else .error .invalidConfiguration

def isKnown (d : LogDiscovery) (file : LogFileIdentity) : Bool := d.known.any (· == file)

def validate (file : LogFileIdentity) : Except DiscoveryError Unit :=
  if file.canonicalPath.bytes.isEmpty || !isZevtcCandidate file.canonicalPath then
    .error .invalidCandidate
  else .ok ()

/-- `pending.get(path)`. -/
def pendingAt (d : LogDiscovery) (path : PathBuf) : Option (LogFileIdentity × Nat) :=
  (d.pending.find? fun entry => entry.1.same path).map Prod.snd

def forgetPending (d : LogDiscovery) (path : PathBuf) : LogDiscovery :=
  { d with pending := d.pending.filter fun entry => !entry.1.same path }

/-- `pending.insert(path, ..)`, which keeps the path that is there. -/
def insertPending (d : LogDiscovery) (file : LogFileIdentity) (matched : Nat) : LogDiscovery :=
  { d with pending :=
      if d.pending.any fun entry => entry.1.same file.canonicalPath then
        d.pending.map fun entry =>
          if entry.1.same file.canonicalPath then (entry.1, file, matched) else entry
      else d.pending ++ [(file.canonicalPath, file, matched)] }

/-- The identity that accepting one more file would forget. -/
def overflow (d : LogDiscovery) : Option LogFileIdentity :=
  if d.accepted.length = d.historyLimit then d.accepted.head? else none

def forget (d : LogDiscovery) (oldest : LogFileIdentity) : LogDiscovery :=
  { d with accepted := d.accepted.tail, known := d.known.filter fun file => !(file == oldest) }

/-- The oldest accepted identity makes room in a full memory. -/
def makeRoom (d : LogDiscovery) : LogDiscovery :=
  match d.overflow with
  | some oldest => d.forget oldest
  | none => d

/-- Allocation does not fail here, and so neither does `remember`. -/
def remember (d : LogDiscovery) (file : LogFileIdentity) : LogDiscovery :=
  if d.isKnown file then d
  else
    let d := d.makeRoom
    { d with accepted := d.accepted ++ [file], known := d.known ++ [file] }

theorem remember_pending (d : LogDiscovery) (file : LogFileIdentity) :
    (d.remember file).pending = d.pending ∧ (d.remember file).pendingLimit = d.pendingLimit := by
  unfold remember makeRoom
  split
  · exact ⟨rfl, rfl⟩
  · split
    · exact ⟨rfl, rfl⟩
    · exact ⟨rfl, rfl⟩

/-- How often in a row the file has now been observed as it is. -/
def countMatches (d : LogDiscovery) (file : LogFileIdentity) : Except DiscoveryError Nat :=
  match d.pendingAt file.canonicalPath with
  | some (previous, count) => .ok (if previous == file then count + 1 else 1)
  | none => if d.pending.length = d.pendingLimit then .error .resourceLimit else .ok 1

def observe (d : LogDiscovery) (file : LogFileIdentity) :
    Except DiscoveryError (Option LogFileIdentity × LogDiscovery) := do
  validate file
  if d.isKnown file then .ok (none, d.forgetPending file.canonicalPath)
  else do
    let matched ← d.countMatches file
    if matched < d.requiredMatches then .ok (none, d.insertPending file matched)
    else .ok (some file, (d.remember file).forgetPending file.canonicalPath)

/-- Validate the complete retained history before replacing any dedupe state. -/
def seed (d : LogDiscovery) (files : List LogFileIdentity) :
    Except DiscoveryError LogDiscovery := do
  if files.length > d.historyLimit then .error .resourceLimit
  else do
    files.forM validate
    .ok (files.foldl remember d)

def release (d : LogDiscovery) (file : LogFileIdentity) : LogDiscovery :=
  { d with
    accepted := d.accepted.filter fun accepted => !(accepted == file)
    known := d.known.filter fun known => !(known == file) }

def clearPending (d : LogDiscovery) : LogDiscovery := { d with pending := [] }

def setRequiredMatches (d : LogDiscovery) (requiredMatches : Nat) :
    Except DiscoveryError LogDiscovery :=
  if enough : 2 ≤ requiredMatches then
    .ok { d with requiredMatches, pending := [], bounds := ⟨enough, d.bounds.2⟩ }
  else .error .invalidConfiguration

/-- The keys of the remembered identities. -/
def keys (d : LogDiscovery) : List (List Path.Component × UInt64 × SystemTime) :=
  d.known.map LogFileIdentity.key

theorem isKnown_iff {d : LogDiscovery} {file : LogFileIdentity} :
    d.isKnown file = true ↔ file.key ∈ d.keys := by
  simp [isKnown, keys, List.any_eq_true, LogFileIdentity.beq_iff]

section keys
variable {d : LogDiscovery} {file : LogFileIdentity}
  {key : List Path.Component × UInt64 × SystemTime}

@[simp] theorem keys_forgetPending (path : PathBuf) : (d.forgetPending path).keys = d.keys := rfl

@[simp] theorem keys_insertPending (matched : Nat) :
    (d.insertPending file matched).keys = d.keys := rfl

@[simp] theorem keys_clearPending : d.clearPending.keys = d.keys := rfl

theorem mem_keys_filter {files : List LogFileIdentity} :
    key ∈ (files.filter fun other => !(other == file)).map LogFileIdentity.key ↔
      key ∈ files.map LogFileIdentity.key ∧ key ≠ file.key := by
  simp only [List.mem_map, List.mem_filter, Bool.not_eq_eq_eq_not, Bool.not_true,
    ← Bool.not_eq_true, LogFileIdentity.beq_iff]
  constructor
  · rintro ⟨other, ⟨member, different⟩, rfl⟩
    exact ⟨⟨other, member, rfl⟩, different⟩
  · rintro ⟨⟨other, member, rfl⟩, different⟩
    exact ⟨other, ⟨member, different⟩, rfl⟩

theorem mem_keys_release : key ∈ (d.release file).keys ↔ key ∈ d.keys ∧ key ≠ file.key :=
  mem_keys_filter

theorem mem_keys_makeRoom :
    key ∈ d.makeRoom.keys ↔ key ∈ d.keys ∧ ∀ oldest ∈ d.overflow, key ≠ oldest.key := by
  unfold makeRoom
  split
  · rename_i oldest full
    have kept : key ∈ (d.forget oldest).keys ↔ key ∈ d.keys ∧ key ≠ oldest.key := mem_keys_filter
    simpa [full] using kept
  · rename_i room
    simp [room]

theorem mem_keys_remember (fresh : d.isKnown file = false) :
    key ∈ (d.remember file).keys ↔
      key = file.key ∨ key ∈ d.keys ∧ ∀ oldest ∈ d.overflow, key ≠ oldest.key := by
  rw [← mem_keys_makeRoom, remember, if_neg (by simp [fresh])]
  simp [keys, or_comm]

end keys

/-- An accepted file is a fresh candidate that has been observed often enough. -/
theorem observe_accepts {d d' : LogDiscovery} {file accepted : LogFileIdentity}
    (h : d.observe file = .ok (some accepted, d')) :
    accepted = file ∧ validate file = .ok () ∧ d.isKnown file = false ∧
      d' = (d.remember file).forgetPending file.canonicalPath := by
  unfold observe at h
  obtain ⟨_, valid, h⟩ := Foundation.bind_ok h
  split at h
  · cases h
  rename_i fresh
  obtain ⟨matched, -, h⟩ := Foundation.bind_ok h
  split at h
  · cases h
  cases h
  exact ⟨rfl, valid, by simpa using fresh, rfl⟩

/-- An observation that accepts nothing leaves the memory alone. -/
theorem observe_waits {d d' : LogDiscovery} {file : LogFileIdentity}
    (h : d.observe file = .ok (none, d')) : d'.accepted = d.accepted ∧ d'.known = d.known := by
  unfold observe at h
  obtain ⟨_, -, h⟩ := Foundation.bind_ok h
  split at h
  · cases h; exact ⟨rfl, rfl⟩
  obtain ⟨matched, -, h⟩ := Foundation.bind_ok h
  split at h
  · cases h; exact ⟨rfl, rfl⟩
  · cases h

theorem validate_of_forM {files : List LogFileIdentity} (h : files.forM validate = .ok ()) :
    ∀ file ∈ files, validate file = .ok () := by
  induction files with
  | nil => simp
  | cons file rest ih =>
    obtain ⟨_, first, others⟩ := Foundation.bind_ok h
    simpa [first] using ih others

theorem seed_ok {d d' : LogDiscovery} {files : List LogFileIdentity} (h : d.seed files = .ok d') :
    d' = files.foldl remember d := by
  unfold seed at h
  split at h
  · cases h
  obtain ⟨_, -, h⟩ := Foundation.bind_ok h
  cases h
  rfl

theorem setRequiredMatches_ok {d d' : LogDiscovery} {requiredMatches : Nat}
    (h : d.setRequiredMatches requiredMatches = .ok d') :
    d'.accepted = d.accepted ∧ d'.known = d.known := by
  unfold setRequiredMatches at h
  split at h
  · cases h; exact ⟨rfl, rfl⟩
  · cases h

/-- The two containers hold the same identities, each once. -/
structure Tidy (d : LogDiscovery) : Prop where
  known : d.known = d.accepted
  distinct : (d.accepted.map LogFileIdentity.key).Nodup

section tidy
variable {d : LogDiscovery} {file new : LogFileIdentity}

theorem overflow_cons {oldest : LogFileIdentity} (full : d.overflow = some oldest) :
    d.accepted = oldest :: d.accepted.tail := by
  unfold overflow at full
  split at full
  · obtain ⟨rest, eq⟩ := List.head?_eq_some_iff.mp full
    rw [eq, List.tail_cons]
  · cases full

theorem makeRoom_sublist : d.makeRoom.accepted.Sublist d.accepted := by
  unfold makeRoom
  split
  · exact List.tail_sublist _
  · exact .refl _

theorem Tidy.makeRoom (h : d.Tidy) : d.makeRoom.Tidy := by
  unfold LogDiscovery.makeRoom
  split
  · rename_i oldest full
    have split := overflow_cons full
    have distinct := h.distinct
    rw [split, List.map_cons, List.nodup_cons] at distinct
    refine ⟨?_, distinct.2⟩
    change d.known.filter _ = d.accepted.tail
    rw [h.known, split, List.filter_cons_of_neg (by simp [LogFileIdentity.beq_iff]), List.tail_cons]
    refine List.filter_eq_self.mpr fun other member => ?_
    rw [Bool.not_eq_eq_eq_not, Bool.not_true, ← Bool.not_eq_true, LogFileIdentity.beq_iff]
    exact fun same => distinct.1 (same ▸ List.mem_map_of_mem member)
  · exact h

theorem Tidy.other (h : d.Tidy) (fresh : d.isKnown file = false) :
    ∀ x ∈ d.accepted, (x == file) = false := by
  intro x member
  rw [isKnown, h.known, List.any_eq_false] at fresh
  simpa using fresh x member

theorem Tidy.remember (h : d.Tidy) : (d.remember file).Tidy := by
  cases fresh : d.isKnown file with
  | true => rw [LogDiscovery.remember, if_pos fresh]; exact h
  | false =>
    have room := h.makeRoom
    rw [LogDiscovery.remember, if_neg (by simp [fresh])]
    refine ⟨congrArg (· ++ [file]) room.known, ?_⟩
    change ((d.makeRoom.accepted ++ [file]).map LogFileIdentity.key).Nodup
    rw [List.map_append, List.nodup_append]
    refine ⟨room.distinct, by simp, fun key old key' last => ?_⟩
    obtain ⟨other, member, rfl⟩ := List.mem_map.mp old
    rw [List.mem_singleton.mp last]
    intro same
    have different := h.other fresh other (makeRoom_sublist.subset member)
    rw [← Bool.not_eq_true, LogFileIdentity.beq_iff] at different
    exact different same

theorem Tidy.once (h : d.Tidy) (file : LogFileIdentity) : occurrences file d.accepted ≤ 1 := by
  have distinct := h.distinct
  have same : occurrences file d.accepted = (d.accepted.map LogFileIdentity.key).count file.key := by
    rw [occurrences, List.count, List.countP_map]
    refine List.countP_congr fun other _ => ?_
    simp [LogFileIdentity.beq_iff]
  rw [same]
  exact List.nodup_iff_count_le_one.mp distinct file.key

theorem Tidy.release (h : d.Tidy) : (d.release file).Tidy :=
  ⟨congrArg (List.filter _) h.known, h.distinct.sublist (List.filter_sublist.map _)⟩

variable (file) in
/-- What is remembered and what is forgotten for it balance. -/
theorem occurrences_remember (fresh : d.isKnown new = false) :
    occurrences file (d.remember new).accepted + occurrences file d.overflow.toList =
      occurrences file d.accepted + occurrences file [new] := by
  have room : occurrences file d.makeRoom.accepted + occurrences file d.overflow.toList =
      occurrences file d.accepted := by
    unfold makeRoom
    split
    · rename_i oldest full
      have split : occurrences file d.accepted = occurrences file (oldest :: d.accepted.tail) :=
        congrArg _ (overflow_cons full)
      rw [split, full]
      exact (occurrences_append file [oldest] d.accepted.tail).symm ▸ Nat.add_comm _ _
    · rename_i none
      rw [none]
      rfl
  rw [remember, if_neg (by simp [fresh])]
  change occurrences file (d.makeRoom.accepted ++ [new]) + _ = _
  rw [occurrences_append]
  omega

/-- A file that is released at once was never there. -/
theorem release_remember (h : d.Tidy) (fresh : d.isKnown new = false) :
    ((d.remember new).release new).accepted = d.makeRoom.accepted := by
  rw [remember, if_neg (by simp [fresh])]
  change (d.makeRoom.accepted ++ [new]).filter _ = _
  rw [List.filter_append, List.filter_eq_self.mpr fun other member => ?_]
  · simp [LogFileIdentity.beq_iff]
  · simp [h.other fresh other (makeRoom_sublist.subset member)]

end tidy
end LogDiscovery
end MannyUploader.Domain
