import MannyUploader.Domain.LogDiscovery
import MannyUploader.Foundation.Runs

/-! Sequences of operations on the discovery, with an allocator that may refuse. What was
observed is noted, and the counts and the memory are read off the notes. -/
namespace MannyUploader.Domain
open Foundation

/-- How many more elements the containers take before they ask the allocator again. -/
structure Spare where
  pending : Nat
  accepted : Nat
  known : Nat

/-- `try_reserve`. The allocator may grant more than it is asked for. -/
def tryReserve (answer : Option Nat) (spare additional : Nat) : Option Nat :=
  if additional ≤ spare then some spare else answer.map (additional + ·)

theorem le_of_tryReserve {answer : Option Nat} {spare additional room : Nat}
    (h : tryReserve answer spare additional = some room) : additional ≤ room := by
  unfold tryReserve at h
  split at h
  · cases h
    assumption
  · obtain ⟨extra, -, rfl⟩ := Option.map_eq_some_iff.mp h
    exact Nat.le_add_right _ _

/-- The discovery with its containers. An operation is given what the allocator would answer
to its requests, in their order. -/
structure Allocated where
  discovery : LogDiscovery
  spare : Spare

namespace Allocated

def remember (answers : Nat → Option Nat) (request : Nat) (s : Allocated)
    (file : LogFileIdentity) : Except DiscoveryError Unit × Allocated :=
  if s.discovery.isKnown file then (.ok (), s)
  else match tryReserve (answers request) s.spare.accepted 1 with
    | none => (.error .resourceLimit, s)
    | some accepted =>
      match tryReserve (answers (request + 1)) s.spare.known 1 with
      | none => (.error .resourceLimit, { s with spare := { s.spare with accepted } })
      | some known =>
        (.ok (), ⟨s.discovery.remember file, ⟨s.spare.pending, accepted - 1, known - 1⟩⟩)

/-- The match on `pending.get`. -/
def countMatches (answer : Option Nat) (s : Allocated) (file : LogFileIdentity) :
    Except DiscoveryError Nat × Allocated :=
  match s.discovery.countMatches file with
  | .error error => (.error error, s)
  | .ok matched =>
    if (s.discovery.pendingAt file.canonicalPath).isSome then (.ok matched, s)
    else match tryReserve answer s.spare.pending 1 with
      | none => (.error .resourceLimit, s)
      | some pending => (.ok matched, { s with spare := { s.spare with pending } })

def observe (answers : Nat → Option Nat) (s : Allocated) (file : LogFileIdentity) :
    Except DiscoveryError (Option LogFileIdentity) × Allocated :=
  match LogDiscovery.validate file with
  | .error error => (.error error, s)
  | .ok () =>
    if s.discovery.isKnown file then
      (.ok none, { s with discovery := s.discovery.forgetPending file.canonicalPath })
    else match s.countMatches (answers 0) file with
      | (.error error, s) => (.error error, s)
      | (.ok matched, s) =>
        if matched < s.discovery.requiredMatches then
          (.ok none, ⟨s.discovery.insertPending file matched,
            { s.spare with pending := s.spare.pending - 1 }⟩)
        else match s.remember answers 1 file with
          | (.error error, s) => (.error error, s)
          | (.ok (), s) =>
            (.ok (some file), { s with discovery := s.discovery.forgetPending file.canonicalPath })

/-- The last loop of `seed`. It would stop at a file that finds no room. -/
def rememberAll (answers : Nat → Option Nat) : (request : Nat) → List LogFileIdentity →
    Allocated → Except DiscoveryError Unit × Allocated
  | _, [], s => (.ok (), s)
  | request, file :: rest, s =>
    match s.remember answers request file with
    | (.error error, s) => (.error error, s)
    | (.ok (), s) => rememberAll answers (request + 2) rest s

def seed (answers : Nat → Option Nat) (s : Allocated) (files : List LogFileIdentity) :
    Except DiscoveryError Unit × Allocated :=
  if files.length > s.discovery.historyLimit then (.error .resourceLimit, s)
  else match files.forM LogDiscovery.validate with
    | .error error => (.error error, s)
    | .ok () =>
      match tryReserve (answers 0) s.spare.accepted files.length with
      | none => (.error .resourceLimit, s)
      | some accepted =>
        match tryReserve (answers 1) s.spare.known files.length with
        | none => (.error .resourceLimit, { s with spare := { s.spare with accepted } })
        | some known =>
          rememberAll answers 2 files { s with spare := { s.spare with accepted, known } }

section refines
variable {answers : Nat → Option Nat} {s : Allocated} {file : LogFileIdentity}

variable (answers s file) in
/-- A file is remembered, or nothing is. -/
theorem remember_spec (request : Nat) :
    ((s.remember answers request file).1 = .ok () ∧
      (s.remember answers request file).2.discovery = s.discovery.remember file) ∨
    ∃ error, (s.remember answers request file).1 = .error error ∧
      (s.remember answers request file).2.discovery = s.discovery := by
  unfold remember
  split
  · rename_i known
    exact .inl ⟨rfl, by rw [LogDiscovery.remember, if_pos known]⟩
  split
  · exact .inr ⟨_, rfl, rfl⟩
  split
  · exact .inr ⟨_, rfl, rfl⟩
  · exact .inl ⟨rfl, rfl⟩

variable (s file) in
/-- The allocator is only asked about a path that is not pending. -/
theorem countMatches_spec (answer : Option Nat) :
    (s.countMatches answer file).2.discovery = s.discovery ∧
      ((∃ matched, (s.countMatches answer file).1 = .ok matched ∧
        s.discovery.countMatches file = .ok matched) ∨
      ∃ error, (s.countMatches answer file).1 = .error error ∧
        s.discovery.pendingAt file.canonicalPath = none) := by
  unfold countMatches
  cases counted : s.discovery.countMatches file with
  | error error =>
    refine ⟨rfl, .inr ⟨error, rfl, ?_⟩⟩
    unfold LogDiscovery.countMatches at counted
    split at counted
    · cases counted
    · assumption
  | ok matched =>
    dsimp only
    split
    · exact ⟨rfl, .inl ⟨matched, rfl, rfl⟩⟩
    next absent =>
      split
      · exact ⟨rfl, .inr ⟨_, rfl, by simpa using absent⟩⟩
      · exact ⟨rfl, .inl ⟨matched, rfl, rfl⟩⟩

variable (answers s file) in
/-- What an observation answers is the answer without an allocator. One that fails changes
nothing, and it is no disagreement with what is pending. -/
theorem observe_spec :
    (∃ accepted, (s.observe answers file).1 = .ok accepted ∧
      s.discovery.observe file = .ok (accepted, (s.observe answers file).2.discovery)) ∨
    ∃ error, (s.observe answers file).1 = .error error ∧
      (s.observe answers file).2.discovery = s.discovery ∧
      (LogDiscovery.validate file = .ok () → ∀ previous count,
        s.discovery.pendingAt file.canonicalPath = some (previous, count) →
        (previous == file) = true) := by
  unfold observe LogDiscovery.observe
  cases valid : LogDiscovery.validate file with
  | error error => exact .inr ⟨error, rfl, rfl, nofun⟩
  | ok valid =>
    dsimp only [bind, Except.bind]
    split
    · exact .inl ⟨none, rfl, rfl⟩
    obtain ⟨kept, counted⟩ := countMatches_spec s file (answers 0)
    generalize s.countMatches (answers 0) file = out at kept counted
    obtain ⟨result, t⟩ := out
    dsimp only at kept counted ⊢
    rcases counted with ⟨matched, rfl, counted⟩ | ⟨error, rfl, absent⟩
    · rw [counted, ← kept]
      dsimp only
      split
      · exact .inl ⟨none, rfl, rfl⟩
      next enough =>
        have remembered := remember_spec answers t file 1
        generalize t.remember answers 1 file = out at remembered
        obtain ⟨result, u⟩ := out
        rcases remembered with ⟨rfl, same⟩ | ⟨error, rfl, same⟩
        · dsimp only at same ⊢
          exact .inl ⟨some file, rfl, by rw [same]⟩
        · refine .inr ⟨error, rfl, same, fun _ previous count found => ?_⟩
          -- One observation is not enough, so there was an equal one before.
          rw [LogDiscovery.countMatches, ← kept, found] at counted
          by_contra different
          simp only [different, ↓reduceIte, Except.ok.injEq] at counted
          have := t.discovery.bounds.1
          omega
    · exact .inr ⟨error, rfl, kept, fun _ previous count found => by simp [absent] at found⟩

variable (answers) in
/-- With room for every file none is turned away. -/
theorem rememberAll_spec (files : List LogFileIdentity) (request : Nat) {s : Allocated}
    (accepted : files.length ≤ s.spare.accepted) (known : files.length ≤ s.spare.known) :
    (rememberAll answers request files s).1 = .ok () ∧
      (rememberAll answers request files s).2.discovery =
        files.foldl LogDiscovery.remember s.discovery := by
  induction files generalizing request s with
  | nil => exact ⟨rfl, rfl⟩
  | cons file rest ih =>
    rw [List.length_cons] at accepted known
    have remembered : ∃ t, s.remember answers request file = (.ok (), t) ∧
        t.discovery = s.discovery.remember file ∧
        rest.length ≤ t.spare.accepted ∧ rest.length ≤ t.spare.known := by
      unfold remember
      split
      · rename_i seen
        exact ⟨s, rfl, by rw [LogDiscovery.remember, if_pos seen], by omega, by omega⟩
      · rw [tryReserve, if_pos (by omega), tryReserve, if_pos (by omega)]
        refine ⟨_, rfl, rfl, ?_, ?_⟩
        · exact Nat.le_sub_of_add_le accepted
        · exact Nat.le_sub_of_add_le known
    obtain ⟨t, done, same, accepted, known⟩ := remembered
    rw [rememberAll, done, List.foldl_cons, ← same]
    exact ih _ accepted known

variable (answers s) in
/-- A seed that fails leaves everything as it was: the room is made before the first file. -/
theorem seed_spec (files : List LogFileIdentity) :
    ((s.seed answers files).1 = .ok () ∧
      s.discovery.seed files = .ok (s.seed answers files).2.discovery) ∨
    ∃ error, (s.seed answers files).1 = .error error ∧
      (s.seed answers files).2.discovery = s.discovery := by
  unfold seed LogDiscovery.seed
  split
  · exact .inr ⟨_, rfl, rfl⟩
  cases valid : files.forM LogDiscovery.validate with
  | error error => exact .inr ⟨error, rfl, rfl⟩
  | ok done =>
    dsimp only [bind, Except.bind]
    split
    · exact .inr ⟨_, rfl, rfl⟩
    next accepted reserved =>
      split
      · exact .inr ⟨_, rfl, rfl⟩
      next known reserved' =>
        have room := le_of_tryReserve reserved
        have room' := le_of_tryReserve reserved'
        obtain ⟨done, same⟩ := rememberAll_spec answers files 2
          (s := { s with spare := { s.spare with accepted, known } }) room room'
        exact .inl ⟨done, by rw [same]⟩

end refines
end Allocated

/-- What is noted of a sequence of operations, the latest first. -/
inductive Noted
  | observed (file : LogFileIdentity)
  | accepted (file : LogFileIdentity)
  | seeded (file : LogFileIdentity)
  | released (file : LogFileIdentity)
  | forgotten (path : PathBuf)
  | cleared

/-- How many of the latest observations of a path were this file, since the path was last
forgotten, cleared or accepted. -/
def streak (file : LogFileIdentity) : List Noted → Nat
  | [] => 0
  | .observed other :: older =>
    if other.canonicalPath.same file.canonicalPath then
      if other == file then streak file older + 1 else 0
    else streak file older
  | .accepted other :: older =>
    if other.canonicalPath.same file.canonicalPath then 0 else streak file older
  | .forgotten path :: older => if path.same file.canonicalPath then 0 else streak file older
  | .cleared :: _ => 0
  | .seeded _ :: older | .released _ :: older => streak file older

/-- How many identities were accepted after a file, unless it was released since. -/
def age (file : LogFileIdentity) : List Noted → Option Nat
  | [] => none
  | .accepted other :: older | .seeded other :: older =>
    if other == file then some 0 else (age file older).map (· + 1)
  | .released other :: older => if other == file then none else age file older
  | .observed _ :: older | .forgotten _ :: older | .cleared :: older => age file older

/-- The notes of a seed: a file that is known already is not accepted again. -/
def seedNotes : LogDiscovery → List LogFileIdentity → List Noted → List Noted
  | _, [], notes => notes
  | d, file :: rest, notes =>
    seedNotes (d.remember file) rest (if d.isKnown file then notes else .seeded file :: notes)

section counting
variable {file other : LogFileIdentity} {notes : List Noted}

/-- The same file at the same path has the same past. -/
theorem streak_congr (same : (other == file) = true)
    (path : other.canonicalPath.components = file.canonicalPath.components) :
    streak other notes = streak file notes := by
  have paths (path' : PathBuf) :
      path'.same other.canonicalPath = path'.same file.canonicalPath := by
    rw [PathBuf.same, PathBuf.same, path]
  have files (x : LogFileIdentity) : (x == other) = (x == file) := by
    rw [Bool.eq_iff_iff, LogFileIdentity.beq_iff, LogFileIdentity.beq_iff,
      LogFileIdentity.beq_iff.mp same]
  induction notes with
  | nil => rfl
  | cons note older ih => cases note <;> simp only [streak, paths, files, ih]

theorem streak_observed_self : streak file (.observed file :: notes) = streak file notes + 1 := by
  have path : file.canonicalPath.same file.canonicalPath = true := PathBuf.same_iff.mpr rfl
  have same : (file == file) = true := LogFileIdentity.beq_iff.mpr rfl
  rw [streak, if_pos path, if_pos same]

/-- What happens at other paths is no part of the past. -/
theorem streak_observed_of_ne
    (path : other.canonicalPath.components ≠ file.canonicalPath.components) :
    streak file (.observed other :: notes) = streak file notes := by
  rw [streak, if_neg (by simpa [PathBuf.same_iff] using path)]

end counting

namespace LogDiscovery
variable {d d' : LogDiscovery} {file previous : LogFileIdentity} {notes notes' : List Noted}

theorem pendingAt_forgetPending (path other : PathBuf) :
    (d.forgetPending path).pendingAt other =
      if other.components = path.components then none else d.pendingAt other := by
  unfold pendingAt forgetPending
  dsimp only
  rw [List.find?_filter]
  split
  next same =>
    rw [List.find?_eq_none.mpr, Option.map_none]
    intro entry _ both
    have both := of_decide_eq_true both
    rw [Bool.not_eq_true', ← Bool.not_eq_true, PathBuf.same_iff, PathBuf.same_iff] at both
    exact both.1 (both.2.trans same)
  next different =>
    congr 2
    funext entry
    rw [Bool.eq_iff_iff, decide_eq_true_iff, Bool.not_eq_true', ← Bool.not_eq_true,
      PathBuf.same_iff, PathBuf.same_iff]
    exact ⟨And.right, fun here => ⟨fun there => different (here.symm.trans there), here⟩⟩

theorem pendingAt_insertPending (matched : Nat) (other : PathBuf) :
    (d.insertPending file matched).pendingAt other =
      if other.components = file.canonicalPath.components then some (file, matched)
      else d.pendingAt other := by
  unfold pendingAt insertPending
  dsimp only
  split
  next there =>
    rw [List.find?_map]
    have kept : (fun entry : PathBuf × LogFileIdentity × Nat => entry.1.same other) ∘
        (fun entry : PathBuf × LogFileIdentity × Nat =>
          if entry.1.same file.canonicalPath then (entry.1, file, matched) else entry) =
        fun entry => entry.1.same other := by
      funext entry
      dsimp only [Function.comp]
      split <;> rfl
    rw [kept, Option.map_map]
    cases sought : d.pending.find? fun entry => entry.1.same other with
    | none =>
      obtain ⟨entry, member, here⟩ := List.any_eq_true.mp there
      rw [if_neg]
      · rfl
      · intro same
        have unfound := List.find?_eq_none.mp sought entry member
        exact unfound (PathBuf.same_iff.mpr ((PathBuf.same_iff.mp here).trans same.symm))
    | some found =>
      have at_path : found.1.same other = true := by simpa using List.find?_some sought
      rw [PathBuf.same_iff] at at_path
      rw [Option.map_some, Option.map_some, Function.comp]
      split
      next same => rw [if_pos (at_path.symm.trans (PathBuf.same_iff.mp same))]
      next different =>
        rw [if_neg fun same => different (PathBuf.same_iff.mpr (at_path.trans same))]
  next absent =>
    rw [List.find?_append]
    have none_of (same : other.components = file.canonicalPath.components) :
        (d.pending.find? fun entry => entry.1.same other) = none := by
      refine List.find?_eq_none.mpr fun entry member here => absent ?_
      exact List.any_eq_true.mpr
        ⟨entry, member, PathBuf.same_iff.mpr ((PathBuf.same_iff.mp here).trans same)⟩
    split
    next same =>
      rw [none_of same, Option.none_or, List.find?_singleton,
        if_pos (PathBuf.same_iff.mpr same.symm)]
      rfl
    next different =>
      rw [List.find?_singleton, if_neg, Option.or_none]
      rw [PathBuf.same_iff]
      exact fun same => different same.symm

/-- The counts of what is pending. They stay below the required number, so that the addition
of the source never saturates. -/
def Counts (d : LogDiscovery) (notes : List Noted) : Prop :=
  ∀ path previous count, d.pendingAt path = some (previous, count) →
    path.components = previous.canonicalPath.components ∧ validate previous = .ok () ∧
      count < d.requiredMatches ∧ count ≤ streak previous notes

/-- Whether a path is that of a candidate is seen from its components. -/
theorem validate_congr (valid : validate previous = .ok ())
    (path : file.canonicalPath.components = previous.canonicalPath.components) :
    validate file = .ok () := by
  unfold validate at valid ⊢
  have same : isZevtcCandidate file.canonicalPath = isZevtcCandidate previous.canonicalPath := by
    simp only [isZevtcCandidate, PathBuf.extension, PathBuf.fileName, path]
  split at valid
  · cases valid
  next named =>
    simp only [Bool.or_eq_true, not_or, Bool.not_eq_true, Bool.not_eq_false'] at named
    rw [if_neg]
    intro refused
    rcases Bool.or_eq_true_iff.mp refused with empty | other
    · -- A path without bytes has no extension.
      have nothing : file.canonicalPath = ⟨[]⟩ := congrArg PathBuf.mk (List.isEmpty_iff.mp empty)
      have unnamed : isZevtcCandidate ⟨[]⟩ = false := by decide
      rw [nothing, unnamed] at same
      simp [← same] at named
    · simp [same, named.2] at other

section counted

theorem Counts.forget (h : d.Counts notes) (path : PathBuf)
    (kept : ∀ file, path.components ≠ file.canonicalPath.components →
      streak file notes ≤ streak file notes') :
    (d.forgetPending path).Counts notes' := by
  intro at_ previous count found
  rw [pendingAt_forgetPending] at found
  split at found
  · cases found
  next different =>
    obtain ⟨path', valid, below, counted⟩ := h at_ previous count found
    exact ⟨path', valid, below,
      counted.trans (kept previous fun same => different (path'.trans same.symm))⟩

theorem counts_of_empty (empty : d.pending = []) : d.Counts notes := by
  intro path previous count found
  simp [pendingAt, empty] at found

/-- An observation that is noted and changes nothing agrees with what is pending. -/
theorem Counts.unchanged (h : d.Counts notes) (agrees : validate file = .ok () →
      ∀ previous count, d.pendingAt file.canonicalPath = some (previous, count) →
        (previous == file) = true) : d.Counts (.observed file :: notes) := by
  intro path previous count found
  obtain ⟨path', valid, below, counted⟩ := h path previous count found
  refine ⟨path', valid, below, ?_⟩
  by_cases here : file.canonicalPath.components = previous.canonicalPath.components
  · have sought : d.pendingAt file.canonicalPath = some (previous, count) := by
      rw [← found, pendingAt, pendingAt]
      congr 2
      funext entry
      rw [PathBuf.same, PathBuf.same, here, path']
    have same := agrees (validate_congr valid here) previous count sought
    rw [streak_congr same here.symm, streak_observed_self, ← streak_congr same here.symm]
    exact Nat.le_succ_of_le counted
  · rw [streak_observed_of_ne here]
    exact counted

/-- What is counted was observed, in a row. -/
theorem Counts.matched (h : d.Counts notes) {matched : Nat}
    (counted : d.countMatches file = .ok matched) :
    matched ≤ streak file (.observed file :: notes) := by
  rw [streak_observed_self]
  unfold countMatches at counted
  split at counted
  next previous count found =>
    obtain ⟨path, -, -, before⟩ := h _ _ _ found
    cases counted
    split
    next same =>
      rw [← streak_congr same path.symm]
      exact Nat.succ_le_succ before
    · exact Nat.succ_le_succ (Nat.zero_le _)
  next =>
    split at counted
    · cases counted
    · cases counted
      exact Nat.succ_le_succ (Nat.zero_le _)

theorem Counts.insert (h : d.Counts notes) (valid : validate file = .ok ()) {matched : Nat}
    (counted : d.countMatches file = .ok matched) (below : matched < d.requiredMatches) :
    (d.insertPending file matched).Counts (.observed file :: notes) := by
  have once : matched ≤ streak file (.observed file :: notes) := h.matched counted
  intro path previous count found
  rw [pendingAt_insertPending] at found
  split at found
  next here =>
    cases found
    exact ⟨here, valid, below, once⟩
  next there =>
    obtain ⟨path', valid', below', counted'⟩ := h path previous count found
    refine ⟨path', valid', below', ?_⟩
    rw [streak_observed_of_ne fun same => there (path'.trans same.symm)]
    exact counted'

end counted

section remembering

/-- The memory: each identity once, within the limit, and in the order of acceptance. -/
structure Remembers (d : LogDiscovery) (notes : List Noted) : Prop where
  tidy : d.Tidy
  within : d.accepted.length ≤ d.historyLimit
  aged : ∀ file n, age file notes = some n → n < d.historyLimit →
    ∃ before kept after, d.accepted = before ++ kept :: after ∧ (kept == file) = true ∧
      after.length ≤ n

theorem Remembers.frame (h : d.Remembers notes) (accepted : d'.accepted = d.accepted)
    (known : d'.known = d.known) (limit : d'.historyLimit = d.historyLimit)
    (ages : ∀ file, age file notes' = age file notes) : d'.Remembers notes' where
  tidy := ⟨by rw [known, accepted]; exact h.tidy.known, by rw [accepted]; exact h.tidy.distinct⟩
  within := by rw [accepted, limit]; exact h.within
  aged := by
    intro file n aged young
    rw [ages] at aged
    rw [limit] at young
    rw [accepted]
    exact h.aged file n aged young

theorem historyLimit_makeRoom (d : LogDiscovery) : d.makeRoom.historyLimit = d.historyLimit := by
  unfold makeRoom
  split <;> rfl

/-- Room is made at the front only, and only of a full memory. -/
theorem makeRoom_cases (within : d.accepted.length ≤ d.historyLimit) :
    (d.accepted.length < d.historyLimit ∧ d.makeRoom.accepted = d.accepted) ∨
      d.accepted.length = d.historyLimit ∧
        ∃ oldest, d.accepted = oldest :: d.makeRoom.accepted := by
  unfold makeRoom
  cases full : d.overflow with
  | some oldest =>
    refine .inr ⟨?_, oldest, overflow_cons full⟩
    unfold overflow at full
    split at full
    · assumption
    · cases full
  | none =>
    refine .inl ⟨?_, rfl⟩
    by_contra crowded
    have limit := d.bounds.2.2.1
    have length : d.accepted.length = d.historyLimit := by omega
    rw [overflow, if_pos length, List.head?_eq_none_iff] at full
    rw [full, List.length_nil] at length
    omega

theorem Remembers.accept (h : d.Remembers notes) (fresh : d.isKnown file = false) (note : Noted)
    (newest : ∀ other, age other (note :: notes) =
      if file == other then some 0 else (age other notes).map (· + 1)) :
    (d.remember file).Remembers (note :: notes) := by
  have limit : (d.remember file).historyLimit = d.historyLimit := by
    rw [remember, if_neg (by simp [fresh])]
    exact historyLimit_makeRoom d
  have accepted : (d.remember file).accepted = d.makeRoom.accepted ++ [file] := by
    rw [remember, if_neg (by simp [fresh])]
  have room := makeRoom_cases h.within
  refine ⟨h.tidy.remember, ?_, fun other n aged young => ?_⟩
  · rw [accepted, limit, List.length_append, List.length_singleton]
    rcases room with ⟨room, same⟩ | ⟨full, oldest, split⟩
    · rw [same]
      exact room
    · rw [← full, split]
      exact Nat.le_refl _
  · rw [accepted]
    rw [newest] at aged
    rw [limit] at young
    split at aged
    next same => exact ⟨d.makeRoom.accepted, file, [], rfl, same, Nat.zero_le _⟩
    next different =>
      obtain ⟨m, before, rfl⟩ := Option.map_eq_some_iff.mp aged
      obtain ⟨front, kept, after, found, same, short⟩ := h.aged other m before (by omega)
      rcases room with ⟨-, unchanged⟩ | ⟨full, oldest, split⟩
      · refine ⟨front, kept, after ++ [file], ?_, same, ?_⟩
        · rw [unchanged, found, List.append_assoc, List.cons_append]
        · simpa using short
      · -- What leaves stands in front of everything that is young enough.
        cases front with
        | nil =>
          rw [found, List.nil_append, List.length_cons] at full
          omega
        | cons first front =>
          rw [found, List.cons_append, List.cons.injEq] at split
          refine ⟨front, kept, after ++ [file], ?_, same, ?_⟩
          · rw [← split.2, List.append_assoc, List.cons_append]
          · simpa using short

theorem Remembers.release (h : d.Remembers notes) (file : LogFileIdentity) :
    (d.release file).Remembers (.released file :: notes) := by
  refine ⟨h.tidy.release, (List.length_filter_le _ _).trans h.within, fun other n aged young => ?_⟩
  rw [age] at aged
  split at aged
  · cases aged
  next different =>
    obtain ⟨front, kept, after, found, same, short⟩ := h.aged other n aged young
    have stays : (kept == file) = false := by
      rw [LogFileIdentity.beq_iff] at different
      rw [← Bool.not_eq_true, LogFileIdentity.beq_iff]
      exact fun gone => different (gone.symm.trans (LogFileIdentity.beq_iff.mp same))
    refine ⟨front.filter fun accepted => !(accepted == file), kept,
      after.filter fun accepted => !(accepted == file), ?_, same,
      (List.length_filter_le _ _).trans short⟩
    change d.accepted.filter _ = _
    rw [found, List.filter_append, List.filter_cons_of_pos (by simp [stays])]

theorem Remembers.seed (h : d.Remembers notes) (files : List LogFileIdentity) :
    (files.foldl LogDiscovery.remember d).Remembers (seedNotes d files notes) := by
  induction files generalizing d notes with
  | nil => exact h
  | cons file rest ih =>
    rw [List.foldl_cons, seedNotes]
    refine ih ?_
    cases known : d.isKnown file with
    | true =>
      rw [LogDiscovery.remember, if_pos known]
      exact h
    | false => exact h.accept known _ fun other => rfl

/-- What is young enough is known. -/
theorem Remembers.known (h : d.Remembers notes) {n : Nat} (aged : age file notes = some n)
    (young : n < d.historyLimit) : d.isKnown file = true := by
  obtain ⟨front, kept, after, found, same, -⟩ := h.aged file n aged young
  rw [isKnown, h.tidy.known, found]
  exact List.any_eq_true.mpr ⟨kept, by simp, same⟩

end remembering

section operations

/-- The laws of the discovery and what is noted of it. -/
structure Lawful (d : LogDiscovery) (notes : List Noted) : Prop where
  counts : d.Counts notes
  remembers : d.Remembers notes

theorem requiredMatches_remember (d : LogDiscovery) (file : LogFileIdentity) :
    (d.remember file).requiredMatches = d.requiredMatches := by
  unfold remember makeRoom
  split
  · rfl
  · split <;> rfl

theorem Counts.seed (h : d.Counts notes) (files : List LogFileIdentity) :
    (files.foldl LogDiscovery.remember d).Counts (seedNotes d files notes) := by
  induction files generalizing d notes with
  | nil => exact h
  | cons file rest ih =>
    rw [List.foldl_cons, seedNotes]
    refine ih fun path previous count found => ?_
    have pending := (remember_pending d file).1
    rw [pendingAt, pending, ← pendingAt] at found
    obtain ⟨path', valid, below, counted⟩ := h path previous count found
    refine ⟨path', valid, ?_, ?_⟩
    · rw [requiredMatches_remember]
      exact below
    · split
      · exact counted
      · exact counted

theorem pendingAt_remember (path : PathBuf) :
    (d.remember file).pendingAt path = d.pendingAt path := by
  rw [pendingAt, (remember_pending d file).1, ← pendingAt]

theorem Counts.remember (h : d.Counts notes) (file : LogFileIdentity) :
    (d.remember file).Counts notes := by
  intro path previous count found
  rw [pendingAt_remember] at found
  rw [requiredMatches_remember]
  exact h path previous count found

/-- One observation. What it accepts was observed often enough. -/
theorem Lawful.observe (h : d.Lawful notes) {accepted : Option LogFileIdentity}
    (observed : d.observe file = .ok (accepted, d')) :
    match accepted with
    | none => d'.Lawful (.observed file :: notes)
    | some found => found = file ∧ d.isKnown file = false ∧
        d.requiredMatches ≤ streak file (.observed file :: notes) ∧
        d'.Lawful (.accepted found :: .observed file :: notes) := by
  unfold LogDiscovery.observe at observed
  obtain ⟨⟨⟩, valid, observed⟩ := bind_ok observed
  split at observed
  · cases observed
    refine ⟨h.counts.forget _ fun other away => ?_, h.remembers.frame rfl rfl rfl fun _ => rfl⟩
    rw [streak_observed_of_ne away]
  next fresh =>
    obtain ⟨matched, counted, observed⟩ := bind_ok observed
    split at observed
    next below =>
      cases observed
      exact ⟨h.counts.insert valid counted below, h.remembers.frame rfl rfl rfl fun _ => rfl⟩
    next enough =>
      cases observed
      have fresh : d.isKnown file = false := by simpa using fresh
      refine ⟨rfl, fresh, (Nat.le_of_not_lt enough).trans (h.counts.matched counted), ?_, ?_⟩
      · refine (h.counts.remember file).forget _ fun other away => ?_
        have apart : file.canonicalPath.same other.canonicalPath = false := by
          rw [← Bool.not_eq_true, PathBuf.same_iff]
          exact away
        rw [streak, apart, streak_observed_of_ne away]
        exact Nat.le_refl _
      · exact (h.remembers.accept fresh (.accepted file) fun other => rfl).frame rfl rfl rfl
          fun _ => rfl

end operations

end LogDiscovery

inductive DiscoveryOp
  | observe (file : LogFileIdentity)
  | forgetPending (path : PathBuf)
  | clearPending
  | setRequiredMatches (requiredMatches : Nat)
  | seed (files : List LogFileIdentity)
  | release (file : LogFileIdentity)

/-- The discovery at work, with the notes. -/
structure Discovering where
  memory : Allocated
  notes : List Noted

namespace Discovering

/-- One operation, and what the allocator answers in it. -/
def perform (s : Discovering) : DiscoveryOp × (Nat → Option Nat) → Discovering
  | (.observe file, answers) =>
    match s.memory.observe answers file with
    | (.ok (some accepted), memory) => ⟨memory, .accepted accepted :: .observed file :: s.notes⟩
    | (_, memory) => ⟨memory, .observed file :: s.notes⟩
  | (.forgetPending path, _) =>
    ⟨{ s.memory with discovery := s.memory.discovery.forgetPending path },
      .forgotten path :: s.notes⟩
  | (.clearPending, _) =>
    ⟨{ s.memory with discovery := s.memory.discovery.clearPending }, .cleared :: s.notes⟩
  | (.setRequiredMatches requiredMatches, _) =>
    match s.memory.discovery.setRequiredMatches requiredMatches with
    | .ok discovery => ⟨{ s.memory with discovery }, .cleared :: s.notes⟩
    | .error _ => s
  | (.seed files, answers) =>
    match s.memory.seed answers files with
    | (.ok (), memory) => ⟨memory, seedNotes s.memory.discovery files s.notes⟩
    | (.error _, memory) => ⟨memory, s.notes⟩
  | (.release file, _) =>
    ⟨{ s.memory with discovery := s.memory.discovery.release file }, .released file :: s.notes⟩

variable {s : Discovering}

/-- The laws are kept by every operation, whatever the allocator answers in it. -/
theorem perform_lawful (op : DiscoveryOp × (Nat → Option Nat))
    (h : s.memory.discovery.Lawful s.notes) :
    (s.perform op).memory.discovery.Lawful (s.perform op).notes := by
  obtain ⟨op, answers⟩ := op
  cases op with
  | observe file =>
    simp only [perform]
    have spec := s.memory.observe_spec answers file
    generalize s.memory.observe answers file = out at spec
    obtain ⟨result, memory⟩ := out
    rcases spec with ⟨accepted, rfl, observed⟩ | ⟨error, rfl, same, agrees⟩
    · have kept := h.observe observed
      cases accepted with
      | none => exact kept
      | some found => exact kept.2.2.2
    · dsimp only at same ⊢
      rw [same]
      exact ⟨h.counts.unchanged agrees, h.remembers.frame rfl rfl rfl fun _ => rfl⟩
  | forgetPending path =>
    refine ⟨h.counts.forget path fun file away => ?_, h.remembers.frame rfl rfl rfl fun _ => rfl⟩
    change _ ≤ streak file (.forgotten path :: s.notes)
    rw [streak, if_neg (by simpa [PathBuf.same_iff] using away)]
  | clearPending =>
    exact ⟨LogDiscovery.counts_of_empty rfl, h.remembers.frame rfl rfl rfl fun _ => rfl⟩
  | setRequiredMatches requiredMatches =>
    simp only [perform, LogDiscovery.setRequiredMatches]
    split
    next discovery set =>
      split at set
      · cases set
        exact ⟨LogDiscovery.counts_of_empty rfl, h.remembers.frame rfl rfl rfl fun _ => rfl⟩
      · cases set
    · exact h
  | seed files =>
    simp only [perform]
    have spec := s.memory.seed_spec answers files
    generalize s.memory.seed answers files = out at spec
    obtain ⟨result, memory⟩ := out
    rcases spec with ⟨rfl, seeded⟩ | ⟨error, rfl, same⟩
    · dsimp only at seeded ⊢
      rw [LogDiscovery.seed_ok seeded]
      exact ⟨h.counts.seed files, h.remembers.seed files⟩
    · dsimp only at same ⊢
      rw [same]
      exact h
  | release file => exact ⟨h.counts, h.remembers.release file⟩

variable {requiredMatches pendingLimit historyLimit : Nat} {d : LogDiscovery} {spare : Spare}

/-- After any operations: known is what is accepted, each identity once and within the limit,
and kept while it is young. What is accepted is fresh and was observed often enough in a row,
and a seed that fails changes nothing. -/
theorem discovery_lawful (created : LogDiscovery.new requiredMatches pendingLimit historyLimit =
      .ok d) (run : Run perform (fun _ _ => True) ⟨⟨d, spare⟩, []⟩ s) :
    let now := s.memory.discovery
    (now.known = now.accepted ∧ (now.accepted.map LogFileIdentity.key).Nodup ∧
      now.accepted.length ≤ now.historyLimit) ∧
    (∀ file n, age file s.notes = some n → n < now.historyLimit → now.isKnown file = true) ∧
    (∀ answers file accepted, (s.memory.observe answers file).1 = .ok (some accepted) →
      accepted = file ∧ now.isKnown file = false ∧
        now.requiredMatches ≤ streak file (.observed file :: s.notes)) ∧
    (∀ answers files error, (s.memory.seed answers files).1 = .error error →
      (s.memory.seed answers files).2.discovery = now) := by
  have lawful : s.memory.discovery.Lawful s.notes := by
    have keeps (t op) (_ : True) (kept : t.memory.discovery.Lawful t.notes) :
        (perform t op).memory.discovery.Lawful (perform t op).notes := perform_lawful op kept
    apply run.invariant keeps
    unfold LogDiscovery.new at created
    split at created
    · cases created
      refine ⟨LogDiscovery.counts_of_empty rfl, ⟨⟨rfl, .nil⟩, Nat.zero_le _, fun file n aged => ?_⟩⟩
      cases aged
    · cases created
  have memory := lawful.remembers
  refine ⟨⟨memory.tidy.known, memory.tidy.distinct, memory.within⟩, ?_, ?_, ?_⟩
  · exact fun file n aged young => memory.known aged young
  · intro answers file accepted answered
    rcases s.memory.observe_spec answers file with ⟨found, same, observed⟩ | ⟨error, failed, -⟩
    · rw [answered] at same
      cases same
      obtain ⟨rfl, fresh, enough, -⟩ := lawful.observe observed
      exact ⟨rfl, fresh, enough⟩
    · rw [answered] at failed
      cases failed
  · intro answers files error failed
    rcases s.memory.seed_spec answers files with ⟨done, -⟩ | ⟨_, -, same⟩
    · rw [failed] at done
      cases done
    · exact same

/-- Two observations of a log of one size, and two of another, with a memory for one. -/
def rewrittenLog : List (DiscoveryOp × (Nat → Option Nat)) :=
  [1, 1, 2, 2].map fun size =>
    (.observe ⟨⟨utf8 "C:\\logs\\a.zevtc"⟩, size, .unixEpoch⟩, fun _ => some 0)

theorem discovery_lawful_sample :
    let start : LogDiscovery := ⟨2, 8, 1, by decide, [], [], []⟩
    let now := (rewrittenLog.foldl perform ⟨⟨start, ⟨0, 0, 0⟩⟩, []⟩).memory.discovery
    now.accepted.map (·.size) = [2] ∧ now.known = now.accepted :=
  ⟨by decide +kernel, (discovery_lawful (show LogDiscovery.new 2 8 1 = .ok _ from rfl)
    (.of_list perform _ rewrittenLog fun _ _ _ => trivial)).1.1⟩

end Discovering
end MannyUploader.Domain
