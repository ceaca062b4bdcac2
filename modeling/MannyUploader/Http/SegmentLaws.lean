import MannyUploader.Http.BodySources

/-! One segment of a body: the bytes it gives are the next ones of its source, and a source that
does not keep to its length makes the read fail. -/
namespace MannyUploader.Http
open Domain Application Foundation Stateful

/-! What the sources have answered. -/

def Answered.bytes (answered : Answered) : List UInt8 := answered.answer.bytes

/-- The answers of one source. -/
def answersOf (answers : List Answered) (number : Nat) : List Answered :=
  answers.filter (·.source == number)

/-- All bytes that a source has given. -/
def given (answers : List Answered) : List UInt8 := answers.flatMap Answered.bytes

/-- An answer of a source that has `left` bytes left: some of them, or none at the end. -/
def Fair (left : Nat) (answered : Answered) : Prop :=
  ∃ count buffer, answered.answer = .ok count buffer ∧ count ≤ answered.room ∧ count ≤ left ∧
    (0 < left → 0 < count)

/-- The answers of a source that keeps to the length it has declared. -/
def Honest : (left : Nat) → List Answered → Prop
  | _, [] => True
  | left, answered :: rest => Fair left answered ∧ Honest (left - answered.bytes.length) rest

/-- The source has said that it is at its end. -/
def Ended (answers : List Answered) : Prop := ∃ answered ∈ answers, answered.bytes = []

/-- The source was honest, and has said that it is at its end when it has given everything. -/
structure Kept (length : Nat) (answers : List Answered) : Prop where
  honest : Honest length answers
  ended : answers ≠ [] → (given answers).length = length → Ended answers

/-- The source has given all of its bytes, and no more. -/
structure Complete (length : Nat) (answers : List Answered) : Prop extends Kept length answers where
  length : (given answers).length = length
  told : Ended answers

theorem honest_append {left : Nat} {answers : List Answered} {answered : Answered} :
    Honest left (answers ++ [answered]) ↔
      Honest left answers ∧ Fair (left - (given answers).length) answered := by
  induction answers generalizing left with
  | nil => simp [Honest, given]
  | cons first rest ih =>
    rw [List.cons_append, Honest, Honest, ih, and_assoc, Nat.sub_sub, given, given,
      List.flatMap_cons, List.length_append]

theorem given_append (first second : List Answered) :
    given (first ++ second) = given first ++ given second :=
  List.flatMap_append

theorem answersOf_append (answers : List Answered) (answered : Answered) (number : Nat) :
    answersOf (answers ++ [answered]) number =
      if answered.source = number then answersOf answers number ++ [answered]
      else answersOf answers number := by
  rw [answersOf, List.filter_append, List.filter_cons]
  by_cases same : answered.source = number <;> simp [same, answersOf]

/-- What a segment has of its source: in memory what is there, else what it was given. -/
def textOf (answers : List Answered) (number : Nat) : HttpBodySegment → List UInt8
  | .memory bytes => bytes
  | .file _ => given (answersOf answers number)

/-- `Kept` is a matter of the sources outside memory only. -/
def KeptAt (answers : List Answered) (number : Nat) : HttpBodySegment → Prop
  | .memory _ => True
  | .file identity => Kept identity.size.toNat (answersOf answers number)

def CompleteAt (answers : List Answered) (number : Nat) : HttpBodySegment → Prop
  | .memory _ => True
  | .file identity => Complete identity.size.toNat (answersOf answers number)

namespace ExactLengthBody
variable {W : Type} {ports : BodyPorts W} {b b' : ExactLengthBody} {t t' : BodyTape W}

/-- What the reader has been given of the segment. -/
def out (b : ExactLengthBody) (answers : List Answered) : List UInt8 :=
  match b.source with
  | .memory bytes => bytes.take b.offset
  | .file _ => given (answersOf answers b.number)

/-- A segment in the midst of a read: as much is left as it has not given yet. -/
structure Runs (b : ExactLengthBody) (answers : List Answered) : Prop where
  sound : b.failure = none
  length : b.length = b.source.contentLength
  progress : (b.out answers).length + b.remaining = b.length
  offset : ∀ bytes, b.source = .memory bytes → b.offset ≤ bytes.length
  honest : ∀ identity, b.source = .file identity →
    Honest identity.size.toNat (answersOf answers b.number)

/-- A segment that has not failed. -/
structure Fits (b : ExactLengthBody) (answers : List Answered) : Prop extends Runs b answers where
  kept : KeptAt answers b.number b.source
  checked : b.eofChecked = true → b.remaining = 0 ∧ CompleteAt answers b.number b.source

/-- What a read does to the tape: only the source's own answers are added. -/
structure Only (number : Nat) (t t' : BodyTape W) : Prop where
  others : ∀ other, other ≠ number → answersOf t'.answers other = answersOf t.answers other
  stopped : t.stopped = true → t'.stopped = true

theorem Only.refl (number : Nat) (t : BodyTape W) : Only number t t := ⟨fun _ _ => rfl, id⟩

theorem Only.trans {number : Nat} {t t' t'' : BodyTape W} (first : Only number t t')
    (second : Only number t' t'') : Only number t t'' :=
  ⟨fun other apart => (second.others other apart).trans (first.others other apart),
    second.stopped ∘ first.stopped⟩

/-- A read fails because of the stop token, or of a source that did not keep to its length. -/
structure Fails (b : ExactLengthBody) (t : BodyTape W) (s : ExactLengthBody × BodyTape W) : Prop where
  only : Only b.number t s.2
  blamed : s.2.stopped = true ∨ ¬KeptAt s.2.answers b.number b.source

/-- The state after a stop token that asked for nothing. -/
structure Passed (b : ExactLengthBody) (t : BodyTape W) (s : ExactLengthBody × BodyTape W) : Prop where
  body : s.1 = b
  answers : s.2.answers = t.answers
  stopped : t.stopped = true → s.2.stopped = true

theorem checkStop_spec : Triple (· = (b, t)) (checkStop ports) (fun _ => Passed b t)
    (fun _ s => s.2.answers = t.answers ∧ s.2.stopped = true) := by
  refine Triple.get_bind fun s same => ?_
  subst same
  refine Triple.set_bind (Triple.onlyIf (fun stop => ?_) fun go => ?_)
  · refine Triple.fail fun s same => ?_
    subst same
    exact ⟨rfl, by simp [stop]⟩
  · rintro s rfl
    exact ⟨rfl, rfl, fun before => by simp [before]⟩

/-- What a source that was asked has given. -/
inductive Gave (b : ExactLengthBody) (t : BodyTape W) (room count : Nat) (bytes : List UInt8)
    (s : ExactLengthBody × BodyTape W) : Prop
  | memory (text : List UInt8) (source : b.source = .memory text)
      (told : count = min room (text.length - b.offset))
      (some : bytes = (text.drop b.offset).take count)
      (body : s.1 = { b with offset := b.offset + count }) (answers : s.2.answers = t.answers)
  | file (identity : LogFileIdentity) (buffer : Vector UInt8 room)
      (source : b.source = .file identity) (some : bytes = buffer.toList.take count)
      (body : s.1 = b)
      (answers : s.2.answers = t.answers ++ [{ source := b.number, room, answer := .ok count buffer }])

theorem Only.append {answered : Answered} (from' : answered.source = b.number)
    (answers : t'.answers = t.answers ++ [answered])
    (stopped : t.stopped = true → t'.stopped = true) : Only b.number t t' := by
  refine ⟨fun other apart => ?_, stopped⟩
  rw [answers, answersOf_append, if_neg (from' ▸ Ne.symm apart)]

/-- What is left of a source outside memory. -/
theorem Runs.left (runs : b.Runs t.answers) {identity : LogFileIdentity}
    (source : b.source = .file identity) :
    identity.size.toNat - (given (answersOf t.answers b.number)).length = b.remaining := by
  have progress := runs.progress
  rw [runs.length, source, out, source] at progress
  exact Nat.sub_eq_of_eq_add (by rw [Nat.add_comm]; exact progress.symm)

theorem Runs.not_kept (runs : b.Runs t.answers) {identity : LogFileIdentity} {answered : Answered}
    (source : b.source = .file identity) (from' : answered.source = b.number)
    (unfair : ¬Fair b.remaining answered) :
    ¬KeptAt (t.answers ++ [answered]) b.number b.source := by
  rw [source]
  intro kept
  have honest := kept.honest
  rw [answersOf_append, if_pos from', honest_append, runs.left source] at honest
  exact unfair honest.2

theorem readSource_spec {room : Nat} (runs : b.Runs t.answers) :
    Triple (· = (b, t)) (readSource ports room)
      (fun read s => (t.stopped = true → s.2.stopped = true) ∧ Gave b t room read.1 read.2 s)
      (fun _ => Fails b t) := by
  refine Triple.get_bind fun s same => ?_
  subst same
  cases source : b.source with
  | memory bytes =>
    simp only [source]
    refine Triple.bind (checkStop_spec.weaken (fun _ same => same) (fun _ _ passed => passed) ?_)
      fun _ => ?_
    · rintro _ s ⟨answers, stopped⟩
      exact ⟨⟨fun other _ => by rw [answers], fun _ => stopped⟩, .inl stopped⟩
    · refine Triple.modify_bind fun s passed => Triple.pure fun _ same => ?_
      subst same
      exact ⟨passed.stopped, .memory bytes source rfl rfl (by rw [passed.body]) passed.answers⟩
  | file identity =>
    simp only [source]
    refine Triple.set_bind ?_
    have others (answered : Answered) (from' : answered.source = b.number) (other : Nat)
        (apart : other ≠ b.number) :
        answersOf (t.answers ++ [answered]) other = answersOf t.answers other := by
      rw [answersOf_append, if_neg (from' ▸ Ne.symm apart)]
    have failing (answer : ReadAnswer room) (failed : ∀ count buffer, answer ≠ .ok count buffer)
        (world : W) (error : HttpBodyError) :
        Triple (· = (b, { t with
          world, answers := t.answers ++ [{ source := b.number, room, answer }] }))
          (Stateful.fail error : Reading W (Nat × List UInt8))
          (fun read s => (t.stopped = true → s.2.stopped = true) ∧ Gave b t room read.1 read.2 s)
          (fun _ => Fails b t) := by
      refine Triple.fail fun s same => ?_
      subst same
      refine ⟨⟨others _ rfl, id⟩, .inr (runs.not_kept source rfl ?_)⟩
      rintro ⟨count, buffer, ok, -⟩
      exact failed count buffer ok
    generalize (ports.read b.number room t.world).1 = answer
    generalize (ports.read b.number room t.world).2 = world
    cases answer with
    | ok count buffer =>
      refine Triple.pure fun s same => ?_
      subst same
      exact ⟨id, .file identity buffer source rfl rfl rfl⟩
    | failed error => exact failing (.failed error) (by simp) world error
    | panicked => exact failing .panicked (by simp) world _

/-- Some more bytes have come of a segment. -/
structure Moved (b : ExactLengthBody) (t : BodyTape W) (bytes : List UInt8)
    (s : ExactLengthBody × BodyTape W) : Prop where
  same : s.1 = { b with offset := s.1.offset, remaining := s.1.remaining }
  only : Only b.number t s.2
  runs : s.1.Runs s.2.answers
  out : s.1.out s.2.answers = b.out t.answers ++ bytes

theorem Gave.moved {room count : Nat} {bytes : List UInt8} {s : ExactLengthBody × BodyTape W}
    (runs : b.Runs t.answers) (gave : Gave b t room count bytes s) (some : 0 < count)
    (fits : count ≤ room) (left : room ≤ b.remaining)
    (stopped : t.stopped = true → s.2.stopped = true) :
    Moved b t bytes ({ s.1 with remaining := s.1.remaining - count }, s.2) ∧ bytes.length = count := by
  obtain ⟨b', t'⟩ := s
  have progress (b' : ExactLengthBody) (out : b'.out t'.answers = b.out t.answers ++ bytes)
      (length : bytes.length = count) :
      (b'.out t'.answers).length + (b.remaining - count) = b.length := by
    have before := runs.progress
    rw [out, List.length_append, length]
    omega
  cases gave with
  | memory text source told given body answers =>
    obtain rfl : b' = { b with offset := b.offset + count } := body
    have inside := runs.offset text source
    have length : bytes.length = count := by
      rw [given, List.length_take, List.length_drop]
      omega
    have out' : ({ b with offset := b.offset + count, remaining := b.remaining - count } :
        ExactLengthBody).out t'.answers = b.out t.answers ++ bytes := by
      simp only [out, source, given]
      exact List.take_add
    refine ⟨⟨rfl, ⟨fun other _ => by rw [answers], stopped⟩,
      ⟨runs.sound, runs.length, progress _ out' length, ?_, ?_⟩, out'⟩, length⟩
    · intro other same
      cases source.symm.trans same
      change b.offset + count ≤ text.length
      omega
    · intro identity same
      cases source.symm.trans same
  | file identity buffer source given body answers =>
    have same : b' = b := body
    subst b'
    have length : bytes.length = count := by
      rw [given, List.length_take, Vector.length_toList]
      omega
    have out' : ({ b with remaining := b.remaining - count } : ExactLengthBody).out t'.answers =
        b.out t.answers ++ bytes := by
      simp only [out, source]
      rw [answers, answersOf_append, if_pos rfl, given_append, given]
      simp [Http.given, Answered.bytes, ReadAnswer.bytes]
    refine ⟨⟨rfl, .append rfl answers stopped,
      ⟨runs.sound, runs.length, progress _ out' length, ?_, ?_⟩, out'⟩, length⟩
    · intro text same
      cases source.symm.trans same
    · intro other same
      cases source.symm.trans same
      change Honest _ (answersOf t'.answers b.number)
      rw [answers, answersOf_append, if_pos rfl, honest_append, runs.left source]
      exact ⟨runs.honest identity source, count, buffer, rfl, fits, fits.trans left, fun _ => some⟩

theorem readPart_spec {room : Nat} (runs : b.Runs t.answers) (left : room ≤ b.remaining) :
    Triple (· = (b, t)) (readPart ports room)
      (fun bytes s => Moved b t bytes s ∧ (bytes = [] → room = 0) ∧ bytes.length ≤ room)
      (fun _ => Fails b t) := by
  refine Triple.ite (fun none => ?_) fun some => ?_
  · refine Triple.pure fun s same => ?_
    subst same
    exact ⟨⟨rfl, .refl _ _, runs, (List.append_nil _).symm⟩, fun _ => none, Nat.zero_le _⟩
  replace some := Nat.pos_of_ne_zero some
  refine Triple.bind (readSource_spec runs) fun ⟨count, bytes⟩ => ?_
  refine Triple.ite (fun unfit => ?_) fun fit => ?_
  · refine Triple.fail fun s given => ?_
    obtain ⟨stopped, gave⟩ := given
    cases gave with
    | memory text source told given body answers =>
      have progress := runs.progress
      have inside := runs.offset text source
      rw [runs.length, source, HttpBodySegment.contentLength, out, source] at progress
      rw [List.length_take] at progress
      omega
    | file identity buffer source given body answers =>
      refine ⟨.append rfl answers stopped, .inr ?_⟩
      rw [answers]
      refine runs.not_kept source rfl ?_
      rintro ⟨count', buffer', ok, short, -, positive⟩
      cases ok
      rcases unfit with none | long
      · exact absurd (positive (Nat.lt_of_lt_of_le some left)) (by omega)
      · exact absurd short (Nat.not_le.mpr long)
  · rw [not_or, Nat.not_lt] at fit
    refine Triple.modify_bind fun s given => Triple.pure fun _ same => ?_
    subst same
    obtain ⟨moved, length⟩ := given.2.moved runs (Nat.pos_of_ne_zero fit.1) fit.2 left given.1
    refine ⟨moved, fun nothing => absurd ?_ fit.1, ?_⟩
    · exact length.symm.trans (congrArg List.length nothing)
    · rw [length]
      exact fit.2

/-- The end of a segment: its source has nothing more, and the segment knows. -/
structure Checked (b : ExactLengthBody) (t : BodyTape W) (s : ExactLengthBody × BodyTape W) : Prop where
  same : s.1 = { b with offset := s.1.offset, eofChecked := true }
  only : Only b.number t s.2
  runs : s.1.Runs s.2.answers
  out : s.1.out s.2.answers = b.out t.answers
  complete : CompleteAt s.2.answers b.number b.source

theorem checkEnd_spec (runs : b.Runs t.answers) (nothing : b.remaining = 0) :
    Triple (· = (b, t)) (checkEnd ports) (fun _ => Checked b t) (fun _ => Fails b t) := by
  refine Triple.bind (readSource_spec runs) fun ⟨count, bytes⟩ => ?_
  refine Triple.ite (fun more => ?_) fun none => ?_
  · refine Triple.fail fun s gotten => ?_
    obtain ⟨stopped, gave⟩ := gotten
    cases gave with
    | memory text source told _ body answers =>
      have progress := runs.progress
      have inside := runs.offset text source
      rw [runs.length, source, HttpBodySegment.contentLength, out, source] at progress
      rw [List.length_take] at progress
      omega
    | file identity buffer source _ body answers =>
      refine ⟨.append rfl answers stopped, .inr ?_⟩
      rw [answers]
      refine runs.not_kept source rfl ?_
      rintro ⟨count', buffer', ok, -, short, -⟩
      cases ok
      omega
  · rw [not_not] at none
    subst count
    refine Triple.modify fun s gotten => ?_
    obtain ⟨stopped, gave⟩ := gotten
    obtain ⟨b', t'⟩ := s
    cases gave with
    | memory text source told _ body answers =>
      obtain rfl : b' = { b with offset := b.offset + 0 } := body
      have out' : ({ b with offset := b.offset + 0, eofChecked := true } : ExactLengthBody).out
          t'.answers = b.out t.answers := by
        simp only [out, source, Nat.add_zero]
      refine ⟨rfl, ⟨fun other _ => by rw [answers], stopped⟩,
        ⟨runs.sound, runs.length, ?_, runs.offset, ?_⟩, out', ?_⟩
      · rw [out']
        exact runs.progress
      · intro identity same
        cases source.symm.trans same
      · rw [source]
        trivial
    | file identity buffer source _ body answers =>
      have same : b' = b := body
      subst b'
      have silent : Answered.bytes { source := b.number, room := 1, answer := .ok 0 buffer } = [] := rfl
      have out' : given (answersOf t'.answers b.number) = given (answersOf t.answers b.number) := by
        rw [answers, answersOf_append, if_pos rfl, given_append]
        simp [Http.given, silent]
      have honest : Honest identity.size.toNat (answersOf t'.answers b.number) := by
        rw [answers, answersOf_append, if_pos rfl, honest_append, runs.left source, nothing]
        exact ⟨runs.honest identity source, 0, buffer, rfl, Nat.zero_le _, Nat.le_refl _, id⟩
      have told : Ended (answersOf t'.answers b.number) := by
        rw [answers, answersOf_append, if_pos rfl]
        exact ⟨_, List.mem_append_right _ List.mem_cons_self, silent⟩
      have progress := runs.progress
      rw [runs.length, nothing, Nat.add_zero, source, out, source] at progress
      have length : (given (answersOf t'.answers b.number)).length = identity.size.toNat := by
        rw [out']
        exact progress
      refine ⟨rfl, .append rfl answers stopped, ⟨runs.sound, runs.length, ?_, runs.offset, ?_⟩, ?_, ?_⟩
      · have before := runs.progress
        simp only [out, source] at before ⊢
        rw [out']
        exact before
      · intro other same
        cases source.symm.trans same
        exact honest
      · simp only [out, source]
        exact out'
      · rw [source]
        exact ⟨⟨honest, fun _ _ => told⟩, length, told⟩

theorem Passed.only {s : ExactLengthBody × BodyTape W} (passed : Passed b t s) (number : Nat) :
    Only number t s.2 :=
  ⟨fun other _ => by rw [passed.answers], passed.stopped⟩

/-- What a read of a segment that succeeds has done. -/
structure Read (b : ExactLengthBody) (t : BodyTape W) (room : Nat) (bytes : List UInt8)
    (s : ExactLengthBody × BodyTape W) : Prop where
  source : s.1.source = b.source
  number : s.1.number = b.number
  only : Only b.number t s.2
  fits : s.1.Fits s.2.answers
  out : s.1.out s.2.answers = b.out t.answers ++ bytes
  short : bytes.length ≤ room
  /-- Only at its end does a segment give nothing. -/
  ended : 0 < room → bytes = [] → s.1.eofChecked = true

theorem Read.passed {room : Nat} {bytes : List UInt8} {s s' : ExactLengthBody × BodyTape W}
    (read : Read b t room bytes s) (passed : Passed s.1 s.2 s') : Read b t room bytes s' where
  source := passed.body ▸ read.source
  number := passed.body ▸ read.number
  only := read.only.trans (passed.only b.number)
  fits := by rw [passed.body, passed.answers]; exact read.fits
  out := by rw [passed.body, passed.answers]; exact read.out
  short := read.short
  ended := passed.body ▸ read.ended

/-- The stop token is asked while the segment is where it is. -/
theorem checkStop_fails {c : ExactLengthBody} {u : BodyTape W} (only : Only b.number t u) :
    Triple (· = (c, u)) (checkStop ports) (fun _ => Passed c u) (fun _ => Fails b t) := by
  refine checkStop_spec.weaken (fun _ same => same) (fun _ _ passed => passed) ?_
  rintro _ s ⟨answers, stopped⟩
  exact ⟨only.trans ⟨fun other _ => by rw [answers], fun _ => stopped⟩, .inl stopped⟩

theorem Moved.same_number {bytes : List UInt8} {s : ExactLengthBody × BodyTape W}
    (moved : Moved b t bytes s) : s.1.source = b.source ∧ s.1.number = b.number ∧
      s.1.length = b.length ∧ s.1.eofChecked = b.eofChecked := by
  rw [moved.same]
  exact ⟨rfl, rfl, rfl, rfl⟩

/-- Short of its end a segment has still to be asked whether it is there. -/
theorem Moved.read {room : Nat} {bytes : List UInt8} {s : ExactLengthBody × BodyTape W}
    (moved : Moved b t bytes s) (unchecked : b.eofChecked = false) (short : bytes.length ≤ room)
    (progress : bytes = [] → s.1.remaining = 0) (more : s.1.remaining ≠ 0) :
    Read b t room bytes s := by
  obtain ⟨source, number, length, eof⟩ := moved.same_number
  refine ⟨source, number, moved.only, ⟨moved.runs, ?_, ?_⟩, moved.out, short, ?_⟩
  · cases same : s.1.source with
    | memory text => trivial
    | file identity =>
      refine ⟨moved.runs.honest identity same, fun _ whole => ?_⟩
      have left := moved.runs.progress
      rw [moved.runs.length, same, ExactLengthBody.out, same] at left
      change (given _).length + _ = identity.size.toNat at left
      omega
  · rw [eof, unchecked]
    intro never
    cases never
  · exact fun _ nothing => absurd (progress nothing) more

theorem Checked.read {room : Nat} {bytes : List UInt8} {s s' : ExactLengthBody × BodyTape W}
    (moved : Moved b t bytes s) (short : bytes.length ≤ room) (nothing : s.1.remaining = 0)
    (checked : Checked s.1 s.2 s') : Read b t room bytes s' := by
  obtain ⟨source, number, length, eof⟩ := moved.same_number
  have source' : s'.1.source = s.1.source := by rw [checked.same]
  have number' : s'.1.number = s.1.number := by rw [checked.same]
  have nothing' : s'.1.remaining = 0 := by rw [checked.same]; exact nothing
  have complete : CompleteAt s'.2.answers s'.1.number s'.1.source := by
    rw [source', number']
    exact checked.complete
  refine ⟨source'.trans source, number'.trans number, moved.only.trans (number ▸ checked.only),
    ⟨checked.runs, ?_, fun _ => ⟨nothing', complete⟩⟩, checked.out.trans moved.out, short,
    fun _ _ => by rw [checked.same]⟩
  cases same : s'.1.source with
  | memory text => trivial
  | file identity =>
    rw [same] at complete
    exact complete.toKept

theorem readInner_spec {room : Nat} (fits : b.Fits t.answers) :
    Triple (· = (b, t)) (readInner ports room) (fun bytes => Read b t room bytes)
      (fun _ => Fails b t) := by
  refine Triple.bind (checkStop_fails (Only.refl _ t)) fun _ => ?_
  refine Triple.get_bind fun s passed => ?_
  obtain ⟨c, u⟩ := s
  have same : c = b := passed.body
  subst c
  have answers : u.answers = t.answers := passed.answers
  have only : Only b.number t u := passed.only _
  refine Triple.ite (fun done => ?_) fun going => ?_
  · refine Triple.pure fun s same => ?_
    subst same
    refine ⟨rfl, rfl, only, by rw [answers]; exact fits, ?_, Nat.zero_le _, fun some _ => ?_⟩
    · rw [answers, List.append_nil]
    · exact done.resolve_left (Nat.ne_of_gt some)
  rw [not_or, Bool.not_eq_true] at going
  obtain ⟨some, unchecked⟩ := going
  have part : Triple (· = (b, u)) (readPart ports (min b.remaining room))
      (fun bytes s => Moved b t bytes s ∧ bytes.length ≤ room ∧ (bytes = [] → s.1.remaining = 0))
      (fun _ => Fails b t) := by
    have runs : b.Runs u.answers := by
      rw [answers]
      exact fits.toRuns
    refine (readPart_spec runs (Nat.min_le_left _ _)).weaken (fun _ same => same) ?_ ?_
    · rintro bytes s ⟨moved, nonempty, short⟩
      have moved' : Moved b t bytes s :=
        ⟨moved.same, only.trans moved.only, moved.runs, by rw [moved.out, answers]⟩
      refine ⟨moved', short.trans (Nat.min_le_right _ _), fun nothing => ?_⟩
      have none := nonempty nothing
      have before := runs.progress
      have after := moved.runs.progress
      rw [moved.out, nothing, List.append_nil, moved.same_number.2.2.1] at after
      omega
    · rintro _ s ⟨only', blamed⟩
      exact ⟨only.trans only', blamed⟩
  refine Triple.bind part fun bytes => ?_
  refine Triple.of_state fun s moved => ?_
  obtain ⟨moved, short, progress⟩ := moved
  obtain ⟨c, u'⟩ := s
  refine Triple.bind (checkStop_fails moved.only) fun _ => ?_
  refine Triple.get_bind fun s passed => ?_
  have number : c.number = b.number := moved.same_number.2.1
  obtain ⟨c', u''⟩ := s
  have same : c' = c := passed.body
  subst c'
  have answers' : u''.answers = u'.answers := passed.answers
  have moved' : Moved b t bytes (c, u'') :=
    ⟨moved.same, moved.only.trans (passed.only _), by rw [answers']; exact moved.runs,
      by rw [answers']; exact moved.out⟩
  have ends : Triple (· = (c, u'')) (onlyIf (c.remaining = 0) (checkEnd ports))
      (fun _ => Read b t room bytes) (fun _ => Fails b t) := by
    refine Triple.onlyIf (fun nothing => ?_) fun more s same => ?_
    · refine (checkEnd_spec moved'.runs nothing).weaken (fun _ same => same) ?_ ?_
      · exact fun _ s checked => checked.read moved' short nothing
      · rintro _ s ⟨only', blamed⟩
        refine ⟨moved'.only.trans (number ▸ only'), ?_⟩
        rwa [number, moved.same_number.1] at blamed
    · subst same
      exact moved'.read unchecked short progress more
  refine Triple.bind ends fun _ => ?_
  refine Triple.of_state fun s read => ?_
  refine Triple.bind (checkStop_fails read.only) fun _ => ?_
  exact Triple.pure fun s' passed => read.passed passed

theorem catching_spec {step : Reading W (List UInt8)} {post : List UInt8 → _ → Prop}
    (spec : Triple (· = (b, t)) step post fun _ => Fails b t) :
    Triple (· = (b, t)) (catching step) post fun _ => Fails b t := by
  intro s same
  obtain ⟨succeeds, fails⟩ := spec s same
  unfold catching
  rcases outcome : step s with ⟨result, c, u⟩
  rw [outcome] at succeeds fails
  cases result with
  | ok bytes =>
    refine ⟨fun value same => ?_, fun error same => by cases same⟩
    cases same
    exact succeeds bytes rfl
  | error error =>
    refine ⟨fun value same => (by cases same), fun error' same => ?_⟩
    obtain ⟨only, blamed⟩ := fails error rfl
    exact ⟨only, blamed⟩

theorem read_spec {room : Nat} (fits : b.Fits t.answers) :
    Triple (· = (b, t)) (read ports room) (fun bytes => Read b t room bytes)
      (fun _ => Fails b t) := by
  refine Triple.get_bind fun s same => ?_
  subst same
  simp only [fits.sound]
  exact catching_spec (readInner_spec fits)

end ExactLengthBody
end MannyUploader.Http
