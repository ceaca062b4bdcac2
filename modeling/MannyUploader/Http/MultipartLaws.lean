import MannyUploader.Foundation.Runs
import MannyUploader.Http.SegmentLaws

/-! A body of several parts, read with any rooms and from any sources: the bytes are those of the
document, and a source that fails or does not keep to its length fails the whole body. -/
namespace MannyUploader.Http
open Domain Application Foundation

/-- The segments from one number on, not yet read. -/
def segmentsFrom : Nat → HttpBodySource → List ExactLengthBody
  | _, [] => []
  | number, source :: rest => ExactLengthBody.new source number :: segmentsFrom (number + 1) rest

/-- What the sources from one number on have given, together. -/
def textFrom (answers : List Answered) : Nat → HttpBodySource → List UInt8
  | _, [] => []
  | number, source :: rest => textOf answers number source ++ textFrom answers (number + 1) rest

/-- Every source has kept to its length so far. -/
def AllKept (answers : List Answered) : Nat → HttpBodySource → Prop
  | _, [] => True
  | number, source :: rest => KeptAt answers number source ∧ AllKept answers (number + 1) rest

/-- Every source has given all of its bytes, and has said that there are no more. -/
def AllComplete (answers : List Answered) : Nat → HttpBodySource → Prop
  | _, [] => True
  | number, source :: rest => CompleteAt answers number source ∧ AllComplete answers (number + 1) rest

/-- No source from this number on has been asked. -/
def Unasked (answers : List Answered) (number : Nat) : Prop :=
  ∀ other, number ≤ other → answersOf answers other = []

/-- The same answers of the sources before this number. -/
def Before (number : Nat) (answers answers' : List Answered) : Prop :=
  ∀ other, other < number → answersOf answers' other = answersOf answers other

/-- Where a reader stands: `out` is what it has been given from one number on, and these
segments are left. -/
inductive Stands (answers : List Answered) :
    Nat → HttpBodySource → List ExactLengthBody → List UInt8 → Prop
  | done : Unasked answers number → Stands answers number [] [] []
  | within (b : ExactLengthBody) : b.source = source → b.number = number → b.Fits answers →
      Unasked answers (number + 1) →
      Stands answers number (source :: rest) (b :: segmentsFrom (number + 1) rest) (b.out answers)
  | passed : CompleteAt answers number source → Stands answers (number + 1) rest segments out →
      Stands answers number (source :: rest) segments (textOf answers number source ++ out)

variable {W : Type} {ports : BodyPorts W} {answers answers' : List Answered} {t t' : BodyTape W}
  {b : ExactLengthBody} {number room : Nat} {source : HttpBodySegment} {rest sources : HttpBodySource}
  {segments segments' : List ExactLengthBody} {out : List UInt8}

theorem fits_new (unasked : answersOf answers number = []) :
    (ExactLengthBody.new source number).Fits answers := by
  have start (bytes : List UInt8) : (ExactLengthBody.new (.memory bytes) number).out answers = [] :=
    rfl
  cases source with
  | memory bytes =>
    refine ⟨⟨rfl, rfl, ?_, ?_, ?_⟩, trivial, ?_⟩
    · rw [start, List.length_nil, Nat.zero_add]
      rfl
    · exact fun _ _ => Nat.zero_le _
    · intro identity same
      cases same
    · intro never
      cases never
  | file identity =>
    refine ⟨⟨rfl, rfl, ?_, ?_, ?_⟩, ?_, ?_⟩
    · change (given (answersOf answers number)).length + _ = _
      rw [unasked]
      exact Nat.zero_add _
    · intro bytes same
      cases same
    · intro other same
      change Honest _ (answersOf answers number)
      rw [unasked]
      trivial
    · change Kept _ (answersOf answers number)
      rw [unasked]
      exact ⟨trivial, fun asked => absurd rfl asked⟩
    · intro never
      cases never

theorem out_new (unasked : answersOf answers number = []) :
    (ExactLengthBody.new source number).out answers = [] := by
  cases source with
  | memory bytes => exact rfl
  | file identity =>
    change given (answersOf answers number) = []
    rw [unasked]
    rfl

theorem stands_start (unasked : Unasked answers number) :
    Stands answers number sources (segmentsFrom number sources) [] := by
  cases sources with
  | nil => exact .done unasked
  | cons source rest =>
    have here := unasked number (Nat.le_refl _)
    have start : Stands answers number (source :: rest) (segmentsFrom number (source :: rest))
        ((ExactLengthBody.new source number).out answers) :=
      .within _ rfl rfl (fits_new here) fun other later => unasked other (Nat.le_of_succ_le later)
    rwa [out_new here] at start

/-- A segment that is at its end has given all of its text. -/
theorem out_whole (fits : b.Fits answers) (ended : b.eofChecked = true) :
    b.out answers = textOf answers b.number b.source := by
  have progress := fits.progress
  rw [(fits.checked ended).1, fits.length, Nat.add_zero] at progress
  cases source : b.source with
  | memory bytes =>
    rw [ExactLengthBody.out, source] at progress ⊢
    refine List.take_of_length_le ?_
    have length : (bytes.take b.offset).length = bytes.length := progress
    rw [List.length_take] at length
    omega
  | file identity => rw [ExactLengthBody.out, source, textOf]

theorem textOf_congr (same : answersOf answers' number = answersOf answers number) :
    textOf answers' number source = textOf answers number source := by
  cases source with
  | memory bytes => rfl
  | file identity => rw [textOf, textOf, same]

theorem completeAt_congr (same : answersOf answers' number = answersOf answers number)
    (complete : CompleteAt answers number source) : CompleteAt answers' number source := by
  cases source with
  | memory bytes => trivial
  | file identity =>
    rw [CompleteAt, same]
    exact complete

/-- What a read of the segments from one number on does. -/
structure Continues (number : Nat) (sources : HttpBodySource) (room : Nat) (t : BodyTape W)
    (out : List UInt8) (result : Except HttpBodyError (List UInt8)) (segments : List ExactLengthBody)
    (t' : BodyTape W) : Prop where
  before : Before number t.answers t'.answers
  stopped : t.stopped = true → t'.stopped = true
  succeeds : ∀ bytes, result = .ok bytes → Stands t'.answers number sources segments (out ++ bytes) ∧
    bytes.length ≤ room ∧ (bytes = [] → segments = [])
  fails : ∀ error, result = .error error → t'.stopped = true ∨ ¬AllKept t'.answers number sources

/-- The segments behind one that is complete. -/
theorem Continues.passed {result : Except HttpBodyError (List UInt8)} {u : BodyTape W}
    (before : Before number u.answers t.answers) (stopped : u.stopped = true → t.stopped = true)
    (complete : CompleteAt t.answers number source)
    (continues : Continues (number + 1) rest room t out result segments t') :
    Continues number (source :: rest) room u (textOf t.answers number source ++ out) result segments
      t' := by
  have same := continues.before number (Nat.lt_succ_self _)
  refine ⟨fun other lower => ?_, continues.stopped ∘ stopped, fun bytes ok => ?_, fun error failed => ?_⟩
  · rw [continues.before other (Nat.lt_succ_of_lt lower), before other lower]
  · obtain ⟨stands, short, empty⟩ := continues.succeeds bytes ok
    refine ⟨?_, short, empty⟩
    rw [List.append_assoc, ← textOf_congr same]
    exact .passed (completeAt_congr same complete) stands
  · refine (continues.fails error failed).imp id fun broken kept => broken ?_
    exact kept.2

/-- The reader goes through the segments from this number on. -/
def Reads (ports : BodyPorts W) (number : Nat) (sources : HttpBodySource) (room : Nat)
    (segments : List ExactLengthBody) (t : BodyTape W) (out : List UInt8) : Prop :=
  let r := MultipartBody.readSegments ports room segments t
  Continues number sources room t out r.1 r.2.1 r.2.2

/-- One segment is read. When it is at its end the later ones follow. -/
theorem reads_segment (some : 0 < room) (from' : b.source = source) (numbered : b.number = number)
    (fits : b.Fits t.answers) (unasked : Unasked t.answers (number + 1))
    (later : ∀ u : BodyTape W, Unasked u.answers (number + 1) →
      Reads ports (number + 1) rest room (segmentsFrom (number + 1) rest) u []) :
    Reads ports number (source :: rest) room (b :: segmentsFrom (number + 1) rest) t
      (b.out t.answers) := by
  have spec : Stateful.Triple (· = (b, t)) (ExactLengthBody.read ports room)
      (fun bytes => ExactLengthBody.Read b t room bytes) fun _ => ExactLengthBody.Fails b t :=
    ExactLengthBody.read_spec fits
  obtain ⟨succeeds, fails⟩ := spec (b, t) rfl
  unfold Reads MultipartBody.readSegments
  rcases outcome : ExactLengthBody.read ports room (b, t) with ⟨result, c, u⟩
  rw [outcome] at succeeds fails
  have frame (only : ExactLengthBody.Only b.number t u) : Before number t.answers u.answers :=
    fun other lower => only.others other (by omega)
  have still (only : ExactLengthBody.Only b.number t u) : Unasked u.answers (number + 1) := by
    intro other higher
    rw [only.others other (by omega)]
    exact unasked other higher
  cases result with
  | error error =>
    obtain ⟨only, blamed⟩ := fails error rfl
    refine ⟨frame only, only.stopped, fun bytes ok => (by cases ok), fun _ _ => ?_⟩
    rw [numbered, from'] at blamed
    exact blamed.imp id fun broken kept => broken kept.1
  | ok bytes =>
    have read := succeeds bytes rfl
    have sourced : c.source = source := read.source.trans from'
    have numbered' : c.number = number := read.number.trans numbered
    cases bytes with
    | nil =>
      have ended := read.ended some rfl
      have whole := out_whole read.fits ended
      have complete := (read.fits.checked ended).2
      rw [sourced, numbered'] at whole complete
      have next := later u (still read.only)
      have out : b.out t.answers = textOf u.answers number source ++ [] := by
        rw [List.append_nil, ← whole, read.out, List.append_nil]
      rw [out]
      exact next.passed (frame read.only) read.only.stopped complete
    | cons byte bytes =>
      refine ⟨frame read.only, read.only.stopped, fun found ok => ?_, fun error failed => (by cases failed)⟩
      cases ok
      refine ⟨?_, read.short, fun empty => (by cases empty)⟩
      rw [← read.out]
      exact .within c sourced numbered' read.fits (still read.only)

theorem reads_nil (unasked : Unasked t.answers number) : Reads ports number [] room [] t [] := by
  refine ⟨fun _ _ => rfl, id, fun bytes ok => ?_, fun error failed => (by cases failed)⟩
  cases ok
  exact ⟨.done unasked, Nat.zero_le _, fun _ => rfl⟩

theorem reads_fresh (some : 0 < room) (unasked : Unasked t.answers number) :
    Reads ports number sources room (segmentsFrom number sources) t [] := by
  induction sources generalizing number t with
  | nil => exact reads_nil unasked
  | cons source rest ih =>
    have here := unasked number (Nat.le_refl _)
    have later (other : Nat) (higher : number + 1 ≤ other) : answersOf t.answers other = [] :=
      unasked other (Nat.le_of_succ_le higher)
    have first : Reads ports number (source :: rest) room (segmentsFrom number (source :: rest)) t
        ((ExactLengthBody.new source number).out t.answers) :=
      reads_segment some rfl rfl (fits_new here) later fun u => ih
    rwa [out_new here] at first

/-- Wherever the reader stands, a read goes on with the document. -/
theorem reads_stands (some : 0 < room) (stands : Stands t.answers number sources segments out) :
    Reads ports number sources room segments t out := by
  induction stands with
  | done unasked => exact reads_nil unasked
  | within b from' numbered fits unasked =>
    exact reads_segment some from' numbered fits unasked fun u => reads_fresh some
  | passed complete stands ih => exact ih.passed (fun _ _ => rfl) id complete

namespace Stands

/-- So far the bytes are those of the document. -/
theorem isPrefix (stands : Stands answers number sources segments out) :
    out <+: textFrom answers number sources := by
  induction stands with
  | done => exact List.prefix_refl _
  | @within source number rest b from' numbered fits unasked =>
    subst from' numbered
    refine List.IsPrefix.trans ?_ (List.prefix_append _ _)
    cases source : b.source with
    | memory bytes =>
      rw [ExactLengthBody.out, source]
      exact List.take_prefix _ _
    | file identity =>
      rw [ExactLengthBody.out, source]
      exact List.prefix_refl _
  | passed complete stands ih => exact (List.prefix_append_right_inj _).mpr ih

theorem allKept_of_unasked (unasked : Unasked answers number) : AllKept answers number sources := by
  induction sources generalizing number with
  | nil => trivial
  | cons source rest ih =>
    refine ⟨?_, ih fun other later => unasked other (Nat.le_of_succ_le later)⟩
    cases source with
    | memory bytes => trivial
    | file identity =>
      rw [KeptAt, unasked number (Nat.le_refl _)]
      exact ⟨trivial, fun asked => absurd rfl asked⟩

theorem keptAt_of_complete (complete : CompleteAt answers number source) :
    KeptAt answers number source := by
  cases source with
  | memory bytes => trivial
  | file identity => exact complete.toKept

theorem allKept (stands : Stands answers number sources segments out) :
    AllKept answers number sources := by
  induction stands with
  | done => trivial
  | within b from' numbered fits unasked =>
    refine ⟨?_, allKept_of_unasked unasked⟩
    rw [← from', ← numbered]
    exact fits.kept
  | passed complete stands ih => exact ⟨keptAt_of_complete complete, ih⟩

/-- With no segment left the document is there in full. -/
theorem whole (stands : Stands answers number sources segments out) (ended : segments = []) :
    out = textFrom answers number sources ∧ AllComplete answers number sources := by
  induction stands with
  | done => exact ⟨rfl, trivial⟩
  | within => cases ended
  | passed complete stands ih =>
    obtain ⟨rfl, rest⟩ := ih ended
    exact ⟨rfl, complete, rest⟩

end Stands

theorem length_textFrom (complete : AllComplete answers number sources) :
    (textFrom answers number sources).length = HttpBodySource.contentLength sources := by
  induction sources generalizing number with
  | nil => rfl
  | cons source rest ih =>
    have here : (textOf answers number source).length = source.contentLength := by
      cases source with
      | memory bytes => rfl
      | file identity => exact complete.1.length
    rw [textFrom, List.length_append, here, ih complete.2]
    rfl

/-! A body that is read, with all its bytes so far. -/

structure Streamed (W : Type) where
  body : MultipartBody
  tape : BodyTape W
  output : List UInt8 := []
  failed : Bool := false

namespace Streamed
variable {form : MultipartFormData} {world : W} {s : Streamed W}

def start (form : MultipartFormData) (world : W) : Streamed W where
  body := .ofForm form
  tape := { world }

variable (ports) in
/-- One read with room for some bytes. -/
def read (s : Streamed W) (room : Nat) : Streamed W :=
  match s.body.read ports room s.tape with
  | (.ok bytes, body, tape) => { s with body, tape, output := s.output ++ bytes }
  | (.error _, body, tape) => { s with body, tape, failed := true }

/-- What is true of a body after any reads. -/
structure Sound (form : MultipartFormData) (s : Streamed W) : Prop where
  length : s.body.length = HttpBodySource.contentLength form.body
  failed : s.failed = s.body.failure.isSome
  stands : s.failed = false → Stands s.tape.answers 0 form.body s.body.segments s.output
  blamed : s.failed = true → s.tape.stopped = true ∨ ¬AllKept s.tape.answers 0 form.body

theorem segmentsFrom_eq (number : Nat) (sources : HttpBodySource) :
    segmentsFrom number sources =
      sources.mapIdx fun index source => ExactLengthBody.new source (index + number) := by
  induction sources generalizing number with
  | nil => rfl
  | cons source rest ih =>
    rw [segmentsFrom, ih, List.mapIdx_cons, Nat.zero_add]
    simp only [Nat.add_assoc, Nat.add_comm 1]

theorem start_sound : Sound form (start form world) := by
  refine ⟨rfl, rfl, fun _ => ?_, fun failed => (by cases failed)⟩
  have segments : (start form world).body.segments = segmentsFrom 0 form.body :=
    (segmentsFrom_eq 0 form.body).symm
  rw [segments]
  exact stands_start fun _ _ => rfl

/-- What one read does: once failed it fails again, else it goes on with the document. -/
structure Outcome (ports : BodyPorts W) (form : MultipartFormData) (s : Streamed W) (room : Nat) :
    Prop where
  sound : Sound form (s.read ports room)
  sticky : s.failed = true → ∃ error, (s.body.read ports room s.tape).1 = .error error
  succeeds : ∀ bytes, (s.body.read ports room s.tape).1 = .ok bytes →
    (s.read ports room).failed = false ∧ bytes.length ≤ room ∧
      (0 < room → bytes = [] → (s.read ports room).body.segments = [])

theorem read_outcome (sound : Sound form s) (room : Nat) : Outcome ports form s room := by
  cases failure : s.body.failure with
  | some error =>
    have answered : s.body.read ports room s.tape = (.error error, s.body, s.tape) := by
      rw [MultipartBody.read, failure]
    have failed : s.failed = true := by rw [sound.failed, failure]; rfl
    have same : s.read ports room = { s with failed := true } := by rw [read, answered]
    refine ⟨?_, fun _ => ⟨error, by rw [answered]⟩, fun bytes ok => ?_⟩
    · rw [same]
      refine ⟨sound.length, ?_, fun fine => (by cases fine), fun _ => sound.blamed failed⟩
      rw [failure]
      rfl
    · rw [answered] at ok
      cases ok
  | none =>
    have fine : s.failed = false := by rw [sound.failed, failure]; rfl
    have stands := sound.stands fine
    rcases asked : ports.stopRequested s.tape.world with ⟨stop, world⟩
    -- The tape behind the question whether to stop.
    obtain ⟨tape, taped⟩ : ∃ tape : BodyTape W,
        tape = { s.tape with world, stopped := s.tape.stopped || stop } := ⟨_, rfl⟩
    have answers : tape.answers = s.tape.answers := by rw [taped]
    cases stop with
    | true =>
      have answered : s.body.read ports room s.tape = (.error { code := .cancelled },
          { s.body with failure := some { code := .cancelled }, segments := [] }, tape) := by
        simp only [MultipartBody.read, failure, asked, taped, if_true]
      have same : s.read ports room = { s with
          body := { s.body with failure := some { code := .cancelled }, segments := [] },
          tape, failed := true } := by rw [read, answered]
      refine ⟨?_, fun failed => ⟨_, by rw [answered]⟩, fun bytes ok => ?_⟩
      · rw [same]
        refine ⟨sound.length, rfl, fun fine => (by cases fine), fun _ => .inl ?_⟩
        rw [taped]
        exact Bool.or_true _
      · rw [answered] at ok
        cases ok
    | false =>
      have stands' : Stands tape.answers 0 form.body s.body.segments s.output := by
        rw [answers]
        exact stands
      by_cases none : room = 0
      · have answered : s.body.read ports room s.tape = (.ok [], s.body, tape) := by
          simp only [MultipartBody.read, failure, asked, taped, none, if_true, Bool.false_eq_true, if_false]
        have same : s.read ports room = { s with tape } := by
          rw [read, answered]
          simp
        refine ⟨?_, fun failed => ?_, fun bytes ok => ?_⟩
        · rw [same]
          exact ⟨sound.length, sound.failed, fun _ => stands', fun failed => by simp [fine] at failed⟩
        · rw [fine] at failed
          cases failed
        · rw [answered] at ok
          cases ok
          exact ⟨by rw [same]; exact fine, Nat.zero_le _, fun some => absurd none (Nat.ne_of_gt some)⟩
      · have reads : Reads ports 0 form.body room s.body.segments tape s.output :=
          reads_stands (Nat.pos_of_ne_zero none) stands'
        unfold Reads at reads
        rcases outcome : MultipartBody.readSegments ports room s.body.segments tape with
          ⟨result, segments, tape'⟩
        rw [outcome] at reads
        cases result with
        | ok bytes =>
          have answered : s.body.read ports room s.tape = (.ok bytes, { s.body with segments }, tape') := by
            simp only [MultipartBody.read, failure, asked, ← taped, none, outcome, Bool.false_eq_true,
              if_false]
          have same : s.read ports room = { s with
              body := { s.body with segments }, tape := tape', output := s.output ++ bytes } := by
            rw [read, answered]
          obtain ⟨stands, short, empty⟩ := reads.succeeds bytes rfl
          refine ⟨?_, fun failed => ?_, fun bytes' ok => ?_⟩
          · rw [same]
            exact ⟨sound.length, sound.failed, fun _ => stands, fun failed => by simp [fine] at failed⟩
          · rw [fine] at failed
            cases failed
          · rw [answered] at ok
            cases ok
            rw [same]
            exact ⟨fine, short, fun _ => empty⟩
        | error error =>
          have answered : s.body.read ports room s.tape = (.error error,
              { s.body with failure := some error, segments }, tape') := by
            simp only [MultipartBody.read, failure, asked, ← taped, none, outcome, Bool.false_eq_true,
              if_false]
          have same : s.read ports room = { s with
              body := { s.body with failure := some error, segments }, tape := tape',
              failed := true } := by
            rw [read, answered]
          refine ⟨?_, fun failed => ⟨_, by rw [answered]⟩, fun bytes' ok => ?_⟩
          · rw [same]
            exact ⟨sound.length, rfl, fun fine => (by cases fine), fun _ => reads.fails error rfl⟩
          · rw [answered] at ok
            cases ok

end Streamed

/-! The document of a form. -/

/-- The line that ends a form. -/
def closing (boundary : String) : List UInt8 := utf8 ("\r\n--" ++ boundary ++ "--\r\n")

/-- The lines in front of each part, with what its source has given, and the last line. The body
of a part has an odd number. -/
def document (boundary : String) (answers : List Answered) : Nat → List MultipartPart → List UInt8
  | _, [] => closing boundary
  | number, part :: rest =>
    utf8 (partPrefix boundary (number = 0) part) ++ textOf answers (number + 1) part.body ++
      document boundary answers (number + 2) rest

def partSegments (boundary : String) : Nat → List MultipartPart → HttpBodySource
  | _, [] => [.memory (closing boundary)]
  | number, part :: rest =>
    .memory (utf8 (partPrefix boundary (number = 0) part)) :: part.body ::
      partSegments boundary (number + 2) rest

theorem appendSegment_ok {segments body : HttpBodySource} {segment : HttpBodySegment}
    (appended : appendSegment segments segment = .ok body) : body = segments ++ [segment] := by
  unfold appendSegment at appended
  split at appended
  · cases appended
  · cases appended
    rfl

theorem appendPart_ok {boundary : String} {segments body : HttpBodySource} {part : MultipartPart}
    (appended : appendPart boundary segments part = .ok body) :
    body = segments ++
      [.memory (utf8 (partPrefix boundary (segments.length = 0) part)), part.body] := by
  obtain ⟨_, -, appended⟩ := bind_ok appended
  obtain ⟨content, exact', appended⟩ := bind_ok appended
  obtain ⟨lines, written, appended⟩ := bind_ok appended
  obtain ⟨opened, first, second⟩ := bind_ok appended
  obtain rfl := exactLength_ok exact'
  obtain rfl := exactLength_ok written
  rw [appendSegment_ok second, appendSegment_ok first, List.append_assoc]
  cases segments <;> rfl

theorem form_segments {parts : List MultipartPart} {boundary : String} {form : MultipartFormData}
    (accepted : withBoundary parts boundary = .ok form) :
    form.body = partSegments boundary 0 parts := by
  have loop (parts : List MultipartPart) (segments body : HttpBodySource)
      (appended : parts.foldlM (appendPart boundary) segments = .ok body) :
      body ++ [.memory (closing boundary)] = segments ++ partSegments boundary segments.length parts := by
    induction parts generalizing segments with
    | nil =>
      cases appended
      rfl
    | cons part rest ih =>
      rw [List.foldlM_cons] at appended
      obtain ⟨next, here, later⟩ := bind_ok appended
      rw [ih next later, appendPart_ok here, List.append_assoc, partSegments]
      simp
  obtain ⟨_, -, accepted⟩ := bind_ok accepted
  split at accepted
  · cases accepted
  obtain ⟨segments, appended, accepted⟩ := bind_ok accepted
  obtain ⟨last, closed, accepted⟩ := bind_ok accepted
  obtain ⟨body, ended, accepted⟩ := bind_ok accepted
  cases accepted
  obtain rfl := exactLength_ok closed
  rw [appendSegment_ok ended]
  exact loop parts [] segments appended

theorem textFrom_parts (boundary : String) (number : Nat) (parts : List MultipartPart) :
    textFrom answers number (partSegments boundary number parts) =
      document boundary answers number parts := by
  induction parts generalizing number with
  | nil => exact List.append_nil _
  | cons part rest ih =>
    rw [partSegments, textFrom, textFrom, ih, document, List.append_assoc]
    rfl

/-- The sources of the parts, out of all segments. -/
theorem forall_parts (P : Nat → HttpBodySegment → Prop) (All : Nat → HttpBodySource → Prop)
    (boundary : String) (number : Nat) (parts : List MultipartPart)
    (memory : ∀ number bytes, P number (.memory bytes)) (nil : ∀ number, All number [])
    (cons : ∀ number source rest, All number (source :: rest) ↔ P number source ∧ All (number + 1) rest) :
    All number (partSegments boundary number parts) ↔
      ∀ index part, parts[index]? = some part → P (number + 2 * index + 1) part.body := by
  induction parts generalizing number with
  | nil => simp [partSegments, cons, memory, nil]
  | cons part rest ih =>
    rw [partSegments, cons, cons, ih]
    constructor
    · rintro ⟨-, first, later⟩ index part found
      cases index with
      | zero =>
        cases found
        exact first
      | succ index =>
        have next := later index part found
        rwa [show number + 2 + 2 * index + 1 = number + 2 * (index + 1) + 1 by omega] at next
    · intro all
      refine ⟨memory _ _, all 0 part rfl, fun index part found => ?_⟩
      have next := all (index + 1) part found
      rwa [show number + 2 * (index + 1) + 1 = number + 2 + 2 * index + 1 by omega] at next

/-- The total never passes its limit, whatever the parts are. -/
theorem total_parts {parts : List MultipartPart} {boundary : String} {segments : HttpBodySource}
    (appended : parts.foldlM (appendPart boundary) [] = .ok segments) :
    HttpBodySource.contentLength segments ≤ maxHttpRequestBodyBytes :=
  foldlM_ok (fun segments => HttpBodySource.contentLength segments ≤ maxHttpRequestBodyBytes)
    (fun _ _ _ => appendPart_total) (Nat.zero_le _) appended

theorem total_form {parts : List MultipartPart} {boundary : String} {form : MultipartFormData}
    (accepted : withBoundary parts boundary = .ok form) :
    HttpBodySource.contentLength form.body ≤ maxHttpRequestBodyBytes := by
  obtain ⟨_, -, accepted⟩ := bind_ok accepted
  split at accepted
  · cases accepted
  obtain ⟨segments, appended, accepted⟩ := bind_ok accepted
  obtain ⟨last, -, accepted⟩ := bind_ok accepted
  obtain ⟨body, ended, accepted⟩ := bind_ok accepted
  cases accepted
  exact (appendSegment_total ended).2 (total_parts appended)

namespace Streamed

theorem read_output {s : Streamed W} {bytes : List UInt8}
    (ok : (s.body.read ports room s.tape).1 = .ok bytes) :
    (s.read ports room).output = s.output ++ bytes := by
  unfold read
  rcases outcome : s.body.read ports room s.tape with ⟨result, body, tape⟩
  rw [outcome] at ok
  cases ok
  rfl

theorem sound_of_run {form : MultipartFormData} {world : W} {s : Streamed W}
    (run : Run (read ports) (fun _ _ => True) (start form world) s) : Sound form s :=
  run.invariant (fun _ room _ sound => (read_outcome sound room).sound) start_sound

/-- The sources of the parts have kept to their lengths. -/
def PartsKept (answers : List Answered) (parts : List MultipartPart) : Prop :=
  ∀ index part, parts[index]? = some part → KeptAt answers (2 * index + 1) part.body

/-- The sources of the parts have given all their bytes, and have said so. -/
def PartsComplete (answers : List Answered) (parts : List MultipartPart) : Prop :=
  ∀ index part, parts[index]? = some part → CompleteAt answers (2 * index + 1) part.body

/-- A body that reads as the document of its parts. -/
structure ReadsDocument (ports : BodyPorts W) (parts : List MultipartPart) (boundary : String)
    (s : Streamed W) : Prop where
  total : s.body.length ≤ maxHttpRequestBodyBytes
  /-- So far the next bytes of the document have come, each once. -/
  soFar : s.failed = false → s.output <+: document boundary s.tape.answers 0 parts
  /-- A read that succeeds fits, and one that gives nothing into some room says that all is there. -/
  succeeds : ∀ room bytes, (s.body.read ports room s.tape).1 = .ok bytes → bytes.length ≤ room ∧
    (0 < room → bytes = [] →
      s.output = document boundary (s.read ports room).tape.answers 0 parts ∧
      s.output.length = s.body.length ∧ PartsComplete (s.read ports room).tape.answers parts)
  /-- A source that fails, ends early or runs long has made a read fail. -/
  fails : ¬PartsKept s.tape.answers parts → s.failed = true
  /-- Only such a source and the stop token do. -/
  blamed : s.failed = true → s.tape.stopped = true ∨ ¬PartsKept s.tape.answers parts
  /-- All later reads fail. -/
  sticky : s.failed = true → ∀ room, ∃ error, (s.body.read ports room s.tape).1 = .error error

/-- The total that is counted stays within its limit, at every step and for any parts. A form that
is accepted reads as its document, whatever the sources answer and the rooms are. -/
theorem multipart_streams :
    (∀ (boundary : String) (parts : List MultipartPart) (segments : HttpBodySource),
      parts.foldlM (appendPart boundary) [] = .ok segments →
      HttpBodySource.contentLength segments ≤ maxHttpRequestBodyBytes ∧
      ∀ segment body, appendSegment segments segment = .ok body →
        HttpBodySource.contentLength body =
            HttpBodySource.contentLength segments + segment.contentLength ∧
          HttpBodySource.contentLength body ≤ maxHttpRequestBodyBytes) ∧
    ∀ (W : Type) (ports : BodyPorts W) (world : W) (parts : List MultipartPart) (boundary : String)
      (form : MultipartFormData) (s : Streamed W), withBoundary parts boundary = .ok form →
      Run (read ports) (fun _ _ => True) (start form world) s → ReadsDocument ports parts boundary s := by
  refine ⟨fun boundary parts segments appended => ⟨total_parts appended, fun segment body next => ?_⟩, ?_⟩
  · obtain ⟨total, short⟩ := appendSegment_total next
    exact ⟨total, short (total_parts appended)⟩
  intro W ports world parts boundary form s accepted run
  have sound := sound_of_run run
  have segments := form_segments accepted
  have text (answers : List Answered) :
      textFrom answers 0 form.body = document boundary answers 0 parts := by
    rw [segments, textFrom_parts]
  have kept (answers : List Answered) : AllKept answers 0 form.body ↔ PartsKept answers parts := by
    have each := forall_parts (KeptAt answers) (AllKept answers) boundary 0 parts
      (fun _ _ => trivial) (fun _ => trivial) fun _ _ _ => Iff.rfl
    rw [segments, each]
    simp [PartsKept]
  have complete (answers : List Answered) :
      AllComplete answers 0 form.body ↔ PartsComplete answers parts := by
    have each := forall_parts (CompleteAt answers) (AllComplete answers) boundary 0 parts
      (fun _ _ => trivial) (fun _ => trivial) fun _ _ _ => Iff.rfl
    rw [segments, each]
    simp [PartsComplete]
  refine ⟨?_, fun fine => ?_, fun room bytes ok => ?_, fun broken => ?_, fun failed => ?_,
    fun failed room => (read_outcome sound room).sticky failed⟩
  · rw [sound.length]
    exact total_form accepted
  · rw [← text]
    exact (sound.stands fine).isPrefix
  · have outcome : Outcome ports form s room := read_outcome sound room
    obtain ⟨fine, short, ended⟩ := outcome.succeeds bytes ok
    refine ⟨short, fun some nothing => ?_⟩
    have output : (s.read ports room).output = s.output := by
      rw [read_output ok, nothing, List.append_nil]
    obtain ⟨whole, all⟩ := (outcome.sound.stands fine).whole (ended some nothing)
    rw [output, text] at whole
    refine ⟨whole, ?_, (complete _).mp all⟩
    rw [whole, ← text, length_textFrom all, sound.length]
  · by_contra fine
    rw [Bool.not_eq_true] at fine
    exact broken ((kept _).mp (sound.stands fine).allKept)
  · refine (sound.blamed failed).imp id fun broken parts => broken ((kept _).mpr parts)

/-- The text is given byte by byte. -/
def bytewise : BodyPorts (List UInt8) where
  stopRequested text := (false, text)
  read _ room text :=
    (.ok (min 1 (min room text.length)) (Vector.ofFn fun i => text.getD i 0), text.drop 1)

def sampleParts : List MultipartPart :=
  [{ name := "a", filename := none, contentType := none, body := .memory [] },
    { name := "f", filename := some "x.zevtc", contentType := none,
      body := .file { canonicalPath := ⟨[]⟩, size := 2, lastWriteTime := .unixEpoch } }]

/-- The form that the sample parts make. -/
def sampleForm : MultipartFormData where
  contentType := "multipart/form-data; boundary=b"
  body := partSegments "b" 0 sampleParts

deriving instance DecidableEq for HttpBodySegment, MultipartFormData

theorem multipart_streams_sample :
    HttpBodySource.contentLength (partSegments "b" 0 sampleParts).dropLast ≤ maxHttpRequestBodyBytes ∧
      ReadsDocument bytewise sampleParts "b"
        ([100, 1, 7, 0, 100, 3, 100, 2].foldl (read bytewise) (start sampleForm [65, 66])) := by
  have appended : sampleParts.foldlM (appendPart "b") [] =
      .ok (partSegments "b" 0 sampleParts).dropLast := by decide +kernel
  have accepted : withBoundary sampleParts "b" = .ok sampleForm := by decide +kernel
  have run : Run (read bytewise) (fun _ _ => True) (start sampleForm [65, 66])
      ([100, 1, 7, 0, 100, 3, 100, 2].foldl (read bytewise) (start sampleForm [65, 66])) :=
    Run.of_list (read bytewise) _ _ fun _ _ _ => trivial
  have reads := multipart_streams.2 _ bytewise [65, 66] sampleParts "b" sampleForm _ accepted run
  exact ⟨(multipart_streams.1 "b" sampleParts _ appended).1, reads⟩

end Streamed
end MannyUploader.Http
