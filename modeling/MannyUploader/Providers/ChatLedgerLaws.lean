import MannyUploader.Providers.TwitchChatWorker

/-! However the threads interleave, a key of the ledger has one holder, and what was posted
under it, or may have been, is not posted again by itself. -/
namespace MannyUploader.Providers
open Domain Application Foundation

namespace Ledger
variable {ledger : Ledger} {key other : ChatKey} {result : TwitchChatResult}

def keys (ledger : Ledger) : List ChatKey := ledger.settled.map (·.1)

@[simp] theorem keys_overwrite (entry : LedgerEntry) (settled : List (ChatKey × LedgerEntry)) :
    (overwrite key entry settled).map (·.1) = settled.map (·.1) := by
  induction settled with
  | nil => rfl
  | cons first rest ih =>
    rw [overwrite]
    split
    · rfl
    · simp [ih]

theorem lookup_overwrite {entry : LedgerEntry} {settled : List (ChatKey × LedgerEntry)}
    (known : key ∈ settled.map (·.1)) : (overwrite key entry settled).lookup key = some entry := by
  induction settled with
  | nil => simp at known
  | cons first rest ih =>
    obtain ⟨old, value⟩ := first
    rw [overwrite]
    split
    next same => simp [same]
    next different =>
      have member : key ∈ rest.map (·.1) := by
        simpa [Ne.symm different] using known
      have unequal : (key == old) = false := beq_false_of_ne (Ne.symm different)
      simpa [List.lookup_cons, unequal] using ih member

@[simp] theorem active_finish :
    (ledger.finish key result).active = ledger.active.filter (· ≠ key) := by
  unfold finish
  split
  · rfl
  · dsimp only
    split <;> rfl

/-- What `finish` does to the settled keys. -/
theorem keys_finish (ledger : Ledger) (key : ChatKey) (result : TwitchChatResult) :
    (ledger.finish key result).keys = ledger.keys ∨
    (key ∉ ledger.keys ∧ (ledger.finish key result).keys =
      (if ledger.settled.length = 256 then ledger.keys.drop 1 else ledger.keys) ++ [key]) := by
  unfold finish
  split
  · exact .inl rfl
  · dsimp only
    split
    · exact .inl (keys_overwrite ..)
    next unknown =>
      refine .inr ⟨unknown, ?_⟩
      split <;> simp [keys]

theorem keys_finish_subset (settled : other ∈ (ledger.finish key result).keys) :
    other ∈ ledger.keys ∨ other = key := by
  rcases keys_finish ledger key result with same | ⟨_, added⟩
  · exact .inl (same ▸ settled)
  · rw [added, List.mem_append, List.mem_singleton] at settled
    refine settled.imp_left fun kept => ?_
    split at kept
    · exact List.mem_of_mem_drop kept
    · exact kept

/-- What is settled: each key once, and no more than 256 of them. -/
structure Kept (ledger : Ledger) : Prop where
  distinct : ledger.keys.Nodup
  bounded : ledger.keys.length ≤ 256

theorem Kept.finish (kept : ledger.Kept) : (ledger.finish key result).Kept := by
  rcases keys_finish ledger key result with same | ⟨unknown, added⟩
  · exact ⟨same ▸ kept.distinct, same ▸ kept.bounded⟩
  · have length : ledger.settled.length = ledger.keys.length := by simp [keys]
    constructor
    · rw [added, List.nodup_append]
      refine ⟨?_, List.nodup_singleton key, ?_⟩
      · split
        · exact kept.distinct.sublist (List.drop_sublist ..)
        · exact kept.distinct
      · rintro old member new last rfl
        rw [List.mem_singleton] at last
        subst last
        split at member
        · exact unknown (List.mem_of_mem_drop member)
        · exact unknown member
    · have bounded := kept.bounded
      rw [added, List.length_append, List.length_singleton]
      split
      · rw [List.length_drop]
        omega
      · omega

theorem lookup_finish_ambiguous :
    (ledger.finish key .ambiguous).settled.lookup key = some .ambiguous := by
  simp only [finish, entryOf]
  split
  next known => exact lookup_overwrite known
  next unknown =>
    rw [List.lookup_append]
    have absent : List.lookup key (if ledger.settled.length = 256 then ledger.settled.drop 1
        else ledger.settled) = none := by
      rw [List.lookup_eq_none_iff]
      intro entry member
      have different : key ≠ entry.1 := by
        rintro rfl
        apply unknown
        split at member
        · exact List.mem_map_of_mem (List.mem_of_mem_drop member)
        · exact List.mem_map_of_mem member
      simpa using different
    rw [absent]
    simp

theorem active_claim {manual : Bool} {claimed : Ledger}
    (given : ledger.claim key manual = (none, claimed)) :
    key ∉ ledger.active ∧ (manual = false → key ∉ ledger.keys) ∧
      claimed = { ledger with active := key :: ledger.active } := by
  unfold claim at given
  split at given
  · simp at given
  next free =>
    split at given
    · simp at given
    next unknown =>
      refine ⟨free, fun automatic => ?_, ?_⟩
      · subst automatic
        intro known
        obtain ⟨entry, member, same⟩ := List.mem_map.mp known
        have differs := List.lookup_eq_none_iff.mp unknown entry member
        simp [same] at differs
      · exact (Prod.mk.inj given).2.symm

theorem claim_some {manual : Bool} {outcome : UploadOutcome} {claimed : Ledger}
    (given : ledger.claim key manual = (some outcome, claimed)) : claimed = ledger := by
  unfold claim at given
  split at given
  · exact (Prod.mk.inj given).2.symm
  · split at given
    · exact (Prod.mk.inj given).2.symm
    · simp at given

end Ledger

/-- The task has claimed its key and not given it back. -/
def ChatTask.InProgress (task : ChatTask) : Prop :=
  task.captured.claimed = true ∧ ∀ outcome, task.phase ≠ .returned outcome

namespace ChatWorkers

def Sending (task : ChatTask) : Prop := ∃ message, task.phase = .sending message

/-- A thread that has not been told its outcome has claimed its key, or it is panicking. -/
def Claims (task : ChatTask) : Prop :=
  Sending task ∨ (∃ result, task.phase = .delivered result) → task.captured.claimed = true

/-- What an operation can do. -/
inductive Move : ChatWorkers → ChatWorkers → Prop
  | same (workers : ChatWorkers) : Move workers workers
  | enter (workers : ChatWorkers) (task : ChatTask) (idle : ¬task.InProgress)
      (claims : Claims task) : Move workers { workers with tasks := workers.tasks ++ [task] }
  | claim (workers : ChatWorkers) (task : ChatTask)
      (free : task.captured.key ∉ workers.ledger.active)
      (fresh : task.captured.upload.intent.isUserInitiated = false →
        task.captured.key ∉ workers.ledger.keys)
      (started : task.InProgress) :
      Move workers {
        ledger := { workers.ledger with active := task.captured.key :: workers.ledger.active }
        tasks := workers.tasks ++ [task] }
  | change (workers : ChatWorkers) (index : Nat) (task changed : ChatTask)
      (here : workers.tasks[index]? = some task) (captured : changed.captured = task.captured)
      (progress : changed.InProgress ↔ task.InProgress) (claims : Claims task → Claims changed) :
      Move workers { workers with tasks := workers.tasks.set index changed }
  | release (workers : ChatWorkers) (index : Nat) (task changed : ChatTask)
      (result : TwitchChatResult) (here : workers.tasks[index]? = some task)
      (held : Claims task → task.InProgress) (idle : ¬changed.InProgress) (claims : Claims changed) :
      Move workers {
        ledger := workers.ledger.finish task.captured.key result
        tasks := workers.tasks.set index changed }

theorem move_start (workers : ChatWorkers) (captured : CapturedChat)
    (unclaimed : captured.claimed = false) (stopped : Bool) :
    Move workers {
      ledger := (begin workers.ledger captured stopped).1
      tasks := workers.tasks ++ [(begin workers.ledger captured stopped).2] } := by
  unfold begin
  split
  · exact .enter _ _ (by simp [ChatTask.InProgress, unclaimed]) (by simp [Claims, Sending])
  · exact .enter _ _ (by simp [ChatTask.InProgress]) (by simp [Claims, Sending])
  · split
    next given =>
      rw [Ledger.claim_some given]
      exact .enter _ _ (by simp [ChatTask.InProgress]) (by simp [Claims, Sending])
    next given =>
      obtain ⟨free, fresh, claimed⟩ := Ledger.active_claim given
      subst claimed
      let task : ChatTask := {
        captured := { captured with claimed := true }, phase := .sending ‹String› }
      exact .claim workers task free fresh (by simp [task, ChatTask.InProgress])

theorem unclaimed_of_capture {config : TwitchProviderConfig} {template : List TemplatePart}
    {request : UploadRequest} {captured : CapturedChat}
    (accepted : captureChat config template request = .ok captured) :
    captured.claimed = false := by
  unfold captureChat at accepted
  split at accepted
  · contradiction
  · split at accepted
    · contradiction
    · split at accepted
      · contradiction
      · cases accepted
        rfl

/-- Each operation is one of the moves. -/
theorem move_step (workers : ChatWorkers) (op : ChatOp) : Move workers (workers.step op) := by
  cases op with
  | start config template request stopped =>
    rw [step]
    split
    · exact .same _
    next captured accepted => exact move_start _ _ (unclaimed_of_capture accepted) _
  | deliver index result =>
    rw [step, update]
    split
    · exact .same _
    next task here =>
      dsimp only
      split
      next message phase =>
        refine .change _ index task _ here rfl ?_ fun claims _ => claims (.inl ⟨message, phase⟩)
        simp [ChatTask.InProgress, phase]
      · exact .change _ index task task here rfl Iff.rfl id
  | unwind index =>
    rw [step, update]
    split
    · exact .same _
    next task here =>
      dsimp only
      split
      next message phase =>
        refine .change _ index task _ here rfl ?_ fun _ => by simp [Claims, Sending]
        simp [ChatTask.InProgress, phase]
      next result phase =>
        refine .change _ index task _ here rfl ?_ fun _ => by simp [Claims, Sending]
        simp [ChatTask.InProgress, phase]
      · exact .change _ index task task here rfl Iff.rfl id
  | finish index =>
    rw [step, update]
    split
    · exact .same _
    next task here =>
      dsimp only
      split
      next result phase =>
        refine .release _ index task _ result here ?_ ?_ ?_
        · exact fun claims => ⟨claims (.inr ⟨result, phase⟩), by simp [phase]⟩
        · simp [conclude, ChatTask.InProgress]
        · simp [conclude, Claims, Sending]
      · exact .change _ index task task here rfl Iff.rfl id
  | fail index =>
    rw [step, update]
    split
    · exact .same _
    next task here =>
      dsimp only
      split
      next phase =>
        unfold failed
        split
        next claimed =>
          refine .release _ index task _ .ambiguous here ?_ ?_ ?_
          · exact fun _ => ⟨claimed, by simp [phase]⟩
          · simp [ChatTask.InProgress]
          · simp [Claims, Sending]
        next unclaimed =>
          refine .change _ index task _ here rfl ?_ fun _ => by simp [Claims, Sending]
          simp [ChatTask.InProgress, unclaimed]
      · exact .change _ index task task here rfl Iff.rfl id

theorem at_concat {tasks : List ChatTask} {added task : ChatTask} {i : Nat} :
    (tasks ++ [added])[i]? = some task ↔
      tasks[i]? = some task ∨ (i = tasks.length ∧ task = added) := by
  rw [List.getElem?_append]
  split
  next inside =>
    have other : i ≠ tasks.length := by omega
    simp [other]
  next outside =>
    have none : tasks[i]? = none := List.getElem?_eq_none (by omega)
    rw [none, List.getElem?_singleton]
    split <;> simp <;> grind

theorem at_set {tasks : List ChatTask} {old changed task : ChatTask} {index i : Nat}
    (here : tasks[index]? = some old) : (tasks.set index changed)[i]? = some task ↔
      (i = index ∧ task = changed) ∨ (i ≠ index ∧ tasks[i]? = some task) := by
  have inside : index < tasks.length := (List.getElem?_eq_some_iff.mp here).1
  rw [List.getElem?_set]
  split <;> grind

/-- The ledger and the threads agree: the active keys are those that threads hold, and each
has one holder, which would not post again what is settled. -/
structure Sound (workers : ChatWorkers) : Prop where
  kept : workers.ledger.Kept
  claims : ∀ (i : Nat) task, workers.tasks[i]? = some task → Claims task
  held : ∀ key, key ∈ workers.ledger.active ↔
    ∃ (i : Nat) (task : ChatTask), workers.tasks[i]? = some task ∧ task.InProgress ∧ task.captured.key = key
  alone : ∀ (i j : Nat) task other, workers.tasks[i]? = some task → workers.tasks[j]? = some other →
    task.InProgress → other.InProgress → task.captured.key = other.captured.key → i = j
  fresh : ∀ (i : Nat) task, workers.tasks[i]? = some task → task.InProgress →
    task.captured.upload.intent.isUserInitiated = false →
      task.captured.key ∉ workers.ledger.keys

theorem Sound.move {workers next : ChatWorkers} (sound : workers.Sound)
    (move : Move workers next) : next.Sound := by
  cases move with
  | same => exact sound
  | enter task idle claims =>
    refine ⟨sound.kept, ?_, ?_, ?_, ?_⟩
    · intro i found
      grind [at_concat, sound.claims]
    · intro key
      rw [sound.held]
      constructor
      · rintro ⟨i, found, here, started, same⟩
        exact ⟨i, found, at_concat.mpr (.inl here), started, same⟩
      · rintro ⟨i, found, here, started, same⟩
        rcases at_concat.mp here with here | ⟨-, rfl⟩
        · exact ⟨i, found, here, started, same⟩
        · contradiction
    · intro i j
      grind [at_concat, sound.alone]
    · intro i
      grind [at_concat, sound.fresh]
  | claim task free fresh started =>
    have unheld (i : Nat) (found : ChatTask) (here : workers.tasks[i]? = some found)
        (held : found.InProgress) : found.captured.key ≠ task.captured.key :=
      fun same => free ((sound.held _).mpr ⟨i, found, here, held, same⟩)
    refine ⟨⟨sound.kept.distinct, sound.kept.bounded⟩, ?_, ?_, ?_, ?_⟩
    · intro i found here
      rcases at_concat.mp here with here | ⟨-, rfl⟩
      · exact sound.claims i found here
      · exact fun _ => started.1
    · intro key
      rw [List.mem_cons, sound.held]
      constructor
      · rintro (rfl | ⟨i, found, here, held, same⟩)
        · exact ⟨workers.tasks.length, task, at_concat.mpr (.inr ⟨rfl, rfl⟩), started, rfl⟩
        · exact ⟨i, found, at_concat.mpr (.inl here), held, same⟩
      · rintro ⟨i, found, here, held, same⟩
        rcases at_concat.mp here with here | ⟨-, rfl⟩
        · exact .inr ⟨i, found, here, held, same⟩
        · exact .inl same.symm
    · intro i j
      grind [at_concat, sound.alone]
    · intro i found here
      rcases at_concat.mp here with here | ⟨-, rfl⟩
      · exact sound.fresh i found here
      · exact fun _ => fresh
  | change index task changed here captured progress claims =>
    refine ⟨sound.kept, ?_, ?_, ?_, ?_⟩
    · intro i found
      grind [at_set, sound.claims]
    · intro key
      rw [sound.held]
      constructor
      · rintro ⟨i, found, there, held, same⟩
        by_cases at_index : i = index
        · subst at_index
          cases here.symm.trans there
          exact ⟨i, changed, (at_set here).mpr (.inl ⟨rfl, rfl⟩), progress.mpr held,
            captured ▸ same⟩
        · exact ⟨i, found, (at_set here).mpr (.inr ⟨at_index, there⟩), held, same⟩
      · rintro ⟨i, found, there, held, same⟩
        rcases (at_set here).mp there with ⟨rfl, rfl⟩ | ⟨-, there⟩
        · exact ⟨i, task, here, progress.mp held, captured ▸ same⟩
        · exact ⟨i, found, there, held, same⟩
    · intro i j
      grind [at_set, sound.alone]
    · intro i
      grind [at_set, sound.fresh]
  | release index task changed result here held idle claims =>
    have own := held (sound.claims index task here)
    refine ⟨sound.kept.finish, ?_, ?_, ?_, ?_⟩
    · intro i found
      grind [at_set, sound.claims]
    · intro key
      rw [Ledger.active_finish, List.mem_filter, sound.held]
      constructor
      · rintro ⟨⟨i, found, there, held, same⟩, other⟩
        have elsewhere : i ≠ index := by
          rintro rfl
          cases here.symm.trans there
          simp [same] at other
        exact ⟨i, found, (at_set here).mpr (.inr ⟨elsewhere, there⟩), held, same⟩
      · rintro ⟨i, found, there, held, same⟩
        rcases (at_set here).mp there with ⟨rfl, rfl⟩ | ⟨elsewhere, there⟩
        · contradiction
        · refine ⟨⟨i, found, there, held, same⟩, ?_⟩
          have different : key ≠ task.captured.key := fun equal =>
            elsewhere (sound.alone i index found task there here held own (same.trans equal))
          simpa using different
    · intro i j
      grind [at_set, sound.alone]
    · intro i found there held automatic settled
      rcases (at_set here).mp there with ⟨rfl, rfl⟩ | ⟨elsewhere, there⟩
      · contradiction
      · rcases Ledger.keys_finish_subset settled with old | same
        · exact sound.fresh i found there held automatic old
        · exact elsewhere (sound.alone i index found task there here held own same)

theorem Sound.start : Sound {} := by
  refine ⟨⟨List.nodup_nil, Nat.zero_le _⟩, ?_, ?_, ?_, ?_⟩ <;> simp

theorem Sound.inProgress {workers : ChatWorkers} (sound : workers.Sound) {i : Nat}
    {task : ChatTask} (here : workers.tasks[i]? = some task) (sending : Sending task) :
    task.InProgress := by
  refine ⟨sound.claims i task here (.inl sending), fun outcome returned => ?_⟩
  obtain ⟨message, phase⟩ := sending
  simp [phase] at returned

theorem sound_of_run {workers : ChatWorkers} (run : Run step (fun _ _ => True) {} workers) :
    workers.Sound := by
  apply run.invariant _ Sound.start
  exact fun workers op _ sound => sound.move (move_step workers op)

theorem ledger_after_fail {workers : ChatWorkers} {i : Nat} {task : ChatTask}
    (here : workers.tasks[i]? = some task) (phase : task.phase = .panicked)
    (claimed : task.captured.claimed = true) : (workers.step (.fail i)).ledger =
      workers.ledger.finish task.captured.key .ambiguous := by
  simp [step, update, here, phase, failed, claimed]

/-- No two threads send under one key, and none sends by itself what is settled. What is in
progress stays so, whatever is settled meanwhile, and a panic settles it as ambiguous. -/
theorem ledger_excludes {workers : ChatWorkers} (run : Run step (fun _ _ => True) {} workers) :
    (∀ (i j : Nat) task other, workers.tasks[i]? = some task → workers.tasks[j]? = some other →
      Sending task → Sending other → task.captured.key = other.captured.key → i = j) ∧
    (∀ (i : Nat) task, workers.tasks[i]? = some task → Sending task →
      task.captured.upload.intent.isUserInitiated = false →
        workers.ledger.settled.lookup task.captured.key = none) ∧
    workers.ledger.settled.length ≤ 256 ∧ workers.ledger.keys.Nodup ∧
    (∀ (i : Nat) task, workers.tasks[i]? = some task → task.InProgress →
      task.captured.key ∈ workers.ledger.active) ∧
    ∀ (i : Nat) task, workers.tasks[i]? = some task → task.phase = .panicked →
      task.captured.claimed = true → (workers.step (.fail i)).ledger.settled.lookup
        task.captured.key = some .ambiguous := by
  have sound := sound_of_run run
  refine ⟨?_, ?_, ?_, sound.kept.distinct, ?_, ?_⟩
  · intro i j task other here there sending also
    exact sound.alone i j task other here there (sound.inProgress here sending)
      (sound.inProgress there also)
  · intro i task here sending automatic
    have fresh := sound.fresh i task here (sound.inProgress here sending) automatic
    rw [List.lookup_eq_none_iff]
    intro entry member
    have different : task.captured.key ≠ entry.1 :=
      fun same => fresh (same ▸ List.mem_map_of_mem member)
    simpa using different
  · simpa [Ledger.keys] using sound.kept.bounded
  · exact fun i task here held => (sound.held _).mpr ⟨i, task, here, held, rfl⟩
  · intro i task here phase claimed
    rw [ledger_after_fail here phase claimed]
    exact Ledger.lookup_finish_ambiguous

end ChatWorkers

/-! A post that is started twice, and panics. -/

def sampleChatConfig : TwitchProviderConfig where
  messageTemplate := "{url}"
  postSuccess := true
  postFailure := true

def sampleChatRequest : UploadRequest where
  jobId := sampleJobId
  provider := .twitch
  attempt := 1
  file := sampleLog 1
  metadata := sampleMetadata
  dpsReportResult := some sampleReport
  intent := .automatic

def sampleChatKey : ChatKey := (sampleJobId, sampleReport.permalink)

def sampleStarted : ChatOp := .start sampleChatConfig [.field .url] sampleChatRequest false

/-- The first post waits for its answer, and the second is not sent. -/
def samplePosting : ChatWorkers := [sampleStarted, sampleStarted].foldl ChatWorkers.step {}

def samplePanicked : ChatWorkers := samplePosting.step (.unwind 0)

/-- Of the two posts the first is sent, and after its panic its key is settled. -/
theorem ledger_excludes_sample :
    (∃ task, samplePosting.tasks[0]? = some task ∧ ChatWorkers.Sending task ∧
      samplePosting.ledger.settled.lookup sampleChatKey = none ∧
      ∀ (i : Nat) other, samplePosting.tasks[i]? = some other → ChatWorkers.Sending other →
        sampleChatKey = other.captured.key → 0 = i) ∧
    sampleChatKey ∈ samplePanicked.ledger.active ∧
    (samplePanicked.step (.fail 0)).ledger.settled.lookup sampleChatKey = some .ambiguous := by
  obtain ⟨alone, fresh, -⟩ := ChatWorkers.ledger_excludes
    (Run.of_list ChatWorkers.step {} [sampleStarted, sampleStarted] fun _ _ _ => trivial)
  obtain ⟨-, -, -, -, held, settles⟩ := ChatWorkers.ledger_excludes
    (Run.of_list ChatWorkers.step {} [sampleStarted, sampleStarted, .unwind 0]
      fun _ _ _ => trivial)
  refine ⟨⟨_, rfl, ⟨_, rfl⟩, fresh 0 _ rfl ⟨_, rfl⟩ rfl, ?_⟩, ?_, ?_⟩
  · exact fun i other there also => alone 0 i _ other rfl there ⟨_, rfl⟩ also
  · exact held 0 _ rfl ⟨rfl, fun outcome same => by cases same⟩
  · exact settles 0 _ rfl rfl rfl

end MannyUploader.Providers
