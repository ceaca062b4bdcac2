import MannyUploader.Config.SettingsStore
import MannyUploader.Foundation.CrashPoints

/-! A save that fails or is cut short leaves the old settings or the new ones in the primary. -/
namespace MannyUploader.Config
open Domain Foundation

/-- What the store relies on of its files: a read gives the content or fails, and a write is
all or nothing and touches no other file. -/
structure WholeFiles (files : FilePorts W) (content : PathBuf → W → Option (List UInt8)) :
    Prop where
  reads : ∀ path limit world found, files.read path limit world = .ok found →
    found = content path world
  writes : ∀ path bytes world,
    Leaves content path bytes world (files.writeAtomic path bytes world).2

namespace JsonSettingsStore
variable {parse : List UInt8 → Option Json} {printer : Json.Printer} {files : FilePorts W}
  {content : PathBuf → W → Option (List UInt8)} {store : JsonSettingsStore}
  {settings saved : Settings} {document : List UInt8} {path : PathBuf}

theorem backup_ne_primary (store : JsonSettingsStore) : store.backup ≠ store.primary := by
  intro same
  have lengths := congrArg (fun path : PathBuf => path.bytes.length) same
  have suffix : (utf8 ".bak").length = 4 := by decide
  simp only [backup, List.length_append, suffix] at lengths
  omega

theorem read_ok {world : W} (laws : WholeFiles files content)
    (h : read parse files path world = .ok (settings, document)) :
    content path world = some document ∧ decodeSettings parse document = .ok settings := by
  unfold read at h
  split at h
  · cases h
  · cases h
  next found answer =>
    have same := laws.reads _ _ _ _ answer
    split at h
    · cases h
    next decoded =>
      cases h
      exact ⟨same.symm, decoded⟩

theorem load_primary {world : W} (laws : WholeFiles files content)
    (h : load parse files store world = .ok ⟨settings, .primary, none⟩) :
    ∃ document, content store.primary world = some document ∧
      decodeSettings parse document = .ok settings := by
  unfold load at h
  split at h
  next found answer =>
    cases h
    exact ⟨_, read_ok laws answer⟩
  · split at h
    · cases h
    · split at h <;> cases h

/-- A good primary that can be read is what a load takes. -/
theorem load_of_content {world : W}
    (readable : files.read store.primary maxSettingsBytes world = .ok (some document))
    (decoded : decodeSettings parse document = .ok settings) :
    load parse files store world = .ok ⟨settings, .primary, none⟩ := by
  have answer : read parse files store.primary world = .ok (settings, document) := by
    rw [read, readable]
    dsimp only
    rw [decoded]
  rw [load, answer]

theorem length_decoded (decoded : decodeSettings parse document = .ok settings) :
    document.length ≤ maxSettingsBytes := by
  unfold decodeSettings at decoded
  split at decoded
  · cases decoded
  · omega

section writes
variable {world : W}

theorem mem_writes_primary
    (there : (store.primary, document) ∈ writes parse printer files store settings world) :
    encodeSettings printer settings = .ok document := by
  have other := Ne.symm store.backup_ne_primary
  unfold writes at there
  split at there
  · cases there
  · split at there <;> simp_all

theorem mem_writes_backup
    (there : (store.backup, document) ∈ writes parse printer files store settings world) :
    ∃ found, read parse files store.primary world = .ok (found, document) := by
  have other := store.backup_ne_primary
  unfold writes at there
  split at there
  · cases there
  · split at there <;> simp_all

/-- What a save leaves behind is one of the places where its writes may end. -/
theorem save_cutShort (laws : WholeFiles files content) (settings : Settings) (world : W) :
    CutShort content (writes parse printer files store settings world) world
      (save parse printer files store settings world).2 := by
  have last : ∀ document world, CutShort content [(store.primary, document)] world
      (replace files store document world).2 := by
    intro document world
    have written := laws.writes store.primary document world
    unfold replace
    split
    all_goals
      next answer =>
        rw [answer] at written
        exact .write written .stop
  unfold save writes
  cases encodeSettings printer settings with
  | error _ => exact .stop
  | ok document =>
    dsimp only
    cases read parse files store.primary world with
    | ok found =>
      have written := laws.writes store.backup found.2 world
      dsimp only
      split
      next answer =>
        rw [answer] at written
        exact .write written .stop
      next answer =>
        rw [answer] at written
        exact .write written (last document _)
    | error issue =>
      cases issue with
      | file _ => exact .stop
      | _ => exact last document world

end writes

/-- Wherever a save ends, the next load takes the old settings or the new ones from the
primary. The backup stays, or becomes the primary that was good before. -/
theorem save_keeps_settings (laws : WholeFiles files content) (store : JsonSettingsStore)
    {first before after next : W}
    (ended : after = (save parse printer files store saved before).2 ∨
      CutShort content (writes parse printer files store saved before) before after) :
    (load parse files store first = .ok ⟨settings, .primary, none⟩ →
      content store.primary before = content store.primary first →
      parse (settingsDocument printer saved) = some (.object (settingsMembers saved)) →
      content store.primary next = content store.primary after →
      (∀ document, content store.primary next = some document →
        document.length ≤ maxSettingsBytes →
        files.read store.primary maxSettingsBytes next = .ok (some document)) →
      load parse files store next = .ok ⟨settings, .primary, none⟩ ∨
        load parse files store next = .ok ⟨saved.normalizeLoadedSettings, .primary, none⟩) ∧
    (content store.backup after = content store.backup before ∨
      ∃ document good, content store.backup after = some document ∧
        content store.primary before = some document ∧
        decodeSettings parse document = .ok good) := by
  have cut : CutShort content (writes parse printer files store saved before) before after := by
    rcases ended with same | cut
    · exact same ▸ save_cutShort laws saved before
    · exact cut
  constructor
  · intro loaded kept reads same readable
    obtain ⟨old, there, decoded⟩ := load_primary laws loaded
    rcases cut.content_or store.primary with unchanged | ⟨document, written, holds⟩
    · left
      have holds : content store.primary next = some old := by
        rw [same, unchanged, kept, there]
      exact load_of_content (readable old holds (length_decoded decoded)) decoded
    · right
      have encoded := mem_writes_primary written
      have valid : saved.validate = [] := by
        rw [encodeSettings] at encoded
        obtain ⟨_, valid, -⟩ := bind_ok encoded
        unfold validate at valid
        split at valid
        next empty => exact List.isEmpty_iff.mp empty
        · cases valid
      obtain rfl : settingsDocument printer saved = document := by
        rw [encodeSettings_ok printer valid] at encoded
        exact Except.ok.inj encoded
      have decoded := decodeSettings_document valid reads
      exact load_of_content (readable _ (same ▸ holds) (length_decoded decoded)) decoded
  · rcases cut.content_or store.backup with unchanged | ⟨document, written, holds⟩
    · exact .inl unchanged
    · obtain ⟨good, answer⟩ := mem_writes_backup written
      obtain ⟨there, decoded⟩ := read_ok laws answer
      exact .inr ⟨document, good, holds, there, decoded⟩

/-- Files in memory. -/
def mapFiles : FilePorts (PathBuf → Option (List UInt8)) where
  read path limit world :=
    match world path with
    | none => .ok none
    | some bytes => if bytes.length > limit then .error .tooLarge else .ok (some bytes)
  writeAtomic path bytes world := (.ok (), Function.update world path (some bytes))

theorem mapFiles_whole : WholeFiles mapFiles fun path world => world path where
  reads path limit world found answer := by
    unfold mapFiles at answer
    dsimp only at answer
    split at answer
    next missing => exact (Except.ok.inj answer).symm.trans missing.symm
    next present =>
      split at answer
      · cases answer
      · exact (Except.ok.inj answer).symm.trans present.symm
  writes path bytes world := {
    whole := .inr (by simp [mapFiles])
    others := fun other different => by simp [mapFiles, different] }

theorem mapFiles_read {path : PathBuf} {bytes : List UInt8} {limit : Nat}
    {world : PathBuf → Option (List UInt8)} (holds : world path = some bytes)
    (small : bytes.length ≤ limit) : mapFiles.read path limit world = .ok (some bytes) := by
  simp only [mapFiles, holds]
  exact if_neg (Nat.not_lt.mpr small)

def sampleStore : JsonSettingsStore where
  primary := ⟨utf8 "settings.json"⟩
  defaults := Settings.new "logs"
  storable := by decide
  valid := by decide

def printedSettings (settings : Settings) : List UInt8 :=
  settingsDocument Json.prettyPrinter settings

/-- The reader of two documents. -/
def sampleParse (document : List UInt8) : Option Json :=
  if document = printedSettings staleSettings then some (.object (settingsMembers staleSettings))
  else if document = printedSettings (.new "new") then
    some (.object (settingsMembers (.new "new")))
  else none

/-- The power fails between the writes of a save. -/
theorem save_keeps_settings_sample :
    let before : PathBuf → Option (List UInt8) :=
      Function.update (fun _ => none) sampleStore.primary (some (printedSettings staleSettings))
    let after := Function.update before sampleStore.backup (some (printedSettings staleSettings))
    load sampleParse mapFiles sampleStore after = .ok ⟨.new "logs", .primary, none⟩ ∨
      load sampleParse mapFiles sampleStore after = .ok ⟨.new "new", .primary, none⟩ := by
  intro before after
  have stale : sampleParse (printedSettings staleSettings) =
      some (.object (settingsMembers staleSettings)) := if_pos rfl
  have small : (printedSettings staleSettings).length ≤ maxSettingsBytes :=
    length_settingsDocument Json.prettyPrinter staleSettings_valid
  have holds : before sampleStore.primary = some (printedSettings staleSettings) := by
    simp [before]
  have decoded : decodeSettings sampleParse (printedSettings staleSettings) =
      .ok staleSettings.normalizeLoadedSettings :=
    decodeSettings_document staleSettings_valid stale
  have loaded := load_of_content (mapFiles_read holds small) decoded
  have answer : read sampleParse mapFiles sampleStore.primary before =
      .ok (staleSettings.normalizeLoadedSettings, printedSettings staleSettings) := by
    rw [read, mapFiles_read holds small]
    dsimp only
    rw [decoded]
  have valid : (Settings.new "new").validate = [] := by decide
  have cut : CutShort (fun path world => world path)
      (writes sampleParse Json.prettyPrinter mapFiles sampleStore (.new "new") before) before after := by
    rw [writes, encodeSettings_ok Json.prettyPrinter valid, answer]
    exact .write (mapFiles_whole.writes sampleStore.backup _ before) .stop
  have different : printedSettings (.new "new") ≠ printedSettings staleSettings := by
    decide
  exact (save_keeps_settings mapFiles_whole sampleStore (.inr cut)).1 loaded rfl
    ((if_neg different).trans (if_pos rfl)) rfl fun _ there within => mapFiles_read there within

end JsonSettingsStore
end MannyUploader.Config
