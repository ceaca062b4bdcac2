import MannyUploader.Evtc.ZevtcArchive

/-! What each part of the archive reader has seen when it succeeds. -/
namespace MannyUploader.Evtc.ZevtcArchive
open Application Domain Foundation

/-! What the parts read. -/

/-- A number of a record. -/
def number (record : List UInt8) (offset width : Nat) : Nat := ofLittle (slice record offset width)

section reads
variable {bytes found : List UInt8} {offset : Nat}

theorem field_ok {width : Nat} (h : field bytes offset width = .ok found) :
    offset + width ≤ bytes.length ∧ found = slice bytes offset width := by
  obtain ⟨⟨-, inside⟩, rfl⟩ := guarded_ok.mp h
  exact ⟨inside, by rw [Nat.add_sub_cancel_left]⟩

theorem u16At_ok {value : UInt16} (h : u16At bytes offset = .ok value) :
    offset + 2 ≤ bytes.length ∧ value = .ofNat (number bytes offset 2) := by
  obtain ⟨_, read, h⟩ := bind_ok h
  obtain ⟨inside, rfl⟩ := field_ok read
  cases h
  exact ⟨inside, rfl⟩

theorem u32At_ok {value : UInt32} (h : u32At bytes offset = .ok value) :
    offset + 4 ≤ bytes.length ∧ value = .ofNat (number bytes offset 4) := by
  obtain ⟨_, read, h⟩ := bind_ok h
  obtain ⟨inside, rfl⟩ := field_ok read
  cases h
  exact ⟨inside, rfl⟩

theorem readAt_ok {width : Nat} (h : readAt bytes offset width = .ok found) :
    offset + width ≤ bytes.length ∧ found = slice bytes offset width := field_ok h

theorem readBytes_ok {size : Nat} (h : readBytes bytes offset size = .ok found) :
    offset + size ≤ bytes.length ∧ found = slice bytes offset size := by
  obtain ⟨-, -, read⟩ := bind_ok h
  exact readAt_ok read

end reads

section central
variable {record rest : List UInt8} {limits : ArchiveLimits} {header : Central}

theorem toNat_number16 (record : List UInt8) (offset : Nat) :
    (UInt16.ofNat (number record offset 2)).toNat = number record offset 2 := by
  rw [UInt16.toNat_ofNat']
  apply Nat.mod_eq_of_lt
  apply Nat.lt_of_lt_of_le (ofLittle_lt _)
  exact Nat.pow_le_pow_right (by decide) (List.length_take_le _ _)

/-- What a central header says: its sizes are in its fields, or in its extra data. -/
structure IsHeader (limits : ArchiveLimits) (record : List UInt8) (header : Central) : Prop where
  signature : slice record 0 4 = centralSignature
  length : header.length = 46 + number record 28 2 + number record 30 2 + number record 32 2
  name : header.name = slice record 46 (number record 28 2)
  short : number record 28 2 ≤ limits.filenameBytes.toNat
  directory : header.isDirectory =
    (utf8 "/" <:+ header.name || UInt32.ofNat (number record 38 4) &&& 0x10 != 0)
  sizes : ∃ zip64 behindUncompressed behindCompressed behindOffset,
    zip64Extra none (slice record (46 + number record 28 2) (number record 30 2)) = .ok zip64 ∧
    extended (.ofNat (number record 24 4)) (zip64.getD []) =
      .ok (header.uncompressed, behindUncompressed) ∧
    extended (.ofNat (number record 20 4)) behindUncompressed =
      .ok (header.compressed, behindCompressed) ∧
    extended (.ofNat (number record 42 4)) behindCompressed = .ok (header.offset, behindOffset)

theorem central_ok (h : central limits record = .ok header) : IsHeader limits record header := by
  obtain ⟨signature, read, h⟩ := bind_ok h
  obtain ⟨-, rfl⟩ := field_ok read
  obtain ⟨⟨⟩, signed, h⟩ := bind_ok h
  obtain ⟨nameLength, read, h⟩ := bind_ok h
  obtain ⟨-, rfl⟩ := u16At_ok read
  obtain ⟨extraLength, read, h⟩ := bind_ok h
  obtain ⟨-, rfl⟩ := u16At_ok read
  obtain ⟨commentLength, read, h⟩ := bind_ok h
  obtain ⟨-, rfl⟩ := u16At_ok read
  obtain ⟨⟨⟩, short, h⟩ := bind_ok h
  obtain ⟨nameEnd, total, h⟩ := bind_ok h
  obtain ⟨-, rfl⟩ := guarded_ok.mp total
  obtain ⟨name, read, h⟩ := bind_ok h
  obtain ⟨-, rfl⟩ := guarded_ok.mp read
  obtain ⟨extraEnd, total, h⟩ := bind_ok h
  obtain ⟨-, rfl⟩ := guarded_ok.mp total
  obtain ⟨extra, read, h⟩ := bind_ok h
  obtain ⟨-, rfl⟩ := guarded_ok.mp read
  obtain ⟨zip64, found, h⟩ := bind_ok h
  obtain ⟨shortUncompressed, read, h⟩ := bind_ok h
  obtain ⟨-, rfl⟩ := u32At_ok read
  obtain ⟨⟨uncompressed, behindUncompressed⟩, long, h⟩ := bind_ok h
  obtain ⟨shortCompressed, read, h⟩ := bind_ok h
  obtain ⟨-, rfl⟩ := u32At_ok read
  obtain ⟨⟨compressed, behindCompressed⟩, long', h⟩ := bind_ok h
  obtain ⟨shortOffset, read, h⟩ := bind_ok h
  obtain ⟨-, rfl⟩ := u32At_ok read
  obtain ⟨⟨offset, behindOffset⟩, long'', h⟩ := bind_ok h
  obtain ⟨disk, -, h⟩ := bind_ok h
  obtain ⟨elsewhere, -, h⟩ := bind_ok h
  obtain ⟨⟨⟩, -, h⟩ := bind_ok h
  obtain ⟨attributes, read, h⟩ := bind_ok h
  obtain ⟨-, rfl⟩ := u32At_ok read
  obtain ⟨length, total, h⟩ := bind_ok h
  obtain ⟨-, rfl⟩ := guarded_ok.mp total
  cases h
  have signed := failIf_ok.mp signed
  have short := failIf_ok.mp short
  simp only [toNat_number16, List.sum_cons, List.sum_nil, Nat.add_zero, Nat.add_sub_cancel_left,
    not_lt, ne_eq, not_not, gt_iff_lt] at *
  refine ⟨signed, ?_, rfl, short, rfl, zip64, _, _, _, ?_, long, long', long''⟩
  · simp only [Nat.add_assoc]
  rw [← found]
  congr 2
  omega

/-- The bytes of a header are all that it needs. -/
theorem IsHeader.of_take {bytes : List UInt8} (h : IsHeader limits bytes header) :
    IsHeader limits (bytes.take header.length) header := by
  have length := h.length
  have number (offset width : Nat) (inside : offset + width ≤ 46) :
      number (bytes.take header.length) offset width = number bytes offset width := by
    rw [ZevtcArchive.number, slice_take _ (by omega)]
    rfl
  obtain ⟨zip64, first, second, third, sizes⟩ := h.sizes
  constructor
  · rw [slice_take _ (by omega)]
    exact h.signature
  · rw [number 28 2 (by decide), number 30 2 (by decide), number 32 2 (by decide)]
    exact h.length
  · rw [number 28 2 (by decide), slice_take _ (by omega)]
    exact h.name
  · rw [number 28 2 (by decide)]
    exact h.short
  · rw [number 38 4 (by decide)]
    exact h.directory
  · refine ⟨zip64, first, second, third, ?_⟩
    rw [number 28 2 (by decide), number 30 2 (by decide), number 24 4 (by decide),
      number 20 4 (by decide), number 42 4 (by decide), slice_take _ (by omega)]
    exact sizes

end central

/-- The entry of a record. -/
def entryOf (record : List UInt8) (header : Central) : Entry where
  name := header.name
  flags := .ofNat (number record 8 2)
  method := .ofNat (number record 10 2)
  crc := .ofNat (number record 16 4)
  compressed := header.compressed
  uncompressed := header.uncompressed
  offset := header.offset
  zip64Sizes := UInt32.ofNat (number record 24 4) == 0xFFFFFFFF ||
    UInt32.ofNat (number record 20 4) == 0xFFFFFFFF

theorem entry_ok {record : List UInt8} {header : Central} {chosen : Entry}
    (h : entry record header = .ok chosen) : chosen = entryOf record header := by
  obtain ⟨flags, read, h⟩ := bind_ok h
  obtain ⟨-, rfl⟩ := u16At_ok read
  obtain ⟨method, read, h⟩ := bind_ok h
  obtain ⟨-, rfl⟩ := u16At_ok read
  obtain ⟨crc, read, h⟩ := bind_ok h
  obtain ⟨-, rfl⟩ := u32At_ok read
  obtain ⟨uncompressed, read, h⟩ := bind_ok h
  obtain ⟨-, rfl⟩ := u32At_ok read
  obtain ⟨compressed, read, h⟩ := bind_ok h
  obtain ⟨-, rfl⟩ := u32At_ok read
  cases h
  rfl

def isCandidate (header : Central) : Bool := !header.isDirectory && isEvtc header.name

def isFallback (header : Central) : Bool :=
  !header.isDirectory && !isEvtc header.name && isExtensionless header.name

/-- What one record adds to the selection. -/
structure Considered (record : List UInt8) (header : Central) (s s' : Selection) : Prop where
  files : s'.files = s.files + (if header.isDirectory then 0 else 1)
  selected : s'.selected.toList =
    s.selected.toList ++ if isCandidate header then [entryOf record header] else []
  fallback : s'.fallback =
    (if isFallback header then some (entryOf record header) else none).or s.fallback

theorem consider_ok {record : List UInt8} {header : Central} {s s' : Selection}
    (h : consider record header s = .ok s') : Considered record header s s' := by
  unfold consider at h
  split at h
  next directory =>
    cases h
    exact ⟨by simp [directory], by simp [isCandidate, directory], by simp [isFallback, directory]⟩
  next file =>
    obtain ⟨files, counted, h⟩ := bind_ok h
    obtain ⟨-, rfl⟩ := guarded_ok.mp counted
    split at h
    next evtc =>
      obtain ⟨chosen, read, h⟩ := bind_ok h
      obtain rfl := entry_ok read
      obtain ⟨⟨⟩, unselected, h⟩ := bind_ok h
      have none := failIf_ok.mp unselected
      cases h
      refine ⟨by simp [file], ?_, by simp [isFallback, evtc]⟩
      rw [Option.not_isSome_iff_eq_none] at none
      simp [isCandidate, file, evtc, none]
    next other =>
      split at h
      next extensionless =>
        obtain ⟨chosen, read, h⟩ := bind_ok h
        obtain rfl := entry_ok read
        cases h
        exact ⟨by simp [file], by simp [isCandidate, other],
          by simp [isFallback, file, other, extensionless]⟩
      next neither =>
        cases h
        exact ⟨by simp [file], by simp [isCandidate, other], by simp [isFallback, neither]⟩

/-! The selection. -/

section selection
variable {stop : Nat → Bool} {bytes : List UInt8} {limits : ArchiveLimits}

theorem entryOf_take {header : Central} (whole : 46 ≤ header.length) :
    entryOf (bytes.take header.length) header = entryOf bytes header := by
  have same (offset width : Nat) (inside : offset + width ≤ 46) :
      number (bytes.take header.length) offset width = number bytes offset width := by
    rw [number, slice_take _ (by omega)]
    rfl
  unfold entryOf
  rw [same 8 2 (by decide), same 10 2 (by decide), same 16 4 (by decide), same 24 4 (by decide),
    same 20 4 (by decide)]

theorem Considered.of_take {header : Central} {s s' : Selection} (whole : 46 ≤ header.length)
    (h : Considered bytes header s s') :
    Considered (bytes.take header.length) header s s' := by
  constructor
  · exact h.files
  · rw [entryOf_take whole]
    exact h.selected
  · rw [entryOf_take whole]
    exact h.fallback

/-- The headers of a directory, each with its bytes. -/
structure Lists (limits : ArchiveLimits) (bytes : List UInt8)
    (records : List (List UInt8 × Central)) : Prop where
  bytes : bytes = (records.map (·.1)).flatten
  headers : ∀ record ∈ records, IsHeader limits record.1 record.2
  lengths : ∀ record ∈ records, record.1.length = record.2.length

def candidates (records : List (List UInt8 × Central)) : List (List UInt8 × Central) :=
  records.filter (isCandidate ·.2)

def fallbacks (records : List (List UInt8 × Central)) : List (List UInt8 × Central) :=
  records.filter (isFallback ·.2)

def files (records : List (List UInt8 × Central)) : List (List UInt8 × Central) :=
  records.filter (!·.2.isDirectory)

/-- What all records add to the selection. -/
structure Selects (records : List (List UInt8 × Central)) (s s' : Selection) : Prop where
  files : s'.files = s.files + (files records).length
  selected : s'.selected.toList =
    s.selected.toList ++ (candidates records).map fun record => entryOf record.1 record.2
  fallback : s'.fallback =
    ((fallbacks records).getLast?.map fun record => entryOf record.1 record.2).or s.fallback

theorem Selects.cons {record : List UInt8 × Central} {rest : List (List UInt8 × Central)}
    {s middle s' : Selection} (first : Considered record.1 record.2 s middle)
    (others : Selects rest middle s') : Selects (record :: rest) s s' where
  files := by
    rw [others.files, first.files, ZevtcArchive.files, ZevtcArchive.files, List.filter_cons]
    cases record.2.isDirectory with
    | true => simp
    | false =>
      simp only [Bool.not_false, if_true, List.length_cons, Bool.false_eq_true, if_false]
      omega
  selected := by
    rw [others.selected, first.selected, candidates, candidates, List.filter_cons]
    cases isCandidate record.2 <;> simp
  fallback := by
    rw [others.fallback, first.fallback, fallbacks, fallbacks, List.filter_cons]
    cases isFallback record.2 with
    | false => simp
    | true =>
      cases later : rest.filter (isFallback ·.2) with
      | nil => simp
      | cons next others => simp [List.getLast?_cons]

theorem considerAll_ok {check count : Nat} {s s' : Selection}
    (h : considerAll stop limits check count bytes s = .ok s') :
    ∃ records, Lists limits bytes records ∧ records.length = count ∧ Selects records s s' := by
  induction count generalizing check bytes s with
  | zero =>
    obtain ⟨⟨⟩, checked, h⟩ := bind_ok h
    cases h
    obtain rfl := not_not.mp (failIf_ok.mp checked)
    exact ⟨[], ⟨rfl, by simp, by simp⟩, rfl, by simp [files], by simp [candidates],
      by simp [fallbacks]⟩
  | succ count ih =>
    obtain ⟨⟨⟩, -, h⟩ := bind_ok h
    obtain ⟨header, read, h⟩ := bind_ok h
    obtain ⟨middle, considered, h⟩ := bind_ok h
    obtain ⟨behind, left, h⟩ := bind_ok h
    obtain ⟨⟨inside, -⟩, rfl⟩ := guarded_ok.mp left
    have spec := central_ok read
    have whole : 46 ≤ header.length := by
      have length := spec.length
      omega
    have dropped : slice bytes header.length (bytes.length - header.length) =
        bytes.drop header.length := by
      rw [slice, List.take_of_length_le (by rw [List.length_drop])]
    rw [dropped] at h
    obtain ⟨records, lists, length, selects⟩ := ih h
    have first := (consider_ok considered).of_take whole
    refine ⟨(bytes.take header.length, header) :: records, ⟨?_, ?_, ?_⟩, by rw [List.length_cons,
      length], .cons first selects⟩
    · rw [List.map_cons, List.flatten_cons, ← lists.bytes, List.take_append_drop]
    · intro record member
      rcases List.mem_cons.mp member with rfl | member
      · exact spec.of_take
      · exact lists.headers record member
    · intro record member
      rcases List.mem_cons.mp member with rfl | member
      · rw [List.length_take, Nat.min_eq_left inside]
      · exact lists.lengths record member

/-- The one log among the files, or the one file, which then has no extension. -/
def IsChoice (records : List (List UInt8 × Central)) (chosen : List UInt8 × Central) : Prop :=
  candidates records = [chosen] ∨
    candidates records = [] ∧ files records = [chosen] ∧ isExtensionless chosen.2.name = true

theorem selectEntry_ok {check count : Nat} {found : Entry}
    (h : selectEntry stop limits check count bytes = .ok found) :
    ∃ records chosen, Lists limits bytes records ∧ records.length = count ∧
      IsChoice records chosen ∧ found = entryOf chosen.1 chosen.2 := by
  obtain ⟨selection, all, h⟩ := bind_ok h
  obtain ⟨records, lists, length, selects⟩ := considerAll_ok all
  have selected := selects.selected
  have fallback := selects.fallback
  have counted := selects.files
  rw [Option.toList_none, List.nil_append] at selected
  rw [Option.or_none] at fallback
  rw [Nat.zero_add] at counted
  refine ⟨records, ?_⟩
  cases unique : selection.selected with
  | some entry =>
    rw [unique] at selected h
    cases h
    obtain ⟨chosen, only, same⟩ := List.map_eq_singleton_iff.mp selected.symm
    exact ⟨chosen, lists, length, .inl only, same.symm⟩
  | none =>
    rw [unique] at selected h
    have no : candidates records = [] := by simpa using selected.symm
    split at h
    next entry taken =>
      cases h
      have one : selection.files = 1 := by
        by_contra other
        simp [other] at taken
      rw [Option.none_or, if_pos one] at taken
      rw [taken] at fallback
      obtain ⟨chosen, last, same⟩ := Option.map_eq_some_iff.mp fallback.symm
      have member := List.mem_of_getLast? last
      obtain ⟨listed, plain⟩ := List.mem_filter.mp member
      have parts := Bool.and_eq_true_iff.mp plain
      have file := (Bool.and_eq_true_iff.mp parts.1).1
      obtain ⟨only, alone⟩ := List.length_eq_one_iff.mp (counted.symm.trans one)
      have here : chosen ∈ files records := List.mem_filter.mpr ⟨listed, file⟩
      rw [alone, List.mem_singleton] at here
      exact ⟨chosen, lists, length, .inr ⟨no, by rw [alone, here], parts.2⟩, same.symm⟩
    · cases h

end selection

/-! The entry and its data. -/

section entry
variable {stop : Nat → Bool} {content data output result : List UInt8} {reads : Reads}
  {chosen found : Entry} {check next expected : Nat}

/-- The local header in front of the data, and what it adds to the entry. -/
structure IsLocal (content : List UInt8) (chosen : Entry) (directoryStart dataStart : Nat)
    (found : Entry) : Prop where
  signature : slice content chosen.offset 4 = localSignature
  name : slice content (chosen.offset + 30) chosen.name.length = chosen.name
  start : dataStart = chosen.offset + 30 + chosen.name.length +
    number (slice content chosen.offset 30) 28 2
  before : dataStart ≤ directoryStart
  same : ∃ zip64Sizes, found = { chosen with zip64Sizes }

theorem validateLocal_ok {directoryStart dataStart : Nat}
    (h : validateLocal content chosen directoryStart = .ok (dataStart, found)) :
    IsLocal content chosen directoryStart dataStart found := by
  obtain ⟨header, read, h⟩ := bind_ok h
  obtain ⟨-, rfl⟩ := readAt_ok read
  obtain ⟨flags, -, h⟩ := bind_ok h
  obtain ⟨method, -, h⟩ := bind_ok h
  obtain ⟨⟨⟩, signed, h⟩ := bind_ok h
  obtain ⟨nameLength, read, h⟩ := bind_ok h
  obtain ⟨-, rfl⟩ := u16At_ok read
  obtain ⟨extraLength, read, h⟩ := bind_ok h
  obtain ⟨-, rfl⟩ := u16At_ok read
  obtain ⟨⟨⟩, lengths, h⟩ := bind_ok h
  obtain ⟨variableStart, total, h⟩ := bind_ok h
  obtain ⟨-, rfl⟩ := guarded_ok.mp total
  obtain ⟨variableLength, total, h⟩ := bind_ok h
  obtain ⟨-, rfl⟩ := guarded_ok.mp total
  obtain ⟨start, total, h⟩ := bind_ok h
  obtain ⟨-, rfl⟩ := guarded_ok.mp total
  obtain ⟨⟨⟩, before, h⟩ := bind_ok h
  obtain ⟨names, read, h⟩ := bind_ok h
  obtain ⟨-, rfl⟩ := readBytes_ok read
  obtain ⟨name, read, h⟩ := bind_ok h
  obtain ⟨-, rfl⟩ := guarded_ok.mp read
  obtain ⟨⟨⟩, named, h⟩ := bind_ok h
  obtain ⟨extra, -, h⟩ := bind_ok h
  obtain ⟨zip64, -, h⟩ := bind_ok h
  obtain ⟨shortUncompressed, -, h⟩ := bind_ok h
  obtain ⟨shortCompressed, -, h⟩ := bind_ok h
  obtain ⟨⟨uncompressed, behind⟩, -, h⟩ := bind_ok h
  obtain ⟨⟨compressed, behind⟩, -, h⟩ := bind_ok h
  obtain ⟨crc, -, h⟩ := bind_ok h
  obtain ⟨⟨⟩, -, h⟩ := bind_ok h
  cases h
  have signed := (not_or.mp (failIf_ok.mp signed)).1
  have lengths := failIf_ok.mp lengths
  have before := failIf_ok.mp before
  have named := failIf_ok.mp named
  simp only [toNat_number16, List.sum_cons, List.sum_nil, Nat.add_zero, Nat.sub_zero, not_lt,
    ne_eq, not_not, gt_iff_lt] at *
  constructor
  · rw [take_slice _ _ (by decide)] at signed
    exact signed
  · rw [slice_slice _ (by omega), Nat.add_zero, lengths] at named
    exact named
  · omega
  · exact before
  · exact ⟨_, rfl⟩

/-- What reads bring from one of them on until there is no more. -/
inductive Brings (reads : Reads) : Nat → List UInt8 → Prop
  | finish {index : Nat} (empty : reads.read index = some []) : Brings reads index []
  | more {index : Nat} {bytes rest : List UInt8} (here : reads.read index = some bytes)
      (some : bytes ≠ []) (later : Brings reads (index + 1) rest) :
      Brings reads index (bytes ++ rest)

theorem readPayload_ok {index : Nat}
    (h : readPayload stop reads expected check index output = .ok (result, next)) :
    ∃ brought, Brings reads index brought ∧ result = output ++ brought := by
  fun_induction readPayload stop reads expected check index output with
  | case3 index output _ read =>
    cases h
    exact ⟨[], .finish read, by simp⟩
  | case6 index output _ bytes read some _ fits ih =>
    obtain ⟨brought, later, rfl⟩ := ih h
    exact ⟨bytes ++ brought, .more read some later, List.append_assoc _ _ _⟩
  | case1 | case2 | case4 | case5 => cases h

/-- Stored data is what its reads bring. -/
theorem Brings.eq_of_stored {index : Nat} {brought : List UInt8}
    (h : Brings (stored data) index brought) : brought = data.drop (index * chunk) := by
  induction h with
  | @finish index empty =>
    have none : (data.drop (index * chunk)).take chunk = [] := by simpa [stored] using empty
    rw [List.take_eq_nil_iff] at none
    exact (none.resolve_left (by decide)).symm
  | @more index bytes rest here some later ih =>
    have here : (data.drop (index * chunk)).take chunk = bytes := by simpa [stored] using here
    rw [ih, ← here, Nat.succ_mul, ← List.drop_drop, List.take_append_drop]

theorem unpack_ok {codecs : Codecs}
    (h : unpack codecs stop check chosen data = .ok (result, next)) :
    chosen.method = 0 ∧ chosen.compressed = chosen.uncompressed ∧ result = data ∨
      chosen.method = 8 ∧ codecs.totalIn data = chosen.compressed ∧
        Brings (codecs.inflate data) 0 result := by
  unfold unpack at h
  split at h
  next plain =>
    obtain ⟨⟨⟩, sized, h⟩ := bind_ok h
    obtain ⟨brought, reads, rfl⟩ := readPayload_ok h
    have same := reads.eq_of_stored
    rw [Nat.zero_mul, List.drop_zero] at same
    exact .inl ⟨plain, not_not.mp (failIf_ok.mp sized), same⟩
  next =>
    split at h
    next deflated =>
      obtain ⟨⟨output, after⟩, read, h⟩ := bind_ok h
      obtain ⟨⟨⟩, consumed, h⟩ := bind_ok h
      cases h
      obtain ⟨brought, reads, rfl⟩ := readPayload_ok read
      exact .inr ⟨deflated, not_not.mp (failIf_ok.mp consumed), reads⟩
    · cases h

end entry

/-! The directory. -/

section directory
variable {content tail : List UInt8} {limits : ArchiveLimits}

theorem isEnd_ok {offset : Nat} (h : isEnd tail offset = .ok true) :
    slice tail offset 4 = endSignature ∧
      offset + 22 + (UInt16.ofNat (number tail (offset + 20) 2)).toNat = tail.length := by
  obtain ⟨signatureEnd, total, h⟩ := bind_ok h
  obtain ⟨-, rfl⟩ := guarded_ok.mp total
  obtain ⟨signature, read, h⟩ := bind_ok h
  obtain ⟨-, rfl⟩ := guarded_ok.mp read
  split at h
  · cases h
  next same =>
    obtain ⟨length, total, h⟩ := bind_ok h
    obtain ⟨-, rfl⟩ := guarded_ok.mp total
    split at h
    · cases h
    next comment read =>
      obtain ⟨-, rfl⟩ := u16At_ok read
      obtain ⟨stop, total, h⟩ := bind_ok h
      obtain ⟨-, rfl⟩ := guarded_ok.mp total
      simp only [List.sum_cons, List.sum_nil, Nat.add_zero, Nat.add_sub_cancel_left, ne_eq,
        not_not, Except.ok.injEq, beq_iff_eq] at same h
      exact ⟨same, by omega⟩

theorem findEnd_ok {offset found : Nat} (h : findEnd tail offset = .ok found) :
    found ≤ offset ∧ isEnd tail found = .ok true := by
  induction offset with
  | zero =>
    obtain ⟨here, ended, h⟩ := bind_ok h
    cases here <;> cases h
    exact ⟨Nat.le_refl 0, ended⟩
  | succ offset ih =>
    obtain ⟨here, ended, h⟩ := bind_ok h
    cases here with
    | true =>
      cases h
      exact ⟨Nat.le_refl _, ended⟩
    | false =>
      obtain ⟨before, ended⟩ := ih h
      exact ⟨Nat.le_succ_of_le before, ended⟩

/-- What the directory ends at: the end record, or the ZIP64 record. -/
theorem locate_ok {endOffset directoryEnd : Nat} {short result : Directory}
    (h : locate content endOffset short = .ok (result, directoryEnd)) :
    directoryEnd = endOffset ∨ slice content directoryEnd 4 = zip64Signature := by
  obtain ⟨locator, -, h⟩ := bind_ok h
  split at h
  next locator =>
    right
    obtain ⟨_, -, h⟩ := bind_ok h
    obtain ⟨_, -, h⟩ := bind_ok h
    obtain ⟨_, -, h⟩ := bind_ok h
    obtain ⟨offset, -, h⟩ := bind_ok h
    obtain ⟨record, read, h⟩ := bind_ok h
    obtain ⟨-, rfl⟩ := readAt_ok read
    obtain ⟨_, -, h⟩ := bind_ok h
    obtain ⟨_, -, h⟩ := bind_ok h
    obtain ⟨_, -, h⟩ := bind_ok h
    obtain ⟨_, -, h⟩ := bind_ok h
    obtain ⟨_, -, h⟩ := bind_ok h
    obtain ⟨_, -, h⟩ := bind_ok h
    obtain ⟨⟨⟩, checked, h⟩ := bind_ok h
    have same := (not_or.mp (failIf_ok.mp checked)).1
    obtain ⟨_, -, h⟩ := bind_ok h
    obtain ⟨_, -, h⟩ := bind_ok h
    obtain ⟨_, -, h⟩ := bind_ok h
    cases h
    rw [ne_eq, not_not, take_slice _ _ (by decide)] at same
    exact same
  next =>
    obtain ⟨_, -, h⟩ := bind_ok h
    cases h
    exact .inl rfl

/-- Where the directory ends, with the record that says so, and what it keeps to. -/
structure Located (content : List UInt8) (limits : ArchiveLimits) (found : Directory) :
    Prop where
  endRecord : ∃ endOffset, slice content endOffset 4 = endSignature ∧
    endOffset + 22 + (UInt16.ofNat (number content (endOffset + 20) 2)).toNat = content.length ∧
    (found.offset + found.size = endOffset ∨
      slice content (found.offset + found.size) 4 = zip64Signature)
  count : found.count ≤ limits.entries.toNat
  size : found.size ≤ found.count * (46 + limits.filenameBytes.toNat + 2 * 65_535)

theorem directory_ok {found : Directory}
    (h : directory content content.length limits = .ok found) : Located content limits found := by
  obtain ⟨⟨⟩, -, h⟩ := bind_ok h
  obtain ⟨tailOffset, before, h⟩ := bind_ok h
  obtain ⟨-, rfl⟩ := guarded_ok.mp before
  obtain ⟨tail, read, h⟩ := bind_ok h
  obtain ⟨inside, rfl⟩ := readBytes_ok read
  have length := length_slice inside
  obtain ⟨last, behind, h⟩ := bind_ok h
  obtain ⟨enough, rfl⟩ := guarded_ok.mp behind
  obtain ⟨offset, search, h⟩ := bind_ok h
  obtain ⟨within, ended⟩ := findEnd_ok search
  obtain ⟨signature, comment⟩ := isEnd_ok ended
  obtain ⟨eocd, -, h⟩ := bind_ok h
  obtain ⟨disk, -, h⟩ := bind_ok h
  obtain ⟨directoryDisk, -, h⟩ := bind_ok h
  obtain ⟨here, -, h⟩ := bind_ok h
  obtain ⟨count, -, h⟩ := bind_ok h
  obtain ⟨⟨⟩, -, h⟩ := bind_ok h
  obtain ⟨endOffset, total, h⟩ := bind_ok h
  obtain ⟨-, rfl⟩ := guarded_ok.mp total
  obtain ⟨shortOffset, -, h⟩ := bind_ok h
  obtain ⟨shortSize, -, h⟩ := bind_ok h
  obtain ⟨⟨result, directoryEnd⟩, located, h⟩ := bind_ok h
  obtain ⟨⟨⟩, counted, h⟩ := bind_ok h
  obtain ⟨⟨⟩, ends, h⟩ := bind_ok h
  obtain ⟨perEntry, bounded, h⟩ := bind_ok h
  obtain ⟨most, product, h⟩ := bind_ok h
  obtain ⟨⟨⟩, sized, h⟩ := bind_ok h
  cases h
  obtain ⟨-, rfl⟩ := guarded_ok.mp bounded
  obtain ⟨-, rfl⟩ := guarded_ok.mp product
  have counted := failIf_ok.mp counted
  have sized := failIf_ok.mp sized
  obtain ⟨-, ends⟩ := checkedSum_some.mp (not_not.mp (failIf_ok.mp ends))
  simp only [List.sum_cons, List.sum_nil, Nat.add_zero] at ends sized
  -- The tail is the end of the file, so what stands in it stands in the file.
  rw [slice_slice _ (by omega)] at signature
  rw [number, slice_slice _ (by omega), ← number, length] at comment
  rw [← Nat.add_assoc] at sized
  refine ⟨⟨_, signature, ?_, ?_⟩, by omega, by omega⟩
  · rw [Nat.add_assoc _ offset 20]
    omega
  · rw [ends]
    simpa using locate_ok located

end directory

end MannyUploader.Evtc.ZevtcArchive
