import FipsAudit.Proofs.Json.Reader
import FipsAudit.Report

/-!
# `FipsAudit.Proofs.ReportDocument` — what the document of a report says

A report is written for other programs to read. Here it is read back, by the same readers that policies are read by:
each member of the document is found under its name, with the value that the report has. What is absent from a report
is absent from its document.

* `BinaryReading`, `LibraryReading`, `ReportReading` — what a document says, member by member.
* `BinaryEntry.reads_value`, `LibraryEntry.reads_value`, `Report.reads_value` — each is read back.
* `Report.readDocument_document` — so is the document, and what is printed of it.
-/

namespace FipsAudit

open Json

/-! ## Truth values -/

namespace Json

/-- Reads a truth value. -/
def readTruth (s : List Char) : Except Fault (Bool × List Char) :=
  match blankless s with
  | [] => .error (.at .endInValue [])
  | c :: r =>
    if c = 't' then (readWord "rue".toList r).map (true, ·)
    else if c = 'f' then (readWord "alse".toList r).map (false, ·)
    else .error (unexpected "a boolean" c (c :: r))

theorem length_of_readTruth {s r : List Char} {b : Bool} (h : readTruth s = .ok (b, r)) : r.length < s.length := by
  unfold readTruth at h
  split at h
  · cases h
  · rename_i hb
    have hlt := length_lt_of_blankless hb
    have hword {word : List Char} {b' : Bool} {t : List Char} (hmap : (readWord word t).map (b', ·) = .ok (b, r)) :
        r.length ≤ t.length := by
      obtain ⟨q, hread, hq⟩ := exists_ok_of_map hmap
      obtain ⟨-, rfl⟩ := Prod.mk.inj hq
      exact length_of_readWord hread
    split at h
    · exact Nat.lt_of_le_of_lt (hword h) hlt
    · split at h
      · exact Nat.lt_of_le_of_lt (hword h) hlt
      · cases h

/-- A truth value. -/
def Reader.truth : Reader Bool := ⟨readTruth, length_of_readTruth⟩

/-- **A truth value is read back.** -/
theorem reads_truth (b : Bool) : Reads Reader.truth (Value.bool b).tokens b where
  opening := by cases b <;> exact .scalar _ []
  run hs := by
    cases b with
    | true =>
        obtain ⟨r, hblankless, hr⟩ := Spaced.scalar hs
        refine ⟨r, ?_, hr⟩
        show readTruth _ = _
        rw [readTruth, hblankless]
        show (readWord "rue".toList ("rue".toList ++ r)).map _ = _
        rw [readWord_append]
        rfl
    | false =>
        obtain ⟨r, hblankless, hr⟩ := Spaced.scalar hs
        refine ⟨r, ?_, hr⟩
        show readTruth _ = _
        rw [readTruth, hblankless]
        show (readWord "alse".toList ("alse".toList ++ r)).map _ = _
        rw [readWord_append]
        rfl

variable {σ : Type} {rec : Record σ} {initial : σ} {entries : List (Entry σ)}

/-- An object whose keys are all different is read, if no member has to be there. -/
theorem Record.reads_members (hopen : rec.complete = false) (hfits : ∀ m ∈ entries, m.Fits rec)
    (hnodup : (entries.map (·.key)).Nodup) :
    Reads (.record rec initial) (enclosed .object (entries.map Entry.tokens))
      (Progress.through ⟨initial, [], true⟩ entries).value := by
  have hdistinct : Distinct entries := (List.pairwise_map.mp hnodup).imp fun hne _ heq => hne heq.symm
  refine Record.reads_object hfits hdistinct fun hcomplete => ?_
  rw [hopen] at hcomplete
  cases hcomplete

end Json

/-! ## Binaries -/

/-- What a document says of a binary: its members, as far as they are there. -/
structure BinaryReading where
  path : Option String := none
  status : Option String := none
  detail : Option String := none
  reasons : Option (List String) := none
deriving DecidableEq, Repr

/-- How the entry of a binary is written. -/
def BinaryReading.shape : Record BinaryReading where
  title := "a binary"
  members := [.of "path" .string fun v r => { r with path := some v },
    .of "status" .string fun v r => { r with status := some v },
    .of "detail" .string fun v r => { r with detail := some v },
    .of "reasons" (.list .string) fun v r => { r with reasons := some v }]
  complete := false

/-- Reads the entry of a binary. -/
def BinaryReading.reader : Reader BinaryReading := .record shape {}

namespace BinaryEntry

/-- What its document says of an entry: path and status, the detail if there is one, and the reasons if there are
    any. -/
def reading (e : BinaryEntry) : BinaryReading where
  path := some e.path
  status := some e.status.text
  detail := e.detail
  reasons := if e.reasons.isEmpty then none else some e.reasons

/-- The members that are written for an entry. -/
def members (e : BinaryEntry) : List (Entry BinaryReading) :=
  [⟨"path", [.text e.path], some fun r => { r with path := some e.path }⟩,
    ⟨"status", [.text e.status.text], some fun r => { r with status := some e.status.text }⟩] ++
    (e.detail.toList.map fun detail => ⟨"detail", [.text detail], some fun r => { r with detail := some detail }⟩) ++
    if e.reasons.isEmpty then []
    else [⟨"reasons", (Value.texts e.reasons).tokens, some fun r => { r with reasons := some e.reasons }⟩]

theorem tokens_value (e : BinaryEntry) : e.value.tokens = enclosed .object (e.members.map Entry.tokens) := by
  obtain ⟨path, status, detail, reasons⟩ := e
  cases detail <;> cases reasons <;> rfl

theorem fits_members (e : BinaryEntry) : ∀ m ∈ e.members, m.Fits BinaryReading.shape := by
  intro m hm
  simp only [members, List.mem_append, List.mem_cons, List.not_mem_nil, or_false, List.mem_map] at hm
  rcases hm with ((rfl | rfl) | ⟨detail, -, rfl⟩) | hm
  · exact .known rfl ((reads_parsed rfl).member _ _)
  · exact .known rfl ((reads_parsed rfl).member _ _)
  · exact .known rfl ((reads_parsed rfl).member _ _)
  · split at hm
    · exact absurd hm List.not_mem_nil
    · rw [List.mem_singleton.mp hm]
      exact .known rfl ((reads_texts e.reasons).member _ _)

/-- **The entry of a binary is read back.** -/
theorem reads_value (e : BinaryEntry) : Reads BinaryReading.reader e.value.tokens e.reading := by
  have hnodup : (e.members.map (·.key)).Nodup := by
    obtain ⟨path, status, detail, reasons⟩ := e
    cases detail <;> cases reasons <;> simp [members]
  have hvalue : (Record.Progress.through ⟨{}, [], true⟩ e.members).value = e.reading := by
    obtain ⟨path, status, detail, reasons⟩ := e
    cases detail <;> cases reasons <;> rfl
  rw [tokens_value, ← hvalue]
  exact Record.reads_members rfl e.fits_members hnodup

end BinaryEntry

/-! ## Crypto libraries -/

/-- What a document says of the crypto libraries. -/
structure LibraryReading where
  libraries : Option (List String) := none
  passed : Option Bool := none
  reasons : Option (List String) := none
deriving DecidableEq, Repr

/-- How the entry of the crypto libraries is written. -/
def LibraryReading.shape : Record LibraryReading where
  title := "crypto libraries"
  members := [.of "libraries" (.list .string) fun v r => { r with libraries := some v },
    .of "passed" .truth fun v r => { r with passed := some v },
    .of "reasons" (.list .string) fun v r => { r with reasons := some v }]
  complete := false

/-- Reads the entry of the crypto libraries. -/
def LibraryReading.reader : Reader LibraryReading := .record shape {}

namespace LibraryEntry

/-- What its document says of an entry. -/
def reading (e : LibraryEntry) : LibraryReading where
  libraries := some e.libraries
  passed := some e.passed
  reasons := some e.reasons

/-- The members that are written for an entry. -/
def members (e : LibraryEntry) : List (Entry LibraryReading) :=
  [⟨"libraries", (Value.texts e.libraries).tokens, some fun r => { r with libraries := some e.libraries }⟩,
    ⟨"passed", (Value.bool e.passed).tokens, some fun r => { r with passed := some e.passed }⟩,
    ⟨"reasons", (Value.texts e.reasons).tokens, some fun r => { r with reasons := some e.reasons }⟩]

/-- **The entry of the crypto libraries is read back.** -/
theorem reads_value (e : LibraryEntry) : Reads LibraryReading.reader e.value.tokens e.reading := by
  have hfits : ∀ m ∈ e.members, m.Fits LibraryReading.shape := by
    refine List.forall_mem_cons.mpr ⟨?_, List.forall_mem_cons.mpr ⟨?_, List.forall_mem_singleton.mpr ?_⟩⟩
    · exact .known rfl ((reads_texts e.libraries).member _ _)
    · exact .known rfl ((reads_truth e.passed).member _ _)
    · exact .known rfl ((reads_texts e.reasons).member _ _)
  have hnodup : (e.members.map (·.key)).Nodup := by simp [members]
  exact Record.reads_members rfl hfits hnodup

end LibraryEntry

/-! ## Reports -/

/-- What a document says as a whole. -/
structure ReportReading where
  target : Option String := none
  mode : Option String := none
  checkedAt : Option String := none
  sha256 : Option String := none
  libcrypto : Option LibraryReading := none
  binaries : Option (List BinaryReading) := none
  success : Option Bool := none
deriving DecidableEq, Repr

/-- How a report is written. -/
def ReportReading.shape : Record ReportReading where
  title := "a report"
  members := [.of "target" .string fun v r => { r with target := some v },
    .of "mode" .string fun v r => { r with mode := some v },
    .of "checked_at" .string fun v r => { r with checkedAt := some v },
    .of "sha256" .string fun v r => { r with sha256 := some v },
    .of "libcrypto" LibraryReading.reader fun v r => { r with libcrypto := some v },
    .of "binaries" (.list BinaryReading.reader) fun v r => { r with binaries := some v },
    .of "success" .truth fun v r => { r with success := some v }]
  complete := false

/-- Reads a report. -/
def ReportReading.reader : Reader ReportReading := .record shape {}

namespace Report

/-- What its document says of a report. -/
def reading (r : Report) : ReportReading where
  target := some r.target
  mode := some r.mode.text
  checkedAt := some r.checkedAt
  sha256 := r.sha256
  libcrypto := r.libcrypto.map LibraryEntry.reading
  binaries := some (r.binaries.map BinaryEntry.reading)
  success := some r.success

/-- The members that are written for a report. -/
def members (r : Report) : List (Entry ReportReading) :=
  [⟨"target", [.text r.target], some fun x => { x with target := some r.target }⟩,
    ⟨"mode", [.text r.mode.text], some fun x => { x with mode := some r.mode.text }⟩,
    ⟨"checked_at", [.text r.checkedAt], some fun x => { x with checkedAt := some r.checkedAt }⟩] ++
    (r.sha256.toList.map fun digest => ⟨"sha256", [.text digest], some fun x => { x with sha256 := some digest }⟩) ++
    (r.libcrypto.toList.map fun e =>
      ⟨"libcrypto", e.value.tokens, some fun x => { x with libcrypto := some e.reading }⟩) ++
    [⟨"binaries", (Value.list (r.binaries.map BinaryEntry.value)).tokens,
        some fun x => { x with binaries := some (r.binaries.map BinaryEntry.reading) }⟩,
      ⟨"success", (Value.bool r.success).tokens, some fun x => { x with success := some r.success }⟩]

theorem tokens_value (r : Report) : r.value.tokens = enclosed .object (r.members.map Entry.tokens) := by
  obtain ⟨target, mode, checkedAt, sha256, libcrypto, binaries, success⟩ := r
  cases sha256 <;> cases libcrypto <;> rfl

theorem fits_members (r : Report) : ∀ m ∈ r.members, m.Fits ReportReading.shape := by
  intro m hm
  simp only [members, List.mem_append, List.mem_cons, List.not_mem_nil, or_false, List.mem_map] at hm
  rcases hm with (((rfl | rfl | rfl) | ⟨digest, -, rfl⟩) | ⟨e, -, rfl⟩) | rfl | rfl
  · exact .known rfl ((reads_parsed rfl).member _ _)
  · exact .known rfl ((reads_parsed rfl).member _ _)
  · exact .known rfl ((reads_parsed rfl).member _ _)
  · exact .known rfl ((reads_parsed rfl).member _ _)
  · exact .known rfl (e.reads_value.member _ _)
  · exact .known rfl ((reads_values fun e _ => e.reads_value).member _ _)
  · exact .known rfl ((reads_truth r.success).member _ _)

/-- **A report is read back.** -/
theorem reads_value (r : Report) : Reads ReportReading.reader r.value.tokens r.reading := by
  have hnodup : (r.members.map (·.key)).Nodup := by
    obtain ⟨target, mode, checkedAt, sha256, libcrypto, binaries, success⟩ := r
    cases sha256 <;> cases libcrypto <;> simp [members]
  have hvalue : (Record.Progress.through ⟨{}, [], true⟩ r.members).value = r.reading := by
    obtain ⟨target, mode, checkedAt, sha256, libcrypto, binaries, success⟩ := r
    cases sha256 <;> cases libcrypto <;> rfl
  rw [tokens_value, ← hvalue]
  exact Record.reads_members rfl r.fits_members hnodup

/-- **The document of a report says what the report has**, also with blanks behind it. -/
theorem readDocument_document (r : Report) {blanks : String} (h : ∀ c ∈ blanks.toList, isBlank c = true) :
    readDocument ReportReading.reader (r.document ++ blanks).toList = .ok r.reading := by
  refine readDocument_spaced r.reads_value ?_
  have hchars := r.value.holds_chars 0 [] blanks.toList (.nil h)
  rwa [List.append_nil, ← String.toList_ofList (l := r.value.chars 0), ← String.toList_append] at hchars

end Report

end FipsAudit
