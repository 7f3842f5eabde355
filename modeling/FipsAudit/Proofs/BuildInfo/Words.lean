import FipsAudit.BuildInfo.Pointer
import FipsAudit.Elf.Object
import Mathlib.Algebra.Group.Nat.Defs
import Mathlib.Data.Option.Basic

/-!
# `FipsAudit.Proofs.BuildInfo.Words` — memory is read in words

The addresses and sizes of a file are words of sixty-four bits, and reading memory compares, subtracts and adds them.
The definitions calculate with numbers, which have no limit at the top and stop at zero. Here is the same reading in
words. A difference below zero is a fault there, and a sum past the last word is nothing. The reading in words comes
to no fault and agrees with the reading in numbers, near the limits too: every difference is taken where the
comparison before it allows it, and a sum past the last word would lie outside the file.

* `Word.sub`, `Word.add?` — differences that may be a fault, sums that may be none.
* `readMemoryInWords_eq` — both readings agree.
* `fitsWords_of_parse?` — the segments of a file are in words.
-/

namespace FipsAudit.BuildInfo

open Elf

/-- A difference came out below zero. -/
inductive WordFault where
  /-- The second word was greater than the first. -/
  | negative
deriving DecidableEq, Repr

namespace Word

def sub (a b : UInt64) : Except WordFault UInt64 := if b ≤ a then .ok (a - b) else .error .negative

/-- The sum of two words, if it is a word: a sum past the last word comes out less than its parts. -/
def add? (a b : UInt64) : Option UInt64 := if a ≤ a + b then some (a + b) else none

theorem sub_eq {a b : UInt64} (h : b.toNat ≤ a.toNat) : sub a b = .ok (a - b) ∧ (a - b).toNat = a.toNat - b.toNat := by
  have hle : b ≤ a := UInt64.le_iff_toNat_le.mpr h
  exact ⟨if_pos hle, UInt64.toNat_sub_of_le a b hle⟩

theorem add?_eq_of_lt {a b : UInt64} (h : a.toNat + b.toNat < 2 ^ 64) :
    ∃ c, add? a b = some c ∧ c.toNat = a.toNat + b.toNat := by
  have hsum : (a + b).toNat = a.toNat + b.toNat := by rw [UInt64.toNat_add, Nat.mod_eq_of_lt h]
  exact ⟨a + b, if_pos (UInt64.le_iff_toNat_le.mpr (by omega)), hsum⟩

theorem add?_eq_none {a b : UInt64} (h : 2 ^ 64 ≤ a.toNat + b.toNat) : add? a b = none := by
  have hwrapped : (a + b).toNat < a.toNat := by
    have hb := b.toNat_lt
    rw [UInt64.toNat_add]
    omega
  exact if_neg fun hle => absurd (UInt64.le_iff_toNat_le.mp hle) (by omega)

end Word

/-- What reading memory needs to know of a segment, in words. -/
structure WordSegment where
  loaded : Bool
  offset : UInt64
  address : UInt64
  fileSize : UInt64

def WordSegment.ofSegment (s : Segment) : WordSegment :=
  { loaded := s.type == Segment.load
    offset := .ofNat s.offset
    address := .ofNat s.address
    fileSize := .ofNat s.fileSize }

/-- The first loaded segment whose file part holds `address`. -/
def segmentAtInWords (address : UInt64) : List WordSegment → Except WordFault (Option WordSegment)
  | [] => .ok none
  | s :: segments =>
    if s.loaded ∧ s.address ≤ address then do
      if (← Word.sub address s.address) < s.fileSize then return some s else segmentAtInWords address segments
    else segmentAtInWords address segments

/-- `length` bytes of a file, `delta` bytes after `offset`. -/
def sliceInWords? (data : ByteArray) (offset delta length : UInt64) : Option (List UInt8) := do
  let start ← Word.add? offset delta
  let _ ← Word.add? start length
  Bytes.slice? data start.toNat length.toNat

/-- The file's bytes for `length` bytes of memory from `address`. -/
def readMemoryInWords (segments : List WordSegment) (data : ByteArray) (address length : UInt64) :
    Except WordFault (Option (List UInt8)) := do
  match ← segmentAtInWords address segments with
  | none => return none
  | some s =>
    let delta ← Word.sub address s.address
    if length > (← Word.sub s.fileSize delta) then return none
    else return sliceInWords? data s.offset delta length

/-- The fields of a segment are words. -/
structure FitsWords (s : Segment) : Prop where
  offset : s.offset < 2 ^ 64
  address : s.address < 2 ^ 64
  fileSize : s.fileSize < 2 ^ 64

section Agreement

variable {segments : List Segment} {data : ByteArray} {address length : UInt64}

/-- **The search in words finds the same segment**, without a fault. -/
theorem segmentAtInWords_eq (h : ∀ s ∈ segments, FitsWords s) :
    segmentAtInWords address (segments.map .ofSegment) =
      .ok ((segmentAt? segments address.toNat).map .ofSegment) := by
  induction segments with
  | nil => rfl
  | cons s segments ih =>
      have hs := h s List.mem_cons_self
      have hrest := ih fun q hq => h q (List.mem_cons_of_mem s hq)
      have haddress : (UInt64.ofNat s.address).toNat = s.address := UInt64.toNat_ofNat_of_lt' hs.address
      have hsize : (UInt64.ofNat s.fileSize).toNat = s.fileSize := UInt64.toNat_ofNat_of_lt' hs.fileSize
      have hbelow : UInt64.ofNat s.address ≤ address ↔ s.address ≤ address.toNat := by
        rw [UInt64.le_iff_toNat_le, haddress]
      rw [List.map_cons, segmentAtInWords, segmentAt?, List.find?_cons, ← segmentAt?]
      -- The difference is taken only where the comparison before it holds.
      by_cases hloaded : (s.type == Segment.load) = true ∧ s.address ≤ address.toNat
      · obtain ⟨hsub, hdelta⟩ := Word.sub_eq (a := address) (b := .ofNat s.address) (by rw [haddress]; exact hloaded.2)
        rw [haddress] at hdelta
        have hwithin : address - UInt64.ofNat s.address < UInt64.ofNat s.fileSize ↔
            address.toNat - s.address < s.fileSize := by
          rw [UInt64.lt_iff_toNat_lt, hdelta, hsize]
        rw [if_pos ⟨hloaded.1, hbelow.mpr hloaded.2⟩]
        simp only [WordSegment.ofSegment, hsub, bind, Except.bind, hwithin, hloaded.1, hloaded.2, Bool.true_and,
          decide_true]
        by_cases hinside : address.toNat - s.address < s.fileSize
        · simp only [hinside, if_true, decide_true, Option.map_some, WordSegment.ofSegment, hloaded.1]
          rfl
        · simp only [hinside, if_false, decide_false]
          exact hrest
      · have hcond : ¬((WordSegment.ofSegment s).loaded = true ∧ (WordSegment.ofSegment s).address ≤ address) :=
          fun hc => hloaded ⟨hc.1, hbelow.mp hc.2⟩
        have hnot : (s.type == Segment.load && decide (s.address ≤ address.toNat)) = false := by
          rw [Bool.eq_false_iff]
          intro hc
          rw [Bool.and_eq_true, decide_eq_true_eq] at hc
          exact hloaded hc
        rw [if_neg hcond, hrest, hnot, Bool.false_and]

/-- A sum past the last word would lie outside the file, so nothing is missed without it. -/
theorem sliceInWords?_eq {offset delta : UInt64} (hdata : data.size < 2 ^ 64) :
    sliceInWords? data offset delta length = Bytes.slice? data (offset.toNat + delta.toNat) length.toNat := by
  have hnone {start : Nat} (hbeyond : 2 ^ 64 ≤ start + length.toNat) : Bytes.slice? data start length.toNat = none := by
    refine Option.eq_none_iff_forall_ne_some.mpr fun l hl => ?_
    have hinside := (Bytes.slice?_eq_some_iff.mp hl).1
    omega
  by_cases hstart : offset.toNat + delta.toNat < 2 ^ 64
  · obtain ⟨start, hadd, hsum⟩ := Word.add?_eq_of_lt hstart
    rw [sliceInWords?, hadd, ← hsum]
    by_cases hstop : start.toNat + length.toNat < 2 ^ 64
    · obtain ⟨stop, hadd', -⟩ := Word.add?_eq_of_lt hstop
      simp only [Option.bind_eq_bind, Option.bind_some, hadd']
    · simp only [Option.bind_eq_bind, Option.bind_some, Word.add?_eq_none (Nat.le_of_not_lt hstop), Option.bind_none,
        hnone (Nat.le_of_not_lt hstop)]
  · rw [sliceInWords?, Word.add?_eq_none (Nat.le_of_not_lt hstart), hnone (by omega)]
    rfl

/-- **Reading memory in words is reading it in numbers**: no difference is taken below zero, and no sum past the last
    word is needed. -/
theorem readMemoryInWords_eq (h : ∀ s ∈ segments, FitsWords s) (hdata : data.size < 2 ^ 64) :
    readMemoryInWords (segments.map .ofSegment) data address length =
      .ok (readMemory? segments data address.toNat length.toNat) := by
  rw [readMemoryInWords, segmentAtInWords_eq h, readMemory?]
  cases hsegment : segmentAt? segments address.toNat with
  | none => rfl
  | some s =>
      have hs := h s (List.mem_of_find?_eq_some hsegment)
      have hfound := List.find?_some hsegment
      simp only [Bool.and_eq_true, decide_eq_true_eq] at hfound
      have haddress : (UInt64.ofNat s.address).toNat = s.address := UInt64.toNat_ofNat_of_lt' hs.address
      have hsize : (UInt64.ofNat s.fileSize).toNat = s.fileSize := UInt64.toNat_ofNat_of_lt' hs.fileSize
      have hoffset : (UInt64.ofNat s.offset).toNat = s.offset := UInt64.toNat_ofNat_of_lt' hs.offset
      -- The search compared both pairs of words in the direction in which they are subtracted here.
      obtain ⟨hsub, hdelta⟩ := Word.sub_eq (a := address) (b := .ofNat s.address) (by rw [haddress]; exact hfound.1.2)
      rw [haddress] at hdelta
      obtain ⟨hsub', hroom⟩ := Word.sub_eq (a := .ofNat s.fileSize) (b := address - .ofNat s.address) (by
        rw [hsize, hdelta]
        exact Nat.le_of_lt hfound.2)
      rw [hsize, hdelta] at hroom
      have hlong : length > UInt64.ofNat s.fileSize - (address - UInt64.ofNat s.address) ↔
          length.toNat > s.fileSize - (address.toNat - s.address) := by
        rw [gt_iff_lt, UInt64.lt_iff_toNat_lt, hroom]
      have hslice : sliceInWords? data (.ofNat s.offset) (address - .ofNat s.address) length =
          Bytes.slice? data (s.offset + (address.toNat - s.address)) length.toNat := by
        rw [sliceInWords?_eq hdata, hoffset, hdelta]
      simp only [bind, Except.bind, Option.map_some, WordSegment.ofSegment, hsub, hsub', hlong, hslice]
      split <;> rfl

end Agreement

/-! ## Segments of a file -/

theorem exists_of_mem_mapM {α β : Type} {f : α → Option β} {l : List α} {l' : List β} (h : l.mapM f = some l') {b : β}
    (hb : b ∈ l') : ∃ a ∈ l, f a = some b := by
  induction l generalizing l' with
  | nil =>
      rw [List.mapM_nil] at h
      exact absurd (Option.some.inj h ▸ hb) List.not_mem_nil
  | cons a l ih =>
      simp only [List.mapM_cons, Option.bind_eq_bind, Option.bind_eq_some_iff] at h
      obtain ⟨x, hx, xs, hxs, hl⟩ := h
      obtain rfl := Option.some.inj hl
      rcases List.mem_cons.mp hb with rfl | hb
      · exact ⟨a, List.mem_cons_self, hx⟩
      · obtain ⟨a', ha', hfa⟩ := ih hxs hb
        exact ⟨a', List.mem_cons_of_mem a ha', hfa⟩

/-- The numbers of a record are as small as their widths. -/
theorem lt_of_mem_fields {o : ByteOrder} {widths : List Nat} {bytes : List UInt8} {v : Nat}
    (hwidths : ∀ w ∈ widths, w ≤ 8) (hv : v ∈ o.fields widths bytes) : v < 2 ^ 64 := by
  induction widths generalizing bytes with
  | nil => exact absurd hv List.not_mem_nil
  | cons w ws ih =>
      rcases List.mem_cons.mp hv with rfl | hv
      · refine Nat.lt_of_lt_of_le (o.decode_lt _) ?_
        have hw := hwidths w List.mem_cons_self
        rw [Nat.one_shiftLeft]
        refine Nat.pow_le_pow_right (by decide) ?_
        rw [List.length_take]
        omega
      · exact ih (fun w' hw' => hwidths w' (List.mem_cons_of_mem w hw')) hv

/-- The fields of a segment are among the numbers of its record. -/
theorem fitsWords_of_ofFields? {w : WordSize} {fields : List Nat} {s : Segment}
    (h : Segment.ofFields? w fields = some s) (hfields : ∀ v ∈ fields, v < 2 ^ 64) : FitsWords s := by
  unfold Segment.ofFields? at h
  split at h
  · obtain rfl := Option.some.inj h
    exact ⟨hfields _ (by simp), hfields _ (by simp), hfields _ (by simp)⟩
  · obtain rfl := Option.some.inj h
    exact ⟨hfields _ (by simp), hfields _ (by simp), hfields _ (by simp)⟩
  · exact absurd h (by simp)

/-- What is read as a table of segments is in words. -/
theorem fitsWords_of_readSegments? {data : ByteArray} {l : Layout} {header : FileHeader} {segments : List Segment}
    (h : readSegments? data l header = some segments) : ∀ s ∈ segments, FitsWords s := by
  intro s hs
  unfold readSegments? at h
  split at h
  · exact absurd h (by simp)
  · simp only [readAll?, Option.bind_eq_bind, Option.bind_eq_some_iff] at h
    obtain ⟨rows, hrows, hsegments⟩ := h
    obtain ⟨row, hrow, hmeaning⟩ := exists_of_mem_mapM hsegments hs
    unfold Bytes.records? at hrows
    split at hrows
    · obtain ⟨i, -, hrecord⟩ := exists_of_mem_mapM hrows hrow
      rw [Bytes.record?, Option.map_eq_some_iff] at hrecord
      obtain ⟨bytes, -, rfl⟩ := hrecord
      refine fitsWords_of_ofFields? hmeaning fun v hv => lt_of_mem_fields (fun w hw => ?_) hv
      cases hword : l.word <;>
        simp only [hword, Segment.widths, List.mem_cons, List.not_mem_nil, or_false] at hw <;> omega
    · exact absurd hrows (by simp)

/-- **The segments of a file are in words.** -/
theorem fitsWords_of_parse? {data : ByteArray} {o : Object} (h : Object.parse? data = some o) :
    ∀ s ∈ o.segments, FitsWords s := by
  simp only [Object.parse?, Option.bind_eq_bind, Option.bind_eq_some_iff] at h
  obtain ⟨⟨l, header⟩, -, segments, hsegments, sections, -, names, -, symbols, -, dynamic, -, -, -, -, -, -, -, ho⟩ := h
  obtain rfl := Option.some.inj ho
  exact fitsWords_of_readSegments? hsegments

end FipsAudit.BuildInfo
