import FipsAudit.BuildInfo
import FipsAudit.Proofs.BuildInfo.Checked.Basic
import FipsAudit.Proofs.BuildInfo.Header

/-!
# `FipsAudit.Proofs.BuildInfo.Checked.Region` — finding the header, step by step

The region is a window of the file, from an offset that may be anywhere in the range of words. The search in it looks
for the magic text, measures what is left behind it, and goes on from the next multiple of the alignment. All sums and
differences are in range because the magic text lies inside the region, and a header is looked for only where one has
room.

* `window?_eq` — the window, with a sum that is checked.
* `FirstMagic` — what a round of the search comes upon, and `searchRound_of_firstMagic`, what it makes of it.
* `searchHeader` — the search as a loop.
* `searchHeader_eq` — it ends, in range, with the first header.
-/

namespace FipsAudit.BuildInfo.Checked

/-! ## The window -/

/-- The bytes of the file from one offset to another, if they lie inside. -/
def fileBetween? (data : ByteArray) (start stop : Nat) : Option (List UInt8) :=
  if start ≤ stop ∧ stop ≤ data.size then Bytes.slice? data start (stop - start) else none

/-- The bytes of a region, as far as they lie in the file and within the limit. -/
def window? (data : ByteArray) (offset size : Nat) : Option (List UInt8) :=
  match add? 64 offset (min size regionLimit) with
  | none => none
  | some stop => fileBetween? data offset (min stop data.size)

/-- A sum past the last word lies behind the end of every file. -/
theorem window?_eq {data : ByteArray} (hdata : data.size < memoryLimit) (offset size : Nat) :
    window? data offset size = BuildInfo.window? data offset size := by
  unfold window? BuildInfo.window? add?
  by_cases hword : offset + min size regionLimit < 2 ^ 64
  · rw [if_pos hword]
    have hstop : min (offset + min size regionLimit) data.size ≤ data.size := Nat.min_le_right _ _
    simp only [fileBetween?, hstop, and_true]
  · have hbehind : ¬offset ≤ min (offset + min size regionLimit) data.size := by
      have hlimit : min size regionLimit ≤ 2 ^ 16 := Nat.min_le_right _ _
      unfold memoryLimit at hdata
      omega
    simp only [if_neg hword, if_neg hbehind]

/-- A window is no longer than the limit. -/
theorem length_window?_le {data : ByteArray} {offset size : Nat} {region : List UInt8}
    (h : BuildInfo.window? data offset size = some region) : region.length ≤ regionLimit := by
  unfold BuildInfo.window? at h
  dsimp only at h
  split at h
  next =>
    obtain ⟨-, rfl⟩ := Bytes.slice?_eq_some_iff.mp h
    have hlimit : min size regionLimit ≤ regionLimit := Nat.min_le_right _ _
    rw [List.length_take]
    omega
  next => cases h

/-! ## The magic text -/

/-- The first place of the magic text. -/
def firstMagic? (bytes : List UInt8) : Option Nat :=
  (List.range (bytes.length + 1 - headerMagic.length)).find? fun i => headerMagic.isPrefixOf (bytes.drop i)

theorem firstMagic?_eq_some {bytes : List UInt8} {i : Nat} (h : firstMagic? bytes = some i) :
    i + headerMagic.length ≤ bytes.length ∧ headerMagic <+: bytes.drop i ∧ ∀ j < i, ¬headerMagic <+: bytes.drop j := by
  obtain ⟨hmagic, hmem, hfirst⟩ := List.find?_range_eq_some.mp h
  have hlength := (List.isPrefixOf_iff_prefix.mp hmagic).length_le
  rw [List.length_drop] at hlength
  rw [List.mem_range] at hmem
  refine ⟨by omega, List.isPrefixOf_iff_prefix.mp hmagic, fun j hj hprefix => ?_⟩
  have hnot := hfirst j hj
  rw [List.isPrefixOf_iff_prefix.mpr hprefix] at hnot
  cases hnot

theorem firstMagic?_eq_none {bytes : List UInt8} (h : firstMagic? bytes = none) (j : Nat) :
    ¬headerMagic <+: bytes.drop j := by
  intro hprefix
  have hlength := hprefix.length_le
  rw [List.length_drop] at hlength
  have hpos : 0 < headerMagic.length := by decide
  have hmem : j ∈ List.range (bytes.length + 1 - headerMagic.length) := List.mem_range.mpr (by omega)
  exact List.find?_eq_none.mp h j hmem (List.isPrefixOf_iff_prefix.mpr hprefix)

/-! ## The loop -/

/-- What one round of the search comes to. -/
inductive Round where
  /-- The search is over. -/
  | done (result : Option Nat)
  /-- It goes on from an offset. -/
  | again (start : Nat)
deriving DecidableEq, Repr

/-- What is made of the magic text at an offset. -/
def judgeMagic (region : List UInt8) (found : Nat) : Guarded Round := do
  let left ← sub region.length found
  if left < headerSize then return .done none
  else if found % headerAlign = 0 then return .done (some found)
  else
    let behind ← add 64 found headerAlign
    let last ← sub behind 1
    -- All bits but the four lowest.
    return .again (last &&& (2 ^ 64 - headerAlign))

/-- One round of the search for a header, from an offset. -/
def searchRound (region : List UInt8) (start : Nat) : Guarded Round :=
  match sliceFrom? region start with
  | none => return .done none
  | some rest =>
    match firstMagic? rest with
    | none => return .done none
    | some i => do judgeMagic region (← add 64 start i)

/-- Clearing the four lowest bits of a word gives the multiple of sixteen below it. -/
theorem and_not_align {n : Nat} (h : n < 2 ^ 64) : n &&& (2 ^ 64 - headerAlign) = n / headerAlign * headerAlign := by
  have hmask : 2 ^ 64 - headerAlign = (2 ^ 60 - 1) <<< 4 := by decide
  have hdiv : n / headerAlign * headerAlign = (n >>> 4) <<< 4 := by
    rw [Nat.shiftRight_eq_div_pow, Nat.shiftLeft_eq]
    rfl
  rw [hmask, hdiv]
  refine Nat.eq_of_testBit_eq fun i => ?_
  rw [Nat.testBit_and, Nat.testBit_shiftLeft, Nat.testBit_shiftLeft, Nat.testBit_two_pow_sub_one,
    Nat.testBit_shiftRight]
  by_cases hlow : 4 ≤ i
  · by_cases hhigh : i - 4 < 60
    · simp [hlow, hhigh]
    · have hword : n < 2 ^ i := Nat.lt_of_lt_of_le h (Nat.pow_le_pow_right (by decide) (by omega))
      have hbit : n.testBit i = false := Nat.testBit_lt_two_pow hword
      simp [hlow, hhigh, hbit]
  · simp [hlow]

/-- The search for a header, from an offset on. -/
def searchHeader (region : List UInt8) (start : Nat) : Guarded (Option Nat) :=
  match searchRound region start with
  | .error trap => .error trap
  | .ok (.done result) => .ok result
  | .ok (.again next) =>
    if start < next ∧ next ≤ region.length then searchHeader region next else .error .stuck
termination_by region.length - start

/-! ## One round -/

/-- From an offset on, the magic text stands first at another. -/
structure FirstMagic (region : List UInt8) (start found : Nat) : Prop where
  /-- The place is not before the start. -/
  reached : start ≤ found
  /-- The magic text stands there. -/
  magic : headerMagic <+: region.drop found
  /-- It does not stand between the start and that place. -/
  first : ∀ q, start ≤ q → q < found → ¬headerMagic <+: region.drop q

/-- The first multiple of the alignment behind an offset. -/
def stepBehind (found : Nat) : Nat := (found / headerAlign + 1) * headerAlign

namespace FirstMagic

variable {region : List UInt8} {start found : Nat}

/-- The magic text is not empty, so it lies inside the region. -/
theorem inside (h : FirstMagic region start found) : found ≤ region.length := by
  refine Nat.le_of_not_lt fun hbehind => ?_
  have hmagic := h.magic
  rw [List.drop_eq_nil_of_le (Nat.le_of_lt hbehind)] at hmagic
  exact absurd (List.prefix_nil.mp hmagic) (by decide)

/-- **A place with too few bytes behind it hides no header**: all others behind it have fewer. -/
theorem absent_of_short (h : FirstMagic region start found) (hshort : region.length < found + headerSize) :
    ∀ q, start ≤ q → ¬HeaderAt region q := by
  intro q hq hheader
  by_cases hlt : q < found
  · exact h.first q hq hlt hheader.magic
  · have hroom := hheader.room
    omega

/-- A place in step with enough bytes behind it is the first header. -/
theorem headerAt (h : FirstMagic region start found) (hroom : found + headerSize ≤ region.length)
    (haligned : headerAlign ∣ found) :
    HeaderAt region found ∧ ∀ q, start ≤ q → q < found → ¬HeaderAt region q :=
  ⟨⟨haligned, h.magic, hroom⟩, fun q hq hlt hheader => h.first q hq hlt hheader.magic⟩

/-- **From a place out of step to the next step no header is left out**: there is no multiple of the alignment in
    between. -/
theorem skipped (h : FirstMagic region start found) (haligned : ¬headerAlign ∣ found) :
    ∀ q, start ≤ q → q < stepBehind found → ¬HeaderAt region q := by
  intro q hq hlt hheader
  have hstep := Nat.mod_eq_zero_of_dvd hheader.aligned
  have hout := mt Nat.dvd_of_mod_eq_zero haligned
  unfold stepBehind at hlt
  unfold headerAlign at hstep hout hlt
  exact h.first q hq (by omega) hheader.magic

end FirstMagic

section Round

variable {region : List UInt8} {start found : Nat}

theorem judgeMagic_of_short (hinside : found ≤ region.length) (hshort : region.length < found + headerSize) :
    judgeMagic region found = .ok (.done none) := by
  have hleft : region.length - found < headerSize := by omega
  rw [judgeMagic, sub_of_le hinside, ok_bind, if_pos hleft]
  rfl

theorem judgeMagic_of_aligned (hroom : found + headerSize ≤ region.length) (haligned : headerAlign ∣ found) :
    judgeMagic region found = .ok (.done (some found)) := by
  have hleft : ¬region.length - found < headerSize := by omega
  rw [judgeMagic, sub_of_le (by omega), ok_bind, if_neg hleft, if_pos (Nat.mod_eq_zero_of_dvd haligned)]
  rfl

/-- Rounding up is in range, for the region lies in memory. -/
theorem judgeMagic_of_misaligned (hregion : region.length < memoryLimit) (hroom : found + headerSize ≤ region.length)
    (haligned : ¬headerAlign ∣ found) : judgeMagic region found = .ok (.again (stepBehind found)) := by
  have hleft : ¬region.length - found < headerSize := by omega
  have hout := mt Nat.dvd_of_mod_eq_zero haligned
  unfold memoryLimit at hregion
  unfold headerSize at hroom
  have hbehind : found + headerAlign < 2 ^ 64 := by
    unfold headerAlign
    omega
  have hlast : found + headerAlign - 1 < 2 ^ 64 := by omega
  have hnext : (found + headerAlign - 1) / headerAlign * headerAlign = stepBehind found := by
    unfold stepBehind
    unfold headerAlign at hout ⊢
    omega
  rw [judgeMagic, sub_of_le (by omega), ok_bind, if_neg hleft, if_neg hout, add_of_lt hbehind, ok_bind,
    sub_of_le (by unfold headerAlign; omega), ok_bind, and_not_align hlast, hnext]
  rfl

/-- The rest of a region from a later place on. -/
theorem drop_of_le {q : Nat} (hq : start ≤ q) : region.drop q = (region.drop start).drop (q - start) := by
  rw [List.drop_drop, Nat.add_sub_cancel' hq]

/-- **A round comes upon the first magic text**, and judges it. -/
theorem searchRound_of_firstMagic (hregion : region.length < memoryLimit) (h : FirstMagic region start found) :
    searchRound region start = judgeMagic region found := by
  have hstart : start ≤ region.length := Nat.le_trans h.reached h.inside
  have hmagic := h.magic
  rw [drop_of_le h.reached] at hmagic
  rw [searchRound, sliceFrom?, if_pos hstart]
  dsimp only
  cases hfirst : firstMagic? (region.drop start) with
  | none => exact absurd hmagic (firstMagic?_eq_none hfirst _)
  | some i =>
      obtain ⟨hinside, hprefix, hnone⟩ := firstMagic?_eq_some hfirst
      -- Both places are the first, so they are the same.
      have hle : i ≤ found - start := Nat.le_of_not_lt fun hlt => hnone _ hlt hmagic
      have hge : ¬start + i < found := by
        intro hlt
        rw [List.drop_drop] at hprefix
        exact h.first _ (Nat.le_add_right _ _) hlt hprefix
      have hreached := h.reached
      have hsame : start + i = found := by omega
      have hword : start + i < 2 ^ 64 := by
        have hinside := h.inside
        unfold memoryLimit at hregion
        omega
      dsimp only
      rw [add_of_lt hword, ok_bind, hsame]

/-- Without a magic text the search is over. -/
theorem searchRound_of_no_magic (h : ∀ q, start ≤ q → ¬headerMagic <+: region.drop q) :
    searchRound region start = .ok (.done none) := by
  rw [searchRound]
  cases hrest : sliceFrom? region start with
  | none => rfl
  | some rest =>
      unfold sliceFrom? at hrest
      split at hrest
      next =>
        obtain rfl := Option.some.inj hrest
        dsimp only
        cases hfirst : firstMagic? (region.drop start) with
        | none => rfl
        | some i =>
            obtain ⟨-, hprefix, -⟩ := firstMagic?_eq_some hfirst
            rw [List.drop_drop] at hprefix
            exact absurd hprefix (h _ (Nat.le_add_right _ _))
      next => cases hrest

/-- There is a first magic text from an offset on, or there is none at all. -/
theorem firstMagic_or_absent (region : List UInt8) (start : Nat) :
    (∃ found, FirstMagic region start found) ∨ ∀ q, start ≤ q → ¬headerMagic <+: region.drop q := by
  cases hfirst : firstMagic? (region.drop start) with
  | none =>
      refine Or.inr fun q hq => ?_
      rw [drop_of_le hq]
      exact firstMagic?_eq_none hfirst _
  | some i =>
      obtain ⟨-, hprefix, hnone⟩ := firstMagic?_eq_some hfirst
      rw [List.drop_drop] at hprefix
      refine Or.inl ⟨start + i, Nat.le_add_right _ _, hprefix, fun q hq hlt => ?_⟩
      rw [drop_of_le hq]
      exact hnone _ (by omega)

end Round

/-! ## All rounds -/

/-- From an offset on, a round finds that there is no header, or finds the first one, or leaves out a stretch without
    headers. -/
inductive Rounded (region : List UInt8) (start : Nat) : Round → Prop
  /-- There is none. -/
  | absent (nowhere : ∀ p, start ≤ p → ¬HeaderAt region p) : Rounded region start (.done none)
  /-- There is one. -/
  | found {p : Nat} (header : HeaderAt region p) (first : ∀ q, start ≤ q → q < p → ¬HeaderAt region q) :
      Rounded region start (.done (some p))
  /-- There is none yet. -/
  | further {next : Nat} (later : start < next) (inside : next ≤ region.length)
      (skipped : ∀ q, start ≤ q → q < next → ¬HeaderAt region q) : Rounded region start (.again next)

/-- **A round is in range.** -/
theorem exists_searchRound {region : List UInt8} (hregion : region.length < memoryLimit) (start : Nat) :
    ∃ round, searchRound region start = .ok round ∧ Rounded region start round := by
  rcases firstMagic_or_absent region start with ⟨found, h⟩ | hnone
  · rw [searchRound_of_firstMagic hregion h]
    by_cases hroom : found + headerSize ≤ region.length
    · by_cases haligned : headerAlign ∣ found
      · obtain ⟨hheader, hfirst⟩ := h.headerAt hroom haligned
        exact ⟨_, judgeMagic_of_aligned hroom haligned, .found hheader hfirst⟩
      · have hreached := h.reached
        refine ⟨_, judgeMagic_of_misaligned hregion hroom haligned, .further ?_ ?_ (h.skipped haligned)⟩
        · unfold stepBehind headerAlign
          omega
        · unfold stepBehind headerAlign
          unfold headerSize at hroom
          omega
    · have hshort : region.length < found + headerSize := by omega
      exact ⟨_, judgeMagic_of_short h.inside hshort, .absent (h.absent_of_short hshort)⟩
  · exact ⟨_, searchRound_of_no_magic hnone, .absent fun p hp hheader => hnone p hp hheader.magic⟩

/-- From any offset before which there is no header, the search ends, and finds the first one. -/
theorem searchHeader_of_none_before {region : List UInt8} (hregion : region.length < memoryLimit) {start : Nat}
    (hbefore : ∀ q < start, ¬HeaderAt region q) : searchHeader region start = .ok (findHeader region) := by
  have hjoin {stop : Nat} (h : ∀ q, start ≤ q → q < stop → ¬HeaderAt region q) : ∀ q < stop, ¬HeaderAt region q :=
    fun q hq => (Nat.lt_or_ge q start).elim (hbefore q) fun hge => h q hge hq
  obtain ⟨round, hround, hrounded⟩ := exists_searchRound hregion start
  rw [searchHeader, hround]
  cases hrounded with
  | absent nowhere =>
      have hnone : findHeader region = none := by
        refine Option.eq_none_iff_forall_ne_some.mpr fun p hp => ?_
        have hheader := (findHeader_eq_some_iff.mp hp).1
        exact (Nat.lt_or_ge p start).elim (fun hlt => hbefore p hlt hheader) fun hge => nowhere p hge hheader
      rw [hnone]
  | found header first => rw [findHeader_eq_some_iff.mpr ⟨header, hjoin first⟩]
  | @further next later inside skipped =>
      dsimp only
      rw [if_pos ⟨later, inside⟩]
      exact searchHeader_of_none_before hregion (hjoin skipped)
termination_by region.length - start

/-- **The search is in range, and finds the first header.** -/
theorem searchHeader_eq {region : List UInt8} (hregion : region.length < memoryLimit) :
    searchHeader region 0 = .ok (findHeader region) :=
  searchHeader_of_none_before hregion fun q hq => absurd hq (Nat.not_lt_zero q)

end FipsAudit.BuildInfo.Checked
