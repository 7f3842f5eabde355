import FipsAudit.Proofs.BuildInfo.Checked.Region

/-!
# `FipsAudit.Proofs.BuildInfo.HeaderSearch` — the search ends, and leaves nothing out

The search goes from one copy of the magic text to the next, not from one step of the alignment to the next. A copy out
of step sends it on to the next step, and a copy too near the end ends it. What makes both right is an invariant of the
place it has come to: that place is in step, and no header begins before it. Each round that does not end the search
takes it one step further at least, so there are no more rounds than there are steps in the region, and one.

* `Rounds` — the rounds of a whole search, and what it comes to.
* `exists_rounds` — from a place with the invariant the search ends, with the first header of the region.
* `findHeader_searched` — for every region: which header is found, what more bytes change, and what the rounds do.
-/

namespace FipsAudit.BuildInfo.Checked

/-- From an offset on, the search ends after so many rounds, with this result. -/
inductive Rounds (region : List UInt8) : Nat → Nat → Option Nat → Prop
  /-- The last round gives the result. -/
  | last {start : Nat} {result : Option Nat} (ended : searchRound region start = .ok (.done result)) :
      Rounds region start 1 result
  /-- Any other round gives the place where the next one begins. -/
  | next {start later count : Nat} {result : Option Nat} (round : searchRound region start = .ok (.again later))
      (rest : Rounds region later count result) : Rounds region start (count + 1) result

variable {region : List UInt8} {start found : Nat}

/-- A search gives one result, after one number of rounds. -/
theorem Rounds.unique {count count' : Nat} {result result' : Option Nat} (h : Rounds region start count result)
    (h' : Rounds region start count' result') : count = count' ∧ result = result' := by
  induction h generalizing count' result' with
  | last ended =>
      cases h' with
      | last ended' =>
          rw [ended] at ended'
          cases ended'
          exact ⟨rfl, rfl⟩
      | next round' rest' =>
          rw [ended] at round'
          cases round'
  | next round rest ih =>
      cases h' with
      | last ended' =>
          rw [round] at ended'
          cases ended'
      | next round' rest' =>
          rw [round] at round'
          cases round'
          obtain ⟨hcount, hresult⟩ := ih rest'
          exact ⟨congrArg (· + 1) hcount, hresult⟩

/-! ## One round -/

/-- The next step is a step, and less than one step away. -/
theorem stepBehind_spec (found : Nat) :
    headerAlign ∣ stepBehind found ∧ found < stepBehind found ∧ stepBehind found ≤ found + headerAlign := by
  refine ⟨Nat.dvd_mul_left _ _, ?_, ?_⟩
  · unfold stepBehind headerAlign
    omega
  · unfold stepBehind headerAlign
    omega

/-- Of two steps the later one is a whole step away. -/
theorem add_align_le {later : Nat} (hstart : headerAlign ∣ start) (hlater : headerAlign ∣ later)
    (hlt : start < later) : start + headerAlign ≤ later := by
  unfold headerAlign at *
  omega

/-- **A copy too near the end ends the search**, and there is no header from the start of the round on. -/
theorem FirstMagic.ended_of_short (h : FirstMagic region start found) (hregion : region.length < memoryLimit)
    (hshort : region.length < found + headerSize) :
    searchRound region start = .ok (.done none) ∧ ∀ q, start ≤ q → ¬HeaderAt region q := by
  refine ⟨?_, h.absent_of_short hshort⟩
  rw [searchRound_of_firstMagic hregion h]
  exact judgeMagic_of_short h.inside hshort

/-- **A copy out of step sends the search on** to the next step, and there is no header before that. -/
theorem FirstMagic.again_of_misaligned (h : FirstMagic region start found) (hregion : region.length < memoryLimit)
    (hroom : found + headerSize ≤ region.length) (haligned : ¬headerAlign ∣ found) :
    searchRound region start = .ok (.again (stepBehind found)) ∧
      ∀ q, start ≤ q → q < stepBehind found → ¬HeaderAt region q := by
  refine ⟨?_, h.skipped haligned⟩
  rw [searchRound_of_firstMagic hregion h]
  exact judgeMagic_of_misaligned hregion hroom haligned

/-! ## The place the search has come to -/

/-- What holds of the place where a round begins. -/
structure Searched (region : List UInt8) (start : Nat) : Prop where
  /-- The place is in step. -/
  aligned : headerAlign ∣ start
  /-- It is not behind the end. -/
  inside : start ≤ region.length
  /-- No header begins before it. -/
  clear : ∀ q < start, ¬HeaderAt region q

namespace Searched

/-- The search begins with it. -/
theorem zero (region : List UInt8) : Searched region 0 :=
  ⟨Nat.dvd_zero _, Nat.zero_le _, fun q hq => absurd hq (Nat.not_lt_zero q)⟩

/-- If there is no header from the place on, there is none. -/
theorem findHeader_of_absent (h : Searched region start) (hnone : ∀ q, start ≤ q → ¬HeaderAt region q) :
    findHeader region = none := by
  refine findHeader_eq_none_iff.mpr fun q => ?_
  rcases Nat.lt_or_ge q start with hlt | hge
  · exact h.clear q hlt
  · exact hnone q hge

/-- The first header from the place on is the first one. -/
theorem findHeader_of_headerAt (h : Searched region start) (hheader : HeaderAt region found)
    (hfirst : ∀ q, start ≤ q → q < found → ¬HeaderAt region q) : findHeader region = some found := by
  refine findHeader_eq_some_iff.mpr ⟨hheader, fun q hq => ?_⟩
  rcases Nat.lt_or_ge q start with hlt | hge
  · exact h.clear q hlt
  · exact hfirst q hge hq

/-- A copy out of step hands it on to the next step. -/
theorem stepBehind (h : Searched region start) (hmagic : FirstMagic region start found)
    (hroom : found + headerSize ≤ region.length) (haligned : ¬headerAlign ∣ found) :
    Searched region (stepBehind found) := by
  obtain ⟨hstep, -, hnear⟩ := stepBehind_spec found
  refine ⟨hstep, ?_, fun q hq => ?_⟩
  · unfold headerSize at hroom
    unfold headerAlign at hnear
    omega
  · rcases Nat.lt_or_ge q start with hlt | hge
    · exact h.clear q hlt
    · exact hmagic.skipped haligned q hge hq

end Searched

/-- **From a place that is in step and clear the search ends**, with the first header of the region, and with one
    round at most for each step that is left, and one. -/
theorem exists_rounds {start : Nat} (hregion : region.length < memoryLimit) (h : Searched region start) :
    ∃ count, start + headerAlign * count ≤ region.length + headerAlign ∧
      Rounds region start count (findHeader region) := by
  have hone : start + headerAlign * 1 ≤ region.length + headerAlign := Nat.add_le_add_right h.inside _
  rcases firstMagic_or_absent region start with ⟨found, hmagic⟩ | hnone
  · by_cases hroom : found + headerSize ≤ region.length
    · by_cases haligned : headerAlign ∣ found
      -- A header: the search ends with it.
      · obtain ⟨hheader, hfirst⟩ := hmagic.headerAt hroom haligned
        refine ⟨1, hone, .last ?_⟩
        rw [searchRound_of_firstMagic hregion hmagic, judgeMagic_of_aligned hroom haligned,
          h.findHeader_of_headerAt hheader hfirst]
      -- A copy out of step: what is left is shorter by a step at least.
      · obtain ⟨hstep, hbehind, -⟩ := stepBehind_spec found
        have hreached := hmagic.reached
        have hfurther := add_align_le h.aligned hstep (Nat.lt_of_le_of_lt hreached hbehind)
        have hlater := h.stepBehind hmagic hroom haligned
        have hinside := hlater.inside
        obtain ⟨count, hcount, hrounds⟩ := exists_rounds hregion hlater
        refine ⟨count + 1, ?_, .next (hmagic.again_of_misaligned hregion hroom haligned).1 hrounds⟩
        rw [Nat.mul_succ]
        omega
    -- A copy too near the end: there is no header behind it either.
    · obtain ⟨hended, habsent⟩ := hmagic.ended_of_short hregion (Nat.lt_of_not_le hroom)
      refine ⟨1, hone, .last ?_⟩
      rw [hended, h.findHeader_of_absent habsent]
  · refine ⟨1, hone, .last ?_⟩
    rw [searchRound_of_no_magic hnone, h.findHeader_of_absent fun q hq hheader => hnone q hq hheader.magic]
termination_by region.length - start
decreasing_by
  unfold headerAlign at hfurther
  omega

/-! ## Every region -/

/-- **The search of a region.** A header is found exactly if it is the first place in step where the magic text stands
    with room for a whole header, and none is found exactly if there is no such place. One that is found stays the one
    that is found, whatever bytes follow. The search by rounds ends with that answer, after one round at most for each
    step in the region, and one. A round that comes upon a copy of the magic text with too little room ends the search,
    and no header is behind it; a round that comes upon a copy out of step goes on with the next step, and no header is
    before that. -/
theorem findHeader_searched (region : List UInt8) :
    (∀ p, findHeader region = some p ↔ HeaderAt region p ∧ ∀ q < p, ¬HeaderAt region q) ∧
    (findHeader region = none ↔ ∀ p, ¬HeaderAt region p) ∧
    (∀ p more, findHeader region = some p → findHeader (region ++ more) = some p) ∧
    (region.length < memoryLimit →
      (∃ count, count ≤ region.length / headerAlign + 1 ∧
        ∀ rounds result, Rounds region 0 rounds result ↔ rounds = count ∧ result = findHeader region) ∧
      ∀ start found, FirstMagic region start found →
        (region.length < found + headerSize →
          searchRound region start = .ok (.done none) ∧ ∀ q, start ≤ q → ¬HeaderAt region q) ∧
        (found + headerSize ≤ region.length → ¬headerAlign ∣ found →
          ∃ next, searchRound region start = .ok (.again next) ∧ headerAlign ∣ next ∧ found < next ∧
            next ≤ found + headerAlign ∧ ∀ q, start ≤ q → q < next → ¬HeaderAt region q)) := by
  refine ⟨fun p => findHeader_eq_some_iff, findHeader_eq_none_iff, fun p more h => findHeader_append_right h more, ?_⟩
  intro hregion
  constructor
  · obtain ⟨count, hcount, hrounds⟩ := exists_rounds hregion (Searched.zero region)
    refine ⟨count, ?_, fun rounds result => ⟨fun h => h.unique hrounds, ?_⟩⟩
    · unfold headerAlign at hcount ⊢
      omega
    · rintro ⟨rfl, rfl⟩
      exact hrounds
  · intro start found hmagic
    constructor
    · intro hshort
      exact hmagic.ended_of_short hregion hshort
    · intro hroom haligned
      obtain ⟨hround, hskipped⟩ := hmagic.again_of_misaligned hregion hroom haligned
      obtain ⟨hstep, hbehind, hnear⟩ := stepBehind_spec found
      exact ⟨stepBehind found, hround, hstep, hbehind, hnear, hskipped⟩

/-- A region with the magic text out of step in front of a header. -/
def strayRegion : List UInt8 :=
  List.replicate 3 0 ++ headerMagic ++ List.replicate 15 0 ++ headerMagic ++ List.replicate 18 0

/-- The copy out of step at three is left out, the header at thirty-two is found, also with more bytes behind it, and
    in the last bytes of the region there is no header. -/
theorem findHeader_searched_strayRegion :
    findHeader strayRegion = some 32 ∧ findHeader (strayRegion ++ strayRegion) = some 32 ∧
      (∃ count ≤ 5, Rounds strayRegion 0 count (some 32)) ∧
      (∃ next, searchRound strayRegion 0 = .ok (.again next) ∧ 3 < next ∧ next ≤ 19) ∧
      ∀ q, 4 ≤ q → ¬HeaderAt (strayRegion.take 50) q := by
  obtain ⟨hsome, -, hmore, hsearch⟩ := findHeader_searched strayRegion
  obtain ⟨⟨count, hcount, hrounds⟩, hround⟩ := hsearch (by decide)
  -- The magic text stands at three and at thirty-two, and nowhere before that.
  have hstray : headerMagic <+: strayRegion.drop 3 := by decide
  have hnowhere : ∀ q < 32, q ≠ 3 → ¬headerMagic <+: strayRegion.drop q := by decide
  have hfound : findHeader strayRegion = some 32 := by
    refine (hsome 32).mpr ⟨⟨by decide, by decide, by decide⟩, fun q hq h => ?_⟩
    refine hnowhere q hq (fun hthree => ?_) h.magic
    rw [hthree] at h
    exact absurd h.aligned (by decide)
  have hfirst : FirstMagic strayRegion 0 3 := by
    refine ⟨by decide, hstray, fun q hge hlt => ?_⟩
    exact hnowhere q (by omega) (by omega)
  obtain ⟨next, hagain, -, hbehind, hnear, -⟩ := (hround 0 3 hfirst).2 (by decide) (by decide)
  -- In the first fifty bytes the copy at thirty-two has too little room.
  have hnowhereFront : ∀ q < 32, q ≠ 3 → ¬headerMagic <+: (strayRegion.take 50).drop q := by decide
  have hlate : FirstMagic (strayRegion.take 50) 4 32 := by
    refine ⟨by decide, by decide, fun q hge hlt => ?_⟩
    exact hnowhereFront q hlt (by omega)
  obtain ⟨-, -, -, hfront⟩ := findHeader_searched (strayRegion.take 50)
  obtain ⟨-, habsent⟩ := ((hfront (by decide)).2 4 32 hlate).1 (by decide)
  exact ⟨hfound, hmore 32 strayRegion hfound, ⟨count, hcount, (hrounds count _).mpr ⟨rfl, hfound.symm⟩⟩,
    ⟨next, hagain, hbehind, hnear⟩, habsent⟩

end FipsAudit.BuildInfo.Checked
