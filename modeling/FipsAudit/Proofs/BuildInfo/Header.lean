import FipsAudit.BuildInfo.Header

/-!
# `FipsAudit.Proofs.BuildInfo.Header` — which header is found

The search looks at a region in steps of the alignment. What it finds can be said without the steps: the first place
where a whole header stands. Copies of the magic text between two steps, and copies too near the end, are no headers.

* `HeaderAt` — a whole header begins at an offset.
* `findHeader_eq_some_iff` — the header that is found is the first one.
* `findHeader_append` — a header is found behind any bytes that hold none.
* `findHeader_take`, `findHeader_append_right` — the header that is found in the front of a region is found in all of
  it.
-/

namespace FipsAudit.BuildInfo

/-- A whole header begins at offset `p` of the region. -/
structure HeaderAt (region : List UInt8) (p : Nat) : Prop where
  /-- The offset is a multiple of the alignment. -/
  aligned : headerAlign ∣ p
  /-- The magic text stands there. -/
  magic : headerMagic <+: region.drop p
  /-- The region goes on for the size of a header. -/
  room : p + headerSize ≤ region.length

variable {region : List UInt8}

/-- The headers from the second step on are those of what follows the first step. -/
theorem headerAt_add_iff {p : Nat} : HeaderAt region (p + headerAlign) ↔ HeaderAt (region.drop headerAlign) p := by
  have hdrop : (region.drop headerAlign).drop p = region.drop (p + headerAlign) := by
    rw [List.drop_drop, Nat.add_comm]
  have hlength : (region.drop headerAlign).length = region.length - headerAlign := List.length_drop
  constructor
  · rintro ⟨haligned, hmagic, hroom⟩
    refine ⟨(Nat.dvd_add_left (Nat.dvd_refl _)).mp haligned, hdrop ▸ hmagic, ?_⟩
    omega
  · rintro ⟨haligned, hmagic, hroom⟩
    refine ⟨Nat.dvd_add haligned (Nat.dvd_refl _), hdrop ▸ hmagic, ?_⟩
    unfold headerSize at hroom ⊢
    omega

theorem eq_zero_or_of_headerAt {p : Nat} (h : HeaderAt region p) : p = 0 ∨ ∃ q, p = q + headerAlign := by
  obtain ⟨k, rfl⟩ := h.aligned
  cases k with
  | zero => exact Or.inl rfl
  | succ k => exact Or.inr ⟨headerAlign * k, rfl⟩

/-- The search from an offset on finds the first header of what is left. -/
theorem findHeaderFrom_eq_some_iff {offset p : Nat} :
    findHeaderFrom offset region = some p ↔
      ∃ q, p = offset + q ∧ HeaderAt region q ∧ ∀ r < q, ¬HeaderAt region r := by
  fun_induction findHeaderFrom offset region with
  -- Too little is left for a header.
  | case1 offset region hend =>
      have hshort : region.length ≤ headerSize - 1 := List.drop_eq_nil_iff.mp hend
      constructor
      · intro h
        exact absurd h (by simp)
      · rintro ⟨q, -, hq, -⟩
        have hroom := hq.room
        unfold headerSize at hshort hroom
        omega
  -- A header begins right here.
  | case2 offset region b rest hroom hmagic =>
      have hfront : HeaderAt region 0 := by
        refine ⟨Nat.dvd_zero _, List.isPrefixOf_iff_prefix.mp hmagic, ?_⟩
        have hlength := congrArg List.length hroom
        simp only [List.length_drop, List.length_cons] at hlength
        unfold headerSize at hlength ⊢
        omega
      constructor
      · intro h
        refine ⟨0, (Option.some.inj h).symm, hfront, fun r hr => absurd hr (Nat.not_lt_zero r)⟩
      · rintro ⟨q, rfl, -, hfirst⟩
        cases q with
        | zero => rfl
        | succ q => exact absurd hfront (hfirst 0 (Nat.zero_lt_succ q))
  -- None begins here, so the next one is a step or more away.
  | case3 offset region b rest hroom hmagic ih =>
      have hfront : ¬HeaderAt region 0 := fun h => hmagic (List.isPrefixOf_iff_prefix.mpr h.magic)
      rw [ih]
      constructor
      · rintro ⟨q, rfl, hq, hfirst⟩
        refine ⟨q + headerAlign, by omega, headerAt_add_iff.mpr hq, fun r hr h => ?_⟩
        rcases eq_zero_or_of_headerAt h with rfl | ⟨r, rfl⟩
        · exact hfront h
        · exact hfirst r (by omega) (headerAt_add_iff.mp h)
      · rintro ⟨q, rfl, hq, hfirst⟩
        rcases eq_zero_or_of_headerAt hq with rfl | ⟨q, rfl⟩
        · exact absurd hq hfront
        · refine ⟨q, by omega, headerAt_add_iff.mp hq, fun r hr h => ?_⟩
          exact hfirst (r + headerAlign) (by omega) (headerAt_add_iff.mpr h)

/-- **The header that is found is the first one.** -/
theorem findHeader_eq_some_iff {p : Nat} :
    findHeader region = some p ↔ HeaderAt region p ∧ ∀ q < p, ¬HeaderAt region q := by
  rw [findHeader, findHeaderFrom_eq_some_iff]
  constructor
  · rintro ⟨q, rfl, hq, hfirst⟩
    rw [Nat.zero_add]
    exact ⟨hq, hfirst⟩
  · rintro ⟨hp, hfirst⟩
    exact ⟨p, (Nat.zero_add p).symm, hp, hfirst⟩

/-- **None is found exactly if there is none.** -/
theorem findHeader_eq_none_iff : findHeader region = none ↔ ∀ p, ¬HeaderAt region p := by
  constructor
  · intro h p
    -- A header with none before it would be found.
    induction p using Nat.strongRecOn with
    | ind p ih =>
        intro hp
        have hfound := findHeader_eq_some_iff.mpr ⟨hp, ih⟩
        rw [h] at hfound
        cases hfound
  · intro h
    refine Option.eq_none_iff_forall_ne_some.mpr fun p hp => ?_
    exact h p (findHeader_eq_some_iff.mp hp).1

/-- A header is found behind any bytes that hold none: the magic text does not stand at a multiple of the alignment
    in them. It may stand anywhere else. -/
theorem findHeader_append {before rest : List UInt8} (haligned : headerAlign ∣ before.length)
    (hclear : ∀ p < before.length, headerAlign ∣ p → ¬headerMagic <+: before.drop p) (hmagic : headerMagic <+: rest)
    (hroom : headerSize ≤ rest.length) : findHeader (before ++ rest) = some before.length := by
  refine findHeader_eq_some_iff.mpr ⟨⟨haligned, ?_, ?_⟩, fun p hp h => ?_⟩
  · rwa [List.drop_left]
  · rw [List.length_append]
    omega
  -- Both offsets are multiples of the alignment, so the magic text at the lower one ends before the other.
  · have hlength : headerMagic.length ≤ (before.drop p).length := by
      obtain ⟨k, hk⟩ := haligned
      obtain ⟨j, rfl⟩ := h.aligned
      have hstep : headerAlign * (j + 1) ≤ headerAlign * k := Nat.mul_le_mul_left _ (by
        rw [hk] at hp
        exact Nat.lt_of_mul_lt_mul_left hp)
      rw [Nat.mul_succ] at hstep
      rw [List.length_drop, hk]
      unfold headerAlign headerMagic at *
      simp only [List.length_cons, List.length_nil]
      omega
    have hprefix := h.magic
    rw [List.drop_append_of_le_length (Nat.le_of_lt hp)] at hprefix
    exact hclear p hp h.aligned (List.prefix_of_prefix_length_le hprefix (List.prefix_append _ rest) hlength)

/-! ## The front of a region -/

variable {limit p : Nat}

/-- The headers in the front of a region are those that have room in it. -/
theorem headerAt_take_iff : HeaderAt (region.take limit) p ↔ HeaderAt region p ∧ p + headerSize ≤ limit := by
  have hmagic : headerMagic.length ≤ headerSize := by decide
  constructor
  · rintro ⟨haligned, hstands, hroom⟩
    rw [List.drop_take, List.prefix_take_iff] at hstands
    rw [List.length_take] at hroom
    exact ⟨⟨haligned, hstands.1, by omega⟩, by omega⟩
  · rintro ⟨⟨haligned, hstands, hroom⟩, hlimit⟩
    refine ⟨haligned, ?_, ?_⟩
    · rw [List.drop_take, List.prefix_take_iff]
      exact ⟨hstands, by omega⟩
    · rw [List.length_take]
      omega

/-- **A header that has room before the limit is found** as in the whole region. -/
theorem findHeader_take (h : findHeader region = some p) (hroom : p + headerSize ≤ limit) :
    findHeader (region.take limit) = some p := by
  obtain ⟨hp, hfirst⟩ := findHeader_eq_some_iff.mp h
  exact findHeader_eq_some_iff.mpr ⟨headerAt_take_iff.mpr ⟨hp, hroom⟩,
    fun q hq hat => hfirst q hq (headerAt_take_iff.mp hat).1⟩

/-- **A header that is found stays the one that is found** when more bytes follow. -/
theorem findHeader_append_right (h : findHeader region = some p) (more : List UInt8) :
    findHeader (region ++ more) = some p := by
  obtain ⟨hp, hfirst⟩ := findHeader_eq_some_iff.mp h
  have hfront : (region ++ more).take region.length = region := List.take_left
  have hwhole {q : Nat} (hroom : q + headerSize ≤ region.length) : HeaderAt (region ++ more) q ↔ HeaderAt region q := by
    have hiff : HeaderAt ((region ++ more).take region.length) q ↔
        HeaderAt (region ++ more) q ∧ q + headerSize ≤ region.length := headerAt_take_iff
    rw [hfront] at hiff
    rw [hiff]
    exact (and_iff_left hroom).symm
  refine findHeader_eq_some_iff.mpr ⟨(hwhole hp.room).mpr hp, fun q hq hat => ?_⟩
  -- A header before this one has room where this one has.
  have hroom : q + headerSize ≤ region.length := Nat.le_trans (Nat.add_le_add_right (Nat.le_of_lt hq) _) hp.room
  exact hfirst q hq ((hwhole hroom).mp hat)

end FipsAudit.BuildInfo
