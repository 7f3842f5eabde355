import FipsAudit.Proofs.Semver.Comparator
import FipsAudit.Proofs.Text.Pieces

/-!
# `FipsAudit.Proofs.Semver.Range` — ranges are read back

A range is comparators between commas, at most thirty-two, or a lone star.

* `comparatorList_chars` — the written form of comparators is read back while there is room for them.
* `readable_of_comparatorList` — comparators that were read can be read again, and there is room for them.
* `Range.parse_text` — a range that some text stands for is the one that its written form stands for.
-/

namespace FipsAudit.Semver

open FipsAudit.Text

variable {part : Part} {s rest : List Char}

/-! ## Ranges -/

/-- The written form begins with no space and no star. -/
theorem Comparator.head_chars (c : Comparator) (rest : List Char) :
    skipSpaces (c.chars ++ rest) = c.chars ++ rest ∧ star? (c.chars ++ rest) = none := by
  obtain ⟨d, r, hdecimal, hdigit⟩ := exists_decimal_eq_cons c.major
  have hchars : c.chars ++ rest = c.op.text.toList ++ d :: (r ++ (c.tailChars ++ rest)) := by
    rw [Comparator.chars, hdecimal, List.append_assoc, List.cons_append, List.cons_append, List.append_assoc]
  have hsign : ∀ sign s, sign ≠ ' ' → ¬(sign = '*' ∨ sign = 'x' ∨ sign = 'X') →
      skipSpaces (sign :: s) = sign :: s ∧ star? (sign :: s) = none :=
    fun sign s hspace hstar => ⟨List.dropWhile_cons_of_neg (by simpa using hspace), if_neg hstar⟩
  rw [hchars]
  cases c.op with
  | wildcard => exact ⟨skipSpaces_digit hdigit _, star?_digit hdigit _⟩
  | _ => exact hsign _ _ (by decide) (by decide)

/-- Comparators after the first one, as characters. -/
def followingChars (cs : List Comparator) : List Char := cs.flatMap fun c => ',' :: ' ' :: c.chars

theorem ends_followingChars (cs : List Comparator) : Ends (followingChars cs) := by
  cases cs with
  | nil => exact .last
  | cons c cs => exact .comma _

theorem Range.toList_text_cons (c : Comparator) (cs : List Comparator) :
    (Range.text ⟨c :: cs⟩).toList = c.chars ++ followingChars cs := by
  have hmap : (cs.map Comparator.text).map String.toList = cs.map Comparator.chars := by
    rw [List.map_map]
    exact List.map_congr_left fun c _ => c.toList_text
  rw [Range.text, if_neg (by simp), String.toList_intercalate, List.map_cons, List.map_cons, c.toList_text, hmap,
    intercalate_cons, followingChars, List.flatMap_map]
  rfl

theorem comparatorList_last {room : Nat} {c : Comparator} (h : comparator s = .ok (c, part, [])) :
    comparatorList room s = .ok [c] := by
  unfold comparatorList
  rw [h]

theorem comparatorList_comma {room : Nat} {c : Comparator} (h : comparator s = .ok (c, part, ',' :: rest)) :
    comparatorList (room + 2) s = (do .ok (c :: (← comparatorList (room + 1) (skipSpaces rest)))) := by
  rw [comparatorList, h]
  rfl

/-- Comparators between commas are read back, as long as there is room for them. -/
theorem comparatorList_chars {c : Comparator} {cs : List Comparator} {room : Nat} (h : c.Readable)
    (hcs : ∀ c ∈ cs, c.Readable) (hroom : cs.length < room) :
    comparatorList room (c.chars ++ followingChars cs) = .ok (c :: cs) := by
  obtain ⟨part, hc⟩ := comparator_chars h (ends_followingChars cs)
  induction cs generalizing c room part with
  | nil => exact comparatorList_last hc
  | cons d ds ih =>
      obtain ⟨room, rfl⟩ : ∃ n, room = n + 2 := ⟨room - 2, by rw [List.length_cons] at hroom; omega⟩
      rw [List.length_cons] at hroom
      obtain ⟨part', hd⟩ := comparator_chars (hcs d List.mem_cons_self) (ends_followingChars ds)
      have hspace : skipSpaces (' ' :: (d.chars ++ followingChars ds)) = d.chars ++ followingChars ds :=
        (d.head_chars _).1
      have hrest : comparatorList (room + 1) (d.chars ++ followingChars ds) = .ok (d :: ds) :=
        ih (hcs d List.mem_cons_self) (fun c hc => hcs c (List.mem_cons_of_mem _ hc)) (by omega) part' hd
      rw [comparatorList_comma hc]
      show (do .ok (c :: (← comparatorList (room + 1) (skipSpaces (' ' :: (d.chars ++ followingChars ds)))))) = _
      rw [hspace, hrest]
      rfl

/-- **Comparators that were read** can be read again, and there is room for them. -/
theorem readable_of_comparatorList {room : Nat} {cs : List Comparator} (h : comparatorList room s = .ok cs) :
    ∃ c ds, cs = c :: ds ∧ (∀ c ∈ cs, c.Readable) ∧ (ds = [] ∨ ds.length < room) := by
  induction room using Nat.strongRecOn generalizing s cs with
  | ind room ih =>
      unfold comparatorList at h
      split at h
      · cases h
      next c part rest hc =>
        split at h
        · cases h
          exact ⟨c, [], rfl, by simpa using readable_of_comparator hc, Or.inl rfl⟩
        · split at h
          · cases h
          · cases h
          next room =>
            obtain ⟨ds, hds, heq⟩ := exists_of_bind_eq_ok h
            cases heq
            obtain ⟨d, es, rfl, hreadable, hroom⟩ := ih (room + 1) (by omega) hds
            refine ⟨c, d :: es, rfl, List.forall_mem_cons.mpr ⟨readable_of_comparator hc, hreadable⟩, Or.inr ?_⟩
            rw [List.length_cons]
            rcases hroom with rfl | hroom
            · rw [List.length_nil]
              omega
            · omega
        · cases h

/-- The written form of comparators that can be read is read back. -/
theorem Range.parse_comparators {c : Comparator} {cs : List Comparator} (h : ∀ d ∈ c :: cs, d.Readable)
    (hroom : cs.length < comparatorLimit) : Range.parse (Range.text ⟨c :: cs⟩) = .ok ⟨c :: cs⟩ := by
  obtain ⟨hc, hcs⟩ := List.forall_mem_cons.mp h
  obtain ⟨hspaces, hstar⟩ := c.head_chars (followingChars cs)
  rw [Range.parse, Range.toList_text_cons, hspaces]
  simp only [hstar, comparatorList_chars hc hcs hroom]
  rfl

/-- **Ranges are read back.** A range that some text stands for is the one that its written form stands for. -/
theorem Range.parse_text {r : Range} {s : String} (h : Range.parse s = .ok r) : Range.parse r.text = .ok r := by
  unfold Range.parse at h
  simp only at h
  split at h
  · split at h
    · cases h
      exact Eq.refl (Range.parse (Range.text ⟨[]⟩))
    · cases h
    · cases h
  · obtain ⟨cs, hcs, heq⟩ := exists_of_bind_eq_ok h
    cases heq
    obtain ⟨c, ds, rfl, hreadable, hroom⟩ := readable_of_comparatorList hcs
    refine Range.parse_comparators hreadable ?_
    rcases hroom with rfl | hroom
    · exact Nat.succ_pos _
    · exact hroom

end FipsAudit.Semver
