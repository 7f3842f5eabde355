import FipsAudit.Path
import FipsAudit.Proofs.Text.Pieces

/-!
# `FipsAudit.Proofs.Path` — what a path means inside a root

A path that is taken inside a root loses its leading slash, and what is left is joined to the root. Joining is safe
because nothing absolute is ever left: an absolute path would replace the root.

* `Path.inside` — what is left of a path.
* `Path.isAbsolute_inside` — it is never absolute.
* `Path.mem_components_of_mem_inside` — it holds no name that the path does not have as a component.
-/

namespace FipsAudit.Path

open Text

/-! ## Parts -/

/-- Parts that hold no separator are the parts of what they make up. -/
theorem pieces_unpieces {α : Type} [DecidableEq α] {sep : α} {ps : List (List α)} (hne : ps ≠ [])
    (h : ∀ p ∈ ps, sep ∉ p) : pieces sep (unpieces sep ps) = ps := by
  induction ps with
  | nil => exact absurd rfl hne
  | cons p ps ih =>
      cases ps with
      | nil => exact pieces_of_not_mem (h p List.mem_cons_self)
      | cons q ps =>
          rw [unpieces, pieces_append, pieces_of_not_mem (h p List.mem_cons_self),
            ih (List.cons_ne_nil q ps) fun r hr => h r (List.mem_cons_of_mem p hr)]
          rfl

theorem mem_of_mem_trimParts {part : List UInt8} {parts : List (List UInt8)} (h : part ∈ trimParts parts) :
    part ∈ parts := by
  rw [trimParts, List.mem_reverse] at h
  exact List.mem_reverse.mp ((List.dropWhile_suffix _).subset h)

/-- A path is cut at its slashes. -/
theorem not_mem_of_mem_split {p : Path} {part : List UInt8} (h : part ∈ p.split.parts) : slash ∉ part := by
  unfold split at h
  split at h
  · exact absurd h List.not_mem_nil
  · split at h
    · exact not_mem_of_mem_pieces h
    · split at h <;> exact not_mem_of_mem_pieces h

theorem split_cons (b : UInt8) (r : List UInt8) : split ⟨b :: r⟩ =
    if b = slash then ⟨some .root, [slash], pieces slash r⟩
    else if b = dot ∧ (r = [] ∨ r.head? = some slash) then ⟨some .current, [dot], pieces slash r⟩
    else ⟨none, [], pieces slash (b :: r)⟩ := rfl

/-- How a path begins: with nothing at all, a slash, a dot that is a whole part, or a part that counts. The parts of
    the body are those between the slashes, but for a leading dot, whose place an idle part takes. -/
inductive Begins (p : Path) : Prop
  | empty (bytes : p.bytes = []) (split : p.split = ⟨none, [], []⟩)
  | root {parts : List (List UInt8)} (absolute : p.isAbsolute = true) (split : p.split = ⟨some .root, [slash], parts⟩)
      (pieces : pieces slash p.bytes = [] :: parts)
  | current {parts : List (List UInt8)} (relative : p.isAbsolute = false)
      (split : p.split = ⟨some .current, [dot], [] :: parts⟩) (pieces : pieces slash p.bytes = [dot] :: parts)
  | part {part : List UInt8} {parts : List (List UInt8)} (relative : p.isAbsolute = false)
      (counts : isIdle part = false) (split : p.split = ⟨none, [], part :: parts⟩)
      (pieces : pieces slash p.bytes = part :: parts)

/-- The parts behind a slash at the front. -/
theorem pieces_slash_cons (r : List UInt8) : pieces slash (slash :: r) = [] :: pieces slash r := by
  have hpieces := pieces_append slash [] r
  rwa [List.nil_append, pieces_nil, List.singleton_append] at hpieces

theorem begins (p : Path) : Begins p := by
  obtain ⟨bytes⟩ := p
  cases bytes with
  | nil => exact .empty rfl rfl
  | cons b r =>
      have hsplit := split_cons b r
      by_cases hslash : b = slash
      · rw [if_pos hslash] at hsplit
        rw [hslash] at hsplit ⊢
        exact .root rfl hsplit (pieces_slash_cons r)
      · rw [if_neg hslash] at hsplit
        have hrelative : isAbsolute ⟨b :: r⟩ = false := by simpa [isAbsolute] using hslash
        by_cases hdot : b = dot ∧ (r = [] ∨ r.head? = some slash)
        · rw [if_pos hdot] at hsplit
          obtain ⟨rfl, hr⟩ := hdot
          cases r with
          | nil => exact .current hrelative hsplit rfl
          | cons c r =>
              obtain rfl : c = slash := by simpa using hr
              rw [pieces_slash_cons] at hsplit
              exact .current hrelative hsplit (pieces_append slash [dot] r)
        · rw [if_neg hdot] at hsplit
          obtain ⟨part, parts, hparts⟩ := List.exists_cons_of_ne_nil (pieces_ne_nil slash r)
          have hpieces : pieces slash (b :: r) = (b :: part) :: parts := by
            rw [pieces_cons, hparts, joinPiece, if_neg hslash]
          rw [hpieces] at hsplit
          refine .part hrelative (Bool.eq_false_iff.mpr fun hidle => hdot ?_) hsplit hpieces
          obtain ⟨rfl, rfl⟩ : b = dot ∧ part = [] := by simpa [isIdle] using hidle
          -- The first part behind the dot is empty.
          have hr := unpieces_pieces slash r
          rw [hparts] at hr
          refine ⟨rfl, ?_⟩
          cases parts with
          | nil => exact Or.inl hr.symm
          | cons q parts =>
              rw [← hr]
              exact Or.inr rfl

/-- A path is absolute exactly if its leading component is the slash. -/
theorem isAbsolute_iff (p : Path) : p.isAbsolute = true ↔ p.split.lead = some .root := by
  cases p.begins with
  | empty hbytes hsplit =>
      rw [isAbsolute, hbytes, hsplit]
      exact ⟨nofun, nofun⟩
  | root habsolute hsplit =>
      rw [hsplit]
      exact ⟨fun _ => rfl, fun _ => habsolute⟩
  | current hrelative hsplit =>
      rw [hrelative, hsplit]
      exact ⟨nofun, nofun⟩
  | part hrelative hcounts hsplit =>
      rw [hrelative, hsplit]
      exact ⟨nofun, nofun⟩

theorem lead_of_isAbsolute {p : Path} (h : p.isAbsolute = true) : p.split.lead = some .root := p.isAbsolute_iff.mp h

/-- A path that is not absolute has no leading slash, and all its parts that count are in its body. -/
theorem split_of_not_isAbsolute {p : Path} (h : p.isAbsolute = false) :
    p.split.lead ≠ some .root ∧ ∀ part ∈ pieces slash p.bytes, isIdle part = false → part ∈ p.split.parts := by
  cases p.begins with
  | empty hbytes hsplit =>
      rw [hsplit, hbytes, pieces_nil]
      refine ⟨nofun, fun part hpart hcounts => ?_⟩
      rw [List.mem_singleton.mp hpart] at hcounts
      cases hcounts
  | root habsolute =>
      rw [habsolute] at h
      cases h
  | current _ hsplit hpieces =>
      rw [hsplit, hpieces]
      refine ⟨nofun, fun part hpart hcounts => ?_⟩
      rcases List.mem_cons.mp hpart with rfl | hpart
      · cases hcounts
      · exact List.mem_cons_of_mem _ hpart
  | part _ hcounts hsplit hpieces =>
      rw [hsplit, hpieces]
      exact ⟨nofun, fun part hpart _ => hpart⟩

/-- The components of a path begin with the root directory exactly if it has a leading slash. -/
theorem isPrefixOf_components_iff (p : Path) :
    rootDirectory.components.isPrefixOf p.components = true ↔ p.split.lead = some .root := by
  have hroot : rootDirectory.components = [.root] := by decide
  have hnormal (part : List UInt8) : .root ≠ Component.ofPart part := by
    unfold Component.ofPart
    split <;> simp
  rw [hroot, components]
  cases p.split.lead with
  | some c => cases c <;> simp
  | none => cases p.split.parts.filter (!isIdle ·) <;> simp [hnormal]

/-! ## Inside a root -/

/-- What is left of a path when it is taken inside a root. -/
def inside (p : Path) : Path := (p.relativeTo? rootDirectory).getD p

/-- The parts of a path that are left inside a root, if it is absolute. -/
def insideParts (p : Path) : List (List UInt8) := trimParts (p.split.parts.dropWhile isIdle)

theorem resolveUnder_eq (root p : Path) : root.resolveUnder p = root.join p.inside := rfl

/-- An absolute path is left with its parts, from the first that counts to the last. -/
theorem inside_of_isAbsolute {p : Path} (h : p.isAbsolute = true) : p.inside = ⟨unpieces slash p.insideParts⟩ := by
  have hlead := lead_of_isAbsolute h
  have hone : rootDirectory.components.length = 1 := by decide
  rw [inside, relativeTo?, if_pos (p.isPrefixOf_components_iff.mpr hlead), Option.getD_some, hone, dropComponents]
  simp [hlead, dropParts, insideParts]

/-- A path that is not absolute is left as it is. -/
theorem inside_of_not_isAbsolute {p : Path} (h : p.isAbsolute = false) : p.inside = p := by
  rw [inside, relativeTo?, if_neg (mt p.isPrefixOf_components_iff.mp (split_of_not_isAbsolute h).1), Option.getD_none]

theorem mem_split_of_mem_insideParts {p : Path} {part : List UInt8} (h : part ∈ p.insideParts) :
    part ∈ p.split.parts :=
  (List.dropWhile_suffix _).subset (mem_of_mem_trimParts h)

/-- The first part that is left counts. -/
theorem not_isIdle_of_trimmed {parts : List (List UInt8)} {part : List UInt8} {rest : List (List UInt8)}
    (h : trimParts (parts.dropWhile isIdle) = part :: rest) : isIdle part = false := by
  have hhead : (parts.dropWhile isIdle).head? = some part := by
    rw [trimParts] at h
    obtain ⟨trimmed, htrimmed⟩ := List.dropWhile_suffix (l := (parts.dropWhile isIdle).reverse) isIdle
    rw [← List.reverse_reverse (parts.dropWhile isIdle), ← htrimmed, List.reverse_append, h]
    rfl
  have hfirst := List.head?_dropWhile_not isIdle parts
  rw [hhead] at hfirst
  exact hfirst

/-- **Nothing absolute is left.** -/
theorem isAbsolute_inside (p : Path) : p.inside.isAbsolute = false := by
  by_cases habsolute : p.isAbsolute = true
  · rw [inside_of_isAbsolute habsolute, isAbsolute]
    cases hparts : p.insideParts with
    | nil => rfl
    | cons part parts =>
        have hslash : slash ∉ part :=
          not_mem_of_mem_split (mem_split_of_mem_insideParts (hparts ▸ List.mem_cons_self))
        cases part with
        | nil => exact absurd (not_isIdle_of_trimmed hparts) (by decide)
        | cons b part =>
            have hne : b ≠ slash := fun hb => hslash (hb ▸ List.mem_cons_self)
            cases parts with
            | nil => simpa [unpieces] using hne
            | cons q parts => simpa [unpieces] using hne
  · rw [Bool.not_eq_true] at habsolute
    rw [inside_of_not_isAbsolute habsolute, habsolute]

/-- The parts of what is left are parts of the path, but for an empty one. -/
theorem mem_split_of_mem_inside {p : Path} {part : List UInt8} (h : part ∈ pieces slash p.inside.bytes)
    (hcounts : isIdle part = false) : part ∈ p.split.parts := by
  by_cases habsolute : p.isAbsolute = true
  · rw [inside_of_isAbsolute habsolute] at h
    by_cases hnone : p.insideParts = []
    · simp only [hnone, unpieces, pieces_nil, List.mem_singleton] at h
      exact absurd (h ▸ hcounts) (by decide)
    · rw [pieces_unpieces hnone fun q hq => not_mem_of_mem_split (mem_split_of_mem_insideParts hq)] at h
      exact mem_split_of_mem_insideParts h
  · rw [Bool.not_eq_true] at habsolute
    rw [inside_of_not_isAbsolute habsolute] at h
    exact (split_of_not_isAbsolute habsolute).2 part h hcounts

/-- **A name inside a root is a component of the path.** -/
theorem mem_components_of_mem_inside {p : Path} {part : List UInt8} (h : part ∈ pieces slash p.inside.bytes)
    (hcounts : isIdle part = false) : Component.ofPart part ∈ p.components := by
  refine List.mem_append_right _ (List.mem_map_of_mem (List.mem_filter.mpr ⟨mem_split_of_mem_inside h hcounts, ?_⟩))
  rw [hcounts]
  rfl

end FipsAudit.Path
