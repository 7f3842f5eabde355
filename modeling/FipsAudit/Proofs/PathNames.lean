import FipsAudit.Proofs.PathComponents

/-!
# `FipsAudit.Proofs.PathNames` — ways of names

The path of a directory entry is the path of the directory with the entry's name behind it. A way of such names has
nothing in it that does not count, so it keeps its spelling when a root is taken away before it and put there again,
however the root is spelled.

* `Path.IsName` — the names that directory entries can have.
* `Path.way` — the path of names, one after the other, and `join_way`, how it grows.
* `Path.pieces_way`, `split_way` — its parts, and that it begins with no leading component.
* `Path.innerTo_join_way`, `resolveUnder_join_way` — out of a root and into it again.
-/

namespace FipsAudit.Path

open Text

/-! ## Names -/

/-- A name that a directory entry can have: not empty, without a slash, and neither one dot nor two. -/
structure IsName (name : Name) : Prop where
  nonempty : name ≠ []
  whole : slash ∉ name
  notDot : name ≠ [dot]
  notDots : name ≠ [dot, dot]

theorem IsName.not_isIdle {name : Name} (h : IsName name) : isIdle name = false :=
  isIdle_eq_false_iff.mpr ⟨h.nonempty, h.notDot⟩

/-- The path of names, one after the other. -/
def way (names : List Name) : Path := ⟨unpieces slash names⟩

section Names

variable {names : List Name}

theorem dropWhile_of_names (h : ∀ name ∈ names, IsName name) : names.dropWhile isIdle = names := by
  cases names with
  | nil => rfl
  | cons name names =>
      have hcounts := (h name List.mem_cons_self).not_isIdle
      exact List.dropWhile_cons_of_neg (Bool.eq_false_iff.mp hcounts)

/-- Nothing of a way of names is idle. -/
theorem ofParts_names (h : ∀ name ∈ names, IsName name) : ofParts names = way names := by
  have hreverse : ∀ name ∈ names.reverse, IsName name := fun name hname => h name (List.mem_reverse.mp hname)
  rw [ofParts, dropWhile_of_names h, trimParts, dropWhile_of_names hreverse, List.reverse_reverse, way]

variable (hne : names ≠ []) (h : ∀ name ∈ names, IsName name)
include hne h

theorem pieces_way : pieces slash (way names).bytes = names :=
  pieces_unpieces hne fun name hname => (h name hname).whole

theorem split_way : (way names).split = ⟨none, [], names⟩ := by
  have hpieces := pieces_way hne h
  obtain ⟨name, rest, rfl⟩ := List.exists_cons_of_ne_nil hne
  have hname := h name List.mem_cons_self
  have hfront : ∃ more, (way (name :: rest)).bytes = name ++ more := by
    cases rest with
    | nil => exact ⟨[], (List.append_nil name).symm⟩
    | cons second rest => exact ⟨_, rfl⟩
  obtain ⟨more, hmore⟩ := hfront
  have hsplit := split_of_counts hname.not_isIdle hname.whole more
  rw [← hmore, hpieces] at hsplit
  exact hsplit

theorem lead_way : (way names).split.lead = none := congrArg Split.lead (split_way hne h)

theorem not_isAbsolute_way : (way names).isAbsolute = false := not_isAbsolute_of_lead_none (lead_way hne h)

/-- Names that are joined one by one are a way. -/
theorem join_way {name : Name} (hname : IsName name) (p : Path) :
    (p.join ⟨name⟩).join (way names) = p.join (way (name :: names)) := by
  have hsingle : (⟨name⟩ : Path).isAbsolute = false := not_isAbsolute_way (List.cons_ne_nil name []) (by
    intro other hother
    rw [List.mem_singleton.mp hother]
    exact hname)
  have hlonger : (way (name :: names)).isAbsolute = false := not_isAbsolute_way (List.cons_ne_nil name names) (by
    intro other hother
    rcases List.mem_cons.mp hother with rfl | hother
    · exact hname
    · exact h other hother)
  have hbytes : (way (name :: names)).bytes = name ++ slash :: (way names).bytes := by
    obtain ⟨second, rest, rfl⟩ := List.exists_cons_of_ne_nil hne
    rfl
  -- The first name does not end in a slash.
  have hopen (before : List UInt8) : ¬(before ++ name).getLast?.all (· == slash) = true := by
    obtain ⟨front, b, hconcat⟩ := (List.eq_nil_or_concat name).resolve_left hname.nonempty
    have hb : b ≠ slash := by
      intro heq
      have hmem : slash ∈ front.concat b := by simp [heq]
      exact hname.whole (hconcat ▸ hmem)
    simpa [hconcat] using hb
  rw [join_of_not_isAbsolute (not_isAbsolute_way hne h), join_of_not_isAbsolute hsingle,
    join_of_not_isAbsolute hlonger, hbytes]
  split
  next => rw [if_neg (hopen _), List.append_assoc]
  next =>
    have hlast := hopen (p.bytes ++ [slash])
    rw [List.append_assoc, List.singleton_append] at hlast
    rw [if_neg hlast, List.append_assoc, List.cons_append]

/-- A way of names that is joined to a path stays at the end of its parts. -/
theorem split_join_way (root : Path) :
    ∃ front, (root.join (way names)).split.parts = front ++ names ∧ counting front = root.named := by
  have hrelative := not_isAbsolute_way hne h
  have hparts : ∃ front, (root.join (way names)).split.parts = front ++ names := by
    by_cases hroot : root.bytes = []
    · refine ⟨[], ?_⟩
      rw [join_of_not_isAbsolute hrelative, hroot]
      exact congrArg Split.parts (split_way hne h)
    · obtain ⟨parts, hjoin, -, hnonempty⟩ := pieces_join (p := root) hrelative
      obtain ⟨part, parts, rfl⟩ := List.exists_cons_of_ne_nil (hnonempty hroot)
      obtain ⟨front, hfront⟩ := split_parts_eq (root.join (way names))
      refine ⟨front ++ parts, ?_⟩
      rw [hfront, hjoin, pieces_way hne h, List.cons_append, List.tail_cons, List.append_assoc]
  obtain ⟨front, hfront⟩ := hparts
  refine ⟨front, hfront, ?_⟩
  have hnamed := counting_split (root.join (way names))
  rw [hfront, counting_append, named_join hrelative, named, named, pieces_way hne h] at hnamed
  exact List.append_cancel_right hnamed

/-- **A way below a root is called by the way behind a slash**, with its spelling. -/
theorem innerTo_join_way (root : Path) : innerTo root (root.join (way names)) = rootDirectory.join (way names) := by
  have hlead := lead_way hne h
  obtain ⟨hready, hcount⟩ := length_components_root root hlead
  obtain ⟨front, hfront, hcounting⟩ := split_join_way hne h root
  have hrest : (root.join (way names)).dropComponents root.components.length = way names := by
    rw [dropComponents_eq hready, hcount, hfront, ← hcounting, ofParts, dropWhile_dropParts rfl]
    exact ofParts_names h
  rw [innerTo, relativeTo?_join root hlead]
  show rootDirectory.join _ = _
  rw [hrest]

/-- **And inside a root that leads back** to the way below it, with its spelling. -/
theorem resolveUnder_join_way (root : Path) :
    root.resolveUnder (rootDirectory.join (way names)) = root.join (way names) := by
  have hrelative := not_isAbsolute_way hne h
  have hjoin : rootDirectory.join (way names) = ⟨slash :: (way names).bytes⟩ := join_of_not_isAbsolute hrelative
  have habsolute : (rootDirectory.join (way names)).isAbsolute = true := by
    rw [hjoin]
    rfl
  have hparts : (rootDirectory.join (way names)).split.parts = names := by
    rw [hjoin, split_cons, if_pos rfl]
    exact pieces_way hne h
  have hinside : (rootDirectory.join (way names)).inside = ofParts names := by
    rw [inside_of_isAbsolute habsolute, insideParts, hparts, ofParts]
  rw [resolveUnder_eq, hinside, ofParts_names h]

end Names

end FipsAudit.Path
