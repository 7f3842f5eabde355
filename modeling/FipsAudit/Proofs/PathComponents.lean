import FipsAudit.Proofs.Path
import Mathlib.Data.List.Basic

/-!
# `FipsAudit.Proofs.PathComponents` — components of joined and of shortened paths

A path is a spelling of its components: a leading slash or dot, and the parts between slashes that count. Joining and
taking away work on spellings. What they do to the components does not depend on how a path is spelled, so slashes that
are doubled or missing make no difference.

* `Path.named` — the parts of a path that count, for `components_eq` and `components_eq_iff`.
* `Path.pieces_join`, `components_join` — joining appends parts and components.
* `Path.ofParts` — what is left of a path has no leading component, and the components of its parts.
* `Path.components_dropComponents`, `components_inside` — taking away the front, and the leading slash.
* `Path.components_innerTo_join`, `components_resolveUnder_join` — into a root and out of it.
-/

namespace FipsAudit.Path

open Text

variable {p q root : Path}

/-! ## Parts that count -/

/-- The parts that count. -/
def counting (parts : List (List UInt8)) : List (List UInt8) := parts.filter (!isIdle ·)

/-- The parts of a path that count. -/
def named (p : Path) : List (List UInt8) := counting (pieces slash p.bytes)

theorem isIdle_eq_false_iff {part : List UInt8} : isIdle part = false ↔ part ≠ [] ∧ part ≠ [dot] := by
  simp [isIdle]

theorem mem_counting_iff {part : List UInt8} {parts : List (List UInt8)} :
    part ∈ counting parts ↔ part ∈ parts ∧ isIdle part = false := by
  rw [counting, List.mem_filter, Bool.not_eq_true']

theorem counting_append (l r : List (List UInt8)) : counting (l ++ r) = counting l ++ counting r :=
  List.filter_append l r

theorem counting_cons_of_idle {part : List UInt8} (h : isIdle part = true) (parts : List (List UInt8)) :
    counting (part :: parts) = counting parts := by
  rw [counting, List.filter_cons_of_neg (by rw [h]; decide), counting]

theorem counting_cons_of_counts {part : List UInt8} (h : isIdle part = false) (parts : List (List UInt8)) :
    counting (part :: parts) = part :: counting parts := by
  rw [counting, List.filter_cons_of_pos (by rw [h]; decide), counting]

theorem counting_dropWhile (parts : List (List UInt8)) : counting (parts.dropWhile isIdle) = counting parts := by
  induction parts with
  | nil => rfl
  | cons part parts ih =>
      cases hidle : isIdle part with
      | true => rw [List.dropWhile_cons_of_pos hidle, counting_cons_of_idle hidle, ih]
      | false => rw [List.dropWhile_cons_of_neg (by rw [hidle]; exact Bool.false_ne_true)]

theorem counting_reverse (parts : List (List UInt8)) : counting parts.reverse = (counting parts).reverse :=
  List.filter_reverse

theorem counting_trimParts (parts : List (List UInt8)) : counting (trimParts parts) = counting parts := by
  rw [trimParts, counting_reverse, counting_dropWhile, counting_reverse, List.reverse_reverse]

theorem counting_dropParts (n : Nat) (parts : List (List UInt8)) :
    counting (dropParts n parts) = (counting parts).drop n := by
  fun_induction dropParts n parts with
  | case1 parts => rfl
  | case2 n => exact List.drop_nil.symm
  | case3 n part parts hidle ih => rw [counting_cons_of_idle hidle, ih]
  | case4 n part parts hidle ih => rw [counting_cons_of_counts (Bool.not_eq_true _ ▸ hidle), ih, List.drop_succ_cons]

/-- Behind as many parts that count as are dropped, idle parts do not matter. -/
theorem dropWhile_dropParts {front rest : List (List UInt8)} {n : Nat} (h : (counting front).length = n) :
    (dropParts n (front ++ rest)).dropWhile isIdle = rest.dropWhile isIdle := by
  induction front generalizing n with
  | nil =>
      obtain rfl : 0 = n := h
      rw [List.nil_append, dropParts]
  | cons part front ih =>
      cases hidle : isIdle part with
      | true =>
          rw [counting_cons_of_idle hidle] at h
          rw [List.cons_append]
          cases n with
          | zero =>
              have hrest := ih h
              rw [dropParts] at hrest ⊢
              rw [List.dropWhile_cons_of_pos hidle, hrest]
          | succ n =>
              rw [dropParts, if_pos hidle]
              exact ih h
      | false =>
          rw [counting_cons_of_counts hidle, List.length_cons] at h
          obtain rfl := h
          rw [List.cons_append, dropParts, if_neg (Bool.eq_false_iff.mp hidle)]
          exact ih rfl

/-! ## Components -/

/-- The parts of the body are those of the whole path, but for idle ones. -/
theorem counting_split (p : Path) : counting p.split.parts = p.named := by
  rw [named]
  cases p.begins with
  | empty hbytes hsplit =>
      rw [hsplit, hbytes]
      rfl
  | root _ hsplit hpieces =>
      rw [hsplit, hpieces]
      exact (counting_cons_of_idle rfl _).symm
  | current _ hsplit hpieces =>
      rw [hsplit, hpieces]
      exact (counting_cons_of_idle rfl _).trans (counting_cons_of_idle rfl _).symm
  | part _ _ hsplit hpieces => rw [hsplit, hpieces]

/-- The body of a path has all its parts but perhaps the first one. -/
theorem split_parts_eq (p : Path) : ∃ front, p.split.parts = front ++ (pieces slash p.bytes).tail := by
  cases p.begins with
  | empty hbytes hsplit =>
      rw [hsplit, hbytes]
      exact ⟨[], rfl⟩
  | root _ hsplit hpieces =>
      rw [hsplit, hpieces]
      exact ⟨[], rfl⟩
  | current _ hsplit hpieces =>
      rw [hsplit, hpieces]
      exact ⟨[[]], rfl⟩
  | @part part _ _ _ hsplit hpieces =>
      rw [hsplit, hpieces]
      exact ⟨[part], rfl⟩

/-- **The components of a path**: the leading one, and those of the parts that count. -/
theorem components_eq (p : Path) : p.components = p.split.lead.toList ++ p.named.map Component.ofPart := by
  rw [components, ← counting_split]
  rfl

theorem ofPart_injective : Function.Injective Component.ofPart := by
  intro part part' h
  unfold Component.ofPart at h
  split at h
  next hpart =>
    split at h
    next hpart' => rw [hpart, hpart']
    next => cases h
  next =>
    split at h
    next => cases h
    next => exact Component.normal.inj h

theorem ofPart_ne_lead (part : List UInt8) : Component.ofPart part ≠ .root ∧ Component.ofPart part ≠ .current := by
  unfold Component.ofPart
  split
  next => exact ⟨nofun, nofun⟩
  next => exact ⟨nofun, nofun⟩

/-- The leading component is a slash or a dot. -/
theorem lead_eq (p : Path) : p.split.lead = none ∨ p.split.lead = some .root ∨ p.split.lead = some .current := by
  cases p.begins with
  | empty _ hsplit => exact Or.inl (congrArg Split.lead hsplit)
  | root _ hsplit => exact Or.inr (Or.inl (congrArg Split.lead hsplit))
  | current _ hsplit => exact Or.inr (Or.inr (congrArg Split.lead hsplit))
  | part _ _ hsplit => exact Or.inl (congrArg Split.lead hsplit)

/-- **Paths with the same components** have the same leading one and the same parts that count. -/
theorem components_eq_iff : p.components = q.components ↔ p.split.lead = q.split.lead ∧ p.named = q.named := by
  constructor
  · intro h
    rw [components_eq, components_eq] at h
    have hparts (l l' : List (List UInt8)) (heq : l.map Component.ofPart = l'.map Component.ofPart) : l = l' :=
      (List.map_injective_iff.mpr ofPart_injective) heq
    -- No part stands for a leading component.
    have hother (c : Component) (hc : c = .root ∨ c = .current) (l l' : List (List UInt8))
        (heq : l.map Component.ofPart = c :: l'.map Component.ofPart) : False := by
      obtain ⟨part, -, hpart⟩ := List.mem_map.mp (heq ▸ List.mem_cons_self : c ∈ l.map Component.ofPart)
      obtain ⟨hroot, hcurrent⟩ := ofPart_ne_lead part
      rcases hc with rfl | rfl
      · exact hroot hpart
      · exact hcurrent hpart
    have hlead (p : Path) : p.split.lead = none ∨ ∃ c, (c = .root ∨ c = .current) ∧ p.split.lead = some c := by
      rcases p.lead_eq with hnone | hroot | hcurrent
      · exact Or.inl hnone
      · exact Or.inr ⟨_, Or.inl rfl, hroot⟩
      · exact Or.inr ⟨_, Or.inr rfl, hcurrent⟩
    rcases hlead p with hp | ⟨c, hc, hp⟩
    · rcases hlead q with hq | ⟨c', hc', hq⟩
      · rw [hp, hq] at h ⊢
        exact ⟨rfl, hparts _ _ h⟩
      · rw [hp, hq] at h
        exact (hother c' hc' _ _ h).elim
    · rcases hlead q with hq | ⟨c', hc', hq⟩
      · rw [hp, hq] at h
        exact (hother c hc _ _ h.symm).elim
      · rw [hp, hq] at h ⊢
        obtain ⟨hfirst, hrest⟩ := List.cons.inj h
        exact ⟨congrArg some hfirst, hparts _ _ hrest⟩
  · rintro ⟨hlead, hnamed⟩
    rw [components_eq, components_eq, hlead, hnamed]

theorem not_isAbsolute_of_lead_none (h : p.split.lead = none) : p.isAbsolute = false := by
  rw [← Bool.not_eq_true, isAbsolute_iff, h]
  exact nofun

/-! ## Joining -/

/-- The bytes of a path that is not absolute follow, after a slash if there is none. -/
theorem join_of_not_isAbsolute (hq : q.isAbsolute = false) :
    p.join q =
      if p.bytes.getLast?.all (· == slash) then ⟨p.bytes ++ q.bytes⟩ else ⟨p.bytes ++ slash :: q.bytes⟩ := by
  rw [join, if_neg (by rw [hq]; exact Bool.false_ne_true)]

/-- **The parts of a joined path** are those of the first path, but for an empty one at its end, and those of the
    second. -/
theorem pieces_join (hq : q.isAbsolute = false) :
    ∃ parts, pieces slash (p.join q).bytes = parts ++ pieces slash q.bytes ∧
      (pieces slash p.bytes = parts ∨ pieces slash p.bytes = parts ++ [[]]) ∧ (p.bytes ≠ [] → parts ≠ []) := by
  rw [join_of_not_isAbsolute hq]
  by_cases hclosed : p.bytes.getLast?.all (· == slash) = true
  · rw [if_pos hclosed]
    -- Nothing, or a slash, stands before the second path.
    rcases List.eq_nil_or_concat p.bytes with hnil | ⟨before, b, hconcat⟩
    · refine ⟨[], ?_, Or.inr ?_, fun hne => absurd hnil hne⟩
      · rw [hnil]
        rfl
      · rw [hnil]
        rfl
    · obtain rfl : b = slash := by simpa [hconcat] using hclosed
      refine ⟨pieces slash before, ?_, Or.inr ?_, fun _ => pieces_ne_nil _ _⟩
      · rw [hconcat, List.concat_eq_append, List.append_assoc, List.singleton_append, pieces_append]
      · rw [hconcat, List.concat_eq_append, pieces_append, pieces_nil]
  · rw [if_neg hclosed]
    exact ⟨pieces slash p.bytes, pieces_append _ _ _, Or.inl rfl, fun _ => pieces_ne_nil _ _⟩

theorem named_join (hq : q.isAbsolute = false) : (p.join q).named = p.named ++ q.named := by
  obtain ⟨parts, hjoin, hparts, -⟩ := pieces_join (p := p) hq
  have hsame : counting parts = p.named := by
    rcases hparts with hparts | hparts
    · rw [named, hparts]
    · rw [named, hparts, counting_append]
      exact (List.append_nil _).symm
  rw [named, hjoin, counting_append, hsame]
  rfl

/-- The leading component that the first part of a path stands for. -/
def leadOf? (part : List UInt8) : Option Component :=
  if part = [] then some .root else if part = [dot] then some .current else none

/-- Unless there is nothing of a path, its first part tells the leading component. -/
theorem lead_of_pieces (hp : p.bytes ≠ []) {part : List UInt8} {parts : List (List UInt8)}
    (h : pieces slash p.bytes = part :: parts) : p.split.lead = leadOf? part := by
  cases p.begins with
  | empty hbytes => exact absurd hbytes hp
  | root _ hsplit hpieces =>
      obtain ⟨rfl, -⟩ := List.cons.inj (hpieces.symm.trans h)
      rw [hsplit]
      rfl
  | current _ hsplit hpieces =>
      obtain ⟨rfl, -⟩ := List.cons.inj (hpieces.symm.trans h)
      rw [hsplit]
      rfl
  | part _ hcounts hsplit hpieces =>
      obtain ⟨rfl, -⟩ := List.cons.inj (hpieces.symm.trans h)
      obtain ⟨hempty, hdot⟩ := isIdle_eq_false_iff.mp hcounts
      rw [hsplit, leadOf?, if_neg hempty, if_neg hdot]

/-- The leading component of a joined path is that of the first path, if that is not empty. -/
theorem lead_join (hp : p.bytes ≠ []) (hq : q.isAbsolute = false) : (p.join q).split.lead = p.split.lead := by
  obtain ⟨parts, hjoin, hparts, hne⟩ := pieces_join (p := p) hq
  obtain ⟨part, parts, rfl⟩ := List.exists_cons_of_ne_nil (hne hp)
  have hfirst : ∃ rest, pieces slash p.bytes = part :: rest := by
    rcases hparts with hparts | hparts
    · exact ⟨_, hparts⟩
    · exact ⟨_, hparts⟩
  obtain ⟨rest, hrest⟩ := hfirst
  have hjoined : (p.join q).bytes ≠ [] := by
    rw [join_of_not_isAbsolute hq]
    split
    next => exact List.append_ne_nil_of_left_ne_nil hp _
    next => exact List.append_ne_nil_of_left_ne_nil hp _
  rw [lead_of_pieces hp hrest, lead_of_pieces hjoined hjoin]

/-- **A joined path has the components of the first path, and then the parts of the second that count.** From the empty
    path on, a path stays as it is. -/
theorem components_join (hq : q.isAbsolute = false) :
    (p.join q).components =
      if p.bytes = [] then q.components else p.components ++ q.named.map Component.ofPart := by
  by_cases hp : p.bytes = []
  · have hjoin : p.join q = q := by
      rw [join_of_not_isAbsolute hq, hp]
      rfl
    rw [if_pos hp, hjoin]
  · rw [if_neg hp, components_eq, lead_join hp hq, named_join hq, List.map_append, components_eq, List.append_assoc]

/-- Without a leading component the components follow, in any case. -/
theorem components_join_of_lead_none (hq : q.split.lead = none) :
    (p.join q).components = p.components ++ q.components := by
  have hrelative := not_isAbsolute_of_lead_none hq
  have hnamed : q.components = q.named.map Component.ofPart := by
    rw [components_eq, hq]
    rfl
  rw [components_join hrelative]
  split
  next hp =>
    obtain ⟨bytes⟩ := p
    obtain rfl : bytes = [] := hp
    rfl
  next => rw [hnamed]

/-- A joined path is absolute exactly if the first path is. -/
theorem isAbsolute_join (hq : q.isAbsolute = false) : (p.join q).isAbsolute = p.isAbsolute := by
  by_cases hp : p.bytes = []
  · have hrelative : p.isAbsolute = false := by
      rw [isAbsolute, hp]
      rfl
    rw [join_of_not_isAbsolute hq, hp, hrelative]
    exact hq
  · rw [Bool.eq_iff_iff, isAbsolute_iff, isAbsolute_iff, lead_join hp hq]

/-! ## What is left of a path -/

/-- The path of parts, without idle ones at its ends. -/
def ofParts (parts : List (List UInt8)) : Path := ⟨unpieces slash (trimParts (parts.dropWhile isIdle))⟩

section OfParts

variable {parts : List (List UInt8)}

theorem named_ofParts (h : ∀ part ∈ parts, slash ∉ part) : (ofParts parts).named = counting parts := by
  have hkept : counting (trimParts (parts.dropWhile isIdle)) = counting parts := by
    rw [counting_trimParts, counting_dropWhile]
  rw [← hkept, named, ofParts]
  cases htrimmed : trimParts (parts.dropWhile isIdle) with
  | nil => rfl
  | cons part rest =>
      rw [pieces_unpieces (List.cons_ne_nil part rest)]
      intro q hq
      rw [← htrimmed] at hq
      exact h q ((List.dropWhile_suffix _).subset (mem_of_mem_trimParts hq))

/-- A path that begins with a part that counts has no leading component, and all its parts are in its body. -/
theorem split_of_counts {part : List UInt8} (hpart : isIdle part = false) (hslash : slash ∉ part) (rest : List UInt8) :
    split ⟨part ++ rest⟩ = ⟨none, [], pieces slash (part ++ rest)⟩ := by
  cases part with
  | nil => cases hpart
  | cons b part =>
      have hb : b ≠ slash := fun heq => hslash (heq ▸ List.mem_cons_self)
      have hdot : ¬(b = dot ∧ (part ++ rest = [] ∨ (part ++ rest).head? = some slash)) := by
        rintro ⟨rfl, hnext⟩
        cases part with
        | nil => cases hpart
        | cons c part =>
            have hc : c = slash := by simpa using hnext
            exact hslash (hc ▸ List.mem_cons_of_mem _ List.mem_cons_self)
      rw [List.cons_append, split_cons, if_neg hb, if_neg hdot]

/-- Such a path has no leading component. -/
theorem lead_ofParts (h : ∀ part ∈ parts, slash ∉ part) : (ofParts parts).split.lead = none := by
  rw [ofParts]
  cases htrimmed : trimParts (parts.dropWhile isIdle) with
  | nil => rfl
  | cons part rest =>
      have hpart := not_isIdle_of_trimmed htrimmed
      have hmem : part ∈ trimParts (parts.dropWhile isIdle) := htrimmed ▸ List.mem_cons_self
      have hslash : slash ∉ part := h part ((List.dropWhile_suffix _).subset (mem_of_mem_trimParts hmem))
      cases rest with
      | nil =>
          have hend := split_of_counts hpart hslash []
          rw [List.append_nil] at hend
          exact congrArg Split.lead hend
      | cons q rest => exact congrArg Split.lead (split_of_counts hpart hslash _)

/-- Its components are those of the parts. -/
theorem components_ofParts (h : ∀ part ∈ parts, slash ∉ part) :
    (ofParts parts).components = (counting parts).map Component.ofPart := by
  rw [components_eq, lead_ofParts h, named_ofParts h]
  rfl

end OfParts

theorem dropParts_suffix (n : Nat) (parts : List (List UInt8)) : dropParts n parts <:+ parts := by
  fun_induction dropParts n parts with
  | case1 parts => exact List.suffix_rfl
  | case2 n => exact List.suffix_rfl
  | case3 n part parts hidle ih => exact ih.trans (List.suffix_cons _ _)
  | case4 n part parts hidle ih => exact ih.trans (List.suffix_cons _ _)

/-- A path without a leading component has no idle part in front. -/
theorem dropWhile_split_of_lead_none (h : p.split.lead = none) :
    p.split.leadBytes = [] ∧ p.split.parts.dropWhile isIdle = p.split.parts := by
  cases p.begins with
  | empty _ hsplit =>
      rw [hsplit]
      exact ⟨rfl, rfl⟩
  | root _ hsplit =>
      rw [hsplit] at h
      cases h
  | current _ hsplit =>
      rw [hsplit] at h
      cases h
  | part _ hcounts hsplit =>
      rw [hsplit]
      exact ⟨rfl, List.dropWhile_cons_of_neg (Bool.eq_false_iff.mp hcounts)⟩

/-- The front of a path is taken away part by part, once the leading component is gone. -/
theorem dropComponents_eq {n : Nat} (h : n ≠ 0 ∨ p.split.lead = none) :
    p.dropComponents n = ofParts (dropParts (n - p.split.lead.toList.length) p.split.parts) := by
  rw [dropComponents]
  by_cases hn : n = 0
  · obtain ⟨hbytes, hparts⟩ := dropWhile_split_of_lead_none (h.resolve_left (not_not.mpr hn))
    rw [if_pos hn, hbytes, hn, Nat.zero_sub, dropParts, ofParts, hparts]
    rfl
  · rw [if_neg hn]
    rfl

/-- **What is left of a path has the rest of its components**, and no leading one. -/
theorem components_dropComponents {n : Nat} (h : n ≠ 0 ∨ p.split.lead = none) :
    (p.dropComponents n).split.lead = none ∧ (p.dropComponents n).components = p.components.drop n := by
  have hslash : ∀ part ∈ dropParts (n - p.split.lead.toList.length) p.split.parts, slash ∉ part := by
    intro part hpart
    exact not_mem_of_mem_split ((dropParts_suffix _ _).subset hpart)
  rw [dropComponents_eq h]
  refine ⟨lead_ofParts hslash, ?_⟩
  have hlead : p.split.lead.toList.length ≤ n := by
    rcases h with hn | hnone
    · cases p.split.lead with
      | none => exact Nat.zero_le n
      | some c => exact Nat.pos_of_ne_zero hn
    · rw [hnone]
      exact Nat.zero_le n
  rw [components_ofParts hslash, counting_dropParts, counting_split, components_eq, List.map_drop, List.drop_append,
    List.drop_eq_nil_of_le hlead, List.nil_append]

/-- **Inside a root an absolute path loses its leading slash**, and nothing else. -/
theorem components_inside (h : p.isAbsolute = true) :
    p.inside.split.lead = none ∧ p.components = .root :: p.inside.components := by
  have hinside : p.inside = ofParts p.split.parts := inside_of_isAbsolute h
  have hslash : ∀ part ∈ p.split.parts, slash ∉ part := fun part hpart => not_mem_of_mem_split hpart
  rw [hinside]
  refine ⟨lead_ofParts hslash, ?_⟩
  rw [components_ofParts hslash, counting_split, components_eq, lead_of_isAbsolute h]
  rfl

/-! ## Inside a root and out of it -/

/-- **An absolute path inside a root** has the components of the root, and then its own behind the slash. -/
theorem components_resolveUnder (root : Path) (h : p.isAbsolute = true) :
    (root.resolveUnder p).components = root.components ++ p.components.tail := by
  obtain ⟨hlead, hcomponents⟩ := components_inside h
  rw [resolveUnder_eq, components_join_of_lead_none hlead, hcomponents, List.tail_cons]

/-- Components that are all names begin with no leading one. -/
theorem lead_of_normal (h : ∀ c ∈ p.components, ∃ name, c = .normal name) : p.split.lead = none := by
  cases hlead : p.split.lead with
  | none => rfl
  | some c =>
      have hmem : c ∈ p.components := by
        rw [components_eq, hlead]
        exact List.mem_cons_self
      obtain ⟨name, rfl⟩ := h c hmem
      rcases p.lead_eq with hnone | hroot | hcurrent
      · rw [hlead] at hnone
        cases hnone
      · rw [hlead] at hroot
        cases hroot
      · rw [hlead] at hcurrent
        cases hcurrent

section Below

variable {r : Path} (root : Path) (hr : r.split.lead = none)
include hr

/-- The components of a root lead those of a path below it. -/
theorem relativeTo?_join :
    (root.join r).relativeTo? root = some ((root.join r).dropComponents root.components.length) := by
  rw [relativeTo?, components_join_of_lead_none hr, if_pos]
  rw [List.isPrefixOf_iff_prefix]
  exact List.prefix_append _ _

/-- A path below a root begins as the root does, and the empty root has no components. -/
theorem lead_join_root : (root.join r).split.lead = root.split.lead := by
  have hrelative := not_isAbsolute_of_lead_none hr
  by_cases hroot : root.bytes = []
  · obtain ⟨bytes⟩ := root
    obtain rfl : bytes = [] := hroot
    rw [join_of_not_isAbsolute hrelative]
    exact hr
  · exact lead_join hroot hrelative

/-- Taking a root away takes its leading component away, or there is none. -/
theorem length_components_root :
    (root.components.length ≠ 0 ∨ (root.join r).split.lead = none) ∧
      root.components.length - (root.join r).split.lead.toList.length = root.named.length := by
  rw [lead_join_root root hr, components_eq, List.length_append, List.length_map, Nat.add_sub_cancel_left]
  refine ⟨?_, rfl⟩
  cases root.split.lead with
  | none => exact Or.inr rfl
  | some c =>
      refine Or.inl ?_
      rw [Option.toList_some, List.length_singleton]
      omega

/-- **A path below a root is called by its components behind a slash.** -/
theorem components_innerTo_join : (innerTo root (root.join r)).components = .root :: r.components := by
  obtain ⟨hlead, hrest⟩ := components_dropComponents (length_components_root root hr).1
  have hroot : rootDirectory.components = [.root] := by decide
  rw [innerTo, relativeTo?_join root hr]
  show (rootDirectory.join _).components = _
  rw [components_join_of_lead_none hlead, hrest, components_join_of_lead_none hr, List.drop_left, hroot,
    List.singleton_append]

end Below

/-- **Inside a root a longer path goes on from where the shorter one leads.** -/
theorem components_resolveUnder_join (root p : Path) (hq : q.split.lead = none) :
    (root.resolveUnder (p.join q)).components = ((root.resolveUnder p).join q).components := by
  have hrelative := not_isAbsolute_of_lead_none hq
  have hjoin : (p.join q).components = p.components ++ q.components := components_join_of_lead_none hq
  rw [components_join_of_lead_none hq]
  have hlonger : (p.join q).isAbsolute = p.isAbsolute := isAbsolute_join hrelative
  by_cases hp : p.isAbsolute = true
  · obtain ⟨-, hcomponents⟩ := components_inside hp
    rw [hp] at hlonger
    rw [components_resolveUnder root hlonger, components_resolveUnder root hp, hjoin, hcomponents, List.append_assoc]
    rfl
  · rw [Bool.not_eq_true] at hp
    rw [hp] at hlonger
    rw [resolveUnder_eq, resolveUnder_eq, inside_of_not_isAbsolute hp, inside_of_not_isAbsolute hlonger,
      components_join hp, components_join hlonger]
    by_cases hroot : root.bytes = []
    · rw [if_pos hroot, if_pos hroot, hjoin]
    · rw [if_neg hroot, if_neg hroot, named_join hrelative, List.map_append, List.append_assoc]
      congr 2
      rw [components_eq, hq]
      rfl

end FipsAudit.Path
