import FipsAudit.Proofs.Toolchain.Grammar

/-!
# `FipsAudit.Proofs.Toolchain.Spelling` — one version, many spellings

A version can be written as a toolchain string in many ways, and the written form of a version is one of them. All
are read as the same version, so reading is a normalization: what was read can be written and read again.

* `Nameable`, `nameable_of_parse` — the versions that are read.
* `Numbers`, `Tail`, `Spelling` — the ways to write a version.
* `anatomy_spelling`, `Spelling.parsesTo` — how a spelling is taken apart.
* `parse_normalizes` — all spellings agree, and the written form is read back.
-/

namespace FipsAudit.Toolchain

open FipsAudit.Text FipsAudit.Semver

/-! ## Versions that are read -/

/-- A version that a toolchain string can name. -/
structure Nameable (v : Version) : Prop where
  /-- The first number is not too large. -/
  major : v.major < componentLimit
  /-- The second number is not too large. -/
  minor : v.minor < componentLimit
  /-- The third number is not too large. -/
  patch : v.patch < componentLimit
  /-- The pre-release, if any, is one. -/
  pre : v.pre.toList = [] ∨ Prerelease v.pre.toList
  /-- There is no build metadata. -/
  build : v.build = ""

theorem getD_lt_componentLimit {ns : List Nat} (h : ∀ n ∈ ns, n < componentLimit) (i : Nat) :
    ns.getD i 0 < componentLimit := by
  rw [List.getD_eq_getElem?_getD]
  cases hn : ns[i]? with
  | none => decide
  | some n => exact h n (List.mem_of_getElem? hn)

/-- What is read from a string is a version that a string can name. -/
theorem nameable_of_parse {raw : String} {v : Version} (h : parse raw = .ok v) : Nameable v := by
  obtain ⟨r, hr⟩ := exists_parsesTo raw
  obtain rfl : r = .ok v := hr.parse_eq.symm.trans h
  cases hr with
  | version anatomy found separated count numbers unmarked valid =>
      have hlt : ∀ n ∈ List.map natOfDigits _, n < componentLimit :=
        List.forall_mem_map.mpr fun p hp => (numbers p hp).2
      refine ⟨getD_lt_componentLimit hlt 0, getD_lt_componentLimit hlt 1, getD_lt_componentLimit hlt 2, ?_, rfl⟩
      rwa [String.toList_ofList]

/-! ## Spellings -/

/-- The numbers of a version; zeros at the end may be left out. -/
inductive Numbers (v : Version) : List Nat → Prop
  /-- All three. -/
  | three : Numbers v [v.major, v.minor, v.patch]
  /-- Two, if the third is zero. -/
  | two (patch : v.patch = 0) : Numbers v [v.major, v.minor]
  /-- One, if the others are zero. -/
  | one (minor : v.minor = 0) (patch : v.patch = 0) : Numbers v [v.major]

/-- What follows the numbers of a version with the pre-release `pre`. -/
inductive Tail (pre : List Char) : List Char → Prop
  /-- Nothing, if there is no pre-release. -/
  | release (none : pre = []) : Tail pre []
  /-- A hyphen and the pre-release. -/
  | hyphen (some : pre ≠ []) : Tail pre ('-' :: pre)
  /-- The pre-release alone, if it begins with a letter. -/
  | bare {c : Char} {r : List Char} (letter : c.isAlpha = true) (first : pre = c :: r) : Tail pre pre

/-- Numerals with dots between them. -/
def dottedNumerals (ns : List Nat) : List Char := ['.'].intercalate (ns.map decimal)

/-- The ways to write a version as a toolchain string. -/
inductive Spelling (v : Version) : List Char → Prop
  /-- With blanks around, perhaps with `go` in front and with a remark at the end. -/
  | mk {before lead suffix rest after : List Char} {ns : List Nat} (blank : ∀ c ∈ before ++ after, isBlank c = true)
      (go : lead = [] ∨ lead = ['g', 'o']) (numbers : Numbers v ns) (tail : Tail v.pre.toList suffix)
      (remark : Remark rest) :
      Spelling v (before ++ (lead ++ (dottedNumerals ns ++ suffix)) ++ (rest ++ after))

/-! ## Numbers -/

variable {v : Version} {ns : List Nat} {pre suffix : List Char}

/-- The parts between the dots are the numerals. -/
theorem separated_dottedNumerals (h : ns ≠ []) : Separated '.' (ns.map decimal) (dottedNumerals ns) where
  parts := by simpa using h
  unbroken := List.forall_mem_map.mpr fun n _ hdot => by simpa using isDigit_of_mem_decimal hdot
  joined := rfl

theorem isCoreChar_of_mem_dottedNumerals (h : ns ≠ []) : ∀ c ∈ dottedNumerals ns, isCoreChar c = true := by
  intro c hc
  rcases (separated_dottedNumerals h).eq_or_mem hc with rfl | ⟨p, hp, hmem⟩
  · rfl
  · obtain ⟨n, _, rfl⟩ := List.mem_map.mp hp
    rw [isCoreChar, isDigit_of_mem_decimal hmem, Bool.true_or]

/-- They begin with a digit. -/
theorem exists_dottedNumerals_eq_cons (h : ns ≠ []) :
    ∃ d r, dottedNumerals ns = d :: r ∧ d.isDigit = true := by
  obtain ⟨n, ns, rfl⟩ := List.exists_cons_of_ne_nil h
  obtain ⟨d, r, hcons⟩ := List.exists_cons_of_ne_nil (decimal_ne_nil n)
  have hdigit : d.isDigit = true := isDigit_of_mem_decimal (hcons ▸ List.mem_cons_self)
  rw [dottedNumerals, List.map_cons, intercalate_cons, hcons, List.cons_append]
  exact ⟨d, _, rfl, hdigit⟩

theorem isComponent_decimal {n : Nat} (h : n < componentLimit) : IsComponent (decimal n) :=
  ⟨decimal_ne_nil n, (natOfDigits_decimal n).symm ▸ h⟩

theorem map_natOfDigits_decimal (ns : List Nat) : (ns.map decimal).map natOfDigits = ns := by
  rw [List.map_map]
  exact List.map_id'' natOfDigits_decimal ns

theorem Numbers.ne_nil (h : Numbers v ns) : ns ≠ [] := by cases h <;> exact List.cons_ne_nil _ _

theorem Numbers.length_le (h : Numbers v ns) : ns.length ≤ 3 := by cases h <;> simp

theorem Numbers.lt (h : Numbers v ns) (hv : Nameable v) : ∀ n ∈ ns, n < componentLimit := by
  cases h <;> simp [hv.major, hv.minor, hv.patch]

/-- Numbers that were left out are zero. -/
theorem Numbers.getD (h : Numbers v ns) : ns.getD 0 0 = v.major ∧ ns.getD 1 0 = v.minor ∧ ns.getD 2 0 = v.patch := by
  cases h with
  | three => exact ⟨rfl, rfl, rfl⟩
  | two patch => exact ⟨rfl, rfl, patch.symm⟩
  | one minor patch => exact ⟨rfl, minor.symm, patch.symm⟩

/-! ## What follows the numbers -/

theorem isCoreChar_of_isAlpha {c : Char} (h : c.isAlpha = true) : isCoreChar c = false := by
  have hdot : c ≠ '.' := by
    rintro rfl
    cases h
  rw [isCoreChar, isDigit_of_isAlpha h, Bool.false_or, beq_eq_false_iff_ne]
  exact hdot

theorem Tail.stops (h : Tail pre suffix) : Stops isCoreChar suffix := by
  cases h with
  | release => exact stops_nil _
  | hyphen => exact stops_cons rfl _
  | bare letter first => exact first ▸ stops_cons (isCoreChar_of_isAlpha letter) _

/-- One hyphen at most belongs to the spelling. -/
theorem Tail.withoutLeading (h : Tail pre suffix) : WithoutLeading ['-'] suffix pre := by
  cases h with
  | release none => exact Or.inr ⟨by simp, none.symm⟩
  | hyphen => exact Or.inl rfl
  | bare letter first =>
      subst first
      refine Or.inr ⟨fun hmark => ?_, rfl⟩
      obtain rfl : '-' = _ := (List.cons_prefix_cons.mp hmark).1
      cases letter

theorem Tail.chars (h : Tail pre suffix) (hpre : pre = [] ∨ Prerelease pre) {c : Char} (hc : c ∈ suffix) :
    c.isAlphanum = true ∨ c = '-' ∨ c = '.' := by
  have hmem : c = '-' ∨ c ∈ pre := by
    cases h with
    | release => exact absurd hc List.not_mem_nil
    | hyphen => exact List.mem_cons.mp hc
    | bare => exact Or.inr hc
  rcases hmem with rfl | hmem
  · exact Or.inr (Or.inl rfl)
  · rcases hpre with rfl | hpre
    · exact absurd hmem List.not_mem_nil
    · exact hpre.chars hmem

/-! ## Spellings are read -/

/-- A remark with blanks after it is a remark when the blanks at its end are gone. -/
theorem Remark.trimmed {rest after : List Char} (h : Remark rest) (hafter : ∀ c ∈ after, isBlank c = true) :
    Remark ((rest ++ after).rdropWhile isBlank) := by
  cases h with
  | none =>
      rw [List.nil_append, List.rdropWhile_eq_nil_iff.mpr hafter]
      exact .none
  | text r =>
      obtain ⟨blanks, hblanks⟩ := List.rdropWhile_prefix isBlank (' ' :: r ++ after)
      have hspace : Stops (· ≠ ' ') (' ' :: r ++ after) := stops_cons rfl (r ++ after)
      exact .of_stops (Stops.of_append (hblanks ▸ hspace))

/-- What stands between the blanks and the remark is visible. -/
theorem isBlank_of_mem_spelling {lead : List Char} (hv : Nameable v) (go : lead = [] ∨ lead = ['g', 'o'])
    (numbers : Numbers v ns) (tail : Tail v.pre.toList suffix) :
    ∀ c ∈ lead ++ (dottedNumerals ns ++ suffix), isBlank c = false := by
  intro c hc
  rcases List.mem_append.mp hc with hlead | hc
  · rcases go with rfl | rfl
    · exact absurd hlead List.not_mem_nil
    · have hletters : ∀ c ∈ ['g', 'o'], isBlank c = false :=
        List.forall_mem_cons.mpr ⟨rfl, List.forall_mem_singleton.mpr rfl⟩
      exact hletters c hlead
  · have hchars : c.isAlphanum = true ∨ c = '-' ∨ c = '.' := by
      rcases List.mem_append.mp hc with hcore | hsuffix
      · have hcore := isCoreChar_of_mem_dottedNumerals numbers.ne_nil c hcore
        rw [isCoreChar, Bool.or_eq_true, beq_iff_eq] at hcore
        exact hcore.imp (fun hdigit => by rw [Char.isAlphanum, hdigit, Bool.or_true]) Or.inr
      · exact tail.chars hv.pre hsuffix
    rcases hchars with halphanum | rfl | rfl
    · exact isBlank_of_isAlphanum halphanum
    · rfl
    · rfl

/-- A spelling is taken apart as it was put together. -/
theorem anatomy_spelling {before lead rest after : List Char} (hv : Nameable v)
    (blank : ∀ c ∈ before ++ after, isBlank c = true) (go : lead = [] ∨ lead = ['g', 'o']) (numbers : Numbers v ns)
    (tail : Tail v.pre.toList suffix) (remark : Remark rest) :
    Anatomy (before ++ (lead ++ (dottedNumerals ns ++ suffix)) ++ (rest ++ after))
      (dottedNumerals ns) suffix := by
  obtain ⟨hbefore, hafter⟩ := List.forall_mem_append.mp blank
  have hvisible := isBlank_of_mem_spelling hv go numbers tail
  obtain ⟨d, r, hcons, hdigit⟩ := exists_dottedNumerals_eq_cons numbers.ne_nil
  have hne : lead ++ (dottedNumerals ns ++ suffix) ≠ [] := by simp [hcons]
  have htrim : trimChars (before ++ (lead ++ (dottedNumerals ns ++ suffix)) ++ (rest ++ after)) = _ :=
    trimChars_append hbefore (stops_of_forall hvisible)
      (stops_of_forall fun c hc => hvisible c (List.mem_reverse.mp hc)) hne
  refine ⟨⟨⟨_, _, trimChars_eq_iff.mp htrim, ?_, remark.trimmed hafter⟩, fun hspace => ?_⟩,
    isCoreChar_of_mem_dottedNumerals numbers.ne_nil, tail.stops⟩
  · -- Without `go` the numbers come first, and they do not begin with a letter.
    rcases go with rfl | rfl
    · refine Or.inr ⟨fun hgo => ?_, rfl⟩
      rw [List.nil_append, hcons] at hgo
      obtain rfl : 'g' = d := (List.cons_prefix_cons.mp hgo).1
      cases hdigit
    · exact Or.inl rfl
  · exact absurd (hvisible ' ' (List.mem_append_right lead hspace)) (by decide)

/-- What a spelling is read as. -/
theorem Spelling.parsesTo {raw : String} (hv : Nameable v) (h : Spelling v raw.toList) : ParsesTo raw (.ok v) := by
  generalize hraw : raw.toList = l at h
  cases h with
  | @mk before lead suffix rest after ns blank go numbers tail remark =>
      have anatomy := anatomy_spelling hv blank go numbers tail remark
      rw [← hraw] at anatomy
      obtain ⟨d, r, hcons, -⟩ := exists_dottedNumerals_eq_cons numbers.ne_nil
      have found : dottedNumerals ns ≠ [] := hcons ▸ List.cons_ne_nil d r
      have count : (ns.map decimal).length ≤ 3 := by
        rw [List.length_map]
        exact numbers.length_le
      have hcomponents : ∀ p ∈ ns.map decimal, IsComponent p :=
        List.forall_mem_map.mpr fun n hn => isComponent_decimal (numbers.lt hv n hn)
      have hparses := ParsesTo.version anatomy found (separated_dottedNumerals numbers.ne_nil) count hcomponents
        tail.withoutLeading hv.pre
      obtain ⟨hmajor, hminor, hpatch⟩ := numbers.getD
      -- The numbers that the grammar reads off the numerals are those of the version, zeros included.
      rw [map_natOfDigits_decimal, hmajor, hminor, hpatch, String.ofList_toList, ← hv.build] at hparses
      exact hparses

/-- The written form is a spelling. -/
theorem spelling_text (hv : Nameable v) : Spelling v v.text.toList := by
  have tail : Tail v.pre.toList (marked '-' v.pre) := by
    unfold marked
    split
    next hempty => exact .release (by rw [String.isEmpty_iff.mp hempty, String.toList_empty])
    next hsome => exact .hyphen (by simpa using hsome)
  have blank : ∀ c ∈ [] ++ [], isBlank c = true := fun c hc => absurd hc List.not_mem_nil
  have hspelling := Spelling.mk blank (Or.inl rfl) .three tail .none
  have htext : v.text.toList = dottedNumerals [v.major, v.minor, v.patch] ++ marked '-' v.pre := by
    rw [Version.text, String.toList_ofList, Version.chars, hv.build]
    simp [dottedNumerals, marked]
  rw [htext]
  simpa using hspelling

/-- **Reading is a normalization.** The written form of what was read is read as the same version, and so are all
    spellings of a version. -/
theorem parse_normalizes :
    (∀ raw v, parse raw = .ok v → parse v.text = .ok v) ∧
      ∀ v, Nameable v → ∀ raw, Spelling v raw.toList → parse raw = .ok v := by
  refine ⟨fun raw v h => ?_, fun v hv raw h => (h.parsesTo hv).parse_eq⟩
  have hv : Nameable v := nameable_of_parse h
  exact ((spelling_text hv).parsesTo hv).parse_eq

/-- A release candidate, written as the toolchain writes it, among blanks and with an experiment: it is a spelling of
    `1.24.0-rc1`. -/
theorem parse_normalizes_candidate :
    let v : Version := { major := 1, minor := 24, patch := 0, pre := "rc1" }
    parse "\tgo1.24rc1 X:strictfipsruntime\n" = .ok v ∧ parse "1.24.0-rc1" = .ok v := by
  intro v
  have hv : Nameable v := ⟨by decide, by decide, by decide, validPrerelease_iff.mp (by decide), rfl⟩
  have blank : ∀ c ∈ ['\t'] ++ ['\n'], isBlank c = true :=
    List.forall_mem_cons.mpr ⟨rfl, List.forall_mem_singleton.mpr rfl⟩
  have hletter : v.pre.toList = 'r' :: ['c', '1'] := by decide
  have htext : "\tgo1.24rc1 X:strictfipsruntime\n".toList =
      ['\t'] ++ (['g', 'o'] ++ (dottedNumerals [v.major, v.minor] ++ v.pre.toList)) ++
        (' ' :: "X:strictfipsruntime".toList ++ ['\n']) := by decide +kernel
  have hspelling : Spelling v "\tgo1.24rc1 X:strictfipsruntime\n".toList := by
    rw [htext]
    exact .mk blank (Or.inr rfl) (.two rfl) (.bare rfl hletter) (.text _)
  have hparse := parse_normalizes.2 v hv _ hspelling
  have hprinted := parse_normalizes.1 _ v hparse
  have htext : v.text = "1.24.0-rc1" := by decide +kernel
  rw [htext] at hprinted
  exact ⟨hparse, hprinted⟩

end FipsAudit.Toolchain
