import FipsAudit.Proofs.Semver.Prerelease
import FipsAudit.Proofs.Text.Blank
import FipsAudit.Toolchain

/-!
# `FipsAudit.Proofs.Toolchain.Grammar` — which texts name a toolchain

A toolchain string is read in stages, and each stage may find a fault. What the stages find is described from outside:
the parts of a string by what they are joined from, and the faults by the first thing that is wrong.

* `WithoutLeading`, `Remark`, `Named` — the part of a string that names the version.
* `Anatomy`, `anatomy_iff` — its numbers and what follows them.
* `IsComponent`, `components_eq_ok_iff`, `components_eq_error_iff` — parts that are numbers.
* `ParsesTo`, `parse_eq_iff` — every string, with what is read from it.
-/

namespace FipsAudit.Toolchain

open FipsAudit.Text FipsAudit.Semver

variable {raw w l r core suffix : List Char}

/-! ## The part that names the version -/

/-- `r` is `l` without one leading `pre`, or `l` itself if it does not begin so. -/
def WithoutLeading (pre l r : List Char) : Prop := l = pre ++ r ∨ ¬pre <+: l ∧ l = r

theorem dropLeading_eq_iff {pre : List Char} : dropLeading pre l = r ↔ WithoutLeading pre l r := by
  rw [dropLeading, WithoutLeading]
  cases hafter : after? pre l with
  | some rest =>
      obtain rfl : l = pre ++ rest := after?_eq_some_iff.mp hafter
      rw [Option.getD_some, List.append_cancel_left_eq, eq_comm]
      exact (or_iff_left fun h => h.1 (List.prefix_append pre rest)).symm
  | none =>
      have hnot : ¬pre <+: l := by
        rintro ⟨rest, hrest⟩
        rw [after?_eq_some_iff.mpr hrest.symm] at hafter
        cases hafter
      rw [Option.getD_none, and_iff_right hnot]
      exact (or_iff_right fun h => hnot ⟨r, h.symm⟩).symm

/-- What may follow the name of a version: nothing, or a space with any text. -/
inductive Remark : List Char → Prop
  /-- Nothing. -/
  | none : Remark []
  /-- A space with any text. -/
  | text (r : List Char) : Remark (' ' :: r)

theorem Remark.stops {rest : List Char} (h : Remark rest) : Stops (· ≠ ' ') rest := by
  cases h with
  | none => exact stops_nil _
  | text r => exact stops_cons rfl r

theorem Remark.of_stops {rest : List Char} (h : Stops (· ≠ ' ') rest) : Remark rest := by
  cases rest with
  | nil => exact .none
  | cons c r =>
      obtain rfl : c = ' ' := by simpa using h c r rfl
      exact .text r

/-- `w` names the version in `raw`: without blanks at the ends and without one leading `go`, it is all up to the first
    space. -/
structure Named (raw w : List Char) : Prop where
  /-- After it comes a remark at most. -/
  around : ∃ body rest, Trimmed raw body ∧ WithoutLeading ['g', 'o'] body (w ++ rest) ∧ Remark rest
  /-- No space is in it. -/
  unspaced : ' ' ∉ w

theorem versionPart_eq_iff : versionPart raw = w ↔ Named raw w := by
  constructor
  · rintro rfl
    refine ⟨⟨_, (dropLeading ['g', 'o'] (trimChars raw)).dropWhile (· ≠ ' '), trimmed_trimChars raw, ?_,
      .of_stops (stops_dropWhile _ _)⟩, fun hspace => ?_⟩
    · rw [versionPart, List.takeWhile_append_dropWhile]
      exact dropLeading_eq_iff.mp rfl
    · simpa using List.all_eq_true.mp List.all_takeWhile ' ' hspace
  · rintro ⟨⟨body, rest, htrimmed, hleading, hremark⟩, hunspaced⟩
    have hne : ∀ c ∈ w, decide (c ≠ ' ') = true := fun c hc => decide_eq_true fun heq => hunspaced (heq ▸ hc)
    rw [versionPart, trimChars_eq_iff.mpr htrimmed, dropLeading_eq_iff.mpr hleading, takeWhile_append hne hremark.stops]

/-! ## Numbers, and what follows them -/

/-- The name of a version is `core`, all digits and dots that it begins with, and then `suffix`. -/
structure Anatomy (raw core suffix : List Char) : Prop where
  /-- Together they are the name. -/
  named : Named raw (core ++ suffix)
  /-- In front there are digits and dots only. -/
  core : ∀ c ∈ core, isCoreChar c = true
  /-- What follows begins with something else. -/
  suffix : Stops isCoreChar suffix

theorem anatomy_iff : Anatomy raw core suffix ↔
    (versionPart raw).takeWhile isCoreChar = core ∧ (versionPart raw).dropWhile isCoreChar = suffix := by
  constructor
  · rintro ⟨hnamed, hcore, hsuffix⟩
    rw [versionPart_eq_iff.mpr hnamed]
    exact ⟨takeWhile_append hcore hsuffix, dropWhile_append hcore hsuffix⟩
  · rintro ⟨rfl, rfl⟩
    refine ⟨versionPart_eq_iff.mp ?_, List.all_eq_true.mp List.all_takeWhile, stops_dropWhile _ _⟩
    rw [List.takeWhile_append_dropWhile]

/-- Every string has an anatomy. -/
theorem exists_anatomy (raw : List Char) : ∃ core suffix, Anatomy raw core suffix := ⟨_, _, anatomy_iff.mpr ⟨rfl, rfl⟩⟩

/-- A part of the numbers that is a number: not empty, and not too large. -/
def IsComponent (p : List Char) : Prop := p ≠ [] ∧ natOfDigits p < componentLimit

instance (p : List Char) : Decidable (IsComponent p) := inferInstanceAs (Decidable (_ ∧ _))

/-- A run of digits has a value exactly if it is a number. -/
theorem component?_eq {p : List Char} (h : ∀ c ∈ p, c.isDigit = true) :
    component? p = if IsComponent p then some (natOfDigits p) else none := by
  have hnumeric : isNumeric p = true := List.all_eq_true.mpr h
  rw [component?, hnumeric, Bool.not_true, Bool.or_false]
  by_cases hp : p = []
  · subst hp
    rfl
  · rw [if_neg (by rwa [List.isEmpty_iff])]
    by_cases hlt : natOfDigits p < componentLimit
    · rw [if_pos hlt, if_pos ⟨hp, hlt⟩]
    · rw [if_neg hlt, if_neg fun hcomponent => hlt hcomponent.2]

theorem components_of_forall {parts : List (List Char)} (hdigits : ∀ p ∈ parts, ∀ c ∈ p, c.isDigit = true)
    (h : ∀ p ∈ parts, IsComponent p) : components parts = .ok (parts.map natOfDigits) := by
  induction parts with
  | nil => rfl
  | cons p ps ih =>
      rw [List.forall_mem_cons] at hdigits h
      rw [components, component?_eq hdigits.1, if_pos h.1]
      show (components ps).map _ = _
      rw [ih hdigits.2 h.2]
      rfl

/-- The first part that is no number is the fault. -/
theorem components_of_first {before after : List (List Char)} {p : List Char}
    (hdigits : ∀ q ∈ before ++ p :: after, ∀ c ∈ q, c.isDigit = true) (hbefore : ∀ q ∈ before, IsComponent q)
    (hp : ¬IsComponent p) : components (before ++ p :: after) = .error p := by
  induction before with
  | nil => rw [List.nil_append, components, component?_eq (hdigits p List.mem_cons_self), if_neg hp]
  | cons q qs ih =>
      rw [List.cons_append, List.forall_mem_cons] at hdigits
      rw [List.forall_mem_cons] at hbefore
      rw [List.cons_append, components, component?_eq hdigits.1, if_pos hbefore.1]
      show (components (qs ++ p :: after)).map _ = _
      rw [ih hdigits.2 hbefore.2]
      rfl

/-- All parts are numbers, or there is a first one that is none. -/
theorem forall_or_first (parts : List (List Char)) : (∀ p ∈ parts, IsComponent p) ∨
    ∃ before p after, parts = before ++ p :: after ∧ (∀ q ∈ before, IsComponent q) ∧ ¬IsComponent p := by
  cases hfind : parts.find? fun p => decide (¬IsComponent p) with
  | none => exact Or.inl fun p hp => by simpa using List.find?_eq_none.mp hfind p hp
  | some p =>
      obtain ⟨hp, before, after, hparts, hbefore⟩ := List.find?_eq_some_iff_append.mp hfind
      exact Or.inr ⟨before, p, after, hparts, fun q hq => by simpa using hbefore q hq, of_decide_eq_true hp⟩

/-! ## Every string -/

/-- **What is read from a string.** Each fault is one that no earlier stage has found. -/
inductive ParsesTo (raw : String) : Except VersionError Version → Prop
  /-- There are no numbers. -/
  | missingNumber {suffix : List Char} (anatomy : Anatomy raw.toList [] suffix) :
      ParsesTo raw (.error (.missingNumber raw))
  /-- There are more than three parts. -/
  | tooManyComponents {core suffix : List Char} {parts : List (List Char)} (anatomy : Anatomy raw.toList core suffix)
      (found : core ≠ []) (separated : Separated '.' parts core) (count : 3 < parts.length) :
      ParsesTo raw (.error (.tooManyComponents (String.ofList core)))
  /-- A part is no number, and all before it are. -/
  | badComponent {core suffix p : List Char} {before after : List (List Char)}
      (anatomy : Anatomy raw.toList core suffix) (found : core ≠ [])
      (separated : Separated '.' (before ++ p :: after) core) (count : (before ++ p :: after).length ≤ 3)
      (numbers : ∀ q ∈ before, IsComponent q) (fault : ¬IsComponent p) :
      ParsesTo raw (.error (.badComponent (String.ofList p)))
  /-- What follows the numbers, without one hyphen, is no pre-release. -/
  | badPrerelease {core suffix pre : List Char} {parts : List (List Char)} (anatomy : Anatomy raw.toList core suffix)
      (found : core ≠ []) (separated : Separated '.' parts core) (count : parts.length ≤ 3)
      (numbers : ∀ p ∈ parts, IsComponent p) (unmarked : WithoutLeading ['-'] suffix pre) (given : pre ≠ [])
      (fault : ¬Prerelease pre) : ParsesTo raw (.error (.badPrerelease (String.ofList pre)))
  /-- All is well: missing numbers are zero, and there is no build metadata. -/
  | version {core suffix pre : List Char} {parts : List (List Char)} (anatomy : Anatomy raw.toList core suffix)
      (found : core ≠ []) (separated : Separated '.' parts core) (count : parts.length ≤ 3)
      (numbers : ∀ p ∈ parts, IsComponent p) (unmarked : WithoutLeading ['-'] suffix pre)
      (valid : pre = [] ∨ Prerelease pre) :
      ParsesTo raw (.ok {
        major := (parts.map natOfDigits).getD 0 0
        minor := (parts.map natOfDigits).getD 1 0
        patch := (parts.map natOfDigits).getD 2 0
        pre := String.ofList pre
        build := "" })

/-- The parts of the numbers are digits. -/
theorem Anatomy.isDigit_of_mem {parts : List (List Char)} (h : Anatomy raw core suffix)
    (hparts : Separated '.' parts core) : ∀ p ∈ parts, ∀ c ∈ p, c.isDigit = true := by
  intro p hp c hc
  have hcore : isCoreChar c = true := h.core c (hparts.mem_of_mem hp hc)
  rw [isCoreChar, Bool.or_eq_true, beq_iff_eq] at hcore
  exact hcore.resolve_right fun hdot => hparts.unbroken p hp (hdot ▸ hc)

/-- There is something that each string is read as. -/
theorem exists_parsesTo (raw : String) : ∃ r, ParsesTo raw r := by
  obtain ⟨core, suffix, anatomy⟩ := exists_anatomy raw.toList
  -- One stage after the other: a fault is only looked for where the stages before found none.
  by_cases found : core = []
  · subst found
    exact ⟨_, .missingNumber anatomy⟩
  have separated : Separated '.' (pieces '.' core) core := pieces_eq_iff.mp rfl
  by_cases count : 3 < (pieces '.' core).length
  · exact ⟨_, .tooManyComponents anatomy found separated count⟩
  rw [Nat.not_lt] at count
  rcases forall_or_first (pieces '.' core) with numbers | ⟨before, p, after, hparts, numbers, fault⟩
  · have unmarked : WithoutLeading ['-'] suffix (dropLeading ['-'] suffix) := dropLeading_eq_iff.mp rfl
    by_cases valid : validPrerelease (dropLeading ['-'] suffix) = true
    · exact ⟨_, .version anatomy found separated count numbers unmarked (validPrerelease_iff.mp valid)⟩
    · rw [validPrerelease_iff, not_or] at valid
      exact ⟨_, .badPrerelease anatomy found separated count numbers unmarked valid.1 valid.2⟩
  · rw [hparts] at separated count
    exact ⟨_, .badComponent anatomy found separated count numbers fault⟩

/-- A string is read as nothing else. -/
theorem ParsesTo.parse_eq {raw : String} {r : Except VersionError Version} (h : ParsesTo raw r) : parse raw = r := by
  cases h with
  | missingNumber anatomy =>
      simp only [parse, (anatomy_iff.mp anatomy).1, List.isEmpty_nil, if_true]
  | tooManyComponents anatomy found separated count =>
      simp only [parse, (anatomy_iff.mp anatomy).1, List.isEmpty_iff, if_neg found, pieces_eq_iff.mpr separated,
        gt_iff_lt, if_pos count]
  | badComponent anatomy found separated count numbers fault =>
      have hcomponents := components_of_first (anatomy.isDigit_of_mem separated) numbers fault
      simp only [parse, (anatomy_iff.mp anatomy).1, List.isEmpty_iff, if_neg found, pieces_eq_iff.mpr separated,
        gt_iff_lt, if_neg (Nat.not_lt.mpr count), hcomponents]
  | badPrerelease anatomy found separated count numbers unmarked given fault =>
      obtain ⟨hcore, hsuffix⟩ := anatomy_iff.mp anatomy
      have hcomponents := components_of_forall (anatomy.isDigit_of_mem separated) numbers
      have hvalid := mt validPrerelease_iff.mp (not_or.mpr ⟨given, fault⟩)
      simp only [parse, hcore, hsuffix, List.isEmpty_iff, if_neg found, pieces_eq_iff.mpr separated, gt_iff_lt,
        if_neg (Nat.not_lt.mpr count), hcomponents, dropLeading_eq_iff.mpr unmarked, if_neg hvalid]
  | version anatomy found separated count numbers unmarked valid =>
      obtain ⟨hcore, hsuffix⟩ := anatomy_iff.mp anatomy
      have hcomponents := components_of_forall (anatomy.isDigit_of_mem separated) numbers
      have hvalid := validPrerelease_iff.mpr valid
      simp only [parse, hcore, hsuffix, List.isEmpty_iff, if_neg found, pieces_eq_iff.mpr separated, gt_iff_lt,
        if_neg (Nat.not_lt.mpr count), hcomponents, dropLeading_eq_iff.mpr unmarked, if_pos hvalid]

/-- **The reader of toolchain strings follows its grammar**: from every string it reads what the grammar says, and each
    fault is the first that there is. -/
theorem parse_eq_iff (raw : String) (r : Except VersionError Version) : parse raw = r ↔ ParsesTo raw r := by
  constructor
  · rintro rfl
    obtain ⟨r, hr⟩ := exists_parsesTo raw
    rwa [hr.parse_eq]
  · exact ParsesTo.parse_eq

end FipsAudit.Toolchain
