import FipsAudit.Proofs.Text.Number
import FipsAudit.Semver.Parser

/-!
# `FipsAudit.Proofs.Semver.Comparator` — comparators are read back

A comparator that was read can be written and read again. Writing drops what a comparator does not keep: blanks, stars
below stars, build metadata.

* `number_decimal`, `markedIdentifiers_marked` — numbers and pre-releases are read back.
* `Comparator.Readable` — the comparators that there are texts for; `readable_of_comparator` finds them where they were
  read.
* `Comparator.chars` — the written form; `comparator_chars` reads it back, up to the comma or the end after it.
-/

namespace FipsAudit.Semver

open FipsAudit.Text

/-! ## Readers in sequence -/

/-- A reader that succeeds hands on what it read. -/
theorem exists_of_bind_eq_ok {ε α β : Type} {x : Except ε α} {f : α → Except ε β} {b : β} (h : (x >>= f) = .ok b) :
    ∃ a, x = .ok a ∧ f a = .ok b := by
  cases x with
  | error e => cases h
  | ok a => exact ⟨a, rfl, h⟩

/-- The patch number or star: after a star for the minor number there can only be another star. -/
def patchAfter (minor : Option (Option Nat)) (s : List Char) :
    Except ParseError (Option (Option Nat) × List Char) :=
  match minor, s with
  | some none, '.' :: r =>
    match star? r with
    | some (_, rest) => pure (some none, rest)
    | none => throw .afterStar
  | _, _ => dotted .patch s

theorem patchAfter_of_not {minor : Option (Option Nat)} {s : List Char}
    (h : ∀ r, minor = some none → s = '.' :: r → False) : patchAfter minor s = dotted .patch s := by
  unfold patchAfter
  split
  · exact (h _ rfl rfl).elim
  · rfl

/-- The operator by its sign; without one it depends on whether there is a star. -/
def chosen (sign : Option (Operator × List Char)) (starred : Bool) : Operator :=
  match sign with
  | some (op, _) => op
  | none => if starred then .wildcard else .caret

/-- The comparator of the parts that were read, with its pre-release if it has a patch number. -/
def assemble (sign : Option (Operator × List Char)) (major : Nat) (minor patch : Option (Option Nat))
    (s : List Char) : Except ParseError (Comparator × Part × List Char) := do
  let op := chosen sign (minor == some none || patch == some none)
  let minorNumber := minor.getD none
  let patchNumber := patch.getD none
  let part : Part := if patch.isSome then .patch else if minor.isSome then .minor else .major
  if patchNumber.isSome then
    let (pre, s') ← markedIdentifiers .pre '-' s
    let (build, s'') ← markedIdentifiers .build '+' s'
    let part := if !build.isEmpty then .build else if !pre.isEmpty then .pre else part
    return ({ op, major, minor := minorNumber, patch := patchNumber, pre := String.ofList pre }, part, skipSpaces s'')
  else
    return ({ op, major, minor := minorNumber, patch := patchNumber }, part, skipSpaces s)

/-- A comparator is read part by part. -/
theorem comparator_eq (s : List Char) :
    comparator s = (do
      let (major, s₁) ← number .major (skipSpaces (((operator? s).map (·.2)).getD s))
      let (minor, s₂) ← dotted .minor s₁
      let (patch, s₃) ← patchAfter minor s₂
      assemble (operator? s) major minor patch s₃) := by
  unfold comparator
  refine bind_congr fun p₁ => bind_congr fun p₂ => ?_
  obtain ⟨major, s₁⟩ := p₁
  obtain ⟨minor, s₂⟩ := p₂
  simp only
  split
  next r =>
    rw [patchAfter]
    cases star? r with
    | none => rfl
    | some p => rfl
  next h =>
    rw [patchAfter_of_not h]
    rfl

/-! ## Numbers -/

variable {part : Part} {s rest : List Char}

theorem number_lt {n : Nat} (h : number part s = .ok (n, rest)) : n < componentLimit := by
  simp only [number] at h
  split at h
  · split at h <;> cases h
  · split at h
    · cases h
    · split at h
      next hlt =>
        cases h
        exact hlt
      next => cases h

theorem hasLeadingZero_decimal (n : Nat) : hasLeadingZero (decimal n) = false := by
  rcases Nat.eq_zero_or_pos n with rfl | hpos
  · rfl
  · have hhead : ((decimal n).head? == some '0') = false := beq_false_of_ne (head?_decimal_ne_zero hpos)
    rw [hasLeadingZero, hhead, Bool.and_false]

/-- A numeral is read back, if nothing goes on that could belong to it. -/
theorem number_decimal (part : Part) {n : Nat} (h : n < componentLimit) (hrest : Stops Char.isDigit rest) :
    number part (decimal n ++ rest) = .ok (n, rest) := by
  have hdigits : ∀ c ∈ decimal n, c.isDigit = true := fun c hc => isDigit_of_mem_decimal hc
  have hsome : ((decimal n).isEmpty) = false := by simp [decimal_ne_nil]
  simp only [number, takeWhile_append hdigits hrest, dropWhile_append hdigits hrest, hsome, hasLeadingZero_decimal,
    natOfDigits_decimal, if_pos h, Bool.false_eq_true, if_false]

/-- A numeral begins with a digit. -/
theorem exists_decimal_eq_cons (n : Nat) : ∃ d r, decimal n = d :: r ∧ d.isDigit = true := by
  obtain ⟨d, r, hcons⟩ := List.exists_cons_of_ne_nil (decimal_ne_nil n)
  exact ⟨d, r, hcons, isDigit_of_mem_decimal (hcons ▸ List.mem_cons_self)⟩

theorem star?_digit {d : Char} (h : d.isDigit = true) (rest : List Char) : star? (d :: rest) = none := by
  rw [star?, if_neg]
  rintro (rfl | rfl | rfl) <;> cases h

theorem star?_decimal (n : Nat) (rest : List Char) : star? (decimal n ++ rest) = none := by
  obtain ⟨d, r, hcons, hdigit⟩ := exists_decimal_eq_cons n
  rw [hcons]
  exact star?_digit hdigit _

theorem dotted_lt {number? : Option (Option Nat)} (h : dotted part s = .ok (number?, rest)) :
    ∀ n, number?.getD none = some n → n < componentLimit := by
  intro n hn
  unfold dotted at h
  split at h
  · split at h
    · cases h
      cases hn
    · obtain ⟨⟨m, r⟩, hnumber, heq⟩ := exists_of_bind_eq_ok h
      cases heq
      cases hn
      exact number_lt hnumber
  · cases h
    cases hn

/-- A number after a dot is read back. -/
theorem dotted_decimal (part : Part) {n : Nat} (h : n < componentLimit) (hrest : Stops Char.isDigit rest) :
    dotted part ('.' :: (decimal n ++ rest)) = .ok (some (some n), rest) := by
  simp only [dotted, star?_decimal, number_decimal part h hrest]
  rfl

theorem dotted_of_stops (part : Part) (h : Stops (· == '.') s) : dotted part s = .ok (none, s) := by
  unfold dotted
  split
  next r => exact absurd (h '.' r rfl) (by decide)
  next => rfl

/-! ## Identifiers -/

/-- A pre-release that can be written down and read: identifiers between dots, or nothing. -/
structure ReadableIdentifiers (part : Part) (run : List Char) : Prop where
  /-- Only certain characters occur. -/
  chars : ∀ c ∈ run, (isIdentifierChar c || c == '.') = true
  /-- There is no fault in them. -/
  faultless : run ≠ [] → identifierFault part (pieces '.' run) = none

theorem readable_of_identifiers {run : List Char} (h : identifiers part s = .ok (run, rest)) :
    ReadableIdentifiers part run := by
  simp only [identifiers] at h
  split at h
  · cases h
    exact ⟨by simp, fun hne => absurd rfl hne⟩
  · split at h
    · cases h
    next hfault =>
      cases h
      exact ⟨List.all_eq_true.mp List.all_takeWhile, fun _ => hfault⟩

theorem readable_of_markedIdentifiers {mark : Char} {run : List Char}
    (h : markedIdentifiers part mark s = .ok (run, rest)) : ReadableIdentifiers part run := by
  unfold markedIdentifiers at h
  split at h
  · split at h
    · obtain ⟨⟨run', rest'⟩, hrun, heq⟩ := exists_of_bind_eq_ok h
      simp only at heq
      split at heq
      · cases heq
      · cases heq
        exact readable_of_identifiers hrun
    · cases h
      exact ⟨by simp, fun hne => absurd rfl hne⟩
  · cases h
    exact ⟨by simp, fun hne => absurd rfl hne⟩

/-- Identifiers after their mark are read back, if nothing goes on that could belong to them. -/
theorem markedIdentifiers_marked {mark : Char} {run : String} (h : ReadableIdentifiers part run.toList)
    (hrest : Stops (fun c => isIdentifierChar c || c == '.') rest) (hmark : Stops (· == mark) rest) :
    markedIdentifiers part mark (marked mark run ++ rest) = .ok (run.toList, rest) := by
  unfold marked
  split
  next hempty =>
    rw [String.isEmpty_iff.mp hempty]
    show markedIdentifiers part mark rest = .ok ([], rest)
    unfold markedIdentifiers
    split
    next c r =>
      rw [if_neg]
      rintro rfl
      exact absurd (hmark c r rfl) (by simp)
    next => rfl
  next hsome =>
    have hne : run.toList ≠ [] := fun hnil => hsome (String.isEmpty_iff.mpr (String.toList_eq_nil_iff.mp hnil))
    have hisEmpty : run.toList.isEmpty = false := by simpa using hne
    rw [List.cons_append, markedIdentifiers, if_pos rfl]
    simp only [identifiers, takeWhile_append h.chars hrest, dropWhile_append h.chars hrest, hisEmpty,
      h.faultless hne, Bool.false_eq_true, if_false]
    simp only [bind, Except.bind, hisEmpty, Bool.false_eq_true, if_false]

/-! ## Comparators that can be read -/

/-- A comparator that there is a text for. -/
structure Comparator.Readable (c : Comparator) : Prop where
  /-- The major number is in range. -/
  major : c.major < componentLimit
  /-- So is the minor number. -/
  minor : ∀ n, c.minor = some n → n < componentLimit
  /-- So is the patch number. -/
  patch : ∀ n, c.patch = some n → n < componentLimit
  /-- Parts are left out from the end. -/
  order : c.minor = none → c.patch = none
  /-- The star stands for a part that is left out. -/
  star : c.op = .wildcard → c.patch = none
  /-- Only full versions have a pre-release. -/
  full : c.patch = none → c.pre = ""
  /-- It is a list of identifiers. -/
  pre : ReadableIdentifiers .pre c.pre.toList

theorem operator?_ne_wildcard {op : Operator} (h : operator? s = some (op, rest)) : op ≠ .wildcard := by
  unfold operator? at h
  split at h <;> cases h <;> decide

theorem stops_of_dotted_none (h : dotted part s = .ok (none, rest)) : Stops (· == '.') rest := by
  unfold dotted at h
  split at h
  · split at h
    · cases h
    · obtain ⟨_, _, heq⟩ := exists_of_bind_eq_ok h
      cases heq
  next hdot =>
    cases h
    rintro c r rfl
    exact beq_false_of_ne fun hc => hdot r (hc ▸ rfl)

theorem patchAfter_lt {minor patch : Option (Option Nat)} (h : patchAfter minor s = .ok (patch, rest)) :
    ∀ n, patch.getD none = some n → n < componentLimit := by
  unfold patchAfter at h
  split at h
  · split at h
    · cases h
      nofun
    · cases h
  · exact dotted_lt h

/-- After a star there is no number. -/
theorem patchAfter_star {patch : Option (Option Nat)} (h : patchAfter (some none) s = .ok (patch, rest)) :
    patch.getD none = none := by
  by_cases hdot : Stops (· == '.') s
  · rw [patchAfter_of_not (fun r _ hs => absurd (hdot _ _ hs) (by decide)), dotted_of_stops .patch hdot] at h
    cases h
    rfl
  · unfold patchAfter at h
    split at h
    · split at h
      · cases h
        rfl
      · cases h
    next hnot =>
      refine absurd (fun c r hs => ?_) hdot
      exact beq_false_of_ne fun hc => hnot r rfl (hc ▸ hs)

/-- The wildcard is never chosen without a star. -/
theorem starred_of_chosen {sign : Option (Operator × List Char)} {starred : Bool}
    (hsign : ∀ op r, sign = some (op, r) → op ≠ .wildcard) (h : chosen sign starred = .wildcard) : starred = true := by
  unfold chosen at h
  split at h
  · exact absurd h (hsign _ _ rfl)
  · cases starred with
    | true => rfl
    | false => cases h

/-- **A comparator that was read is one that there is a text for.** -/
theorem readable_of_comparator {c : Comparator} (h : comparator s = .ok (c, part, rest)) : c.Readable := by
  rw [comparator_eq] at h
  obtain ⟨⟨major, s₁⟩, hmajor, h⟩ := exists_of_bind_eq_ok h
  obtain ⟨⟨minor, s₂⟩, hminor, h⟩ := exists_of_bind_eq_ok h
  obtain ⟨⟨patch, s₃⟩, hpatch, h⟩ := exists_of_bind_eq_ok h
  have horder : minor.getD none = none → patch.getD none = none := by
    intro hnone
    rcases minor with _ | _ | n
    · have hstops := stops_of_dotted_none hminor
      rw [patchAfter_of_not (by simp), dotted_of_stops .patch hstops] at hpatch
      cases hpatch
      rfl
    · exact patchAfter_star hpatch
    · cases hnone
  have hstar : chosen (operator? s) (minor == some none || patch == some none) = .wildcard →
      patch.getD none = none := by
    intro hop
    rcases Bool.or_eq_true_iff.mp (starred_of_chosen (fun op r => operator?_ne_wildcard) hop) with hstarred | hstarred
    · rw [eq_of_beq hstarred] at horder
      exact horder rfl
    · rw [eq_of_beq hstarred]
      rfl
  unfold assemble at h
  simp only at h
  split at h
  next hsome =>
    obtain ⟨⟨pre, s₄⟩, hpre, h⟩ := exists_of_bind_eq_ok h
    obtain ⟨⟨build, s₅⟩, hbuild, h⟩ := exists_of_bind_eq_ok h
    cases h
    refine ⟨number_lt hmajor, dotted_lt hminor, patchAfter_lt hpatch, horder, hstar, fun hnone => ?_, ?_⟩
    · simp only at hnone
      rw [hnone] at hsome
      cases hsome
    · simp only [String.toList_ofList]
      exact readable_of_markedIdentifiers hpre
  next hnone =>
    cases h
    exact ⟨number_lt hmajor, dotted_lt hminor, patchAfter_lt hpatch, horder, hstar, fun _ => rfl,
      by simp, fun hne => absurd rfl hne⟩

/-! ## Comparators that are written -/

/-- What the wildcard writes in place of the parts that are left out. -/
def starChars (op : Operator) : List Char := if op = .wildcard then ['.', '*'] else []

/-- The written form of a comparator after its major number. -/
def Comparator.tailChars (c : Comparator) : List Char :=
  match c.minor, c.patch with
  | none, _ => starChars c.op
  | some minor, none => '.' :: (decimal minor ++ starChars c.op)
  | some minor, some patch => '.' :: (decimal minor ++ '.' :: (decimal patch ++ marked '-' c.pre))

/-- The written form of a comparator, as characters. -/
def Comparator.chars (c : Comparator) : List Char := c.op.text.toList ++ (decimal c.major ++ c.tailChars)

theorem Comparator.toList_text (c : Comparator) : c.text.toList = c.chars := by
  obtain ⟨op, major, minor, patch, pre⟩ := c
  have hstar : (if op = .wildcard then ".*" else "").toList = starChars op := by
    unfold starChars
    split <;> rfl
  unfold text chars tailChars
  cases minor with
  | none => simp only [String.toList_append, String.toList_ofList, hstar, List.append_assoc]
  | some m =>
      cases patch with
      | none => simp [String.toList_append, hstar]
      | some p => simp [String.toList_append]

/-- The end of a comparator: the end of the range, or a comma. -/
inductive Ends : List Char → Prop
  | last : Ends []
  | comma (rest : List Char) : Ends (',' :: rest)

theorem Ends.stops {p : Char → Bool} (h : Ends s) (hcomma : p ',' = false) : Stops p s := by
  cases h with
  | last => exact stops_nil p
  | comma r => exact stops_cons hcomma r

theorem Ends.skipSpaces_eq (h : Ends s) : skipSpaces s = s := by
  cases h <;> rfl

theorem skipSpaces_digit {d : Char} (h : d.isDigit = true) (rest : List Char) : skipSpaces (d :: rest) = d :: rest := by
  have hspace : d ≠ ' ' := ne_of_isDigit h rfl
  exact List.dropWhile_cons_of_neg (by simpa using hspace)

/-- A sign is read back in front of a digit; the wildcard has none. -/
theorem operator?_text (op : Operator) {d : Char} (h : d.isDigit = true) (rest : List Char) :
    operator? (op.text.toList ++ d :: rest) = if op = .wildcard then none else some (op, d :: rest) := by
  have hequal : d ≠ '=' := ne_of_isDigit h rfl
  have hgreater : d ≠ '>' := ne_of_isDigit h rfl
  have hless : d ≠ '<' := ne_of_isDigit h rfl
  have htilde : d ≠ '~' := ne_of_isDigit h rfl
  have hcaret : d ≠ '^' := ne_of_isDigit h rfl
  cases op with
  | exact => rfl
  | greaterEq => rfl
  | lessEq => rfl
  | tilde => rfl
  | caret => rfl
  | greater =>
      show operator? ('>' :: d :: rest) = some (.greater, d :: rest)
      unfold operator?
      split <;> simp_all
  | less =>
      show operator? ('<' :: d :: rest) = some (.less, d :: rest)
      unfold operator?
      split <;> simp_all
  | wildcard =>
      show operator? (d :: rest) = none
      unfold operator?
      split <;> simp_all

/-- What follows the major number does not go on with a digit. -/
theorem Comparator.stops_tailChars (c : Comparator) (h : Ends rest) : Stops Char.isDigit (c.tailChars ++ rest) := by
  have hstar : Stops Char.isDigit (starChars c.op ++ rest) := by
    unfold starChars
    split
    · exact stops_cons rfl _
    · exact h.stops rfl
  unfold tailChars
  split
  · exact hstar
  · exact stops_cons rfl _
  · exact stops_cons rfl _

/-- The sign of an operator that was read: the wildcard has none. -/
def signOf (op : Operator) (s : List Char) : Option (Operator × List Char) :=
  if op = .wildcard then none else some (op, s)

theorem chosen_signOf {op : Operator} {starred : Bool} (h : op = .wildcard → starred = true) (s : List Char) :
    chosen (signOf op s) starred = op := by
  unfold signOf
  split
  next hop =>
    rw [chosen, h hop, hop]
    rfl
  next => rfl

/-- Parts without a patch number are a comparator. -/
theorem assemble_partial {op : Operator} {major : Nat} {minor patch : Option (Option Nat)} {s' : List Char}
    (hpatch : patch.getD none = none) (hstar : op = .wildcard → (minor == some none || patch == some none) = true)
    (hrest : Ends rest) :
    ∃ part, assemble (signOf op s') major minor patch rest =
      .ok (⟨op, major, minor.getD none, none, ""⟩, part, rest) := by
  unfold assemble
  simp only [hpatch, chosen_signOf hstar, hrest.skipSpaces_eq]
  exact ⟨_, rfl⟩

/-- Three numbers with a pre-release are a comparator. -/
theorem assemble_full {op : Operator} {major patch : Nat} {minor : Option (Option Nat)} {pre : String}
    {s' : List Char} (hop : op ≠ .wildcard) (hpre : ReadableIdentifiers .pre pre.toList) (hrest : Ends rest) :
    ∃ part, assemble (signOf op s') major minor (some (some patch)) (marked '-' pre ++ rest) =
      .ok (⟨op, major, minor.getD none, some patch, pre⟩, part, rest) := by
  have hmarked : markedIdentifiers .pre '-' (marked '-' pre ++ rest) = .ok (pre.toList, rest) :=
    markedIdentifiers_marked hpre (hrest.stops rfl) (hrest.stops rfl)
  have hbuild : markedIdentifiers .build '+' rest = .ok ([], rest) := by
    cases hrest <;> rfl
  unfold assemble
  simp only [chosen_signOf (fun h => absurd h hop), hmarked, Option.getD_some, Option.isSome_some, if_true]
  simp only [bind, Except.bind, hbuild, hrest.skipSpaces_eq, String.ofList_toList]
  exact ⟨_, rfl⟩

/-- A comparator is read back if its parts are. -/
theorem comparator_of_parts {c : Comparator} {minor patch : Option (Option Nat)} {s₁ s₂ : List Char}
    (hmajor : c.major < componentLimit) (hrest : Ends rest)
    (hminor : dotted .minor (c.tailChars ++ rest) = .ok (minor, s₁)) (hpatch : patchAfter minor s₁ = .ok (patch, s₂))
    (hassemble : ∀ s', ∃ part, assemble (signOf c.op s') c.major minor patch s₂ = .ok (c, part, rest)) :
    ∃ part, comparator (c.chars ++ rest) = .ok (c, part, rest) := by
  obtain ⟨d, r, hdecimal, hdigit⟩ := exists_decimal_eq_cons c.major
  have hchars : c.chars ++ rest = c.op.text.toList ++ (decimal c.major ++ (c.tailChars ++ rest)) := by
    rw [Comparator.chars, List.append_assoc, List.append_assoc]
  have hoperator : operator? (c.chars ++ rest) = signOf c.op (decimal c.major ++ (c.tailChars ++ rest)) := by
    rw [hchars, hdecimal]
    exact operator?_text c.op hdigit _
  have hskip : skipSpaces (((operator? (c.chars ++ rest)).map (·.2)).getD (c.chars ++ rest)) =
      decimal c.major ++ (c.tailChars ++ rest) := by
    have hnumber : skipSpaces (decimal c.major ++ (c.tailChars ++ rest)) =
        decimal c.major ++ (c.tailChars ++ rest) := by
      rw [hdecimal]
      exact skipSpaces_digit hdigit _
    rw [hoperator, signOf]
    split
    next hstar =>
      rw [hchars, hstar]
      exact hnumber
    next => exact hnumber
  obtain ⟨part, hpart⟩ := hassemble (decimal c.major ++ (c.tailChars ++ rest))
  refine ⟨part, ?_⟩
  rw [comparator_eq, hskip, number_decimal .major hmajor (c.stops_tailChars hrest), hoperator]
  simp only [bind, Except.bind, hminor, hpatch]
  exact hpart

theorem patchAfter_of_stops {minor : Option (Option Nat)} (h : Stops (· == '.') s) :
    patchAfter minor s = .ok (none, s) := by
  rw [patchAfter_of_not fun r _ hs => absurd (h _ _ hs) (by decide), dotted_of_stops .patch h]

/-- What is read after the major number, where there is no patch number: perhaps a minor number, and a star exactly
    for the wildcard. -/
structure ReadsTail (c : Comparator) (rest : List Char) (minor patch : Option (Option Nat)) (s : List Char) : Prop where
  /-- The minor number or its star. -/
  minorRead : dotted .minor (c.tailChars ++ rest) = .ok (minor, s)
  /-- The star for the patch number, if any. -/
  patchRead : patchAfter minor s = .ok (patch, rest)
  /-- The minor number is that of the comparator. -/
  minor_eq : minor.getD none = c.minor
  /-- There is no patch number. -/
  patch_eq : patch.getD none = none
  /-- The wildcard is recognized by its star. -/
  starred : c.op = .wildcard → (minor == some none || patch == some none) = true

/-- The star takes the place of the first part that is left out. -/
theorem readsTail_star {c : Comparator} (h : c.Readable) (hop : c.op = .wildcard) (hrest : Ends rest) :
    ∃ minor patch s, ReadsTail c rest minor patch s := by
  obtain ⟨op, major, minor, patch, pre⟩ := c
  obtain rfl : op = .wildcard := hop
  obtain rfl : patch = none := h.star rfl
  have hdot : Stops (· == '.') rest := hrest.stops rfl
  cases minor with
  | none => exact ⟨some none, none, rest, rfl, patchAfter_of_stops hdot, rfl, rfl, fun _ => rfl⟩
  | some m =>
      refine ⟨some (some m), some none, '.' :: '*' :: rest, ?_, rfl, rfl, rfl, fun _ => rfl⟩
      show dotted .minor ('.' :: (decimal m ++ starChars .wildcard) ++ rest) = _
      rw [List.cons_append, List.append_assoc]
      exact dotted_decimal .minor (h.minor m rfl) (stops_cons rfl _)

/-- Without a star nothing follows the parts that are there. -/
theorem readsTail_short {c : Comparator} (h : c.Readable) (hop : c.op ≠ .wildcard) (hpatch : c.patch = none)
    (hrest : Ends rest) : ∃ minor patch s, ReadsTail c rest minor patch s := by
  obtain ⟨op, major, minor, patch, pre⟩ := c
  obtain rfl : patch = none := hpatch
  have hstar : starChars op = [] := if_neg hop
  have hdot : Stops (· == '.') rest := hrest.stops rfl
  cases minor with
  | none =>
      refine ⟨none, none, rest, ?_, patchAfter_of_stops hdot, rfl, rfl, fun hwildcard => absurd hwildcard hop⟩
      show dotted .minor (starChars op ++ rest) = _
      rw [hstar]
      exact dotted_of_stops .minor hdot
  | some m =>
      refine ⟨some (some m), none, rest, ?_, patchAfter_of_stops hdot, rfl, rfl, fun hwildcard => absurd hwildcard hop⟩
      show dotted .minor ('.' :: (decimal m ++ starChars op) ++ rest) = _
      rw [hstar, List.append_nil]
      exact dotted_decimal .minor (h.minor m rfl) (hrest.stops rfl)

/-- A comparator without a patch number is read back. -/
theorem comparator_partial {c : Comparator} (h : c.Readable) (hpatch : c.patch = none) (hrest : Ends rest) :
    ∃ part, comparator (c.chars ++ rest) = .ok (c, part, rest) := by
  have htail : ∃ minor patch s, ReadsTail c rest minor patch s := by
    by_cases hop : c.op = .wildcard
    · exact readsTail_star h hop hrest
    · exact readsTail_short h hop hpatch hrest
  obtain ⟨minor, patch, s, htail⟩ := htail
  have hc : (⟨c.op, c.major, minor.getD none, none, ""⟩ : Comparator) = c := by
    rw [htail.minor_eq, ← hpatch, ← h.full hpatch]
  refine comparator_of_parts h.major hrest htail.minorRead htail.patchRead fun s' => ?_
  obtain ⟨part, hpart⟩ := assemble_partial htail.patch_eq htail.starred hrest
  exact ⟨part, hpart.trans (by rw [hc])⟩

/-- So is one with three numbers, and with the pre-release that only such a one can have. -/
theorem comparator_full {c : Comparator} {m n : Nat} (h : c.Readable) (hminor : c.minor = some m)
    (hpatch : c.patch = some n) (hrest : Ends rest) : ∃ part, comparator (c.chars ++ rest) = .ok (c, part, rest) := by
  obtain ⟨op, major, minor, patch, pre⟩ := c
  obtain rfl : minor = some m := hminor
  obtain rfl : patch = some n := hpatch
  have hop : op ≠ .wildcard := fun hop => nomatch h.star hop
  have hpre : Stops Char.isDigit (marked '-' pre ++ rest) := by
    unfold marked
    split
    · exact hrest.stops rfl
    · exact stops_cons rfl _
  have hminorRead : dotted .minor (Comparator.tailChars ⟨op, major, some m, some n, pre⟩ ++ rest) =
      .ok (some (some m), '.' :: (decimal n ++ (marked '-' pre ++ rest))) := by
    show dotted .minor ('.' :: (decimal m ++ '.' :: (decimal n ++ marked '-' pre)) ++ rest) = _
    rw [List.cons_append, List.append_assoc, List.cons_append, List.append_assoc]
    exact dotted_decimal .minor (h.minor m rfl) (stops_cons rfl _)
  have hpatchRead : patchAfter (some (some m)) ('.' :: (decimal n ++ (marked '-' pre ++ rest))) =
      .ok (some (some n), marked '-' pre ++ rest) :=
    dotted_decimal .patch (h.patch n rfl) hpre
  exact comparator_of_parts h.major hrest hminorRead hpatchRead fun s' => assemble_full hop h.pre hrest

/-- **A comparator is read back**, up to the comma or the end after it. -/
theorem comparator_chars {c : Comparator} (h : c.Readable) (hrest : Ends rest) :
    ∃ part, comparator (c.chars ++ rest) = .ok (c, part, rest) := by
  cases hpatch : c.patch with
  | none => exact comparator_partial h hpatch hrest
  | some n =>
      cases hminor : c.minor with
      | none => exact absurd (h.order hminor) (by simp [hpatch])
      | some m => exact comparator_full h hminor hpatch hrest

end FipsAudit.Semver
