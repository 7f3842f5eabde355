import FipsAudit.BuildInfo.ModuleText
import FipsAudit.Proofs.BuildInfo.Checked.Basic
import FipsAudit.Proofs.BuildInfo.Quoted
import FipsAudit.Proofs.Text.Pieces

/-!
# `FipsAudit.Proofs.BuildInfo.Checked.ModuleText` — reading the module text, step by step

A quoted key is looked through for its end, and cut off there by a byte offset. The offset is a sum of the sizes of the
characters up to the closing mark, and thus a boundary. The number of a numeric escape is a word of thirty-two bits, and
eight digits are just as many as it holds.

* `hexDigits_eq`, `unescape_eq` — escapes.
* `quotedLead_eq` — the end of a quoted key.
* `parseModuleText_eq` — the whole text, in range.
-/

namespace FipsAudit.BuildInfo.Checked

open Text

variable {s : List Char}

/-! ## Escapes -/

/-- The number of `count` hexadecimal digits at the front of `s`, as a word of thirty-two bits, and the rest. -/
def hexDigits : (count value : Nat) → List Char → Guarded (Option (Nat × List Char))
  | 0, value, s => return some (value, s)
  | count + 1, value, s => do
    let high ← mul 32 value 16
    match s with
    | [] => return none
    | c :: r =>
      match hexValue? c with
      | none => return none
      | some d => hexDigits count (← add 32 high d) r

theorem hexValue?_lt {c : Char} {d : Nat} (h : hexValue? c = some d) : d < 16 := by
  unfold hexValue? at h
  simp only [Char.le_def, UInt32.le_iff_toNat_le] at h
  split at h
  next hrange =>
    obtain rfl := Option.some.inj h
    have hhigh : c.toNat ≤ '9'.toNat := hrange.2
    have hends : '9'.toNat - '0'.toNat = 9 := by decide
    omega
  next =>
    split at h
    next hrange =>
      obtain rfl := Option.some.inj h
      have hhigh : c.toNat ≤ 'f'.toNat := hrange.2
      have hends : 'f'.toNat - 'a'.toNat = 5 := by decide
      omega
    next =>
      split at h
      next hrange =>
        obtain rfl := Option.some.inj h
        have hhigh : c.toNat ≤ 'F'.toNat := hrange.2
        have hends : 'F'.toNat - 'A'.toNat = 5 := by decide
        omega
      next => cases h

/-- **The digits to come have room in the word.** -/
theorem hexDigits_eq {count value : Nat} (s : List Char) (h : (value + 1) * 16 ^ count ≤ 2 ^ 32) :
    hexDigits count value s = .ok (hexDigits? count value s) := by
  induction count generalizing value s with
  | zero => rfl
  | succ count ih =>
      have hpos : 0 < 16 ^ count := Nat.pow_pos (by decide)
      have hroom : (value + 1) * 16 * 16 ^ count ≤ 2 ^ 32 := by
        rw [Nat.mul_assoc, Nat.mul_comm 16, ← Nat.pow_succ]
        exact h
      have hword : (value + 1) * 16 ≤ 2 ^ 32 := Nat.le_trans (Nat.le_mul_of_pos_right _ hpos) hroom
      rw [hexDigits, mul_of_lt (by omega), ok_bind]
      cases s with
      | nil => rfl
      | cons c r =>
          dsimp only
          rw [hexDigits?]
          cases hdigit : hexValue? c with
          | none => rfl
          | some d =>
              have hd := hexValue?_lt hdigit
              dsimp only
              rw [add_of_lt (by omega), ok_bind]
              refine ih r (Nat.le_trans (Nat.mul_le_mul_right _ ?_) hroom)
              omega

/-- The character of an escape after the backslash, and the rest. -/
def escape : List Char → Guarded (Option (Char × List Char))
  | [] => return none
  | c :: r =>
    match shortEscape? c with
    | some d => return some (d, r)
    | none =>
      match escapeDigits? c with
      | none => return none
      | some count => do
        match ← hexDigits count 0 r with
        | none => return none
        | some (n, rest) => return (charOfNat? n).map (·, rest)

/-- A numeric escape has eight digits at most. -/
theorem escapeDigits?_le {c : Char} {count : Nat} (h : escapeDigits? c = some count) : count ≤ 8 := by
  unfold escapeDigits? at h
  split at h <;> cases h <;> decide

theorem escape_eq (s : List Char) : escape s = .ok (escape? s) := by
  unfold escape escape?
  cases s with
  | nil => rfl
  | cons c r =>
      dsimp only
      cases shortEscape? c with
      | some d => rfl
      | none =>
          cases hcount : escapeDigits? c with
          | none => rfl
          | some count =>
              have hroom : (0 + 1) * 16 ^ count ≤ 2 ^ 32 := by
                rw [Nat.zero_add, Nat.one_mul]
                exact Nat.pow_le_pow_right (by decide : 0 < 16) (escapeDigits?_le hcount)
              dsimp only
              rw [hexDigits_eq r hroom, ok_bind]
              cases hexDigits? count 0 r with
              | none => rfl
              | some number => rfl

/-- The text of the characters between double quotes, appended to `seen`, which is in reverse. -/
def unescape (seen s : List Char) : Guarded (Option (List Char)) :=
  match s with
  | [] => return some seen.reverse
  | c :: r =>
    if c = '"' then return none
    else if c = '\\' then
      match _h : escape r with
      | .error trap => .error trap
      | .ok none => return none
      | .ok (some (d, rest)) => unescape (d :: seen) rest
    else unescape (c :: seen) r
termination_by s.length
decreasing_by
  · have := length_of_escape? (Except.ok.inj ((escape_eq r).symm.trans _h))
    simp only [List.length_cons]
    omega
  · simp

theorem unescape_eq (seen s : List Char) : unescape seen s = .ok (BuildInfo.unescape seen s) := by
  induction seen, s using BuildInfo.unescape.induct with
  | case1 seen =>
      rw [unescape, BuildInfo.unescape]
      rfl
  | case2 seen r =>
      rw [unescape, BuildInfo.unescape, if_pos rfl, if_pos rfl]
      rfl
  | case3 seen r hescape hquote =>
      have hchecked := escape_eq r
      rw [hescape] at hchecked
      rw [unescape, BuildInfo.unescape, if_neg hquote, if_neg hquote, if_pos rfl, if_pos rfl]
      split
      next trap h => cases hchecked.symm.trans h
      next h =>
        split
        next => rfl
        next d rest h' => cases hescape.symm.trans h'
      next d rest h => cases hchecked.symm.trans h
  | case4 seen r d rest hescape hquote ih =>
      have hchecked := escape_eq r
      rw [hescape] at hchecked
      rw [unescape, BuildInfo.unescape, if_neg hquote, if_neg hquote, if_pos rfl, if_pos rfl]
      split
      next trap h => cases hchecked.symm.trans h
      next h => cases hchecked.symm.trans h
      next d' rest' h =>
        cases hchecked.symm.trans h
        split
        next h' => cases hescape.symm.trans h'
        next d' rest' h' =>
          cases hescape.symm.trans h'
          exact ih
  | case5 seen c r hquote hplain ih =>
      rw [unescape, BuildInfo.unescape, if_neg hquote, if_neg hquote, if_neg hplain, if_neg hplain, ih]

/-- The text that a quoted literal stands for; `none` when `s` is no literal. -/
def unquote (s : List Char) : Guarded (Option (List Char)) :=
  match between? backQuote s with
  | some inner => return if backQuote ∈ inner then none else some inner
  | none =>
    match between? '"' s with
    | none => return none
    | some inner => unescape [] inner

theorem unquote_eq (s : List Char) : unquote s = .ok (BuildInfo.unquote s) := by
  rw [unquote, BuildInfo.unquote]
  cases between? backQuote s with
  | some inner => rfl
  | none =>
      cases between? '"' s with
      | none => rfl
      | some inner => exact unescape_eq [] inner

/-! ## The end of a literal -/

/-- Where a literal ends, as a byte offset; `offset` is that of the next character. -/
def literalEnd (mark : Char) (hidden : Bool) (offset : Nat) : List Char → Guarded (Option Nat)
  | [] => return none
  | c :: r =>
    if mark = '"' ∧ hidden = true then literalEnd mark false (offset + c.utf8Size) r
    else if mark = '"' ∧ c = '\\' then literalEnd mark true (offset + c.utf8Size) r
    else if c = mark then return some (← add 64 offset c.utf8Size)
    else literalEnd mark hidden (offset + c.utf8Size) r

/-- The quoted literal at the front of `s` with both marks. The first character is taken for the mark. -/
def quotedLead (s : List Char) : Guarded (Option (List Char)) :=
  match s with
  | [] => return none
  | mark :: r => do
    match ← literalEnd mark false mark.utf8Size r with
    | none => return none
    | some stop => return some (← textTo s stop)

/-- The offset counts the bytes of what was seen, so the sum at the end is no more than the size of the text. -/
theorem literalEnd_eq {mark : Char} {hidden : Bool} {seen : List Char} (hhidden : hidden = true → mark = '"')
    (hsize : Utf8.size seen + Utf8.size s < 2 ^ 64) :
    literalEnd mark hidden (Utf8.size seen) s =
      .ok ((closeQuote mark hidden seen s).map fun literal => Utf8.size literal.1) := by
  induction s generalizing hidden seen with
  | nil => rfl
  | cons c r ih =>
      rw [Utf8.size_cons] at hsize
      have hseen : Utf8.size (c :: seen) = Utf8.size seen + c.utf8Size := by rw [Utf8.size_cons, Nat.add_comm]
      have hrest : Utf8.size (c :: seen) + Utf8.size r < 2 ^ 64 := by omega
      rw [literalEnd, closeQuote, ← hseen]
      by_cases hskip : hidden = true
      · rw [if_pos ⟨hhidden hskip, hskip⟩, if_pos hskip]
        exact ih (fun h => absurd h (by decide)) hrest
      · rw [if_neg (fun h => hskip h.2), if_neg hskip]
        by_cases hslash : mark = '"' ∧ c = '\\'
        · rw [if_pos hslash, if_pos hslash]
          exact ih (fun _ => hslash.1) hrest
        · rw [if_neg hslash, if_neg hslash]
          by_cases hmark : c = mark
          · rw [if_pos hmark, if_pos hmark, add_of_lt (by omega), ok_bind]
            rw [← hseen, ← Utf8.size_reverse]
            rfl
          · rw [if_neg hmark, if_neg hmark]
            obtain rfl : hidden = false := Bool.eq_false_iff.mpr hskip
            exact ih (fun h => absurd h (by decide)) hrest

/-- **A literal is cut off at a boundary.** -/
theorem quotedLead_eq (hsize : Utf8.size s < memoryLimit) :
    quotedLead s = .ok ((quotedLead? s).map fun literal => literal.1) := by
  cases s with
  | nil => rfl
  | cons mark r =>
      have hone : Utf8.size [mark] = mark.utf8Size := by simp [Utf8.size]
      have hbound : Utf8.size [mark] + Utf8.size r < 2 ^ 64 := by
        rw [Utf8.size_cons] at hsize
        unfold memoryLimit at hsize
        omega
      rw [quotedLead, quotedLead?, ← hone, literalEnd_eq (fun h => absurd h (by decide)) hbound, ok_bind]
      cases hclose : closeQuote mark false [mark] r with
      | none => rfl
      | some literal =>
          obtain ⟨literal, rest⟩ := literal
          have htext : mark :: r = literal ++ rest := (closeQuote_append hclose).symm
          rw [htext, Option.map_some]
          dsimp only
          rw [textTo_append, ok_bind]
          rfl

/-! ## Settings -/

/-- The key of a build line, and what follows the equal sign. -/
def parseKey (s : List Char) : Guarded (Except SettingError (List Char × List Char)) :=
  match s with
  | [] => return .error .empty
  | c :: _ =>
    if c = '=' then return .error .missingKey
    else if isQuote c then do
      match ← quotedLead s with
      | none => return .error .badQuotedKey
      | some literal =>
        match ← textFrom s (Utf8.size literal) with
        | '=' :: value =>
          match ← unquote literal with
          | none => return .error .badQuotedKey
          | some key => return .ok (key, value)
        | _ => return .error .missingEqualsAfterQuotedKey
    else
      match cutAt? '=' s with
      | none => return .error .missingEquals
      | some (key, value) => return .ok (key, value)

/-- **What follows a quoted key is cut off at a boundary.** -/
theorem parseKey_eq (hsize : Utf8.size s < memoryLimit) : parseKey s = .ok (BuildInfo.parseKey s) := by
  unfold parseKey BuildInfo.parseKey
  cases s with
  | nil => rfl
  | cons c r =>
      dsimp only
      by_cases hequals : c = '='
      · rw [if_pos hequals, if_pos hequals]
        rfl
      · rw [if_neg hequals, if_neg hequals]
        by_cases hquote : isQuote c = true
        · rw [if_pos hquote, if_pos hquote, quotedLead_eq hsize, ok_bind]
          cases hlead : quotedLead? (c :: r) with
          | none => rfl
          | some literal =>
              obtain ⟨literal, rest⟩ := literal
              have htext : c :: r = literal ++ rest := (closeQuote_append hlead).symm
              rw [htext, Option.map_some]
              dsimp only
              rw [textFrom_append, ok_bind]
              by_cases hrest : ∃ value, rest = '=' :: value
              · obtain ⟨value, rfl⟩ := hrest
                show (unquote literal >>= _) = _
                rw [unquote_eq, ok_bind]
                cases hkey : BuildInfo.unquote literal with
                | none =>
                    simp only [hkey]
                    rfl
                | some key =>
                    simp only [hkey]
                    rfl
              · split
                next value => exact absurd ⟨value, rfl⟩ hrest
                next =>
                  split
                  next h => cases h
                  next h =>
                    obtain ⟨rfl, rfl⟩ := Prod.mk.inj (Option.some.inj h)
                    exact absurd ⟨_, rfl⟩ hrest
                  next => rfl
        · rw [if_neg hquote, if_neg hquote]
          cases cutAt? '=' (c :: r) <;> rfl

/-- The value of a build line: a quoted literal, or the text as it stands. -/
def parseValue (s : List Char) : Guarded (Except SettingError (List Char)) :=
  match s with
  | [] => return .ok []
  | c :: _ =>
    if isQuote c then do
      match ← unquote s with
      | none => return .error .badQuotedValue
      | some value => return .ok value
    else return .ok s

theorem parseValue_eq (s : List Char) : parseValue s = .ok (BuildInfo.parseValue s) := by
  unfold parseValue BuildInfo.parseValue
  cases s with
  | nil => rfl
  | cons c r =>
      dsimp only
      by_cases hquote : isQuote c = true
      · rw [if_pos hquote, if_pos hquote, unquote_eq, ok_bind]
        cases BuildInfo.unquote (c :: r) <;> rfl
      · rw [if_neg hquote, if_neg hquote]
        rfl

/-- Key and value of a build line. -/
def parseSetting (s : List Char) : Guarded (Except SettingError (List Char × List Char)) := do
  match ← parseKey s with
  | .error e => return .error e
  | .ok (key, raw) =>
    match ← parseValue raw with
    | .error e => return .error e
    | .ok value => return .ok (key, value)

theorem parseSetting_eq (hsize : Utf8.size s < memoryLimit) : parseSetting s = .ok (BuildInfo.parseSetting s) := by
  rw [parseSetting, BuildInfo.parseSetting, parseKey_eq hsize, ok_bind]
  cases BuildInfo.parseKey s with
  | error e => rfl
  | ok setting =>
      obtain ⟨key, raw⟩ := setting
      dsimp only
      rw [parseValue_eq, ok_bind]
      cases hvalue : BuildInfo.parseValue raw <;> simp [bind, Except.bind, hvalue] <;> rfl

/-! ## Lines -/

/-- The record with one more line taken into account. -/
def addLine (m : BuildMetadata) (line : List Char) : Guarded (Except SettingError BuildMetadata) :=
  match Line.ofChars line with
  | .path p => return .ok { m with path := some (String.ofList p) }
  | .mainModule p => return .ok { m with mainModule := some (String.ofList p) }
  | .setting payload => do
    match ← parseSetting payload with
    | .error e => return .error e
    | .ok (key, value) =>
      return .ok { m with settings := m.settings.insert (String.ofList key) (String.ofList value) }
  | .other => return .ok m

/-- The record with all lines taken into account, in order. -/
def addLines (m : BuildMetadata) : List (List Char) → Guarded (Except SettingError BuildMetadata)
  | [] => return .ok m
  | line :: rest => do
    match ← addLine m line with
    | .error e => return .error e
    | .ok m => addLines m rest

/-- The record of a text. -/
def parseModuleText (runtimeVersion text : String) : Guarded (Except SettingError BuildMetadata) :=
  addLines { runtimeVersion } (pieces '\n' text.toList)

/-- The payload of a line is a part of it. -/
theorem sublist_of_ofChars {line payload : List Char} (h : Line.ofChars line = .setting payload) :
    payload.Sublist line := by
  unfold Line.ofChars at h
  split at h
  · cases h
  · split at h
    · cases h
    · split at h
      · next r hafter =>
          cases h
          rw [after?_eq_some_iff.mp hafter]
          exact List.sublist_append_right _ _
      · cases h

theorem addLine_eq (m : BuildMetadata) {line : List Char} (hsize : Utf8.size line < memoryLimit) :
    addLine m line = .ok (BuildMetadata.addLine m line) := by
  rw [addLine, BuildMetadata.addLine]
  cases hline : Line.ofChars line with
  | setting payload =>
      have hpayload := Nat.lt_of_le_of_lt (Utf8.size_le_of_sublist (sublist_of_ofChars hline)) hsize
      dsimp only
      rw [parseSetting_eq hpayload, ok_bind]
      cases hsetting : BuildInfo.parseSetting payload <;> simp [bind, Except.bind] <;> rfl
  | _ => rfl

theorem addLines_eq (m : BuildMetadata) {lines : List (List Char)}
    (hsize : ∀ line ∈ lines, Utf8.size line < memoryLimit) : addLines m lines = .ok (BuildInfo.addLines m lines) := by
  induction lines generalizing m with
  | nil => rfl
  | cons line rest ih =>
      rw [addLines, BuildInfo.addLines, List.foldlM_cons, addLine_eq m (hsize line List.mem_cons_self), ok_bind]
      cases BuildMetadata.addLine m line with
      | error e => rfl
      | ok m' => exact ih m' fun l hl => hsize l (List.mem_cons_of_mem line hl)

/-- **A module text is read in range.** -/
theorem parseModuleText_eq (runtimeVersion : String) {text : String} (hsize : Utf8.size text.toList < memoryLimit) :
    parseModuleText runtimeVersion text = .ok (BuildInfo.parseModuleText runtimeVersion text) := by
  refine addLines_eq _ fun line hline => Nat.lt_of_le_of_lt (Utf8.size_le_of_sublist ?_) hsize
  obtain ⟨before, after, htext, -⟩ := (mem_pieces_iff.mp hline).bounded
  rw [htext, List.append_assoc]
  exact (List.sublist_append_left _ _).trans (List.sublist_append_right _ _)

end FipsAudit.BuildInfo.Checked
