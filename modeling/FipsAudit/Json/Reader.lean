import FipsAudit.Json.Number
import FipsAudit.Json.Skip

/-!
# `FipsAudit.Json.Reader` — values of a wanted shape

A reader takes a value of one shape from the document. Every reader takes at least one character, so repeated
reading ends.

* `Reader` — a reading function that makes progress.
* `Reader.string`, `Reader.list`, `Reader.record` — strings, arrays of one kind, and records.
* `readDocument` — a document that holds one value and nothing else.

A record is written as an object, or as an array of its first members in the order of declaration. Members that
the record does not know are read over.
-/

namespace FipsAudit.Json

open Text

/-- Takes a value from the document and gives what follows it. -/
structure Reader (α : Type) where
  /-- The reading function. -/
  run : List Char → Except Fault (α × List Char)
  /-- A value takes at least one character. -/
  shorter : ∀ {s r : List Char} {a : α}, run s = .ok (a, r) → r.length < s.length

/-! ## Values of another shape -/

/-- How a value that is not wanted here is called, and what follows what had to be read to know it. The value
    begins with `c`, and `s` is the document from there. -/
def describe (c : Char) (s : List Char) : Except Fault (String × List Char) :=
  if c = 'n' then (readWord "ull".toList s.tail).map (("null", ·))
  else if c = 't' then (readWord "rue".toList s.tail).map (("boolean `true`", ·))
  else if c = 'f' then (readWord "alse".toList s.tail).map (("boolean `false`", ·))
  else if c = '-' then (readNumber true s.tail).map fun p => (p.1.text, p.2)
  else if c.isDigit then (readNumber false s).map fun p => (p.1.text, p.2)
  else if c = '"' then (readText s.tail).map fun p => (s!"string {String.ofList (quotedChars p.1)}", p.2)
  else if c = '[' then .ok ("sequence", s)
  else if c = '\x7b' then .ok ("map", s)
  else .error (.at .expectedValue s 1)

/-- The fault of a value that begins with `c` where `expected` is wanted. -/
def unexpected (expected : String) (c : Char) (s : List Char) : Fault :=
  match describe c s with
  | .error e => e
  | .ok (found, r) => .at (.invalidType found expected) r

/-! ## Strings -/

/-- Reads a string and converts it. -/
def readString {α : Type} (expected : String) (convert : String → Except String α) (s : List Char) :
    Except Fault (α × List Char) :=
  match blankless s with
  | [] => .error (.at .endInValue [])
  | c :: r =>
    if c = '"' then
      match readText r with
      | .error e => .error e
      | .ok (t, rest) =>
        match convert (String.ofList t) with
        | .ok a => .ok (a, rest)
        | .error reason => .error (.at (.invalidText reason) rest)
    else .error (unexpected expected c (c :: r))

theorem length_of_readString {α : Type} {expected : String} {convert : String → Except String α}
    {s r : List Char} {a : α} (h : readString expected convert s = .ok (a, r)) : r.length < s.length := by
  unfold readString at h
  split at h
  · simp at h
  · rename_i hb
    have := length_lt_of_blankless hb
    split at h
    · split at h
      · simp at h
      · rename_i ht
        have := length_of_readText ht
        split at h
        · simp only [Except.ok.injEq, Prod.mk.injEq] at h
          obtain ⟨-, rfl⟩ := h
          omega
        · simp at h
    · simp at h

/-- A string that is converted. -/
def Reader.parsed {α : Type} (expected : String) (convert : String → Except String α) : Reader α :=
  ⟨readString expected convert, length_of_readString⟩

/-- A string. -/
def Reader.string : Reader String := .parsed "a string" .ok

/-! ## Arrays -/

/-- Looks for an element of an array. The result is where the element begins, or nothing before the closing
    bracket. -/
def nextElement (first : Bool) (s : List Char) : Except Fault (Option (List Char)) :=
  match blankless s with
  | [] => .error (.at .endInList [])
  | c :: r =>
    if c = ']' then .ok none
    else if first then .ok (some (c :: r))
    else if c = ',' then
      match blankless r with
      | [] => .error (.at .endInValue [])
      | d :: t => if d = ']' then .error (.at .trailingComma (d :: t) 1) else .ok (some (d :: t))
    else .error (.at .expectedListEnd (c :: r) 1)

theorem length_of_nextElement {first : Bool} {s r : List Char} (h : nextElement first s = .ok (some r)) :
    r.length ≤ s.length := by
  unfold nextElement at h
  split at h
  · simp at h
  · rename_i hb
    have := length_lt_of_blankless hb
    split at h
    · simp at h
    split at h
    · simp only [Except.ok.injEq, Option.some.injEq] at h
      simp only [← h, List.length_cons]
      omega
    split at h
    · split at h
      · simp at h
      · rename_i hd
        have := length_lt_of_blankless hd
        split at h
        · simp at h
        · simp only [Except.ok.injEq, Option.some.injEq] at h
          simp only [← h, List.length_cons]
          omega
    · simp at h

/-- What follows a closing bracket after blanks; the blanks alone are dropped where there is none. -/
def afterClose (b : Bracket) (s : List Char) : List Char :=
  match blankless s with
  | [] => []
  | c :: r => if c = b.close then r else c :: r

theorem length_afterClose_le (b : Bracket) (s : List Char) : (afterClose b s).length ≤ s.length := by
  unfold afterClose
  split
  · simp
  · rename_i hb
    have := length_lt_of_blankless hb
    split <;> simp <;> omega

/-- Reads elements up to the closing bracket; `seen` are those before, in reverse. -/
def readElements {α : Type} (element : Reader α) (seen : List α) (s : List Char) :
    Except Fault (List α × List Char) :=
  match _h : nextElement seen.isEmpty s with
  | .error e => .error e
  | .ok none => .ok (seen.reverse, afterClose .list s)
  | .ok (some r) =>
    match _he : element.run r with
    | .error e => .error e
    | .ok (a, r) => readElements element (a :: seen) r
termination_by s.length
decreasing_by
  have := length_of_nextElement _h
  have := element.shorter _he
  omega

theorem length_of_readElements {α : Type} {element : Reader α} {seen l : List α} {s r : List Char}
    (h : readElements element seen s = .ok (l, r)) : r.length ≤ s.length := by
  fun_induction readElements element seen s with
  | case1 => simp at h
  | case2 =>
      simp only [Except.ok.injEq, Prod.mk.injEq] at h
      rw [← h.2]
      exact length_afterClose_le _ _
  | case3 => simp at h
  | case4 =>
      rename_i hn _ _ he ih
      have := length_of_nextElement hn
      have := element.shorter he
      have := ih h
      omega

/-- Reads an array. -/
def readList {α : Type} (element : Reader α) (s : List Char) : Except Fault (List α × List Char) :=
  match blankless s with
  | [] => .error (.at .endInValue [])
  | c :: r => if c = '[' then readElements element [] r else .error (unexpected "a sequence" c (c :: r))

theorem length_of_readList {α : Type} {element : Reader α} {l : List α} {s r : List Char}
    (h : readList element s = .ok (l, r)) : r.length < s.length := by
  unfold readList at h
  split at h
  · simp at h
  · rename_i hb
    have := length_lt_of_blankless hb
    split at h
    · have := length_of_readElements h
      omega
    · simp at h

/-- An array whose elements have one shape. -/
def Reader.list {α : Type} (element : Reader α) : Reader (List α) := ⟨readList element, length_of_readList⟩

/-! ## Records -/

/-- A member of a record. -/
structure Member (σ : Type) where
  /-- Its name. -/
  name : String
  /-- Reads its value as a change of the record. -/
  reader : Reader (σ → σ)

/-- A member whose value is stored by `store`. -/
def Member.of {σ α : Type} (name : String) (reader : Reader α) (store : α → σ → σ) : Member σ where
  name := name
  reader :=
    { run := fun s => (reader.run s).map fun p => (store p.1, p.2)
      shorter := by
        intro s r f h
        obtain ⟨p, hr, hp⟩ := exists_ok_of_map h
        obtain ⟨-, rfl⟩ := Prod.mk.injEq _ _ _ _ ▸ hp
        exact reader.shorter hr }

/-- How a record is written. -/
structure Record (σ : Type) where
  /-- What it is called. -/
  title : String
  /-- Its members in the order of declaration. -/
  members : List (Member σ)
  /-- Whether every member has to be there. -/
  complete : Bool

namespace Record

variable {σ : Type}

/-- Looks for a member of an object. The result is what follows the opening quotation mark of its key, or nothing
    before the closing bracket. -/
def nextKey (first : Bool) (s : List Char) : Except Fault (Option (List Char)) :=
  match blankless s with
  | [] => .error (.at .endInObject [])
  | c :: r =>
    if c = '\x7d' then .ok none
    else if first then
      if c = '"' then .ok (some r) else .error (.at .keyNotString (c :: r) 1)
    else if c = ',' then
      match blankless r with
      | [] => .error (.at .endInValue [])
      | d :: t =>
        if d = '"' then .ok (some t)
        else .error (.at (if d = '\x7d' then .trailingComma else .keyNotString) (d :: t) 1)
    else .error (.at .expectedObjectEnd (c :: r) 1)

theorem length_of_nextKey {first : Bool} {s r : List Char} (h : nextKey first s = .ok (some r)) :
    r.length < s.length := by
  unfold nextKey at h
  split at h
  · simp at h
  · rename_i hb
    have := length_lt_of_blankless hb
    split at h
    · simp at h
    split at h
    · split at h
      · simp only [Except.ok.injEq, Option.some.injEq] at h
        exact h ▸ this
      · simp at h
    split at h
    · split at h
      · simp at h
      · rename_i hd
        have := length_lt_of_blankless hd
        split at h
        · simp only [Except.ok.injEq, Option.some.injEq] at h
          subst h
          omega
        · simp at h
    · simp at h

/-- Reads the value of a member: the change of the record, if the record knows the member. -/
def readMember (member : Option (Member σ)) (s : List Char) : Except Fault (Option (σ → σ) × List Char) :=
  match readColon s with
  | .error e => .error e
  | .ok r =>
    match member with
    | some m => (m.reader.run r).map fun p => (some p.1, p.2)
    | none => (skipValue r).map (none, ·)

theorem length_of_readMember {member : Option (Member σ)} {s r : List Char} {f : Option (σ → σ)}
    (h : readMember member s = .ok (f, r)) : r.length < s.length := by
  unfold readMember at h
  split at h
  · simp at h
  · rename_i hc
    have := length_of_readColon hc
    split at h
    · rename_i m
      obtain ⟨p, hr, hp⟩ := exists_ok_of_map h
      obtain ⟨-, rfl⟩ := Prod.mk.injEq _ _ _ _ ▸ hp
      have := m.reader.shorter hr
      omega
    · obtain ⟨t, hr, ht⟩ := exists_ok_of_map h
      obtain ⟨-, rfl⟩ := Prod.mk.injEq _ _ _ _ ▸ ht
      have := length_of_skipValue hr
      omega

/-- An object as far as it was read. -/
structure Progress (σ : Type) where
  /-- The record. -/
  value : σ
  /-- The names of the known members that occurred. -/
  seen : List String := []
  /-- Whether no member was read yet. -/
  first : Bool := true

/-- The progress after a member. -/
def Progress.after (p : Progress σ) (key : String) (change : Option (σ → σ)) : Progress σ :=
  match change with
  | some f => { value := f p.value, seen := key :: p.seen, first := false }
  | none => { p with first := false }

/-- Reads members up to the closing bracket. -/
def readMembers (rec : Record σ) (p : Progress σ) (s : List Char) : Except Fault (Progress σ × List Char) :=
  match _h : nextKey p.first s with
  | .error e => .error e
  | .ok none => .ok (p, afterClose .object s)
  | .ok (some r) =>
    match _ht : readText r with
    | .error e => .error e
    | .ok (t, r) =>
      let key := String.ofList t
      if p.seen.contains key then .error (.at (.duplicateField key) (afterClose .object r))
      else
        match _hm : readMember (rec.members.find? (·.name == key)) r with
        | .error e => .error e
        | .ok (change, r) => readMembers rec (p.after key change) r
termination_by s.length
decreasing_by
  have := length_of_nextKey _h
  have := length_of_readText _ht
  have := length_of_readMember _hm
  omega

theorem length_of_readMembers {rec : Record σ} {p q : Progress σ} {s r : List Char}
    (h : readMembers rec p s = .ok (q, r)) : r.length ≤ s.length := by
  fun_induction readMembers rec p s with
  | case1 => simp at h
  | case2 =>
      simp only [Except.ok.injEq, Prod.mk.injEq] at h
      rw [← h.2]
      exact length_afterClose_le _ _
  | case3 => simp at h
  | case4 => simp at h
  | case5 => simp at h
  | case6 =>
      rename_i hn _ _ ht _ _ _ _ hm ih
      have := length_of_nextKey hn
      have := length_of_readText ht
      have := length_of_readMember hm
      have := ih h
      omega

/-- What follows an array after the last element that is wanted. -/
def closeList (s : List Char) : Except Fault (List Char) :=
  match blankless s with
  | [] => .error (.at .endInList [])
  | c :: r =>
    if c = ']' then .ok r
    else if c = ',' then
      match blankless r with
      | [] => .error (.at .trailingCharacters [])
      | d :: t => .error (.at (if d = ']' then .trailingComma else .trailingCharacters) (d :: t) 1)
    else .error (.at .trailingCharacters (c :: r) 1)

/-- What is wanted where a record is incomplete. -/
def expectation (rec : Record σ) : String :=
  s!"{rec.title} with {String.ofList (decimal rec.members.length)} elements"

/-- Reads the elements of an array as members; `count` came before. -/
def readPositions (rec : Record σ) (count : Nat) (value : σ) (members : List (Member σ)) (s : List Char) :
    Except Fault (σ × List Char) :=
  match members with
  | [] => (closeList s).map (value, ·)
  | m :: ms =>
    match nextElement (count == 0) s with
    | .error e => .error e
    | .ok none =>
      if rec.complete then .error (.at (.invalidLength count rec.expectation) (afterClose .list s))
      else .ok (value, afterClose .list s)
    | .ok (some r) =>
      match m.reader.run r with
      | .error e => .error e
      | .ok (f, r) => readPositions rec (count + 1) (f value) ms r

theorem length_of_closeList {s r : List Char} (h : closeList s = .ok r) : r.length ≤ s.length := by
  unfold closeList at h
  split at h
  · simp at h
  · rename_i hb
    have := length_lt_of_blankless hb
    split at h
    · simp only [Except.ok.injEq] at h
      subst h
      omega
    · split at h
      · split at h <;> simp at h
      · simp at h

theorem length_of_readPositions {rec : Record σ} {count : Nat} {value w : σ} {members : List (Member σ)}
    {s r : List Char} (h : readPositions rec count value members s = .ok (w, r)) : r.length ≤ s.length := by
  fun_induction readPositions rec count value members s with
  | case1 =>
      obtain ⟨t, hc, ht⟩ := exists_ok_of_map h
      obtain ⟨-, rfl⟩ := Prod.mk.injEq _ _ _ _ ▸ ht
      exact length_of_closeList hc
  | case2 => simp at h
  | case3 => simp at h
  | case4 =>
      simp only [Except.ok.injEq, Prod.mk.injEq] at h
      rw [← h.2]
      exact length_afterClose_le _ _
  | case5 => simp at h
  | case6 =>
      rename_i hn _ _ hm ih
      have := length_of_nextElement hn
      have := ‹Member σ›.reader.shorter hm
      have := ih h
      omega

/-- Checks that every member is there that has to be. -/
def finish (rec : Record σ) (p : Progress σ) (s : List Char) : Except Fault (σ × List Char) :=
  match rec.members.find? fun m => rec.complete && !p.seen.contains m.name with
  | some m => .error (.at (.missingField m.name) s)
  | none => .ok (p.value, s)

/-- Reads a record, starting from `initial`. -/
def read (rec : Record σ) (initial : σ) (s : List Char) : Except Fault (σ × List Char) :=
  match blankless s with
  | [] => .error (.at .endInValue [])
  | c :: r =>
    if c = '\x7b' then
      match readMembers rec { value := initial } r with
      | .error e => .error e
      | .ok (p, r) => rec.finish p r
    else if c = '[' then rec.readPositions 0 initial rec.members r
    else .error (unexpected rec.title c (c :: r))

theorem length_of_read {rec : Record σ} {initial value : σ} {s r : List Char}
    (h : rec.read initial s = .ok (value, r)) : r.length < s.length := by
  unfold read at h
  split at h
  · simp at h
  · rename_i hb
    have := length_lt_of_blankless hb
    split at h
    · split at h
      · simp at h
      · rename_i hm
        have := length_of_readMembers hm
        unfold finish at h
        split at h
        · simp at h
        · simp only [Except.ok.injEq, Prod.mk.injEq] at h
          rw [← h.2]
          omega
    split at h
    · have := length_of_readPositions h
      omega
    · simp at h

end Record

/-- A record that starts from `initial`. -/
def Reader.record {σ : Type} (rec : Record σ) (initial : σ) : Reader σ :=
  ⟨rec.read initial, Record.length_of_read⟩

/-! ## Documents -/

/-- Reads a document that holds one value. -/
def readDocument {α : Type} (reader : Reader α) (s : List Char) : Except Fault α :=
  match reader.run s with
  | .error e => .error e
  | .ok (a, r) =>
    match blankless r with
    | [] => .ok a
    | c :: r => .error (.at .trailingCharacters (c :: r) 1)

end FipsAudit.Json
