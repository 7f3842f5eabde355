import FipsAudit.Pattern.Bracket

/-!
# `FipsAudit.Pattern.Parser` — reading patterns

The written form of patterns: characters, classes, groups, alternatives, repetitions and conditions. Nothing looks
around or back. Switching a mode holds up to the end of the group in which it is switched.

* `Fault` — why a text is no pattern.
* `Pattern.parse` — the pattern of a text.
-/

namespace FipsAudit.Pattern

open Text Text.Unicode

/-- Why there is no pattern. -/
inductive Fault where
  /-- The text is not in the written form of patterns. -/
  | malformed
  /-- The pattern takes more memory than the limit allows. -/
  | tooLarge
deriving DecidableEq, Repr

/-- The most memory that a pattern may take, in bytes. -/
def sizeLimit : Nat := 10 * 1024 * 1024

/-- The wording of a fault. -/
def Fault.message : Fault → String
  | .malformed => "regex parse error"
  | .tooLarge => s!"Compiled regex exceeds size limit of {String.ofList (decimal sizeLimit)} bytes."

/-- How deep the parts of a pattern may be nested. -/
def nestLimit : Nat := 250

/-! ## Levels -/

/-- A part of a sequence: a pattern, or nothing where a mode was switched; and its depth. -/
structure Item where
  /-- The pattern. -/
  pattern : Option Pattern
  /-- How deep it is nested. -/
  depth : Nat := 0

/-- A group that is being read. -/
structure Level where
  /-- The finished alternatives, the newest first. -/
  branches : List Item := []
  /-- The sequence at hand, the newest first. -/
  items : List Item := []
  /-- The modes outside the group. -/
  outer : Flags := {}

/-- The depth of several parts together. -/
def joinedDepth (items : List Item) : Nat :=
  let deepest := items.foldl (fun n i => max n i.depth) 0
  if items.length > 1 then deepest + 1 else deepest

/-- A sequence of parts, the newest first. -/
def Item.sequence (items : List Item) : Item :=
  { pattern := some ((items.filterMap (·.pattern)).foldl (fun rest p =>
      match rest with
      | .empty => p
      | rest => .seq p rest) .empty)
    depth := joinedDepth items }

/-- Alternatives, the newest first. -/
def Item.choice (branches : List Item) : Item :=
  { pattern :=
      match branches.filterMap (·.pattern) with
      | [] => none
      | p :: ps => some (ps.foldl (fun rest q => .alt q rest) p)
    depth := joinedDepth branches }

namespace Level

/-- One more part of the sequence. -/
def add (l : Level) (i : Item) : Level := { l with items := i :: l.items }

/-- Begins the next alternative. -/
def branch (l : Level) : Level := { l with branches := Item.sequence l.items :: l.branches, items := [] }

/-- The whole group. -/
def content (l : Level) : Item := Item.choice l.branch.branches

/-- The last part of the sequence repeated, if it can be. -/
def repeated? (l : Level) (least : Nat) (most : Option Nat) : Option Level :=
  match l.items with
  | ⟨some p, depth⟩ :: items => some { l with items := ⟨some (.rep p least most), depth + 1⟩ :: items }
  | _ => none

end Level

/-! ## Groups -/

/-- The characters of group names. -/
def isNameChar (first : Bool) (c : Char) : Bool :=
  c == '_' || alphabetic.contains c.toNat ||
    (!first && (c == '.' || c == '[' || c == ']' || (category c).isNumber))

/-- The name of a group and what follows its closing angle. -/
def groupName? (s : List Char) : Option (List Char × List Char) :=
  match cutAt? '>' s with
  | some (c :: name, rest) =>
    if isNameChar true c && name.all (isNameChar false) then some (c :: name, rest) else none
  | _ => none

/-- The modes with one switched. -/
def Flags.switch? (f : Flags) (on : Bool) : Char → Option Flags
  | 'i' => some { f with ignoreCase := on }
  | 'm' => some { f with multiLine := on }
  | 's' => some { f with dotAll := on }
  | 'R' => some { f with crlf := on }
  | 'u' => some { f with textual := on }
  | 'x' => some { f with extended := on }
  | 'U' => some f
  | _ => none

/-- Reads the letters of modes, each at most once, and at most one hyphen before those that are switched off. The
    result is the modes, the character that ends the letters, and what follows it. -/
def switches? (f : Flags) (seen : List Char) : List Char → Option (Flags × Char × List Char)
  | [] => none
  | c :: r =>
    if c = ':' ∨ c = ')' then if seen.head? = some '-' then none else some (f, c, r)
    else if seen.contains c then none
    else if c = '-' then switches? f ('-' :: seen) r
    else (f.switch? (!seen.contains '-') c).bind fun f => switches? f (c :: seen) r

/-- What an opening parenthesis begins. -/
inductive Opening where
  /-- A group that may be named, with the modes inside. -/
  | group (name : Option (List Char)) (inside : Flags)
  /-- Nothing: modes are switched for the rest of the group. -/
  | switched (f : Flags)

/-- Reads what follows an opening parenthesis. -/
def opening? (f : Flags) (s : List Char) : Option (Opening × List Char) :=
  let s := gap f s
  -- Looking around is no part of patterns.
  if [['?', '='], ['?', '!'], ['?', '<', '='], ['?', '<', '!']].any (·.isPrefixOf s) then none
  else
    match (after? ['?', 'P', '<'] s).or (after? ['?', '<'] s) with
    | some r => (groupName? r).map fun (name, rest) => (.group (some name) f, rest)
    | none =>
      match s with
      | '?' :: r =>
        match switches? f [] r with
        | some (inside, ')', rest) => if r.head? = some ')' then none else some (.switched inside, rest)
        | some (inside, _, rest) => some (.group none inside, rest)
        | none => none
      | _ => some (.group none f, s)

/-! ## Repetitions -/

/-- The least number that a count cannot be. -/
def countLimit : Nat := 0x100000000

/-- The digits of a count, between which blanks may stand that do not count, and what follows them. -/
def countDigits (f : Flags) : (fuel : Nat) → List Char → List Char × List Char
  | 0, s => ([], s)
  | fuel + 1, s =>
    match s with
    | c :: r =>
      if c.isDigit then
        let (ds, rest) := countDigits f fuel (gap f r)
        (c :: ds, rest)
      else ([], s)
    | [] => ([], [])

/-- A count with the blanks around it. -/
def count? (f : Flags) (s : List Char) : Option (Nat × List Char) :=
  let s := s.dropWhile isBlank
  let (ds, rest) := countDigits f s.length s
  let n := natOfDigits ds
  -- Blanks around a count are no part of it, in whatever mode.
  if ds.isEmpty || n ≥ countLimit then none else some (n, gap f (rest.dropWhile isBlank))

/-- The bounds of a repetition after its opening brace. -/
def bounds? (f : Flags) (s : List Char) : Option (Nat × Option Nat × List Char) := do
  let (least, s) ← count? f (gap f s)
  match s with
  | '\x7d' :: r => return (least, some least, r)
  | ',' :: r =>
    match gap f r with
    | '\x7d' :: r => return (least, none, r)
    | s =>
      let (most, s) ← count? f s
      let r ← after? ['\x7d'] s
      if least ≤ most then return (least, some most, r) else none
  | _ => none

/-- What follows the question mark of a reluctant repetition, if there is one. -/
def afterReluctant : List Char → List Char
  | '?' :: r => r
  | s => s

/-! ## Sequences -/

/-- The pattern of a character or escape. -/
def Primitive.pattern? (f : Flags) : Primitive → Option Pattern
  | .literal c byte =>
    if byte && !f.textual && c.toNat ≥ 0x80 then none else some (.char (f.fold (.single c)))
  | .cls c => some (.char c)
  | .look l => some (.look l)
  | .dot =>
    if !f.textual then none
    else if f.dotAll then some (.char (.named .any))
    else if f.crlf then some (.char (.negated (.union (.single '\n') (.single '\r'))))
    else some (.char (.negated (.single '\n')))

/-- Reads a character, an escape or a class. -/
def primitive? (f : Flags) (c : Char) (r : List Char) : Option (Item × List Char) :=
  if c = '[' then (bracket? f r).map fun (p, rest) => (⟨some (.char p.cls), p.depth⟩, rest)
  else do
    let (p, rest) ←
      if c = '\\' then escape? f r
      else if c = '.' then some (.dot, r)
      else if c = '^' then some (.look (if f.multiLine then .lineStart f.crlf else .start), r)
      else if c = '$' then some (.look (if f.multiLine then .lineEnd f.crlf else .finish), r)
      else some (.literal c false, r)
    return (⟨some (← p.pattern? f), 0⟩, rest)

/-- Where reading stands. -/
structure State where
  /-- The group at hand. -/
  level : Level := {}
  /-- The groups around it, the innermost first. -/
  around : List Level := []
  /-- The modes. -/
  flags : Flags := {}
  /-- The names of groups so far. -/
  names : List (List Char) := []

/-- Opens a group or switches modes. -/
def State.open? (st : State) (r : List Char) : Option (State × List Char) :=
  match opening? st.flags r with
  | none => none
  | some (.switched f, rest) => some ({ st with level := st.level.add ⟨none, 0⟩, flags := f }, rest)
  | some (.group name inside, rest) =>
    if name.any st.names.contains then none
    else
      some ({ level := { outer := st.flags }
              around := st.level :: st.around
              flags := inside
              names := name.toList ++ st.names }, rest)

/-- Closes the group at hand. -/
def State.close? (st : State) : Option State :=
  match st.around with
  | [] => none
  | parent :: around =>
    let group := st.level.content
    some { st with
      level := parent.add { group with depth := group.depth + 1 }
      around := around
      flags := st.level.outer }

/-- Repeats the last part. -/
def State.repeat? (st : State) (least : Nat) (most : Option Nat) : Option State :=
  (st.level.repeated? least most).map fun level => { st with level }

/-- Reads one part. -/
def State.step? (st : State) (c : Char) (r : List Char) : Option (State × List Char) :=
  if c = '(' then st.open? r
  else if c = ')' then st.close?.map (·, r)
  else if c = '|' then some ({ st with level := st.level.branch }, r)
  else if c = '?' then (st.repeat? 0 (some 1)).map (·, afterReluctant r)
  else if c = '*' then (st.repeat? 0 none).map (·, afterReluctant r)
  else if c = '+' then (st.repeat? 1 none).map (·, afterReluctant r)
  else if c = '\x7b' then do
    let (least, most, rest) ← bounds? st.flags r
    return (← st.repeat? least most, afterReluctant (gap st.flags rest))
  else (primitive? st.flags c r).map fun (item, rest) => ({ st with level := st.level.add item }, rest)

/-- Reads part after part up to the end. -/
def State.run? (st : State) : (fuel : Nat) → List Char → Option State
  | 0, _ => none
  | fuel + 1, s =>
    match gap st.flags s with
    | [] => some st
    | c :: r => (st.step? c r).bind fun (st, rest) => st.run? fuel rest

/-! ## Size -/

/-- The memory of one state of the automaton, in bytes. -/
def stateSize : Nat := 32

/-- The memory that a set of characters with a name takes. -/
def namedSize : CharSet → Nat
  | .any | .ascii => 12 * stateSize
  | .blank => 20 * stateSize
  | .categories _ | .casedLetters | .assigned | .property _ | .word => 20000
  | .script _ => 60 * stateSize

/-- The memory that a class takes. -/
def classSize : CharClass → Nat
  | .empty => stateSize
  | .range low high =>
    if high < 0x80 then stateSize
    else if low = high then (Char.ofNat low).utf8Size * stateSize
    else 8 * stateSize
  | .named set => namedSize set
  | .negated c | .folded c | .asciiFolded c => classSize c + stateSize
  | .union a b | .intersection a b | .difference a b | .symmetricDifference a b => max (classSize a) (classSize b) + 8

/-- The memory that a pattern takes. -/
def size : Pattern → Nat
  | .empty | .look _ => stateSize
  | .char c => classSize c
  | .seq a b => a.size + b.size
  | .alt a b => a.size + b.size + stateSize
  | .rep p least most =>
    p.size * least + match most with
      | none => p.size + stateSize
      | some most => (p.size + stateSize) * (most - least)

/-! ## The whole -/

/-- The pattern of a text. -/
def parse (text : String) : Except Fault Pattern :=
  let s := text.toList
  match ({} : State).run? (s.length + 1) s with
  | none => .error .malformed
  | some st =>
    let whole := st.level.content
    if !st.around.isEmpty || whole.depth > nestLimit then .error .malformed
    else
      match whole.pattern with
      | none => .error .malformed
      | some p => if p.size > sizeLimit then .error .tooLarge else .ok p

end FipsAudit.Pattern
