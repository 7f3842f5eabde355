/-!
# `FipsAudit.Text.Unicode.Runs` — tables over the code points

A character property is constant on long stretches of code points, so its table lists the stretches. Two
written forms are read here:

* `Runs.ofText` — a label and a length, again and again: `Lu26Ps1` is twenty-six of one and one of the other;
* `CodeSet.ofText` — lengths only, alternately outside and inside the set.

Both are looked up by bisection.
-/

namespace FipsAudit.Text.Unicode

/-- The greatest index below `hi` whose key is at most `n`, when index `lo` already qualifies. -/
def bisect (keys : Nat → Nat) (n lo hi : Nat) : Nat :=
  if h : lo + 1 < hi then
    let mid := (lo + hi) / 2
    if keys mid ≤ n then bisect keys n mid hi else bisect keys n lo mid
  else lo
termination_by hi - lo

/-- A function that is constant on runs: each run's first code point with its value, ascending. -/
structure Runs (α : Type) where
  /-- The runs, ascending by their first code point. -/
  runs : Array (Nat × α)

/-- The value at code point `n`; `none` before the first run. -/
def Runs.at? {α : Type} (r : Runs α) (n : Nat) : Option α :=
  match r.runs[0]? with
  | none => none
  | some (first, _) =>
    if n < first then none
    else (r.runs[bisect (fun i => (r.runs[i]?.map (·.1)).getD 0) n 0 r.runs.size]?).map (·.2)

/-- How far a table has been read: the label and length at hand, and the runs before them. -/
structure Runs.Reading (α : Type) where
  /-- The letters of the label at hand, last first. -/
  label : List Char := []
  /-- The digits of the length at hand; none yet while the label is being read. -/
  length : Option Nat := none
  /-- The first code point of the run at hand. -/
  start : Nat := 0
  /-- The finished runs. -/
  done : Array (Nat × α) := #[]

/-- Ends the run at hand. -/
def Runs.Reading.close {α : Type} (value? : String → Option α) (s : Runs.Reading α) : Runs.Reading α :=
  match s.length, value? (String.ofList s.label.reverse) with
  | some n, some v => { start := s.start + n, done := s.done.push (s.start, v) }
  | some n, none => { start := s.start + n, done := s.done }
  | none, _ => s

/-- Reads one character: a digit extends the length, a blank ends the label, a letter begins or extends it. -/
def Runs.Reading.next {α : Type} (value? : String → Option α) (s : Runs.Reading α) (c : Char) :
    Runs.Reading α :=
  if c.isDigit then { s with length := some (10 * s.length.getD 0 + (c.toNat - '0'.toNat)) }
  else if c = ' ' ∨ c = '\n' then s
  else
    let s := s.close value?
    { s with label := c :: s.label }

/-- Reads labels and lengths. -/
def Runs.ofText {α : Type} (value? : String → Option α) (text : String) : Runs α :=
  ⟨((text.toList.foldl (Runs.Reading.next value?) {}).close value?).done⟩

/-- A set of code points: the code points where membership changes, ascending, from outside. -/
structure CodeSet where
  /-- Where membership changes. -/
  edges : Array Nat

/-- Whether `n` lies in the set: the number of edges up to `n` is odd. -/
def CodeSet.contains (s : CodeSet) (n : Nat) : Bool :=
  match s.edges[0]? with
  | none => false
  | some first =>
    if n < first then false
    else bisect (fun i => s.edges[i]?.getD 0) n 0 s.edges.size % 2 == 0

/-- An integer being read: its sign, and its digits so far if there are any. -/
structure Numeral where
  /-- Whether a minus sign was read. -/
  negative : Bool := false
  /-- The value of the digits. -/
  value : Option Nat := none

/-- The integer read, after those before it. -/
def Numeral.close (n : Numeral) (done : Array Int) : Array Int :=
  match n.value with
  | none => done
  | some v => done.push (if n.negative then -(v : Int) else v)

/-- The integers of a text of decimal numerals with blanks between them. -/
def integers (text : String) : Array Int :=
  let (n, done) := text.toList.foldl
    (fun (s : Numeral × Array Int) c =>
      if c = ' ' ∨ c = '\n' then ({}, s.1.close s.2)
      else if c = '-' then ({ s.1 with negative := true }, s.2)
      else ({ s.1 with value := some (10 * s.1.value.getD 0 + (c.toNat - '0'.toNat)) }, s.2))
    ({}, #[])
  n.close done

/-- Reads lengths, alternately outside and inside the set. -/
def CodeSet.ofText (text : String) : CodeSet :=
  ⟨((integers text).foldl
    (fun (s : Nat × Array Nat) n => (s.1 + n.toNat, s.2.push (s.1 + n.toNat))) (0, #[])).2⟩

end FipsAudit.Text.Unicode
