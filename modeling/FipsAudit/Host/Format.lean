import FipsAudit.Text.Number
import FipsAudit.Text.Utf8

/-!
# `FipsAudit.Host.Format` — formats with escapes and directives

A format is text in which a backslash begins an escape and a percent sign a directive; each directive writes one
argument. As long as arguments are left, the format is gone through again.

* `unescape` — the bytes of a text with escapes.
* `Item`, `items?` — a format in pieces.
* `written?` — what a format writes for its arguments.
-/

namespace FipsAudit.Host

open Text

/-! ## Escapes -/

/-- The value of octal digits. -/
def natOfOctal (ds : List Char) : Nat := ds.foldl (fun n d => 8 * n + digitValue d) 0

/-- Whether a character is an octal digit. -/
def isOctal (c : Char) : Bool := '0' ≤ c && c ≤ '7'

/-- The byte of an escape by its letter. -/
def escapeByte? : Char → Option UInt8
  | 'a' => some 7
  | 'b' => some 8
  | 't' => some 9
  | 'n' => some 10
  | 'v' => some 11
  | 'f' => some 12
  | 'r' => some 13
  | '\\' => some 92
  | '"' => some 34
  | '\'' => some 39
  | _ => none

/-- The bytes of an escape, given what follows the backslash, and the number of characters that it takes. -/
def escape (s : List Char) : List UInt8 × Nat :=
  let ds := (s.take 3).takeWhile isOctal
  match s with
  | [] => ([92], 0)
  | c :: _ =>
    if !ds.isEmpty then ([UInt8.ofNat (natOfOctal ds)], ds.length)
    else
      match escapeByte? c with
      | some b => ([b], 1)
      | none => (92 :: String.utf8EncodeChar c, 1)

/-- The bytes of a text with escapes; `skip` characters were taken by the escape before. -/
def unescape (skip : Nat) : List Char → List UInt8
  | [] => []
  | c :: r =>
    match skip with
    | skip + 1 => unescape skip r
    | 0 =>
      if c = '\\' then
        let (bytes, n) := escape r
        bytes ++ unescape n r
      else String.utf8EncodeChar c ++ unescape 0 r

/-! ## Directives -/

/-- What a directive makes of its argument. -/
inductive Conversion where
  /-- The argument itself. -/
  | text
  /-- The argument with its escapes replaced. -/
  | escaped
  /-- Its first byte. -/
  | character
  /-- A number with a sign. -/
  | signed
  /-- A number to the given base. -/
  | unsigned (base : Nat)
deriving DecidableEq, Repr

/-- The conversion of a letter. -/
def Conversion.ofLetter? : Char → Option Conversion
  | 's' => some .text
  | 'b' => some .escaped
  | 'c' => some .character
  | 'd' => some .signed
  | 'i' => some .signed
  | 'u' => some (.unsigned 10)
  | 'o' => some (.unsigned 8)
  | 'x' => some (.unsigned 16)
  | _ => none

/-- How an argument is written. -/
structure Directive where
  /-- What is made of the argument. -/
  conversion : Conversion
  /-- The least number of bytes. -/
  width : Nat := 0
  /-- Whether missing bytes are filled in at the end. -/
  left : Bool := false
  /-- Whether missing bytes are zeros before the digits. -/
  zeros : Bool := false
  /-- The most bytes of a text, and the least digits of a number. -/
  precision : Option Nat := none
deriving DecidableEq, Repr

/-- A directive, given what follows the percent sign, and the number of characters that it takes. -/
def directive? (s : List Char) : Option (Directive × Nat) :=
  let flags := s.takeWhile fun c => c = '-' || c = '0'
  let afterFlags := s.drop flags.length
  let width := afterFlags.takeWhile Char.isDigit
  let afterWidth := afterFlags.drop width.length
  let point := afterWidth.takeWhile (· = '.')
  let places := (afterWidth.drop point.length).takeWhile Char.isDigit
  match (afterWidth.drop (point.length + places.length)) with
  | [] => none
  | letter :: _ =>
    (Conversion.ofLetter? letter).map fun conversion =>
      ({ conversion
         width := natOfDigits width
         left := flags.contains '-'
         zeros := flags.contains '0'
         precision := if point.isEmpty then none else some (natOfDigits places) },
        flags.length + width.length + point.length + places.length + 1)

/-- Bytes filled up with spaces. -/
def Directive.pad (d : Directive) (bytes : List UInt8) : List UInt8 :=
  let spaces := List.replicate (d.width - bytes.length) 32
  if d.left then bytes ++ spaces else spaces ++ bytes

/-- A number with its sign, filled up with zeros or spaces. -/
def Directive.number (d : Directive) (negative : Bool) (digits : List Char) : List UInt8 :=
  let sign := if negative then ['-'] else []
  let least :=
    match d.precision with
    | some n => n
    | none => if d.zeros && !d.left then d.width - sign.length else 0
  d.pad (Utf8.encodeChars (sign ++ List.replicate (least - digits.length) '0' ++ digits))

/-- What a directive writes for an argument. -/
def Directive.written (d : Directive) (argument : String) : List UInt8 :=
  let cut (bytes : List UInt8) : List UInt8 := bytes.take (d.precision.getD bytes.length)
  let digits := argument.toList.takeWhile Char.isDigit
  match d.conversion with
  | .text => d.pad (cut (Utf8.encode argument))
  | .escaped => d.pad (cut (unescape 0 argument.toList))
  | .character => d.pad ((Utf8.encode argument).take 1)
  | .signed =>
    match argument.toList with
    | '-' :: rest => d.number true (decimal (natOfDigits (rest.takeWhile Char.isDigit)))
    | _ => d.number false (decimal (natOfDigits digits))
  | .unsigned base => d.number false (Nat.toDigits base (natOfDigits digits))

/-! ## Formats -/

/-- A piece of a format. -/
inductive Item where
  /-- Bytes that stand for themselves. -/
  | bytes (bytes : List UInt8)
  /-- A directive. -/
  | directive (d : Directive)
deriving DecidableEq, Repr

/-- The pieces of a format; `skip` characters were taken by the piece before. -/
def items? (skip : Nat) : List Char → Option (List Item)
  | [] => some []
  | c :: r =>
    match skip with
    | skip + 1 => items? skip r
    | 0 =>
      if c = '\\' then
        let (bytes, n) := escape r
        (items? n r).map (.bytes bytes :: ·)
      else if c = '%' then
        -- A second percent sign makes it one that is written.
        if r.head? = some '%' then (items? 1 r).map (.bytes [37] :: ·)
        else
          match directive? r with
          | none => none
          | some (d, n) => (items? n r).map (.directive d :: ·)
      else (items? 0 r).map (.bytes (String.utf8EncodeChar c) :: ·)

/-- What the pieces write, and the arguments that are left. A missing argument counts as an empty one. -/
def writeOnce : List Item → List String → List UInt8 × List String
  | [], args => ([], args)
  | .bytes bytes :: items, args =>
    let (rest, left) := writeOnce items args
    (bytes ++ rest, left)
  | .directive d :: items, args =>
    let (rest, left) := writeOnce items args.tail
    (d.written (args.head?.getD "") ++ rest, left)

/-- What the pieces write when they are gone through until no argument is left, `fuel` times more at most. -/
def writeAll (items : List Item) : (fuel : Nat) → List String → List UInt8
  | 0, args => (writeOnce items args).1
  | fuel + 1, args =>
    let (bytes, left) := writeOnce items args
    -- A format without directives would go on for ever.
    if left.isEmpty || left.length = args.length then bytes else bytes ++ writeAll items fuel left

/-- What a format writes for its arguments; `none` for a directive that is not known. -/
def written? (format : String) (args : List String) : Option (List UInt8) :=
  (items? 0 format.toList).map fun items => writeAll items args.length args

end FipsAudit.Host
