/-
# Filling in texts with percent signs

`"%05.2f" % x`: a directive is a percent sign, perhaps a key in brackets, flags, a width, a precision, and
a letter that says how the value is written. Values come from a tuple one after the other, from a
dictionary by key, or there is only one. All of them must be used, unless they stand in a list or a
dictionary. Two percent signs with nothing between them are one.

| letter | value |
| --- | --- |
| `d`, `i`, `u` | an integer, or a float without its fraction |
| `x`, `X`, `o` | an integer in base sixteen or eight |
| `e`, `f`, `g` and capitals | a float |
| `c` | a character, or its number |
| `s`, `r`, `a` | the text, the literal form, the literal form in ASCII |

Bytes are filled in like a text of characters below 256. There `s` and `b` take bytes, `c` takes one byte,
and `r` is the same as `a`.
-/

import Walkthrough.Condition.Datum

namespace Walkthrough
namespace Condition
namespace Percent

/-- The flags of a directive. -/
structure Flags where
  left : Bool := false
  plus : Bool := false
  blank : Bool := false
  alternate : Bool := false
  zero : Bool := false

/-- A directive without its key and its letter. -/
structure Shape where
  flags : Flags := {}
  width : Nat := 0
  precision : Option Nat := none

/-- Where the values of directives come from. -/
inductive Source where
  | items (rest : List Datum)
  | one (v : Datum) (used : Bool)
deriving Inhabited

/-- The next value. -/
def Source.next : Source → Except EvaluationFault (Datum × Source)
  | items (v :: rest) => .ok (v, items rest)
  | items [] => .error .wrongType
  | one v false => .ok (v, one v true)
  | one _ true => .error .wrongType

/-! ## Writing numbers -/

/-- Digits in a base, least significant last. -/
def digitsIn (base : Nat) : Nat → Nat → List Char → List Char
  | 0, _, acc => acc
  | fuel + 1, n, acc =>
    let acc := Text.hexDigit (n % base) :: acc
    if n / base == 0 then acc else digitsIn base fuel (n / base) acc

/-- A number in a base. -/
def inBase (base n : Nat) : String := String.ofList (digitsIn base (n.log2 + 1) n [])

/-- Fills a text up to a width: blanks before it or, to the left, after it. -/
def pad (shape : Shape) (s : String) : String :=
  let fill := "".pushn ' ' (shape.width - s.length)
  if shape.flags.left then s ++ fill else fill ++ s

/-- Puts sign and mark in front of digits, with zeros between them up to the width if the flags say
so. -/
def signedText (shape : Shape) (negative : Bool) (mark digits : String) : String :=
  let sign := if negative then "-" else if shape.flags.plus then "+"
    else if shape.flags.blank then " " else ""
  let start := sign ++ mark
  if shape.flags.zero && !shape.flags.left then
    start ++ "".pushn '0' (shape.width - start.length - digits.length) ++ digits
  else pad shape (start ++ digits)

/-- An integer as a directive writes it. -/
def integerText (shape : Shape) (base : Nat) (mark : String) (upper : Bool) (n : Int) : String :=
  let digits := if base == 10 then toString n.natAbs else inBase base n.natAbs
  let digits := match shape.precision with
    | some p => "".pushn '0' (p - digits.length) ++ digits
    | none => digits
  let mark := if shape.flags.alternate then mark else ""
  let text := signedText shape (n < 0) mark digits
  if upper then String.ofList (text.toList.map Char.toUpper) else text

/-- A natural number with a point before its last `places` digits. -/
def fixedText (places : Nat) (alternate : Bool) (n : Nat) : String :=
  let digits := (Number.padded (places + 1) n).toList
  let whole := digits.take (digits.length - places)
  let fraction := digits.drop (digits.length - places)
  String.ofList (whole ++ (if places > 0 || alternate then '.' :: fraction else []))

/-- The digits and the exponent of a magnitude rounded to `count` digits. -/
def scientific (d : Number.Dyadic) (count : Nat) : Nat × Int :=
  if d.mantissa == 0 then (0, 0)
  else
    let e := Number.floorLog10 d.mantissa d.exponent
    let n := Number.scaledEven d (count - 1 - e)
    if n == 10 ^ count then (n / 10, e + 1) else (n, e)

/-- A magnitude with an exponent. -/
def exponentForm (d : Number.Dyadic) (places : Nat) (alternate : Bool) : String :=
  let (n, e) := scientific d (places + 1)
  fixedText places alternate n ++ Number.exponentText 2 e

/-- A decimal fraction without the zeros at its end, and without its point if nothing follows. -/
def dropFraction (s : String) : String :=
  let cs := s.toList
  if cs.contains '.' then
    let cs := cs.reverse.dropWhile (· == '0')
    String.ofList (match cs with
      | '.' :: rest => rest.reverse
      | cs => cs.reverse)
  else s

/-- A magnitude in the shorter of the two forms. -/
def generalForm (d : Number.Dyadic) (precision : Nat) (alternate : Bool) : String :=
  let count := max precision 1
  let (n, e) := scientific d count
  let trimmed := fun s => if alternate then s else dropFraction s
  if -4 ≤ e ∧ e < count then
    trimmed (fixedText (count - 1 - e).toNat alternate n)
  else trimmed (fixedText (count - 1) alternate n) ++ Number.exponentText 2 e

/-- A float as a directive writes it. -/
def floatText (shape : Shape) (letter : Char) (x : Float) : String :=
  let places := shape.precision.getD 6
  let alternate := shape.flags.alternate
  let lower := letter.toLower
  let text := match Number.parts x with
    | .nan => signedText shape false "" "nan"
    | .infinite negative => signedText shape negative "" "inf"
    | .finite d =>
      signedText shape d.negative ""
        (if lower == 'f' then fixedText places alternate (Number.scaledEven d places)
          else if lower == 'e' then exponentForm d places alternate
          else generalForm d places alternate)
  if letter == lower then text else String.ofList (text.toList.map Char.toUpper)

/-! ## Directives -/

/-- The value of a directive that writes integers in base ten. -/
def decimalValue (v : Datum) : Except EvaluationFault Int :=
  match v with
  | .float x =>
    match Number.parts x, Number.trunc? x with
    | .nan, _ => .error .wrongValue
    | _, some n => .ok n
    | _, none => .error .overflow
  | v =>
    match v.integer? with
    | some n => .ok n
    | none => .error .wrongType

/-- The value of a directive that writes floats. -/
def floatValue (v : Datum) : Except EvaluationFault Float :=
  match v.numeric? with
  | some n => n.toFloat
  | none => .error .wrongType

/-- What is filled in. -/
inductive Kind where
  | text
  | bytes
deriving DecidableEq

/-- Bytes as characters. -/
def ofBytes (bs : List UInt8) : String := String.ofList (bs.map fun b => Char.ofNat b.toNat)

/-- One more than the greatest number of a character. -/
def Kind.characters : Kind → Int
  | text => 0x110000
  | bytes => 0x100

/-- The characters of a value that are filled in as they are. -/
def Kind.own? : Kind → Datum → Option String
  | text, .text s => some s
  | bytes, .bytes bs => some (ofBytes bs)
  | _, _ => none

/-- The character of a directive that writes one. -/
def characterValue (kind : Kind) (v : Datum) : Except EvaluationFault String :=
  match kind.own? v, v.integer? with
  | some s, _ => if s.length == 1 then .ok s else .error .wrongType
  | none, some n =>
    if 0 ≤ n ∧ n < kind.characters then .ok (Char.ofNat n.toNat).toString else .error .overflow
  | none, none => .error .wrongType

/-- The text of a directive that writes a value as it is: bytes take nothing but bytes. -/
def ownValue (kind : Kind) (v : Datum) : Except EvaluationFault String :=
  match kind, kind.own? v with
  | _, some s => .ok s
  | .text, none => v.text?
  | .bytes, none => .error .wrongType

/-- A literal form with only ASCII characters. -/
def asciiOnly (s : String) : String :=
  String.ofList (s.toList.flatMap fun c =>
    if c.toNat < 128 then [c]
    else if c.toNat < 0x100 then '\\' :: 'x' :: Text.hexDigits c.toNat 2
    else if c.toNat < 0x10000 then '\\' :: 'u' :: Text.hexDigits c.toNat 4
    else '\\' :: 'U' :: Text.hexDigits c.toNat 8)

/-- A text cut to the precision and filled up to the width. -/
def textForm (shape : Shape) (s : String) : String :=
  pad shape (match shape.precision with
    | some p => String.ofList (s.toList.take p)
    | none => s)

/-- The greatest precision. -/
def maxPrecision : Nat := 2 ^ 31 - 1

/-- An integer as a directive writes it, unless the precision leaves no room for sign and mark. -/
def integerForm (shape : Shape) (base : Nat) (mark : String) (upper : Bool) (n : Int) :
    Except EvaluationFault String :=
  if shape.precision.any fun p => maxPrecision - 3 < p then .error .overflow
  else if base == 10 && !Value.isShort n then .error .wrongValue
  else .ok (integerText shape base mark upper n)

/-- What a directive writes for a value. -/
def write (kind : Kind) (shape : Shape) (letter : Char) (v : Datum) : Except EvaluationFault String := do
  match letter with
  | 's' => return textForm shape (← ownValue kind v)
  | 'b' => if kind == .bytes then return textForm shape (← ownValue kind v) else throw .wrongValue
  | 'r' =>
    let s ← v.literal?
    return textForm shape (if kind == .bytes then asciiOnly s else s)
  | 'a' => return textForm shape (asciiOnly (← v.literal?))
  | 'c' => return pad shape (← characterValue kind v)
  | 'd' | 'i' | 'u' => integerForm shape 10 "" false (← decimalValue v)
  | 'x' | 'X' | 'o' =>
    match v.integer? with
    | none => throw .wrongType
    | some n =>
      if letter == 'o' then integerForm shape 8 "0o" false n
      else integerForm shape 16 "0x" (letter == 'X') n
  | 'e' | 'E' | 'f' | 'F' | 'g' | 'G' => return floatText shape letter (← floatValue v)
  | _ => throw .wrongValue

/-- The flags in front of a directive. -/
def flags (found : Flags) : List Char → Flags × List Char
  | '-' :: cs => flags { found with left := true } cs
  | '+' :: cs => flags { found with plus := true } cs
  | ' ' :: cs => flags { found with blank := true } cs
  | '#' :: cs => flags { found with alternate := true } cs
  | '0' :: cs => flags { found with zero := true } cs
  | cs => (found, cs)

/-- The greatest width. -/
def maxWidth : Nat := 2 ^ 63 - 1

/-- A width or a precision: digits, or a star for the next value. -/
def measure (greatest : Nat) (source : Source) (cs : List Char) :
    Except EvaluationFault (Int × Source × List Char) :=
  match cs with
  | '*' :: cs => do
    let (v, source) ← source.next
    match v.integer? with
    | some n =>
      if n < -(greatest + 1) ∨ greatest < n then throw .overflow else return (n, source, cs)
    | none => throw .wrongType
  | cs =>
    let (n, _, rest) := Number.takeDigits 0 0 cs
    if n > greatest then .error .wrongValue else .ok (n, source, rest)

/-- The key in brackets in front of a directive, up to the bracket that closes it. -/
def key? (depth : Nat) : List Char → Option (List Char × List Char)
  | [] => none
  | ')' :: cs =>
    match depth with
    | 0 => some ([], cs)
    | depth + 1 => (key? depth cs).map fun (k, rest) => (')' :: k, rest)
  | '(' :: cs => (key? (depth + 1) cs).map fun (k, rest) => ('(' :: k, rest)
  | c :: cs => (key? depth cs).map fun (k, rest) => (c :: k, rest)

/-- The value under a key of a dictionary. -/
def valueOf? (kind : Kind) (entries : List (Datum × Datum)) (key : List Char) : Option Datum :=
  (entries.find? fun e => kind.own? e.1 == some (String.ofList key)).map Prod.snd

/-- One directive after its percent sign: what it writes, the values left and the rest of the text. -/
def directive (kind : Kind) (mapping : Option (List (Datum × Datum))) (source : Source) (cs : List Char) :
    Except EvaluationFault (String × Source × List Char) := do
  let (source, cs) ← match cs with
    | '(' :: cs =>
      match mapping with
      | none => throw .wrongType
      | some entries =>
        match key? 0 cs with
        | none => throw .wrongValue
        | some (k, cs) =>
          match valueOf? kind entries k with
          | some v => pure (Source.one v false, cs)
          | none => throw .missingKey
    | cs => pure (source, cs)
  let (found, cs) := flags {} cs
  let (width, source, cs) ← measure maxWidth source cs
  let found := if width < 0 then { found with left := true } else found
  let (precision, source, cs) ← match cs with
    | '.' :: cs => do
      let (n, source, cs) ← measure maxPrecision source cs
      pure (some n.toNat, source, cs)
    | cs => pure (none, source, cs)
  let cs := match cs with
    | 'h' :: cs | 'l' :: cs | 'L' :: cs => cs
    | cs => cs
  match cs with
  | [] => throw .wrongValue
  | letter :: cs =>
    let (v, source) ← source.next
    if Datum.addressSpace ≤ width.natAbs then throw .outOfMemory
    let text ← write kind ⟨found, width.natAbs, precision⟩ letter v
    return (text, source, cs)

/-- Fills in a text, in at most `fuel` steps; the values that were not used are left over. -/
def fill (kind : Kind) (mapping : Option (List (Datum × Datum))) :
    Nat → Source → List Char → Except EvaluationFault (List Char × Source)
  | 0, source, _ => .ok ([], source)
  | _ + 1, source, [] => .ok ([], source)
  | fuel + 1, source, '%' :: '%' :: cs => do
    let (more, source) ← fill kind mapping fuel source cs
    return ('%' :: more, source)
  | fuel + 1, source, '%' :: cs => do
    let (text, source, cs) ← directive kind mapping source cs
    let (more, source) ← fill kind mapping fuel source cs
    return (text.toList ++ more, source)
  | fuel + 1, source, c :: cs => do
    let (more, source) ← fill kind mapping fuel source cs
    return (c :: more, source)

/-- **Filling in.** The characters of a text or of bytes with every directive replaced by its value. -/
def format (kind : Kind) (cs : List Char) (v : Datum) : Except EvaluationFault (List Char) := do
  let mapping := match v with
    | .dict entries => some entries
    | _ => none
  let source := match v with
    | .tuple items => Source.items items
    | v => Source.one v false
  let (text, source) ← fill kind mapping (cs.length + 1) source cs
  let mayBeUnused := match v with
    | .dict _ => true
    | .list _ => true
    | .bytes _ => kind == .text
    | _ => false
  let complete := match source with
    | .items rest => rest.isEmpty
    | .one _ used => used
  if complete || mayBeUnused then return text else throw .wrongType

end Percent
end Condition
end Walkthrough
