/-
# The shortest decimal of a double

Of the decimals that read back as a given double, the ones with the fewest digits, and of those the one
nearest to the double. The decimals of `n` digits next to a number form a grid of spacing `10^p`; a
grid that meets the interval of numbers that round to the double meets it in one of the double's two
neighbours on that grid. So the first grid, from one digit to seventeen, with a neighbour in the
interval gives the answer.
-/

import Walkthrough.Number.Binary

namespace Walkthrough
namespace Number

/-- The greatest `k` with `10^k ≤ m · 2^e`, for a positive `m`. -/
def floorLog10 (m : Nat) (e : Int) : Int :=
  let reaches (k : Int) : Bool :=
    10 ^ k.toNat * 2 ^ (-e).toNat ≤ m * 2 ^ e.toNat * 10 ^ (-k).toNat
  let k := ((m.log2 : Int) + e) * 30103 / 100000
  if reaches (k + 1) then k + 1 else if reaches k then k else k - 1

/-- The neighbour of `m · 2^e` on the grid of spacing `10^p` that lies in the interval of numbers that
round to `m · 2^e`, as a multiple of the spacing; the nearer if both do, the even one of two equally
near. -/
def gridPoint? (m : Nat) (e p : Int) : Option Nat :=
  let down := if m == 2 ^ 52 && e > -1074 then 1 else 2
  let a := 2 ^ (e - 2).toNat * 10 ^ (-p).toNat
  let b := 2 ^ (2 - e).toNat * 10 ^ p.toNat
  let middle := 4 * m * a
  let low := (4 * m - down) * a
  let high := (4 * m + 2) * a
  let inside (n : Nat) : Bool :=
    if m % 2 == 0 then low ≤ n * b && n * b ≤ high else low < n * b && n * b < high
  let n := middle / b
  let below := middle - n * b
  let above := (n + 1) * b - middle
  let lower := if below < above || (below == above && n % 2 == 0) then n else n + 1
  let other := if lower == n then n + 1 else n
  if inside lower then some lower else if inside other then some other else none

/-- The first grid with a point, from `digits` digits on. -/
def searchGrids (m : Nat) (e k : Int) : Nat → Nat → Nat × Int
  | 0, digits => (4 * m, k - digits)
  | tries + 1, digits =>
    let p := k - digits + 1
    match gridPoint? m e p with
    | some n => (n, p)
    | none => searchGrids m e k tries (digits + 1)

/-- The number without its trailing decimal zeros, with the power of ten they stood for. -/
def dropZeros : Nat → Nat → Int → Nat × Int
  | 0, n, p => (n, p)
  | fuel + 1, n, p => if n != 0 && n % 10 == 0 then dropZeros fuel (n / 10) (p + 1) else (n, p)

/-- The shortest decimal `n · 10^p` that reads back as `m · 2^e`, for a positive `m`. -/
def shortest (m : Nat) (e : Int) : Nat × Int :=
  let (n, p) := searchGrids m e (floorLog10 m e) 17 1
  dropZeros 20 n p

/-- How a decimal is laid out. -/
structure Layout where
  /-- Numbers whose first digit has one of these powers of ten are written without an exponent. -/
  leastPositional : Int
  greatestPositional : Int
  /-- Whether a number without a fraction is written with `.0`. -/
  keepPoint : Bool
  /-- The least number of digits of an exponent. -/
  exponentDigits : Nat

/-- Digits of a natural number filled up with zeros in front. -/
def padded (width n : Nat) : String :=
  let s := toString n
  "".pushn '0' (width - s.length) ++ s

/-- The exponent mark with a sign. -/
def exponentText (width : Nat) (x : Int) : String :=
  "e" ++ (if x < 0 then "-" else "+") ++ padded width x.natAbs

/-- The decimal `n · 10^p`, `n` without trailing zeros, in a layout. -/
def Layout.write (l : Layout) (n : Nat) (p : Int) : String :=
  let digits := toString n
  let count : Int := digits.length
  let x := p + count - 1
  if l.leastPositional ≤ x && x ≤ l.greatestPositional then
    if p ≥ 0 then digits ++ "".pushn '0' p.toNat ++ (if l.keepPoint then ".0" else "")
    else if x ≥ 0 then
      String.ofList (digits.toList.take (x + 1).toNat) ++ "." ++
        String.ofList (digits.toList.drop (x + 1).toNat)
    else "0." ++ "".pushn '0' (-x - 1).toNat ++ digits
  else
    String.ofList (digits.toList.take 1) ++
      (if count > 1 then "." ++ String.ofList (digits.toList.drop 1) else "") ++
      exponentText l.exponentDigits x

/-- Numbers from `0.0001` up to sixteen digits are written without an exponent, a whole number keeps
`.0`, and an exponent has a sign and two digits or more. -/
def plainLayout : Layout := ⟨-4, 15, true, 2⟩

/-- A double as the shortest decimal that reads back as it. -/
def floatText (x : Float) : String :=
  match parts x with
  | .nan => "nan"
  | .infinite negative => if negative then "-inf" else "inf"
  | .finite d =>
    let sign := if d.negative then "-" else ""
    if d.mantissa == 0 then sign ++ "0.0"
    else
      let (n, p) := shortest d.mantissa d.exponent
      sign ++ plainLayout.write n p

end Number
end Walkthrough
