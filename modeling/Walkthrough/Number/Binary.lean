/-
# Binary fractions

A finite double is `± m · 2^e` with `m < 2^53` and `-1074 ≤ e`. Reading its parts and rounding a ratio
of natural numbers to the nearest double are exact computations on natural numbers.

| function | rule |
| --- | --- |
| `parts` | sign, `m` and `e` of a double, or that it is infinite or not a number |
| `ofRatio` | the double nearest to a ratio, of two equally near ones the one with an even `m` |
| `trunc?` | a finite double without its fraction |
| `roundAt` | a finite double rounded to a number of decimal places |
-/

namespace Walkthrough
namespace Number

-- A power of whole numbers is the one of the core library, also where another library brings its own.
attribute [instance (high), default_instance (high + 1)] instPowNat

/-- `± mantissa · 2^exponent`. -/
structure Dyadic where
  negative : Bool
  mantissa : Nat
  exponent : Int
deriving DecidableEq, Repr

/-- What a double is. -/
inductive Parts where
  | nan
  | infinite (negative : Bool)
  | finite (d : Dyadic)
deriving DecidableEq, Repr

/-- The parts of a double, read off its bits. -/
def parts (x : Float) : Parts :=
  let bits : Nat := x.toBits.toNat
  let negative := bits / 2 ^ 63 == 1
  let field : Nat := bits / 2 ^ 52 % 2 ^ 11
  let fraction : Nat := bits % 2 ^ 52
  if field == 2047 then
    if fraction == 0 then .infinite negative else .nan
  else if field == 0 then .finite ⟨negative, fraction, -1074⟩
  else .finite ⟨negative, fraction + 2 ^ 52, (field : Int) - 1075⟩

/-- Whether a double is a number, and finite. -/
def isFinite (x : Float) : Bool :=
  match parts x with
  | .finite _ => true
  | _ => false

/-- Whether the sign bit of a double is set. -/
def isNegative (x : Float) : Bool := x.toBits.toNat / 2 ^ 63 == 1

/-- The double with the given sign, exponent field and fraction. -/
def assemble (negative : Bool) (field fraction : Nat) : Float :=
  Float.ofBits (UInt64.ofNat ((if negative then 2 ^ 63 else 0) + field * 2 ^ 52 + fraction))

/-- The infinity of a sign. -/
def infinity (negative : Bool) : Float := assemble negative 2047 0

/-- The value that is not a number. -/
def notANumber : Float := assemble false 2047 (2 ^ 51)

/-- The quotient of two natural numbers rounded to the nearest natural number, a half to the even
neighbour. -/
def divEven (n d : Nat) : Nat :=
  let q := n / d
  let r := n % d
  if 2 * r > d || (2 * r == d && q % 2 == 1) then q + 1 else q

/-- The greatest `k` with `2^k ≤ n / d`, for positive `n` and `d`. -/
def floorLog2 (n d : Nat) : Int :=
  let k : Int := (n.log2 : Int) - d.log2
  if d * 2 ^ k.toNat ≤ n * 2 ^ (-k).toNat then k else k - 1

/-- The double nearest to `± n / d`, of two equally near ones the even one. Ratios beyond the greatest
double give the infinity of the sign. -/
def ofRatio (negative : Bool) (n d : Nat) : Float :=
  if n == 0 then assemble negative 0 0
  else
    let e : Int := max (floorLog2 n d - 52) (-1074)
    let q := divEven (n * 2 ^ (-e).toNat) (d * 2 ^ e.toNat)
    if q < 2 ^ 52 then assemble negative 0 q
    else
      let (q, e) := if q == 2 ^ 53 then (2 ^ 52, e + 1) else (q, e)
      let field := (e + 1075).toNat
      if field ≥ 2047 then infinity negative else assemble negative field (q - 2 ^ 52)

/-- The double nearest to an integer, or none beyond the greatest double. -/
def ofInt? (i : Int) : Option Float :=
  let x := ofRatio (i < 0) i.natAbs 1
  if isFinite x then some x else none

/-- The double nearest to `± m · 10^x`. The exponent is compared first, so that no power is computed
that could not matter. -/
def ofDecimal (negative : Bool) (m : Nat) (x : Int) : Float :=
  if m == 0 then ofRatio negative 0 1
  else
    let top : Int := ((m.log2 : Int) + 1) * 30103 / 100000 + x
    if top > 320 then infinity negative
    else if top < -340 then ofRatio negative 0 1
    else ofRatio negative (m * 10 ^ x.toNat) (10 ^ (-x).toNat)

/-- A finite double without its fraction, as an integer. -/
def trunc? (x : Float) : Option Int :=
  match parts x with
  | .finite d =>
    let n := d.mantissa * 2 ^ d.exponent.toNat / 2 ^ (-d.exponent).toNat
    some (if d.negative then -n else n)
  | _ => none

/-- Whether a double is finite and has no fraction. -/
def isIntegral (x : Float) : Bool :=
  match parts x with
  | .finite d => d.mantissa * 2 ^ d.exponent.toNat % 2 ^ (-d.exponent).toNat == 0
  | _ => false

/-- A finite double rounded to the nearest integer, a half to the even one. -/
def roundEven? (x : Float) : Option Int :=
  match parts x with
  | .finite d =>
    let n := divEven (d.mantissa * 2 ^ d.exponent.toNat) (2 ^ (-d.exponent).toNat)
    some (if d.negative then -n else n)
  | _ => none

/-- The magnitude of a finite double times `10^places`, rounded to the nearest natural number, a half
to the even one. -/
def scaledEven (d : Dyadic) (places : Int) : Nat :=
  divEven (d.mantissa * 2 ^ d.exponent.toNat * 10 ^ places.toNat)
    (2 ^ (-d.exponent).toNat * 10 ^ (-places).toNat)

/-- A double rounded to a number of decimal places, a half to the even neighbour; infinities and the
value that is not a number stay. -/
def roundAt (x : Float) (places : Int) : Float :=
  match parts x with
  | .finite d =>
    if places > 323 then x
    else if places < -308 then ofRatio d.negative 0 1
    else ofDecimal d.negative (scaledEven d places) (-places)
  | _ => x

/-- An integer compared with a double; none if the double is not a number. -/
def compareInt (i : Int) (x : Float) : Option Ordering :=
  match parts x with
  | .nan => none
  | .infinite true => some .gt
  | .infinite false => some .lt
  | .finite d =>
    let n : Int := d.mantissa * 2 ^ d.exponent.toNat
    some (compare (i * 2 ^ (-d.exponent).toNat) (if d.negative then -n else n))

/-- The remainder of two finite doubles with the sign of the first, the second not zero. -/
def remainder (a b : Dyadic) : Float :=
  let e := min a.exponent b.exponent
  let r := a.mantissa * 2 ^ (a.exponent - e).toNat % (b.mantissa * 2 ^ (b.exponent - e).toNat)
  ofRatio a.negative (r * 2 ^ e.toNat) (2 ^ (-e).toNat)

end Number
end Walkthrough
