/-!
Binary floating-point numbers of 64 bits, exactly.

A number is a natural number of at most 53 bits times a power of two. The two
things the service needs of them are the number nearest to a quotient of
natural numbers, and the shortest decimal that reads back as a given number.
Both are decided in exact arithmetic on natural numbers, so no rounding of the
machine enters.
-/

set_option autoImplicit false

namespace BuildService

/-- The number `mantissa * 2 ^ exponent`, without its sign. The mantissa has 53 bits unless the
exponent is the least one, `-1074`. -/
structure Binary64 where
  mantissa : Nat
  exponent : Int
  deriving DecidableEq, Repr, Inhabited

namespace Binary64

def zero : Binary64 := ⟨0, -1074⟩

/-- A number as a quotient. -/
def ratio (x : Binary64) : Nat × Nat :=
  if 0 ≤ x.exponent then (x.mantissa * Nat.pow 2 x.exponent.toNat, 1)
  else (x.mantissa, Nat.pow 2 (-x.exponent).toNat)

/-- The quotient rounded to a natural number, a half going to the even neighbour. -/
def roundHalfEven (num den : Nat) : Nat :=
  let q := num / den
  let r := num % den
  if 2 * r < den then q
  else if den < 2 * r then q + 1
  else if q % 2 = 0 then q else q + 1

/-- The greatest `k` with `2 ^ k ≤ num / den`, for a positive quotient. -/
def floorLog2 (num den : Nat) : Int :=
  let k : Int := (Nat.log2 num : Int) - (Nat.log2 den : Int)
  let reached :=
    if 0 ≤ k then den * Nat.pow 2 k.toNat ≤ num else den ≤ num * Nat.pow 2 (-k).toNat
  if reached then k else k - 1

/-- The number nearest to `num / den`, a tie going to the even mantissa; `none` if it is too
large for any. -/
def nearest? (num den : Nat) : Option Binary64 :=
  if num = 0 then some zero
  else
    let q : Int := max (floorLog2 num den - 52) (-1074)
    let m := if 0 ≤ q then roundHalfEven num (den * Nat.pow 2 q.toNat)
             else roundHalfEven (num * Nat.pow 2 (-q).toNat) den
    -- Rounding may take the mantissa one step too far.
    let x : Binary64 := if m = Nat.pow 2 53 then ⟨Nat.pow 2 52, q + 1⟩ else ⟨m, q⟩
    if 971 < x.exponent then none else some x

/-- The number nearest to `digits * 10 ^ exponent`. Far beyond the range of the numbers the power
of ten is not computed. -/
def ofDecimal? (digits : Nat) (exponent : Int) : Option Binary64 :=
  let top : Int := exponent + (Nat.log2 digits : Int) * 3 / 10
  if digits = 0 then some zero
  else if 310 < top then none
  else if top + (Nat.log2 digits : Int) / 10 + 2 < -330 then some zero
  else if 0 ≤ exponent then nearest? (digits * Nat.pow 10 exponent.toNat) 1
  else nearest? digits (Nat.pow 10 (-exponent).toNat)

/-! ## Products and quotients of numbers, rounded -/

def mul? (x y : Binary64) : Option Binary64 :=
  let (a, b) := x.ratio
  let (c, d) := y.ratio
  nearest? (a * c) (b * d)

/-- The quotient, rounded; the divisor is not zero. -/
def div? (x y : Binary64) : Option Binary64 :=
  let (a, b) := x.ratio
  let (c, d) := y.ratio
  nearest? (a * d) (b * c)

/-! ## The shortest decimal -/

/-- A decimal `0.d₁d₂… * 10 ^ point`: its digits as one number, and where the point stands. -/
structure Digits where
  digits : Nat
  point : Int
  deriving DecidableEq, Repr

/-- The quotients between which a decimal reads back as `x`, over one divisor: the lower end, the
number itself, the upper end, the divisor. -/
def readBack (x : Binary64) : Nat × Nat × Nat × Nat :=
  -- Below a power of two the numbers stand half as far apart.
  let below := if x.mantissa = Nat.pow 2 52 ∧ -1074 < x.exponent then 1 else 2
  let q := x.exponent - 2
  let scale := if 0 ≤ q then Nat.pow 2 q.toNat else 1
  let den := if 0 ≤ q then 1 else Nat.pow 2 (-q).toNat
  ((4 * x.mantissa - below) * scale, 4 * x.mantissa * scale, (4 * x.mantissa + 2) * scale, den)

/-- The greatest `k` with `10 ^ k ≤ num / den`, found by stepping up from a bound below. -/
def floorLog10 (num den : Nat) : Int :=
  let low : Int := floorLog2 num den * 30103 / 100000 - 1
  let reached (k : Int) : Bool :=
    if 0 ≤ k then den * Nat.pow 10 k.toNat ≤ num else den ≤ num * Nat.pow 10 (-k).toNat
  if reached (low + 2) then low + 2 else if reached (low + 1) then low + 1 else low

/-- Of the two neighbours of `x` with `n` digits, the nearer one that reads back as `x`. -/
def withDigits? (x : Binary64) (n : Nat) : Option Digits :=
  let (lo, mid, hi, den) := readBack x
  let k := floorLog10 mid den
  let unit : Int := k - n + 1
  let up := if 0 ≤ unit then 1 else Nat.pow 10 (-unit).toNat
  let down := if 0 ≤ unit then Nat.pow 10 unit.toNat else 1
  let t := mid * up / (den * down)
  let even := x.mantissa % 2 = 0
  let fits (c : Nat) : Bool :=
    let v := c * den * down
    -- A tie reads back as the number with the even mantissa.
    if even then lo * up ≤ v && v ≤ hi * up else lo * up < v && v < hi * up
  let gapDown := mid * up - t * den * down
  let gapUp := (t + 1) * den * down - mid * up
  match fits t && 0 < t, fits (t + 1) with
  | true, true =>
    some ⟨if gapDown < gapUp || (gapDown == gapUp && t % 2 == 0) then t else t + 1, k + 1⟩
  | true, false => some ⟨t, k + 1⟩
  | false, true => some ⟨t + 1, if t + 1 = Nat.pow 10 n then k + 2 else k + 1⟩
  | false, false => none

/-- The shortest decimal that reads back as `x`, and of those the nearest. -/
def shortest (x : Binary64) : Digits :=
  if x.mantissa = 0 then ⟨0, 1⟩
  else ((List.range 17).findSome? fun n => withDigits? x (n + 1)).getD ⟨x.mantissa, 1⟩

/-- The digits of a decimal without zeros at the end. -/
def Digits.text (d : Digits) : String :=
  let ds := (Nat.toDigits 10 d.digits).reverse.dropWhile (· == '0')
  if ds.isEmpty then "0" else String.ofList ds.reverse

/-- All digits written out around the point, without an exponent. -/
def Digits.positional (d : Digits) : String × String :=
  let ds := d.text.toList
  if d.point ≤ 0 then
    ("0", String.ofList (List.replicate (-d.point).toNat '0' ++ ds))
  else
    let p := d.point.toNat
    (String.ofList (ds.take p ++ List.replicate (p - ds.length) '0'), String.ofList (ds.drop p))

/-- A number written without an exponent, and without a fraction if it has none. -/
def plainText (x : Binary64) : String :=
  let (whole, fraction) := x.shortest.positional
  if x.mantissa = 0 then "0"
  else if fraction.isEmpty then whole else whole ++ "." ++ fraction

/-- A number written with a fraction always, and with an exponent if it is very large or very
small. -/
def scientificText (x : Binary64) : String :=
  let d := x.shortest
  let e := d.point - 1
  if x.mantissa = 0 then "0.0"
  else if -5 ≤ e ∧ e ≤ 15 then
    let (whole, fraction) := d.positional
    whole ++ "." ++ (if fraction.isEmpty then "0" else fraction)
  else
    let ds := d.text.toList
    let tail := ds.drop 1
    let size := toString e.natAbs
    String.ofList (ds.take 1) ++ (if tail.isEmpty then "" else "." ++ String.ofList tail) ++
      (if e < 0 then "e-" else "e+") ++ (if size.length < 2 then "0" ++ size else size)

end Binary64

end BuildService
