/-!
# Double precision numbers

Finite binary numbers of 53 significant bits in exact natural-number arithmetic: rounding a
quotient to the nearest one, scaling by powers of ten, and finding the shortest decimal that
lies in the rounding interval.

Definitions:

- `Binary64.ofQuotient?`: the nearest number, a tie going to the even significand.
- `Binary64.ofScaled?`: a decimal by rounded steps, each a product or a quotient.
- `Binary64.shortest`: the fewest digits in the rounding interval, of those the nearest.
- `Binary64.text`: positional between `1e-5` and `1e16`, scientific outside.
-/

namespace EntityMapping.Json

/-- The number `± significand * 2 ^ exponent`; both zeros have significand zero. -/
structure Binary64 where
  negative : Bool
  significand : Nat
  exponent : Int
deriving DecidableEq, Repr

namespace Binary64

/-! ## Powers -/

/-- The powers of two. -/
def pow2 (k : Nat) : Nat := Nat.pow 2 k

/-- The powers of ten. -/
def pow10 (k : Nat) : Nat := Nat.pow 10 k

/-! ## Rounding -/

/-- The least exponent of a number. -/
def minExponent : Int := -1074

/-- The greatest exponent of a number. -/
def maxExponent : Int := 971

/-- The quotient rounded to the nearest natural number, a tie going to the even one. -/
def roundDiv (num den : Nat) : Nat :=
  let q := num / den
  let r := num % den
  if 2 * r < den then q
  else if den < 2 * r then q + 1
  else if q % 2 = 0 then q else q + 1

/-- The positive number nearest to the positive quotient `num / den`, if it is in range. -/
def nearest? (num den : Nat) : Option (Nat × Int) :=
  let estimate : Int := (Nat.log2 num : Int) - (Nat.log2 den : Int) - 53
  let scaled (e : Int) : Nat × Nat := (num * pow2 (-e).toNat, den * pow2 e.toNat)
  let fits (e : Int) : Bool := (scaled e).1 < (scaled e).2 * pow2 53
  let e := if fits estimate then estimate else estimate + 1
  let e := if e < minExponent then minExponent else e
  let m := roundDiv (scaled e).1 (scaled e).2
  let (m, e) := if m = pow2 53 then (pow2 52, e + 1) else (m, e)
  if maxExponent < e then none else some (m, e)

/-- The zero of a sign. -/
def zero (negative : Bool) : Binary64 := ⟨negative, 0, minExponent⟩

/-- The number nearest to `± num / den`, unless it is out of range. -/
def ofQuotient? (negative : Bool) (num den : Nat) : Option Binary64 :=
  if num = 0 then some (zero negative)
  else
    (nearest? num den).map fun r =>
      if r.1 = 0 then zero negative else ⟨negative, r.1, r.2⟩

/-! ## Scaling -/

/-- The rounded product with the number nearest to `10 ^ power`, unless it is out of range. -/
def timesPower? (x : Binary64) (power : Nat) : Option Binary64 := do
  let factor ← ofQuotient? false (pow10 power) 1
  let e := x.exponent + factor.exponent
  ofQuotient? x.negative (x.significand * factor.significand * pow2 e.toNat) (pow2 (-e).toNat)

/-- The rounded quotient by the number nearest to `10 ^ power`, unless it is out of range. -/
def overPower? (x : Binary64) (power : Nat) : Option Binary64 := do
  let divisor ← ofQuotient? false (pow10 power) 1
  let e := x.exponent - divisor.exponent
  ofQuotient? x.negative (x.significand * pow2 e.toNat) (divisor.significand * pow2 (-e).toNat)

/-- The greatest power of ten that is a number. -/
def maxPower : Nat := 308

/-- The quotient by `steps` times the greatest power and then by `10 ^ rest`, rounded at each
step; a zero takes no further steps. -/
def overPowers? (rest : Nat) : Nat → Binary64 → Option Binary64
  | 0, x => x.overPower? rest
  | steps + 1, x =>
    if x.significand = 0 then some x
    else
      match x.overPower? maxPower with
      | some y => overPowers? rest steps y
      | none => none

/-- The number scaled by `10 ^ power` in rounded steps of at most `maxPower` places, unless it
is out of range. -/
def scale? (x : Binary64) (power : Int) : Option Binary64 :=
  if 0 ≤ power then
    if power ≤ maxPower then x.timesPower? power.toNat
    else if x.significand = 0 then some x
    else none
  else
    let steps := (power.natAbs - 1) / maxPower
    overPowers? (power.natAbs - maxPower * steps) steps x

/-- The number `± significand * 10 ^ power`, rounded first to a number and then scaled, unless
it is out of range. -/
def ofScaled? (negative : Bool) (significand : Nat) (power : Int) : Option Binary64 := do
  let x ← ofQuotient? negative significand 1
  x.scale? power

/-- Equality as numbers: the two zeros are equal. -/
def same (x y : Binary64) : Bool :=
  x == y || (x.significand == 0 && y.significand == 0)

/-! ## Shortest decimals -/

/-- The interval of rationals that round to a number, over a common denominator: value,
ends and denominator, and whether the ends belong to it. -/
structure Interval where
  value : Nat
  low : Nat
  high : Nat
  den : Nat
  closed : Bool

/-- The rounding interval of a positive number. -/
def interval (m : Nat) (e : Int) : Interval :=
  let narrow := m = pow2 52 ∧ minExponent < e
  let up := pow2 e.toNat
  { value := 4 * m * up
    low := (if narrow then 4 * m - 1 else 4 * m - 2) * up
    high := (4 * m + 2) * up
    den := 4 * pow2 (-e).toNat
    closed := m % 2 == 0 }

/-- Whether `d * 10 ^ k` lies in the interval. -/
def Interval.holds (i : Interval) (d : Nat) (k : Int) : Bool :=
  let point := d * pow10 k.toNat * i.den
  let scale := pow10 (-k).toNat
  if i.closed then i.low * scale ≤ point && point ≤ i.high * scale
  else i.low * scale < point && point < i.high * scale

/-- The least power of ten above the positive quotient `num / den`, tried from `k` on. -/
def decimalSize (num den : Nat) : Nat → Int → Int
  | 0, k => k
  | fuel + 1, k =>
    if num * pow10 (-k).toNat < den * pow10 k.toNat then k else decimalSize num den fuel (k + 1)

/-- The nearer of the two neighbours of the value on the grid `10 ^ k` among those that lie
in the interval. -/
def Interval.onGrid? (i : Interval) (k : Int) : Option Nat :=
  let num := i.value * pow10 (-k).toNat
  let den := i.den * pow10 k.toNat
  let d := num / den
  match i.holds d k && d != 0, i.holds (d + 1) k with
  | true, true => some (roundDiv num den)
  | true, false => some d
  | false, true => some (d + 1)
  | false, false => none

/-- The first grid, from `k` downwards, with a point in the interval. -/
def Interval.search (i : Interval) : Nat → Int → Nat × Int
  | 0, k => (i.value * pow10 (-k).toNat / (i.den * pow10 k.toNat), k)
  | fuel + 1, k =>
    match i.onGrid? k with
    | some d => (d, k)
    | none => i.search fuel (k - 1)

/-- Drop trailing zeros, counting them into the power. -/
def dropZeros : Nat → Nat → Int → Nat × Int
  | 0, d, k => (d, k)
  | fuel + 1, d, k => if d % 10 = 0 then dropZeros fuel (d / 10) (k + 1) else (d, k)

/-- The shortest decimal `digits * 10 ^ power` that rounds to a positive number. -/
def shortest (m : Nat) (e : Int) : Nat × Int :=
  let i := interval m e
  let size := decimalSize i.value i.den 700 (-330)
  let (d, k) := i.search 17 (size - 1)
  dropZeros 20 d k

/-! ## Text -/

/-- The decimal `digits * 10 ^ power` as text: positional if the point falls at most sixteen
places after the first digit and at most four before it, scientific otherwise. -/
def decimalText (digits : Nat) (power : Int) : List Char :=
  let ds := Nat.toDigits 10 digits
  let point : Int := ds.length + power
  if 0 ≤ power ∧ point ≤ 16 then ds ++ List.replicate power.toNat '0' ++ ['.', '0']
  else if 0 < point ∧ point ≤ 16 then ds.take point.toNat ++ '.' :: ds.drop point.toNat
  else if -5 < point ∧ point ≤ 0 then '0' :: '.' :: List.replicate (-point).toNat '0' ++ ds
  else
    let sign := if 0 < point then ['+'] else ['-']
    let exponent := sign ++ Nat.toDigits 10 (point - 1).natAbs
    match ds with
    | [d] => d :: 'e' :: exponent
    | d :: rest => d :: '.' :: rest ++ 'e' :: exponent
    | [] => 'e' :: exponent

/-- The number as text. -/
def text (x : Binary64) : String :=
  let body :=
    if x.significand = 0 then ['0', '.', '0']
    else
      let (d, k) := shortest x.significand x.exponent
      decimalText d k
  String.ofList (if x.negative then '-' :: body else body)

end Binary64

end EntityMapping.Json
