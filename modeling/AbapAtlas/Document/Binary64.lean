/-! Floating-point numbers of 64 bits as exact values: reading a decimal to the nearest one, and
the shortest decimal that reads back. -/
namespace AbapAtlas.Document

/-- A finite value is `mantissa * 2 ^ exponent`, negated if `negative`. -/
inductive Binary64 where
  | finite (negative : Bool) (mantissa : Nat) (exponent : Int)
  | infinite (negative : Bool)
  | undefined
  deriving DecidableEq, Repr

namespace Binary64

def twoPow (n : Nat) : Nat := Nat.pow 2 n
def tenPow (n : Nat) : Nat := Nat.pow 10 n

def leastExponent : Int := -1074
def greatestExponent : Int := 971

def roundDiv (n d : Nat) : Nat :=
  let q := n / d
  let r := n % d
  if 2 * r < d then q else if d < 2 * r then q + 1 else q + q % 2

def inUnits (n d : Nat) (e : Int) : Nat × Nat := (n * twoPow (-e).toNat, d * twoPow e.toNat)

def ofFraction (negative : Bool) (n d : Nat) : Binary64 :=
  if n = 0 then .finite negative 0 leastExponent
  else
    let guess : Int := (n.log2 : Int) - d.log2 - 52
    let (p, q) := inUnits n d guess
    let e := max leastExponent (if p / q < twoPow 52 then guess - 1 else guess)
    let (p, q) := inUnits n d e
    let m := roundDiv p q
    let (m, e) := if m = twoPow 53 then (twoPow 52, e + 1) else (m, e)
    if greatestExponent < e then .infinite negative else .finite negative m e

def ofDecimal (negative : Bool) (digits : Nat) (exponent : Int) : Binary64 :=
  -- The value nearest to `digits * 10 ^ exponent`. Exponents far out are decided without computing
  -- the power.
  if digits = 0 ∨ exponent < -(digits.log2 + 400 : Int) then .finite negative 0 leastExponent
  else if 400 < exponent then .infinite negative
  else ofFraction negative (digits * tenPow exponent.toNat) (tenPow (-exponent).toNat)

def toInt? : Binary64 → Option Int
  | .finite negative m e =>
    let size := twoPow (-e).toNat
    if m % size = 0 then
      let n : Int := (m / size * twoPow e.toNat : Nat)
      some (if negative then -n else n)
    else none
  | _ => none

/-- The shortest decimal in the interval of reals that round to `m * 2 ^ e`, for `m` not zero:
the digits as a number, and the power of ten they count. Grids of powers of ten are tried from
coarse to fine; of two points on a grid the nearer one is taken, of two as near the even one. -/
def shortest (m : Nat) (e : Int) : Nat × Int :=
  let below := if m = twoPow 52 ∧ leastExponent < e then 1 else 2
  let within (p q c : Nat) : Bool :=
    if m % 2 = 0 then (4 * m - below) * p ≤ c * q && c * q ≤ (4 * m + 2) * p
    else (4 * m - below) * p < c * q && c * q < (4 * m + 2) * p
  let rec go : (fuel : Nat) → (t : Int) → Nat × Int
    | 0, t => (m, t)
    | fuel + 1, t =>
      let p := twoPow (e - 2).toNat * tenPow (-t).toNat
      let q := twoPow (2 - e).toNat * tenPow t.toNat
      let c := 4 * m * p / q
      let lower := within p q c
      let upper := within p q (c + 1)
      let above := 2 * (4 * m * p - c * q)
      if lower && (!upper || above < q || above == q && c % 2 == 0) then (c, t)
      else if upper then (c + 1, t)
      else go fuel (t - 1)
  go 25 (((m.log2 : Int) + e) * 30103 / 100000 + 2)

end Binary64
end AbapAtlas.Document
