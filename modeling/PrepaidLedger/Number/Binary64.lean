/-!
Binary floating point of 64 bits in exact arithmetic: a finite value is a whole significand times a
power of two, and every operation rounds the exact result once, to the nearest value and a tie to
the even significand.
-/
namespace PrepaidLedger

inductive Binary64
  | finite (negative : Bool) (significand : Nat) (exponent : Int)
  | infinite (negative : Bool)
  | undefined
deriving DecidableEq, Repr

namespace Binary64

def minExponent : Int := -1074
def maxExponent : Int := 971
def significandBound : Nat := Nat.pow 2 53

def zero (negative : Bool) : Binary64 := .finite negative 0 minExponent

def scaled (num den : Nat) (shift : Int) : Nat × Nat :=
  (num * Nat.pow 2 (-shift).toNat, den * Nat.pow 2 shift.toNat)

def roundedQuotient (num den : Nat) : Nat :=
  let q := num / den
  let twice := 2 * (num % den)
  if twice < den then q
  else if den < twice then q + 1
  else if q % 2 = 0 then q else q + 1

def binaryExponent (num den : Nat) : Int :=
  let guess : Int := (Nat.log2 num : Int) - (Nat.log2 den : Int)
  let (a, b) := scaled num den guess
  if a < b then guess - 1 else guess

def ofRatio (negative : Bool) (num den : Nat) : Binary64 :=
  if num = 0 then zero negative
  else
    let exponent := max (binaryExponent num den - 52) minExponent
    let (a, b) := scaled num den exponent
    let rounded := roundedQuotient a b
    let (significand, exponent) :=
      if rounded = significandBound then (rounded / 2, exponent + 1) else (rounded, exponent)
    if maxExponent < exponent then .infinite negative
    else if significand = 0 then zero negative
    else .finite negative significand exponent

def ofInt (n : Int) : Binary64 := ofRatio (n < 0) n.natAbs 1

def ofDecimal (negative : Bool) (digits : Nat) (power : Int) : Binary64 :=
  -- The value nearest to `± digits * 10 ^ power`. Powers far outside the range need no
  -- arithmetic.
  let size : Int := (toString digits).length + power
  if digits = 0 then zero negative
  else if 400 < size then .infinite negative
  else if size < -400 then zero negative
  else ofRatio negative (digits * Nat.pow 10 power.toNat) (Nat.pow 10 (-power).toNat)

def isFinite : Binary64 → Bool
  | .finite .. => true
  | _ => false

def isZero : Binary64 → Bool
  | .finite _ 0 _ => true
  | _ => false

def times : Binary64 → Binary64 → Binary64
  | .finite _ m e, .finite _ n f =>
    let (a, b) := scaled (m * n) 1 (-(e + f))
    ofRatio false a b
  | _, _ => .infinite false

def dividedBy : Binary64 → Binary64 → Binary64
  | .finite _ m e, .finite _ n f =>
    let (a, b) := scaled m n (-(e - f))
    ofRatio false a b
  | x, _ => x

def withSign (negative : Bool) : Binary64 → Binary64
  | .finite _ m e => .finite negative m e
  | .infinite _ => .infinite negative
  | .undefined => .undefined

def wholePart (significand : Nat) (exponent : Int) : Nat × Bool :=
  if 0 ≤ exponent then (significand * Nat.pow 2 exponent.toNat, true)
  else
    let unit := Nat.pow 2 (-exponent).toNat
    (significand / unit, significand % unit == 0)

end Binary64
end PrepaidLedger
