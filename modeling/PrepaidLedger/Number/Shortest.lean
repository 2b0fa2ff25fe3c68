import PrepaidLedger.Number.Binary64

/-!
The decimal text of a binary floating point value: the fewest digits that read back as the value,
and of those the digits nearest to it.
-/
namespace PrepaidLedger.Binary64

inductive Tie
  | even
  | away
deriving DecidableEq, Repr

def Tie.keeps : Tie → Nat → Bool
  | .even, below => below % 2 == 0
  | .away, _ => false

def climb (den : Nat) : Nat → Nat → Int → Int
  | 0, _, k => k
  | fuel + 1, n, k => if den ≤ n then k else climb den fuel (n * 10) (k - 1)

def decimalExponent (num den : Nat) : Int :=
  if den ≤ num then (toString (num / den)).length - 1 else climb den 400 num 0

/-- The reals that round to a value: its two ends, as multiples of `2 ^ (exponent - 2)`, and
whether the ends belong to it. -/
structure RoundingInterval where
  low : Nat
  high : Nat
  closed : Bool

def roundingInterval (significand : Nat) (exponent : Int) : RoundingInterval :=
  let below := if significand = significandBound / 2 ∧ minExponent < exponent then 1 else 2
  ⟨4 * significand - below, 4 * significand + 2, significand % 2 = 0⟩

/-- The point with `count` digits nearest to the value that lies in its rounding interval, if one
does: a digit string and the power of ten of its last digit. -/
def digitsOfCount? (tie : Tie) (significand : Nat) (exponent : Int) (top : Int) (count : Nat) :
    Option (Nat × Int) :=
  let interval := roundingInterval significand exponent
  let power := top - (count - 1)
  let factor := Nat.pow 2 (exponent - 2).toNat * Nat.pow 10 (-power).toNat
  let den := Nat.pow 2 (2 - exponent).toNat * Nat.pow 10 power.toNat
  let inside (d : Nat) : Bool :=
    let x := d * den
    let low := interval.low * factor
    let high := interval.high * factor
    if interval.closed then low ≤ x && x ≤ high else low < x && x < high
  let num := 4 * significand * factor
  let below := num / den
  let above := below + 1
  match inside below, inside above with
  | true, true =>
    let twice := 2 * num
    let middle := (below + above) * den
    some (if twice < middle || (twice == middle && tie.keeps below) then below else above, power)
  | true, false => some (below, power)
  | false, true => some (above, power)
  | false, false => none

def trimZeros : Nat → Nat → Int → Nat × Int
  | 0, d, p => (d, p)
  | fuel + 1, d, p => if d % 10 = 0 ∧ d ≠ 0 then trimZeros fuel (d / 10) (p + 1) else (d, p)

def shortestDigits (tie : Tie) (significand : Nat) (exponent : Int) : Nat × Int :=
  let num := significand * Nat.pow 2 exponent.toNat
  let den := Nat.pow 2 (-exponent).toNat
  let top := decimalExponent num den
  match (List.range 17).findSome? fun i => digitsOfCount? tie significand exponent top (i + 1) with
  | some (d, p) => trimZeros 20 d p
  | none => (0, 0)

def positional (digits : Nat) (power : Int) : String :=
  let ds := (toString digits).toList
  if 0 ≤ power then String.ofList (ds ++ List.replicate power.toNat '0')
  else
    let places := (-power).toNat
    let padded := List.replicate (places + 1 - ds.length) '0' ++ ds
    let whole := padded.length - places
    String.ofList (padded.take whole ++ '.' :: padded.drop whole)

def sign (negative : Bool) : String := if negative then "-" else ""

/-- Positional at every size, no point after a whole number, a sign also before zero, and ties away
from zero. -/
def text : Binary64 → String
  | .undefined => "NaN"
  | .infinite negative => sign negative ++ "inf"
  | .finite negative 0 _ => sign negative ++ "0"
  | .finite negative m e =>
    let (d, p) := shortestDigits .away m e
    sign negative ++ positional d p

def wholeText : Binary64 → String
  | .finite negative m e => sign negative ++ toString (wholePart m e).1
  | x => x.text

/-- As a JSON number: positional from `1e-5` up to `1e16` and then with `.0` after a whole number,
with an exponent outside, and ties to the even digit. -/
def jsonText : Binary64 → String
  | .finite negative 0 _ => sign negative ++ "0.0"
  | .finite negative m e =>
    let (d, p) := shortestDigits .even m e
    let digits := toString d
    let top : Int := p + digits.length - 1
    sign negative ++
      (if -5 ≤ top && top < 16 then
        if 0 ≤ p then positional d p ++ ".0" else positional d p
      else
        (match digits.toList with
          | [c] => String.ofList [c]
          | c :: rest => String.ofList (c :: '.' :: rest)
          | [] => "") ++ "e" ++ toString top)
  | _ => "null"

end PrepaidLedger.Binary64
