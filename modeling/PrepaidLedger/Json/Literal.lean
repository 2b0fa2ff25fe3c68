import PrepaidLedger.Json.Basic

/-!
The number that a JSON literal stands for. A whole literal that fits 64 bits is exact. Any other is
read in two roundings: the leading digits that fit an unsigned word become a float, which is then
multiplied or divided by a power of ten that is itself a float.
-/
namespace PrepaidLedger.Json

structure WordPrefix where
  word : Nat
  taken : Nat
  dropped : Nat
deriving Repr

def appendDigits (word : Nat) (digits : List Nat) : WordPrefix :=
  digits.foldl
    (fun acc d =>
      if acc.dropped = 0 ∧ acc.word * 10 + d < Nat.pow 2 64 then
        { acc with word := acc.word * 10 + d, taken := acc.taken + 1 }
      else { acc with dropped := acc.dropped + 1 })
    ⟨word, 0, 0⟩

def maxPower : Nat := 308

def powerOfTen (k : Nat) : Binary64 := .ofDecimal false 1 k

def scaleByTen : Nat → Binary64 → Int → Option Binary64
  | fuel, x, power =>
    if power.natAbs ≤ maxPower then
      let p := powerOfTen power.natAbs
      let y := if 0 ≤ power then x.times p else x.dividedBy p
      if y.isFinite then some y else none
    else if x.isZero then some x
    else if 0 ≤ power then none
    else
      -- A word divided twice by the greatest power is zero.
      match fuel with
      | 0 => some (.zero false)
      | fuel + 1 => scaleByTen fuel (x.dividedBy (powerOfTen maxPower)) (power + maxPower)

def floatLiteral (negative : Bool) (word : Nat) (power : Int) : Option Number :=
  (scaleByTen 3 (.ofRatio false word 1) power).map fun x => .float (x.withSign negative)

def numberLiteral (negative : Bool) (whole : List Nat) (fraction : Option (List Nat))
    (exponent : Option Int) : Option Number :=
  let front := appendDigits 0 whole
  match fraction, exponent with
  | none, none =>
    if front.dropped ≠ 0 then floatLiteral negative front.word front.dropped
    else if !negative then some (.int front.word)
    else if front.word = 0 ∨ maxInt64 + 1 < front.word then
      some (.float ((Binary64.ofRatio false front.word 1).withSign true))
    else some (.int (-(front.word : Int)))
  | some fraction, exponent =>
    let back := appendDigits front.word fraction
    floatLiteral negative back.word ((front.dropped : Int) - back.taken + exponent.getD 0)
  | none, some exponent => floatLiteral negative front.word (front.dropped + exponent)

end PrepaidLedger.Json
