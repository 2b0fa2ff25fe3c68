import PrepaidLedger.Text.Hex

/-!
Identifiers of 128 bits and their text of thirty-two hexadecimal digits in five groups.
-/
namespace PrepaidLedger

structure Uuid where
  bits : BitVec 128
deriving DecidableEq, Repr

namespace Uuid

def nil : Uuid := ⟨0⟩

def digit (u : Uuid) (i : Nat) : Char :=
  Text.hexDigit (u.bits.toNat / Nat.pow 16 (31 - i) % 16)

def group (u : Uuid) (start count : Nat) : List Char :=
  (List.range' start count).map u.digit

def chars (u : Uuid) : List Char :=
  u.group 0 8 ++ '-' :: u.group 8 4 ++ '-' :: u.group 12 4 ++ '-' :: u.group 16 4 ++
    '-' :: u.group 20 12

def text (u : Uuid) : String := String.ofList u.chars

def valueOfDigits? (cs : List Char) : Option Nat :=
  cs.foldlM (fun n c => (Text.hexValue? c).map (n * 16 + ·)) 0

def ofText? (s : String) : Option Uuid :=
  let cs := s.toList
  let hyphen (i : Nat) : Bool := cs[i]? == some '-'
  if cs.length = 36 ∧ hyphen 8 ∧ hyphen 13 ∧ hyphen 18 ∧ hyphen 23 then
    let digits := cs.filter (· ≠ '-')
    if digits.length = 32 then (valueOfDigits? digits).map fun n => ⟨BitVec.ofNat 128 n⟩ else none
  else none

end Uuid
end PrepaidLedger
