/-!
Stretches of code points, of which the tables of characters are made.
-/
namespace PrepaidLedger.Text

def isAscii (c : Char) : Bool := c.toNat < 0x80

def inRanges (ranges : List (Nat × Nat)) (c : Char) : Bool :=
  ranges.any fun r => r.1 ≤ c.toNat && c.toNat ≤ r.2

/-- Every `stride`-th character from `first` to `last` has its counterpart `shift` code points
away. -/
structure ShiftRange where
  first : Nat
  last : Nat
  stride : Nat
  shift : Int
deriving DecidableEq, Repr

def ShiftRange.covers (r : ShiftRange) (code : Nat) : Bool :=
  r.first ≤ code && code ≤ r.last && (code - r.first) % r.stride == 0

def counterpart? (ranges : List ShiftRange) (c : Char) : Option Char :=
  (ranges.find? (·.covers c.toNat)).map fun r => Char.ofNat (c.toNat + r.shift : Int).toNat

end PrepaidLedger.Text
