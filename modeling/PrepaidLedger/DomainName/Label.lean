import PrepaidLedger.DomainName.DirectionTable
import PrepaidLedger.DomainName.JoiningTable
import PrepaidLedger.DomainName.Mapping
import PrepaidLedger.DomainName.Punycode

/-!
The parts of a domain name between its dots, as they are read and as they are written in ASCII, and
the rules that keep a reader from taking one for another: on marks at the beginning, on joiners that
do not show, and on the direction of writing.
-/
namespace PrepaidLedger.DomainName

/-! ## Marks and joiners -/

def beginsWithMark (text : List Char) : Bool := text.head?.any (Text.inRanges markRanges)

def nonJoiner : Char := Char.ofNat 0x200C
def joiner : Char := Char.ofNat 0x200D

def viramaClass : Nat := 9

def isVirama (c : Char) : Bool := Text.combiningClass c = viramaClass

/-- Joining passes over marks: those that take the direction of what they stand on, five that have
one of their own, and a letter that counts as a mark. -/
def isTransparent (c : Char) : Bool :=
  Text.inRanges nonspacingRanges c ||
    c.toNat ∈ [0xCBF, 0xCC6, 0x11A07, 0x11A08, 0x11C3F, 0x1E94B]

def meetsJoining (ranges : List (Nat × Nat)) (cs : List Char) : Bool :=
  (cs.dropWhile isTransparent).head?.any (Text.inRanges ranges)

/-- A joiner or its opposite changes what is seen: after a virama, or, for the opposite alone,
between letters that would join. -/
def joinerShows (before : List Char) (c : Char) (after : List Char) : Bool :=
  before.head?.any isVirama ||
    (c = nonJoiner && meetsJoining (dualJoiningRanges ++ leftJoiningRanges) before &&
      meetsJoining (dualJoiningRanges ++ rightJoiningRanges) after)

def joinersShow (before : List Char) : List Char → Bool
  | [] => true
  | c :: after =>
    ((c ≠ joiner && c ≠ nonJoiner) || joinerShows before c after) && joinersShow (c :: before) after

def isLegible (text : List Char) : Bool := !beginsWithMark text && joinersShow [] text

/-! ## Direction -/

inductive Direction
  | left
  | right
  | europeanDigit
  | arabicDigit
  | mark
  | neutral
deriving DecidableEq, Repr

namespace Direction

def ofChar (c : Char) : Direction :=
  if Text.inRanges rightToLeftRanges c then .right
  else if Text.inRanges europeanDigitRanges c then .europeanDigit
  else if Text.inRanges arabicDigitRanges c then .arabicDigit
  else if Text.inRanges nonspacingRanges c then .mark
  else if Text.inRanges neutralRanges c then .neutral
  else .left

def last? (ds : List Direction) : Option Direction := (ds.reverse.dropWhile (· = .mark)).head?

def isLeftward (ds : List Direction) : Bool :=
  ds.all (· ∈ [left, europeanDigit, mark, neutral]) && last? ds ∈ [some left, some europeanDigit]

def isRightward (ds : List Direction) : Bool :=
  ds.all (· ≠ left) && !(europeanDigit ∈ ds && arabicDigit ∈ ds) &&
    last? ds ∈ [some right, some europeanDigit, some arabicDigit]

def isKept (ds : List Direction) : Bool :=
  match ds with
  | [] => true
  | left :: _ => isLeftward ds
  | right :: _ => isRightward ds
  | _ => false

end Direction

/-! ## Labels -/

structure Label where
  text : List Char
  ascii : List Char
deriving DecidableEq, Repr

namespace Label

def codeMark : List Char := "xn--".toList

def maxCodeLength : Nat := 2000
def maxTextLength : Nat := 1000

def decoded? (code : List Char) : Option (List Char) :=
  if maxCodeLength < code.length then none
  else (Punycode.decode? code).filter fun text =>
    text.length ≤ maxTextLength && !text.all Text.isAscii && isNormal text && isLegible text

def ofChars? (cs : List Char) : Option Label :=
  if codeMark.isPrefixOf cs then
    (decoded? (cs.drop codeMark.length)).map fun text => ⟨text, cs⟩
  else if cs.all Text.isAscii then some ⟨cs, cs⟩
  else if isLegible cs ∧ cs.length ≤ maxTextLength then
    some ⟨cs, codeMark ++ Punycode.encode cs⟩
  else none

def directions (l : Label) : List Direction := l.text.map Direction.ofChar

def turnsRight (l : Label) : Bool :=
  l.directions.any fun d => d = .right || d = .arabicDigit

end Label
end PrepaidLedger.DomainName
