import PrepaidLedger.Text.CaseTable

/-!
Full lower-casing of a text: the one-to-one mappings of the character database, the capital I with
a dot above, which becomes two characters, and the final form of sigma, which depends on what
stands around it.
-/
namespace PrepaidLedger.Text

def isCased (c : Char) : Bool := inRanges casedRanges c

def isCaseIgnorable (c : Char) : Bool := inRanges caseIgnorableRanges c

def smallLetter (c : Char) : Char := (counterpart? capitalRanges c).getD c

def meetsCased (cs : List Char) : Bool :=
  match cs.dropWhile isCaseIgnorable with
  | c :: _ => isCased c
  | [] => false

def capitalSigma : Char := Char.ofNat 0x3A3
def smallSigma : Char := Char.ofNat 0x3C3
def finalSigma : Char := Char.ofNat 0x3C2
def dottedCapitalI : Char := Char.ofNat 0x130
def combiningDotAbove : Char := Char.ofNat 0x307

/-- The lower-case form of `c` between `before`, nearest character first, and `after`. -/
def lowerAt (before : List Char) (c : Char) (after : List Char) : List Char :=
  if c = capitalSigma then
    [if meetsCased before && !meetsCased after then finalSigma else smallSigma]
  else if c = dottedCapitalI then ['i', combiningDotAbove]
  else [smallLetter c]

def lowerFrom (before : List Char) : List Char → List Char
  | [] => []
  | c :: after => lowerAt before c after ++ lowerFrom (c :: before) after

def lowerCase (s : String) : String :=
  String.ofList (lowerFrom [] s.toList)

/-! ## ASCII letters alone -/

def sameUpToAsciiCase (a b : String) : Bool :=
  a.toList.map Char.toLower == b.toList.map Char.toLower

end PrepaidLedger.Text
