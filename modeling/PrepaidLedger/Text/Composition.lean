import PrepaidLedger.Text.CombiningTable
import PrepaidLedger.Text.CompositionTable
import PrepaidLedger.Text.Range

/-!
The composed form of a text. Characters are taken apart, the marks on each are put into their
canonical order, and what belongs together is put together again. Characters that only stand for
another one are left alone.
-/
namespace PrepaidLedger.Text

def combiningClass (c : Char) : Nat :=
  match classRanges.find? fun r => r.first ≤ c.toNat && c.toNat ≤ r.last with
  | some r => r.combiningClass
  | none => 0

/-! ## Two characters and the one they make -/

def firstLead : Nat := 0x1100
def firstVowel : Nat := 0x1161
def beforeTails : Nat := 0x11A7
def firstSyllable : Nat := 0xAC00
def leadCount : Nat := 19
def vowelCount : Nat := 21
def tailCount : Nat := 28
def syllableCount : Nat := leadCount * vowelCount * tailCount

/-- A Hangul syllable with a tail is one without and the tail; one without is a lead and a vowel. -/
def syllableParts? (code : Nat) : Option (Nat × Nat) :=
  let i := code - firstSyllable
  if code < firstSyllable ∨ syllableCount ≤ i then none
  else if i % tailCount = 0 then
    some (firstLead + i / tailCount / vowelCount, firstVowel + i / tailCount % vowelCount)
  else some (code - i % tailCount, beforeTails + i % tailCount)

def syllable? (first second : Nat) : Option Nat :=
  if firstLead ≤ first ∧ first < firstLead + leadCount ∧
      firstVowel ≤ second ∧ second < firstVowel + vowelCount then
    some (firstSyllable + ((first - firstLead) * vowelCount + (second - firstVowel)) * tailCount)
  else if firstSyllable ≤ first ∧ first < firstSyllable + syllableCount ∧
      (first - firstSyllable) % tailCount = 0 ∧
      beforeTails < second ∧ second < beforeTails + tailCount then
    some (first + (second - beforeTails))
  else none

def composites : List Composite := lowComposites ++ highComposites

def listedParts? (code : Nat) : Option (Nat × Nat) :=
  (composites.find? fun (x : Composite) => x.code = code).map fun x => (x.base, x.addition)

def listed? (base addition : Nat) : Option Nat :=
  (composites.find? fun (x : Composite) => x.base = base && x.addition = addition).map (·.code)

def parts? (c : Char) : Option (Char × Char) :=
  ((syllableParts? c.toNat).or (listedParts? c.toNat)).map fun (a, b) =>
    (Char.ofNat a, Char.ofNat b)

def composite? (base addition : Char) : Option Char :=
  ((syllable? base.toNat addition.toNat).or (listed? base.toNat addition.toNat)).map Char.ofNat

/-! ## Whole texts -/

def buildingSteps : Nat := 4

def takeApart : Nat → Char → List Char
  | 0, c => [c]
  | steps + 1, c =>
    match parts? c with
    | some (base, addition) => takeApart steps base ++ [addition]
    | none => [c]

/-- Puts a mark before those of its class or a higher one. -/
def placeMark (c : Char) : List Char → List Char
  | [] => [c]
  | d :: rest =>
    if combiningClass d = 0 ∨ combiningClass c ≤ combiningClass d then c :: d :: rest
    else d :: placeMark c rest

def orderMarks (cs : List Char) : List Char :=
  cs.foldr (fun c rest => if combiningClass c = 0 then c :: rest else placeMark c rest) []

/-- Joins to `base` what follows it. Between them stand `marks`, the last one first, which block the
way for every mark of the last one's class or a lower one. -/
def composeOnto (base : Char) (marks : List Char) : List Char → List Char
  | [] => base :: marks.reverse
  | c :: rest =>
    let blocked := marks.head?.any fun m => combiningClass c ≤ combiningClass m
    match if blocked then none else composite? base c with
    | some x => composeOnto x marks rest
    | none =>
      if combiningClass c = 0 then base :: marks.reverse ++ composeOnto c [] rest
      else composeOnto base (c :: marks) rest

def compose : List Char → List Char
  | [] => []
  | c :: rest => if combiningClass c = 0 then composeOnto c [] rest else c :: compose rest

def composed (cs : List Char) : List Char :=
  if cs.all isAscii then cs else compose (orderMarks (cs.flatMap (takeApart buildingSteps)))

end PrepaidLedger.Text
