import PrepaidLedger.DomainName.ExclusionTable
import PrepaidLedger.DomainName.FormTable
import PrepaidLedger.Text.Composition

/-!
The one form of a domain name among its spellings: characters that stand for others are replaced,
those without a trace dropped, and the rest composed.
-/
namespace PrepaidLedger.DomainName

def FormRun.text? (r : FormRun) (code : Nat) : Option (List Nat) :=
  if r.first ≤ code then r.texts[code - r.first]? else none

def form? (c : Char) : Option (List Char) :=
  if Text.isAscii c then some [c.toLower]
  else if Text.inRanges ignoredRanges c then some []
  else if Text.inRanges excludedRanges c then none
  else
    match Text.counterpart? shiftedForms c with
    | some d => some [d]
    | none =>
      match formRuns.findSome? (·.text? c.toNat) with
      | some codes => some (codes.map Char.ofNat)
      | none => some [c]

def normalForm? (cs : List Char) : Option (List Char) :=
  (cs.mapM form?).map fun forms => Text.composed forms.flatten

def isNormal (cs : List Char) : Bool :=
  cs.all (fun c => form? c = some [c]) && Text.composed cs = cs

end PrepaidLedger.DomainName
