import PrepaidLedger.DomainName.Label
import PrepaidLedger.Text.Split

/-!
Domain names in whatever script, and how they are written in ASCII.
-/
namespace PrepaidLedger.DomainName

def labels? (cs : List Char) : Option (List Label) := do
  let normal ← normalForm? cs
  let labels ← (Text.splitOn '.' normal).mapM Label.ofChars?
  if labels.any Label.turnsRight && !labels.all (Direction.isKept ·.directions) then none
  else some labels

def ascii? (cs : List Char) : Option (List Char) :=
  (labels? cs).map fun labels => List.intercalate ['.'] (labels.map Label.ascii)

end PrepaidLedger.DomainName
