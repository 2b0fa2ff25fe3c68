import PrepaidLedger.Card.Basic
import PrepaidLedger.Text.LowerCase

/-!
Declines for want of funds: which reasons tell of one, and how many in a row block a card.
-/
namespace PrepaidLedger

def insufficientFundsPhrases : List String := ["insufficient funds", "credit limit exceeded"]

def occursIn (part : List Char) : List Char → Bool
  | [] => part.isEmpty
  | c :: cs => part.isPrefixOf (c :: cs) || occursIn part cs

def tellsOfMissingFunds (reason : String) : Bool :=
  let small := (Text.lowerCase reason).toList
  insufficientFundsPhrases.any fun phrase => occursIn phrase.toList small

def isInsufficientFunds (reason : Option String) : Bool := reason.any tellsOfMissingFunds

structure DeclinePolicy where
  blockThreshold : Int
deriving DecidableEq, Repr

def DeclinePolicy.standard : DeclinePolicy := ⟨5⟩

def DeclinePolicy.blocks (p : DeclinePolicy) (counted : Card) : Bool :=
  p.blockThreshold ≤ counted.declineCount && counted.status ≠ .blocked

end PrepaidLedger
