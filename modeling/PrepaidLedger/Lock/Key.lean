import PrepaidLedger.Uuid

/-!
Names of locks: one for the effect of one provider transaction on one card.
-/
namespace PrepaidLedger

structure LockKey where
  text : String
deriving DecidableEq, Repr

def LockKey.tag : String := "card-ledger"

def LockKey.ofTransaction (userId : Uuid) (reference : String) (cardId : Uuid) : LockKey :=
  ⟨tag ++ ":" ++ userId.text ++ ":" ++ reference ++ ":" ++ cardId.text⟩

end PrepaidLedger
