import PrepaidLedger.Timestamp
import PrepaidLedger.Uuid
import PrepaidLedger.Vocabulary

/-!
Cards, each with a balance of its own, and the card-users that own them. Amounts are whole minor
units of the currency.
-/
namespace PrepaidLedger

inductive CardStatus
  | pending
  | active
  | inactive
  | suspended
  | blocked
  | canceled
  | expired
deriving DecidableEq, Repr

def CardStatus.word : CardStatus → String
  | .pending => "pending"
  | .active => "active"
  | .inactive => "inactive"
  | .suspended => "suspended"
  | .blocked => "blocked"
  | .canceled => "canceled"
  | .expired => "expired"

instance : StoredVocabulary CardStatus where
  all := [.pending, .active, .inactive, .suspended, .blocked, .canceled, .expired]
  word := CardStatus.word
  subject := "card status"

structure Card where
  id : Uuid
  userId : Uuid
  cardUserId : Uuid
  providerRef : String
  status : CardStatus
  balance : Int
  spendingLimit : Option Int
  limitFrequency : Option String
  isFrozen : Bool
  /-- Declines for want of funds since the last successful spend or reactivation, in 32 bits. -/
  declineCount : Int
  expirationMonth : Option Int
  expirationYear : Option Int
  lastFour : Option String
  createdAt : Timestamp
  updatedAt : Timestamp
deriving DecidableEq, Repr

/-- The owner of one or more cards as the provider knows it. Its balance moves with the balances of
its cards. -/
structure CardUser where
  id : Uuid
  userId : Uuid
  providerRef : String
  status : String
  balance : Int
  createdAt : Timestamp
  updatedAt : Timestamp
deriving DecidableEq, Repr

/-- Changes to what the provider decides about a card; what is `none` stays. -/
structure CardPatch where
  status : Option CardStatus
  isFrozen : Option Bool
  spendingLimit : Option Int
  limitFrequency : Option String
  expirationMonth : Option Int
  expirationYear : Option Int
  lastFour : Option String
  resetDeclineCount : Bool
deriving DecidableEq, Repr

def CardPatch.apply (p : CardPatch) (c : Card) : Card :=
  { c with
    status := p.status.getD c.status
    isFrozen := p.isFrozen.getD c.isFrozen
    spendingLimit := p.spendingLimit <|> c.spendingLimit
    limitFrequency := p.limitFrequency <|> c.limitFrequency
    expirationMonth := p.expirationMonth <|> c.expirationMonth
    expirationYear := p.expirationYear <|> c.expirationYear
    lastFour := p.lastFour <|> c.lastFour
    declineCount := if p.resetDeclineCount then 0 else c.declineCount }

end PrepaidLedger
