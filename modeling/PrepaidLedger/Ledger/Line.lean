import PrepaidLedger.Json.Basic
import PrepaidLedger.Timestamp
import PrepaidLedger.Uuid
import PrepaidLedger.Vocabulary

/-!
The two ledgers. A line records one provider transaction on one card; the journal entry of the same
reference shows it to the user. A line starts pending or final, and a final one stays as it is.
-/
namespace PrepaidLedger

/-- Identity of a row that the store itself brought into being: an identifier assigned by a
database, or the place of the row among those that a store in memory has made, batch by batch. -/
inductive RowId
  | assigned (u : Uuid)
  | numbered (batch item : Nat)
deriving DecidableEq, Repr

def RowId.text : RowId → String
  | .assigned u => u.text
  | .numbered .. => "<id>"

inductive LineStatus
  | pending
  | successful
  | declined
  | canceled
deriving DecidableEq, Repr

def LineStatus.word : LineStatus → String
  | .pending => "pending"
  | .successful => "successful"
  | .declined => "declined"
  | .canceled => "canceled"

instance : StoredVocabulary LineStatus where
  all := [.pending, .successful, .declined, .canceled]
  word := LineStatus.word
  subject := "card transaction status"

def LineStatus.isTerminal (s : LineStatus) : Bool := s ≠ .pending

inductive JournalStatus
  | pending
  | completed
  | declined
  | canceled
deriving DecidableEq, Repr

def JournalStatus.word : JournalStatus → String
  | .pending => "pending"
  | .completed => "completed"
  | .declined => "declined"
  | .canceled => "canceled"

instance : StoredVocabulary JournalStatus where
  all := [.pending, .completed, .declined, .canceled]
  word := JournalStatus.word
  subject := "main transaction status"

def JournalStatus.isTerminal (s : JournalStatus) : Bool := s ≠ .pending

def LineStatus.toJournal : LineStatus → JournalStatus
  | .pending => .pending
  | .successful => .completed
  | .declined => .declined
  | .canceled => .canceled

inductive LineKind
  | spend
  | deposit
deriving DecidableEq, Repr

def LineKind.word : LineKind → String
  | .spend => "spend"
  | .deposit => "deposit"

instance : StoredVocabulary LineKind where
  all := [.spend, .deposit]
  word := LineKind.word
  subject := "transaction kind"

structure Merchant where
  name : Option String
  city : Option String
  country : Option String
  category : Option String
  categoryCode : Option String
deriving DecidableEq, Repr

def Merchant.unknown : Merchant := ⟨none, none, none, none, none⟩

structure Line where
  id : RowId
  cardId : Uuid
  cardUserId : Uuid
  userId : Uuid
  reference : String
  kind : LineKind
  status : LineStatus
  amount : Int
  fee : Int
  currency : String
  /-- The card's balance around the last movement. -/
  balanceBefore : Option Int
  balanceAfter : Option Int
  merchant : Merchant
  declineReason : Option String
  feeChargeRef : Option String
  feeSettled : Bool
  createdAt : Timestamp
  updatedAt : Timestamp
deriving DecidableEq, Repr

structure NewLine where
  cardId : Uuid
  cardUserId : Uuid
  userId : Uuid
  reference : String
  kind : LineKind
  status : LineStatus
  amount : Int
  fee : Int
  currency : String
  balanceBefore : Option Int
  balanceAfter : Option Int
  merchant : Merchant
  declineReason : Option String
  feeSettled : Bool
deriving DecidableEq, Repr

structure LinePatch where
  status : Option LineStatus
  amount : Option Int
  fee : Option Int
  balanceBefore : Option Int
  balanceAfter : Option Int
  declineReason : Option String
  feeSettled : Option Bool
deriving DecidableEq, Repr

structure Entry where
  id : RowId
  userId : Uuid
  reference : String
  kind : LineKind
  status : JournalStatus
  amount : Int
  fee : Int
  currency : String
  balanceBefore : Option Int
  balanceAfter : Option Int
  metadata : Json
  createdAt : Timestamp
  updatedAt : Timestamp
deriving Repr

structure NewEntry where
  userId : Uuid
  reference : String
  kind : LineKind
  status : JournalStatus
  amount : Int
  fee : Int
  currency : String
  balanceBefore : Option Int
  balanceAfter : Option Int
  metadata : Json
deriving Repr

structure EntryPatch where
  status : Option JournalStatus
  amount : Option Int
  fee : Option Int
  balanceBefore : Option Int
  balanceAfter : Option Int
deriving DecidableEq, Repr

structure DepositAddress where
  id : RowId
  userId : Uuid
  chainId : Int
  address : String
  createdAt : Timestamp
deriving DecidableEq, Repr

/-! ## Patching -/

def LinePatch.apply (p : LinePatch) (l : Line) : Line :=
  { l with
    status := p.status.getD l.status
    amount := p.amount.getD l.amount
    fee := p.fee.getD l.fee
    balanceBefore := p.balanceBefore <|> l.balanceBefore
    balanceAfter := p.balanceAfter <|> l.balanceAfter
    declineReason := p.declineReason <|> l.declineReason
    feeSettled := p.feeSettled.getD l.feeSettled }

def EntryPatch.apply (p : EntryPatch) (e : Entry) : Entry :=
  { e with
    status := p.status.getD e.status
    amount := p.amount.getD e.amount
    fee := p.fee.getD e.fee
    balanceBefore := p.balanceBefore <|> e.balanceBefore
    balanceAfter := p.balanceAfter <|> e.balanceAfter }

def NewLine.toLine (n : NewLine) (id : RowId) (now : Timestamp) : Line where
  id := id
  cardId := n.cardId
  cardUserId := n.cardUserId
  userId := n.userId
  reference := n.reference
  kind := n.kind
  status := n.status
  amount := n.amount
  fee := n.fee
  currency := n.currency
  balanceBefore := n.balanceBefore
  balanceAfter := n.balanceAfter
  merchant := n.merchant
  declineReason := n.declineReason
  feeChargeRef := none
  feeSettled := n.feeSettled
  createdAt := now
  updatedAt := now

def NewEntry.toEntry (n : NewEntry) (id : RowId) (now : Timestamp) : Entry where
  id := id
  userId := n.userId
  reference := n.reference
  kind := n.kind
  status := n.status
  amount := n.amount
  fee := n.fee
  currency := n.currency
  balanceBefore := n.balanceBefore
  balanceAfter := n.balanceAfter
  metadata := n.metadata
  createdAt := now
  updatedAt := now

end PrepaidLedger
