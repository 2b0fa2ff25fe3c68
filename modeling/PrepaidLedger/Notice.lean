import PrepaidLedger.Card.Basic
import PrepaidLedger.Ledger.Line

/-!
Messages that leave once a change is committed: notices about a card's activity, and announcements
that a balance changed.
-/
namespace PrepaidLedger

inductive NoticeKind
  | spendPending
  | spendCompleted
  | spendDeclined
  | spendReversed
  | depositReceived
  | cardBlocked
deriving DecidableEq, Repr

def NoticeKind.word : NoticeKind → String
  | .spendPending => "spend_pending"
  | .spendCompleted => "spend_completed"
  | .spendDeclined => "spend_declined"
  | .spendReversed => "spend_reversed"
  | .depositReceived => "deposit_received"
  | .cardBlocked => "card_blocked"

def NoticeKind.ofLine? (l : Line) : Option NoticeKind :=
  match l.kind, l.status with
  | .spend, .pending => some .spendPending
  | .spend, .successful => some .spendCompleted
  | .spend, .declined => some .spendDeclined
  | .spend, .canceled => some .spendReversed
  | .deposit, .successful => some .depositReceived
  | .deposit, _ => none

inductive Channel
  | email
  | push
  | inApp
deriving DecidableEq, Repr

def Channel.word : Channel → String
  | .email => "email"
  | .push => "push"
  | .inApp => "in_app"

def NoticeKind.channels : NoticeKind → List Channel
  | .spendPending => [.inApp]
  | .cardBlocked => [.email, .push, .inApp]
  | _ => [.push, .inApp]

structure Notice where
  kind : NoticeKind
  userId : Uuid
  cardId : Uuid
  reference : Option String
  amount : Option Int
  currency : String
  cardLastFour : Option String
  merchantName : Option String
  reason : Option String
deriving DecidableEq, Repr

def Notice.ofLine (kind : NoticeKind) (card : Card) (l : Line) : Notice where
  kind := kind
  userId := l.userId
  cardId := card.id
  reference := some l.reference
  amount := some l.amount
  currency := l.currency
  cardLastFour := card.lastFour
  merchantName := l.merchant.name
  reason := l.declineReason

def Notice.cardBlocked (card : Card) (currency : String) : Notice where
  kind := .cardBlocked
  userId := card.userId
  cardId := card.id
  reference := none
  amount := none
  currency := currency
  cardLastFour := card.lastFour
  merchantName := none
  reason := some "insufficient_funds_declines"

def Notice.toJson (n : Notice) : Json :=
  .object [
    ("kind", .string n.kind.word),
    ("user_id", .string n.userId.text),
    ("card_id", .string n.cardId.text),
    ("transaction_ref", Json.ofOption .string n.reference),
    ("amount", Json.ofOption .int n.amount),
    ("currency", .string n.currency),
    ("card_last_four", Json.ofOption .string n.cardLastFour),
    ("merchant_name", Json.ofOption .string n.merchantName),
    ("reason", Json.ofOption .string n.reason)]

def channelsJson (channels : List Channel) : Json := .array (channels.map (.string ·.word))

/-! ## Balance changes -/

structure BalanceChange where
  userId : Uuid
  walletId : Uuid
  currency : String
  balance : Int
  previousBalance : Int
  reference : String
  cardStatus : CardStatus
  cardLastFour : Option String
deriving DecidableEq, Repr

/-- The balance before and after a movement: the snapshots where there are any, else reckoned from
the current balance. -/
def balanceTransition (before after : Option Int) (current delta : Int) : Int × Int :=
  let next := after.getD current
  (before.getD (next - delta), next)

def BalanceChange.ofLine (card : Card) (l : Line) (delta : Int) : BalanceChange :=
  let (previous, next) := balanceTransition l.balanceBefore l.balanceAfter card.balance delta
  { userId := card.userId
    walletId := card.id
    currency := l.currency
    balance := next
    previousBalance := previous
    reference := l.reference
    cardStatus := card.status
    cardLastFour := card.lastFour }

def BalanceChange.members (c : BalanceChange) : List (String × Json) :=
  [("userId", .string c.userId.text),
    ("walletType", .string "card"),
    ("walletId", .string c.walletId.text),
    ("currency", .string c.currency),
    ("balance", .int c.balance),
    ("previousBalance", .int c.previousBalance),
    ("transactionId", .string c.reference),
    ("wallet", .object [
      ("id", .string c.walletId.text),
      ("status", .string c.cardStatus.word),
      ("lastFour", Json.ofOption .string c.cardLastFour),
      ("balance", .int c.balance)])]

def BalanceChange.toJson (c : BalanceChange) (sentAt : Timestamp) : Json :=
  .object (c.members ++ [("timestamp", .string sentAt.text)])

end PrepaidLedger
