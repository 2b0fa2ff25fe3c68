import PrepaidLedger.Engine.Delivery
import PrepaidLedger.Engine.Effects

/-!
The store transaction of a delivery: it reads everything again, decides again, moves both balances
and checks them by reading them back, and writes the line and its journal entry. It is made under
the lock of the delivery, and whatever fails undoes all of it.
-/
namespace PrepaidLedger

def verify (entity : Entity) (id : Uuid) (expected : Int) (found : Option Int) :
    Except EngineError Unit :=
  if found = some expected then .ok () else .error (.unverified entity id expected found)

def verified {α : Type} (entity : Entity) (id : Uuid) (balance : α → Int) (expected : Int) :
    Option α → Except EngineError α
  | some row => (verify entity id expected (some (balance row))).map fun _ => row
  | none => .error (.unverified entity id expected none)

def writeCardBalance (id : Uuid) (balance : Int) (resetDeclines : Bool) : Task Card := do
  let written ← Task.tx (.setCardBalance id balance resetDeclines)
  Task.ofExcept (verify .card id balance (written.map (·.balance)))
  let card ← Task.tx (.card id)
  Task.ofExcept (verified .card id Card.balance balance card)

def writeCardUserBalance (id : Uuid) (balance : Int) : Task CardUser := do
  let written ← Task.tx (.setCardUserBalance id balance)
  Task.ofExcept (verify .cardUser id balance (written.map (·.balance)))
  let owner ← Task.tx (.cardUser id)
  Task.ofExcept (verified .cardUser id CardUser.balance balance owner)

structure DeclineRecord where
  card : Card
  newlyBlocked : Bool
deriving DecidableEq, Repr

def recordDecline (policy : DeclinePolicy) (id : Uuid) : Task DeclineRecord := do
  let card ← Task.found .card (.assigned id) (← Task.tx (.countDecline id))
  if policy.blocks card then
    let blocked ← Task.found .card (.assigned id) (← Task.tx (.setCardStatus id .blocked))
    return ⟨blocked, true⟩
  else return ⟨card, false⟩

/-! ## Line and journal entry -/

structure Movement where
  before : Int
  after : Int
  delta : Int
deriving DecidableEq, Repr

def Posting.newLine (p : Posting) (card : Card) (owner : CardUser) (m : Movement) : NewLine where
  cardId := card.id
  cardUserId := owner.id
  userId := card.userId
  reference := p.reference
  kind := p.kind
  status := p.status
  amount := p.amount
  fee := p.fee.fee
  currency := p.currency
  balanceBefore := some m.before
  balanceAfter := some m.after
  merchant := p.merchant
  declineReason := p.declineReason
  feeSettled := p.fee.settledOnWrite

/-- A stored fee stays where the event brings none, and so do the balances where none moved. -/
def Posting.linePatch (p : Posting) (m : Movement) : LinePatch where
  status := some p.status
  amount := some p.amount
  fee := if 0 < p.fee.fee then some p.fee.fee else none
  balanceBefore := if m.delta ≠ 0 then some m.before else none
  balanceAfter := if m.delta ≠ 0 then some m.after else none
  declineReason := p.declineReason
  feeSettled := if 0 < p.fee.fee then some p.fee.settledOnWrite else none

def Posting.newEntry (p : Posting) (card : Card) (l : Line) : NewEntry where
  userId := card.userId
  reference := p.reference
  kind := p.kind
  status := p.status.toJournal
  amount := p.amount
  fee := l.fee
  currency := l.currency
  balanceBefore := l.balanceBefore
  balanceAfter := l.balanceAfter
  metadata := p.metadata

def Posting.entryPatch (p : Posting) (l : Line) : EntryPatch where
  status := some p.status.toJournal
  amount := some p.amount
  fee := some l.fee
  balanceBefore := l.balanceBefore
  balanceAfter := l.balanceAfter

def writeLine (p : Posting) (card : Card) (owner : CardUser) (m : Movement) :
    Option Line → Task Line
  | none => Task.tx (.createLine (p.newLine card owner m))
  | some stored => do
    Task.found .line stored.id (← Task.tx (.patchLine stored.id (p.linePatch m)))

def writeEntry (p : Posting) (card : Card) (l : Line) : Task Unit := do
  match ← Task.tx (.entryByRef p.reference) with
  | none =>
    let _ ← Task.tx (.createEntry (p.newEntry card l))
  | some stored =>
    let _ ← Task.found .entry stored.id (← Task.tx (.patchEntry stored.id (p.entryPatch l)))

/-! ## The transaction -/

def writePosting (s : Settings) (p : Posting) (card : Card) (owner : CardUser)
    (stored : Option Line) : Task Applied := do
  let delta := p.delta (stored.map (·.snapshot))
  let cardBalance ← Task.ofExcept (applyDelta .card card.id card.balance delta)
  let ownerBalance ← Task.ofExcept (applyDelta .cardUser owner.id owner.balance delta)
  let written ← writeCardBalance card.id cardBalance p.resetsDeclines
  let ownerAfter ← writeCardUserBalance owner.id ownerBalance
  let decline ←
    if p.countsDecline then recordDecline s.declinePolicy card.id
    else pure ⟨written, false⟩
  let l ← writeLine p card owner ⟨card.balance, cardBalance, delta⟩ stored
  writeEntry p card l
  Task.commit
  return ⟨l, decline.card, ownerAfter, delta, decline.newlyBlocked⟩

def write (s : Settings) (d : Delivery) : Task (Except Dismissal Applied) :=
  -- Another delivery may have committed since this one was prepared, so the stored line is
  -- asked once more.
  Task.inTransaction do
    let card ← Task.found .card (.assigned d.cardId) (← Task.tx (.card d.cardId))
    let owner ← Task.found .cardUser (.assigned d.cardUserId) (← Task.tx (.cardUser d.cardUserId))
    let stored ← Task.tx (.lineByRef d.posting.reference)
    let verdict := validateTransition (stored.map (·.snapshot)) d.posting.snapshot s.tolerance
    match verdict.dismissal? with
    | some dismissal =>
      Task.rollback
      return .error dismissal
    | none => return .ok (← writePosting s d.posting card owner stored)

def writeLocked (s : Settings) (d : Delivery) : Task (Except Dismissal Applied) := do
  Task.acquire d.lockKey
  (write s d).thenAlways (.request (.release d.lockKey))

def startEffects (s : Settings) (a : Applied) : Program Unit :=
  match s.effects with
  | .background => .request (.defer a)
  | .inline => runEffects a

/-- Writes what was prepared, and starts the effects once the lock is free again. -/
def deliver (s : Settings) (prepared : Task (Except Dismissal Delivery)) :
    Task (Except Dismissal Applied) := do
  match ← prepared with
  | .error dismissal => return .error dismissal
  | .ok d =>
    match ← writeLocked s d with
    | .error dismissal => return .error dismissal
    | .ok a =>
      Task.ofProgram (startEffects s a)
      return .ok a

def applySpend (s : Settings) (reference : String) (e : SpendEvent) :
    Task (Except Dismissal Applied) :=
  deliver s (prepareSpend s reference e)

def applyCollateral (s : Settings) (reference : String) (e : CollateralEvent) :
    Task (Except Dismissal Applied) :=
  deliver s (prepareCollateral s reference e)

end PrepaidLedger
