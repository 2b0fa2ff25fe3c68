import PrepaidLedger.Card.Basic
import PrepaidLedger.Json.Shape
import PrepaidLedger.Text.Blank
import PrepaidLedger.Text.Integer

/-!
Profile events of the card provider: the state of a card, a user's application, and the deposit
address of a collateral contract. They move no balance.
-/
namespace PrepaidLedger

open Json.Draft

inductive ProviderCardStatus
  | notActivated
  | active
  | locked
  | canceled
deriving DecidableEq, Repr

def ProviderCardStatus.word : ProviderCardStatus → String
  | .notActivated => "notActivated"
  | .active => "active"
  | .locked => "locked"
  | .canceled => "canceled"

instance : Vocabulary ProviderCardStatus where
  all := [.notActivated, .active, .locked, .canceled]
  word := ProviderCardStatus.word

/-- A card blocked here stays blocked when the provider reports it locked. -/
def ProviderCardStatus.toCard (provider : ProviderCardStatus) (current : CardStatus) :
    CardStatus :=
  match provider with
  | .notActivated => .pending
  | .active => .active
  | .locked => if current = .blocked then .blocked else .suspended
  | .canceled => .canceled

structure CardLimit where
  amount : Int
  frequency : Option String
deriving DecidableEq, Repr

def CardLimit.fields : List Field := [required "amount", optional "frequency"]

def CardLimit.read? (d : Json.Draft) : Option CardLimit :=
  match fields? fields d with
  | some [amount, frequency] => do
    return {
      amount := ← present? int64? amount
      frequency := ← maybe? text? frequency }
  | _ => none

structure CardEvent where
  cardRef : String
  status : Option ProviderCardStatus
  limit : Option CardLimit
  -- Expiry fields arrive as numbers or as numeric text.
  expirationMonth : Option Json
  expirationYear : Option Json
  lastFour : Option String
deriving Repr

def CardEvent.fields : List Field :=
  [required "id", optional "status", optional "limit", optional "expirationMonth",
    optional "expirationYear", optional "last4"]

def CardEvent.read? (d : Json.Draft) : Option CardEvent :=
  match fields? fields d with
  | some [id, status, limit, month, year, lastFour] => do
    return {
      cardRef := ← present? text? id
      status := ← maybe? word? status
      limit := ← maybe? CardLimit.read? limit
      expirationMonth := ← maybe? (·.value? (depthLimit - 1)) month
      expirationYear := ← maybe? (·.value? (depthLimit - 1)) year
      lastFour := ← maybe? text? lastFour }
  | _ => none

structure UserEvent where
  userRef : String
  applicationStatus : Option String
deriving DecidableEq, Repr

def UserEvent.fields : List Field := [required "id", optional "applicationStatus"]

def UserEvent.read? (d : Json.Draft) : Option UserEvent :=
  match fields? fields d with
  | some [id, status] => do
    return {
      userRef := ← present? text? id
      applicationStatus := ← maybe? text? status }
  | _ => none

structure ContractEvent where
  id : String
  userRef : String
  chainId : Int
  depositAddress : String
deriving DecidableEq, Repr

def ContractEvent.fields : List Field :=
  [required "id", required "userId", required "chainId", required "depositAddress"]

def ContractEvent.read? (d : Json.Draft) : Option ContractEvent :=
  match fields? fields d with
  | some [id, user, chain, address] => do
    return {
      id := ← present? text? id
      userRef := ← present? text? user
      chainId := ← present? int64? chain
      depositAddress := ← present? text? address }
  | _ => none

/-! ## Card patches -/

def minInt16 : Int := -32768
def maxInt16 : Int := 32767

/-- A number of sixteen bits, or the text of one between blanks; anything else says nothing. -/
def smallInt? : Option Json → Option Int
  | some (.number n) =>
    match n.toInt64? with
    | some n => if minInt16 ≤ n ∧ n ≤ maxInt16 then some n else none
    | none => none
  | some (.string s) => (Text.readInteger minInt16 maxInt16 (Text.trim s)).toOption
  | _ => none

/-- What the event changes on a card in the given status. Becoming active wipes the declines. -/
def CardEvent.patch (e : CardEvent) (current : CardStatus) : CardPatch :=
  let status := e.status.map (·.toCard current)
  { status := status
    isFrozen := e.status.map (· = .locked)
    spendingLimit := e.limit.map (·.amount)
    limitFrequency := e.limit.bind (·.frequency)
    expirationMonth := smallInt? e.expirationMonth
    expirationYear := smallInt? e.expirationYear
    lastFour := e.lastFour
    resetDeclineCount := status = some .active ∧ current ≠ .active }

end PrepaidLedger
