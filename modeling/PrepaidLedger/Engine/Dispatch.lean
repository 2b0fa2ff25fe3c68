import PrepaidLedger.Engine.Write
import PrepaidLedger.Event.Envelope
import PrepaidLedger.Event.Outcome
import PrepaidLedger.Event.Profile

/-!
From an envelope to its outcome. Only a lock that cannot be had is an error for the sender, who will
deliver again; every other failure becomes an outcome that tells nothing of its cause.
-/
namespace PrepaidLedger

/-! ## Profile events -/

def cardChange (e : CardEvent) : Task (Except Rejection (Uuid × CardPatch)) := do
  match ← Task.store (.cardByRef e.cardRef) with
  | none => return .error .cardNotFound
  | some card => return .ok (card.id, e.patch card.status)

def updateCard (e : CardEvent) : Task (Except Rejection Card) := do
  match ← cardChange e with
  | .error r => return .error r
  | .ok (id, patch) =>
    match ← Task.store (.patchCard id patch) with
    | none => return .error .cardNotFound
    | some card => return .ok card

def updateCardUser (e : UserEvent) : Task (Except Rejection CardUser) := do
  match ← Task.store (.cardUserByRef e.userRef) with
  | none => return .error .cardUserNotFound
  | some owner =>
    match e.applicationStatus with
    | none => return .ok owner
    | some status =>
      match ← Task.store (.setCardUserStatus owner.id status) with
      | none => return .error .cardUserNotFound
      | some owner => return .ok owner

def registerContract (e : ContractEvent) : Task (Except Rejection DepositAddress) := do
  match ← Task.store (.cardUserByRef e.userRef) with
  | none => return .error .cardUserNotFound
  | some owner =>
    return .ok (← Task.store (.registerAddress owner.userId e.chainId e.depositAddress))

/-! ## Outcomes -/

namespace Outcome

def refused (action : String) (r : Rejection) : Outcome := .rejected action r.code

def invalidPayload (action : String) : Outcome := .rejected action "invalid_payload"

def unknownAction (action : String) : Outcome := .ignored action "unknown_action"

def unsupportedType (action : String) : Outcome := .ignored action "unsupported_transaction_type"

def ofAuthorization (action : String) : Except Rejection Card → Outcome
  | .ok _ => (ofStatus .approved action).withField "authorized" true
  | .error r => ((ofStatus .rejected action).withField "authorized" false).withField "reason" r.code

def ofDelivery (action reference : String) : Except Dismissal Applied → Outcome
  | .ok a =>
    (processed action).withField "transactionId" reference
      |>.withField "transactionStatus" a.line.status.word
      |>.withField "balanceBefore" (Json.ofOption .int a.line.balanceBefore)
      |>.withField "balanceAfter" (Json.ofOption .int a.line.balanceAfter)
  | .error .duplicate =>
    (processed action).withField "transactionId" reference
      |>.withField "skipped" true
      |>.withField "reason" Verdict.duplicateReason
  | .error (.rejected r) => (refused action r).withField "transactionId" reference

def ofCard (action : String) : Except Rejection Card → Outcome
  | .ok card =>
    (processed action).withField "cardId" card.id.text
      |>.withField "cardStatus" card.status.word
  | .error r => refused action r

def ofCardUser (action : String) : Except Rejection CardUser → Outcome
  | .ok owner =>
    (processed action).withField "cardUserId" owner.id.text
      |>.withField "applicationStatus" owner.status
  | .error r => refused action r

def ofAddress (action : String) : Except Rejection DepositAddress → Outcome
  | .ok a =>
    (processed action).withField "chainId" a.chainId
      |>.withField "depositAddress" a.address
  | .error r => refused action r

/-- Tells nothing of what went wrong. -/
def internalError (action : String) : Outcome :=
  (processed action).withField "error" "Internal processing error"

end Outcome

/-! ## Routing -/

def onTransaction (s : Settings) (action : String) (e : TransactionEvent) : Task Outcome := do
  match e.kind with
  | "spend" =>
    match e.spend with
    | none => return .invalidPayload action
    | some spend =>
      if action = "requested" then return .ofAuthorization action (← authorizeSpend spend)
      else return .ofDelivery action e.id (← applySpend s e.id spend)
  | "collateral" =>
    if action = "requested" then return .unsupportedType action
    else
      match e.collateral with
      | none => return .invalidPayload action
      | some collateral => return .ofDelivery action e.id (← applyCollateral s e.id collateral)
  | _ => return .unsupportedType action

def withPayload {α : Type} (action : String) (read? : Json.Draft → Option α) (body : Json)
    (answer : α → Task Outcome) : Task Outcome :=
  match read? (.ofValue body) with
  | none => pure (.invalidPayload action)
  | some e => answer e

def route (s : Settings) (resource action : String) (body : Json) : Task Outcome :=
  match resource with
  | "transaction" =>
    if action ∈ ["requested", "created", "updated", "completed"] then
      withPayload action TransactionEvent.read? body (onTransaction s action)
    else pure (.unknownAction action)
  | "card" =>
    if action = "updated" then
      withPayload action CardEvent.read? body fun e => do return .ofCard action (← updateCard e)
    else pure (.unknownAction action)
  | "user" =>
    if action ∈ ["created", "updated"] then
      withPayload action UserEvent.read? body fun e => do
        return .ofCardUser action (← updateCardUser e)
    else pure (.unknownAction action)
  | "contract" =>
    if action ∈ ["created", "updated"] then
      withPayload action ContractEvent.read? body fun e => do
        return .ofAddress action (← registerContract e)
    else pure (.unknownAction action)
  | "dispute" => pure (.ignored action "dispute_not_handled")
  | _ => pure (.ignored action "unknown_resource")

/-- Keeps an error from the sender unless the sender can do something about it. -/
def Outcome.ofResult (action : String) : Except EngineError Outcome → Except LockError Outcome
  | .ok o => .ok o
  | .error (.lock e) => .error e
  | .error _ => .ok (internalError action)

def dispatch (s : Settings) (e : Envelope) : Program (Except LockError Outcome) :=
  (route s e.resource e.action (normalizeBody e.body)).run.bind fun r =>
    .done (Outcome.ofResult e.action r)

end PrepaidLedger
