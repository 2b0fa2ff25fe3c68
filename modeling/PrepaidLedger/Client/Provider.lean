import PrepaidLedger.Client.Http
import PrepaidLedger.Engine.Program
import PrepaidLedger.Json.Parser
import PrepaidLedger.Json.Shape

/-!
The calls of the card provider: charges to a card-user, and the lock of a card.
-/
namespace PrepaidLedger

structure ChargeReceipt where
  chargeRef : String
deriving DecidableEq, Repr

def ChargeReceipt.read? (d : Json.Draft) : Option ChargeReceipt :=
  match Json.Draft.fields? [Json.Draft.required "id"] d with
  | some [id] => (Json.Draft.present? Json.Draft.text? id).map (⟨·⟩)
  | _ => none

namespace Client

structure Provider where
  baseUrl : String
  apiKey : String
deriving DecidableEq, Repr

namespace Provider

def base (p : Provider) : String :=
  String.ofList (p.baseUrl.toList.reverse.dropWhile (· = '/')).reverse

def call (p : Provider) (method path : String) (headers : List (String × String)) (body : Json) :
    Option HttpCall :=
  HttpCall.prepare? method (p.base ++ path) (("api-key", p.apiKey) :: headers ++ [jsonContent]) body

def charge (p : Provider) (c : Charge) : Option HttpCall :=
  p.call "POST" ("/issuing/users/" ++ c.userRef ++ "/charges")
    [("idempotency-key", c.idempotencyKey)]
    (.object [("amount", .int c.amount), ("description", .string c.description)])

def lockCard (p : Provider) (cardRef : String) : Option HttpCall :=
  p.call "PATCH" ("/issuing/cards/" ++ cardRef) [] (.object [("status", .string "locked")])

def readReceipt (a : HttpAnswer) : Except CallError ChargeReceipt :=
  match a.accepted with
  | .error e => .error e
  | .ok content =>
    match (Json.Draft.ofText? content).bind ChargeReceipt.read? with
    | some receipt => .ok receipt
    | none => .error .unreadable

end Provider
end Client
end PrepaidLedger
