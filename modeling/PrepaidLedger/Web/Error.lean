import PrepaidLedger.Error

/-!
Errors that a sender over HTTP sees. Causes inside the service are never shown.
-/
namespace PrepaidLedger

inductive WebError
  | store (e : StoreError)
  | invalidSignature
  | invalidRequest (detail : String)
  | unavailable (detail : String)
deriving DecidableEq, Repr

namespace WebError

def message : WebError → String
  | .store e => "Database error: " ++ e.message
  | .invalidSignature => "Invalid webhook signature"
  | .invalidRequest _ => "Invalid request"
  | .unavailable _ => "Service temporarily unavailable"

def status : WebError → Nat
  | .store _ => 500
  | .invalidSignature => 401
  | .invalidRequest _ => 400
  | .unavailable _ => 503

def code : WebError → String
  | .store _ => "internal_error"
  | .invalidSignature => "invalid_signature"
  | .invalidRequest _ => "invalid_request"
  | .unavailable _ => "service_unavailable"

/-- What the sender is told, where it differs from the message kept for the operator. -/
def publicMessage : WebError → String
  | .store _ => "An internal error occurred"
  | .invalidRequest detail => detail
  | e => e.message

def body (e : WebError) : Json :=
  .object [("error", .object [("code", .string e.code), ("message", .string e.publicMessage)])]

end WebError
end PrepaidLedger
