import PrepaidLedger.Engine.Dispatch
import PrepaidLedger.Text.LowerCase
import PrepaidLedger.Web.Error
import PrepaidLedger.Web.Signature

/-!
The service over HTTP: a health check, and the address to which the provider posts its events. An
event is looked at only once its body is known to be signed.
-/
namespace PrepaidLedger.Web

structure HttpRequest where
  method : String
  target : String
  headers : List (String × String)
  body : List UInt8
  /-- What the body broke off with before its end, if it did. -/
  breakOff? : Option String := none
deriving Repr

inductive Payload
  | empty
  | json (j : Json)
deriving Repr

structure HttpResponse where
  status : Nat
  payload : Payload
deriving Repr

def afterHost : List Char → List Char
  | ':' :: '/' :: '/' :: rest => rest.dropWhile (· ≠ '/')
  | _ :: rest => afterHost rest
  | [] => []

namespace HttpRequest

def path (r : HttpRequest) : String :=
  let cs := r.target.toList.takeWhile fun c => c ≠ '?' && c ≠ '#'
  String.ofList (if cs.head? = some '/' then cs else afterHost cs)

def header? (r : HttpRequest) (name : String) : Option String :=
  (r.headers.find? fun h => Text.sameUpToAsciiCase h.1 name).map (·.2)

end HttpRequest

namespace HttpResponse

def ok (j : Json) : HttpResponse := ⟨200, .json j⟩

def ofError (e : WebError) : HttpResponse := ⟨e.status, .json e.body⟩

def empty (status : Nat) : HttpResponse := ⟨status, .empty⟩

def withoutPayload (r : HttpResponse) : HttpResponse := { r with payload := .empty }

end HttpResponse

/-! ## Signed bodies -/

def isHeaderText (s : String) : Bool :=
  s.toList.all fun c => c = '\t' || (' ' ≤ c && c ≤ '~')

def maxBodyBytes : Nat := 1048576

/-- The whole body, unless it is too long or did not arrive to its end. One that breaks off after
too many bytes is too long. -/
def HttpRequest.wholeBody (r : HttpRequest) : Except WebError (List UInt8) :=
  if maxBodyBytes < r.body.length then
    .error (.invalidRequest "Unreadable body: length limit exceeded")
  else
    match r.breakOff? with
    | some detail => .error (.invalidRequest ("Unreadable body: " ++ detail))
    | none => .ok r.body

/-- The bytes that a request is let through with. It has to have a textual signature and a body that
can be read, and the one has to fit the other. -/
def signedBody (secret : List UInt8) (r : HttpRequest) : Except WebError (List UInt8) := do
  match r.header? "signature" with
  | none => .error .invalidSignature
  | some signature =>
    if !isHeaderText signature then .error .invalidSignature
    else
      let body ← r.wholeBody
      if Signature.verify secret body signature then .ok body else .error .invalidSignature

/-! ## Answers -/

def healthJson (now : Timestamp) : Json :=
  .object [
    ("status", .string "healthy"),
    ("database", .string "connected"),
    ("timestamp", .string now.text)]

def health (now : Timestamp) : Program HttpResponse := do
  match ← .request (.store .ping) with
  | .ok () => return .ok (healthJson now)
  | .error e => return .ofError (.store e)

def ingest (s : Settings) (body : List UInt8) : Program HttpResponse := do
  match Envelope.ofBytes? body with
  | none => return .ofError (.invalidRequest "Invalid webhook envelope: not an envelope")
  | some e =>
    match ← dispatch s e with
    | .ok o => return .ok o.toJson
    | .error e => return .ofError (.unavailable e.message)

/-- What an address answers. One that exists refuses the methods it does not know, that of the
events only after it has checked the signature. -/
def answer (s : Settings) (secret : List UInt8) (now : Timestamp) (r : HttpRequest) :
    Program HttpResponse := do
  match r.path with
  | "/health" => if r.method ∈ ["GET", "HEAD"] then health now else return .empty 405
  | "/webhooks/card-provider" =>
    match signedBody secret r with
    | .error e => return .ofError e
    | .ok body => if r.method = "POST" then ingest s body else return .empty 405
  | _ => return .empty 404

/-- The whole service. It answers those who ask for the head alone as it answers others, but without
what follows the head. -/
def respond (s : Settings) (secret : List UInt8) (now : Timestamp) (r : HttpRequest) :
    Program HttpResponse := do
  let response ← answer s secret now r
  return if r.method = "HEAD" then response.withoutPayload else response

end PrepaidLedger.Web
