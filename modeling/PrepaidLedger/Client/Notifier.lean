import PrepaidLedger.Client.Http
import PrepaidLedger.Notice
import PrepaidLedger.Web.Signature

/-!
The calls of the receiver of notices. Each is a message with an identity of its own, signed where
there is a secret.
-/
namespace PrepaidLedger.Client

structure Notifier where
  url : String
  secret : Option String
deriving DecidableEq, Repr

namespace Notifier

def signatureHeader : String := "x-webhook-signature"
def eventIdHeader : String := "x-webhook-event-id"

def call (n : Notifier) (eventId : Uuid) (kind : String) (data : Json) : Option HttpCall :=
  -- The receiver is sent, and the signature is made for, the text with sorted members.
  let body := (Json.object [
    ("id", .string eventId.text),
    ("type", .string kind),
    ("data", data)]).sorted.text
  let signature := n.secret.map fun secret =>
    (signatureHeader, Signature.ofBody secret.toUTF8.toList body.toUTF8.toList)
  (Url.ofText? n.url).map fun url =>
    ⟨"POST", url, jsonContent :: (eventIdHeader, eventId.text) :: signature.toList, body⟩

def notice (n : Notifier) (eventId : Uuid) (m : Notice) : Option HttpCall :=
  n.call eventId "card_notification" (.object [
    ("channels", channelsJson m.kind.channels),
    ("notification", m.toJson)])

def balance (n : Notifier) (eventId : Uuid) (c : BalanceChange) (sentAt : Timestamp) :
    Option HttpCall :=
  n.call eventId "wallet_balance_changed" (c.toJson sentAt)

end Notifier
end PrepaidLedger.Client
