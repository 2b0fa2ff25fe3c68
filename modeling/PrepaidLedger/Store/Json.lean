import PrepaidLedger.Card.Json
import PrepaidLedger.Json.Printer
import PrepaidLedger.Ledger.Json
import PrepaidLedger.Store.Tables

/-!
Rows and answers of the store as they are shown, and what differs between two states of the tables.
-/
namespace PrepaidLedger

def Json.without (names : List String) : Json → Json
  | .object members => .object (members.filter fun m => m.1 ∉ names)
  | j => j

structure RowView where
  card : Card → Json
  cardUser : CardUser → Json
  line : Line → Json
  entry : Entry → Json
  address : DepositAddress → Json

namespace RowView

def complete : RowView :=
  ⟨Card.toJson, CardUser.toJson, Line.toJson, Entry.toJson, DepositAddress.toJson⟩

/-- Without the times, and without the names that the store gives to rows of its own making: what
the same events bring about each time. -/
def stable : RowView where
  card c := c.toJson.without ["created_at", "updated_at"]
  cardUser u := u.toJson.without ["created_at", "updated_at"]
  line l := l.toJson.without ["id", "created_at", "updated_at"]
  entry e := e.toJson.without ["id", "created_at", "updated_at"]
  address a := a.toJson.without ["id", "created_at"]

variable (v : RowView)

def answer : (c : StoreCall) → c.Answer → Json
  | .ping, _ => .null
  | .cardByRef _, a | .primaryCard _, a | .patchCard .., a => Json.ofOption v.card a
  | .cardUserById _, a | .cardUserByRef _, a | .cardUserByUser _, a | .setCardUserStatus .., a =>
    Json.ofOption v.cardUser a
  | .lineByRef _, a | .settleFee .., a => Json.ofOption v.line a
  | .depositAddress .., a => Json.ofOption v.address a
  | .registerAddress .., a => v.address a
  | .unsettledFees _, a => .array (a.map v.line)

def txAnswer : (c : TxCall) → c.Answer → Json
  | .card _, a | .setCardBalance .., a | .countDecline _, a | .setCardStatus .., a =>
    Json.ofOption v.card a
  | .cardUser _, a | .setCardUserBalance .., a => Json.ofOption v.cardUser a
  | .lineByRef _, a | .patchLine .., a => Json.ofOption v.line a
  | .entryByRef _, a | .patchEntry .., a => Json.ofOption v.entry a
  | .createLine _, a => v.line a
  | .createEntry _, a => v.entry a

/-- All rows under their labels. Lines of one reference have the same label, and so have entries. -/
def rows (t : Tables) : List (String × Json) :=
  t.cardUsers.map (fun u => ("card_user " ++ u.id.text, v.cardUser u)) ++
    t.cards.map (fun c => ("card " ++ c.id.text, v.card c)) ++
    t.lines.map (fun l => ("card_transaction " ++ l.reference, v.line l)) ++
    t.journal.map (fun e => ("main_transaction " ++ e.reference, v.entry e)) ++
    t.addresses.map fun a =>
      ("deposit_address " ++ toString a.chainId ++ " " ++ a.address.map Char.toLower, v.address a)

/-- The rows that are new or look different, whatever the order of their members. -/
def changes (before after : Tables) : List (String × Json) :=
  let look (r : String × Json) := (r.1, r.2.sorted.text)
  let old := (v.rows before).map look
  (v.rows after).filter fun r => look r ∉ old

end RowView
end PrepaidLedger
