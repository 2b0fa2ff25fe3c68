import PrepaidLedger.Sql.Row
import PrepaidLedger.Sql.Statement
import PrepaidLedger.Store.Call

/-!
Each call of the store as one statement with its parameters, and what the rows that come back mean
to the caller.
-/
namespace PrepaidLedger.Sql

structure Prepared where
  statement : Statement
  params : List Json
deriving Repr

def selectWhere (table : String) (conditions : List Condition) : Statement :=
  .select ⟨table, conditions, [], none, false⟩

def selectBy (table column : String) : Statement := selectWhere table [.equals column 1]

def lockRow (table : String) : Statement :=
  .select ⟨table, [.equals "id" 1], [], none, true⟩

/-- Sets columns, each from the parameter of its number or else as it is, beginning with the second
parameter. -/
def keepUnlessGiven (columns : List String) : List (String × Source) :=
  (columns.zipIdx 2).map fun (column, n) => (column, .unlessNull n)

def touched : String × Source := ("updated_at", .now)

def text : String → Json := .string
def optText : Option String → Json := Json.ofOption .string
def optInt : Option Int → Json := Json.ofOption .int
def optBool : Option Bool → Json := Json.ofOption .bool

/-! ## Statements -/

def primaryCard : Statement :=
  .select ⟨cards, [.equals "card_user_id" 1, .isNot "status" CardStatus.canceled.word],
    [.wordFirst "status" CardStatus.active.word, .newestFirst "created_at"], some .one, false⟩

def isUnsettled : List Condition :=
  [.isPositive "fee", .isFalse "fee_settled",
    .isOneOf "status" [LineStatus.successful.word, LineStatus.declined.word]]

def unsettledFees : Statement :=
  .select ⟨lines, isUnsettled, [.oldestFirst "created_at"], some (.param 1), false⟩

def upsertAddress : Statement :=
  .insert addresses ["user_id", "chain_id", "address"] (some ⟨"chain_id", "address", "user_id"⟩)

def patchCard : Statement :=
  .update cards (keepUnlessGiven ["status", "is_frozen", "spending_limit", "limit_frequency",
    "expiration_month", "expiration_year", "last_four"] ++ [(declineColumn, .zeroIf 9), touched])

def settleFee : Statement :=
  .update lines [("fee_settled", .yes), ("fee_provider_ref", .unlessNull 2), touched]

def insertLine : Statement :=
  .insert lines ["card_id", "card_user_id", "user_id", "provider_ref", "kind", "status", "amount",
    "fee", "currency", "balance_before", "balance_after", "merchant_name", "merchant_city",
    "merchant_country", "merchant_category", "merchant_category_code", "decline_reason",
    "fee_settled"] none

def patchLine : Statement :=
  .update lines (keepUnlessGiven ["status", "amount", "fee", "balance_before", "balance_after",
    "decline_reason", "fee_settled"] ++ [touched])

def insertEntry : Statement :=
  .insert journal ["user_id", "reference", "kind", "status", "amount", "fee", "currency",
    "balance_before", "balance_after", "metadata"] none

def patchEntry : Statement :=
  .update journal (keepUnlessGiven ["status", "amount", "fee", "balance_before",
    "balance_after"] ++ [touched])

def prepare : StoreCall → Prepared
  | .ping => ⟨.ping, []⟩
  | .cardByRef ref => ⟨selectBy cards "provider_ref", [text ref]⟩
  | .primaryCard cardUserId => ⟨primaryCard, [text cardUserId.text]⟩
  | .cardUserById id => ⟨selectBy cardUsers "id", [text id.text]⟩
  | .cardUserByRef ref => ⟨selectBy cardUsers "provider_ref", [text ref]⟩
  | .cardUserByUser userId => ⟨selectBy cardUsers "user_id", [text userId.text]⟩
  | .lineByRef reference => ⟨selectBy lines "provider_ref", [text reference]⟩
  | .depositAddress chainId address =>
    ⟨selectWhere addresses [.equals "chain_id" 1, .equalsFolded "address" 2],
      [.int chainId, text address]⟩
  | .registerAddress userId chainId address =>
    ⟨upsertAddress, [text userId.text, .int chainId, text address]⟩
  | .patchCard id p =>
    ⟨patchCard, [text id.text, optText (p.status.map (·.word)), optBool p.isFrozen,
      optInt p.spendingLimit, optText p.limitFrequency, optInt p.expirationMonth,
      optInt p.expirationYear, optText p.lastFour, .bool p.resetDeclineCount]⟩
  | .setCardUserStatus id status =>
    ⟨.update cardUsers [("status", .param 2), touched], [text id.text, text status]⟩
  | .settleFee id chargeRef => ⟨settleFee, [text id.text, optText chargeRef]⟩
  | .unsettledFees limit => ⟨unsettledFees, [.int limit]⟩

def prepareTx : TxCall → Prepared
  | .card id => ⟨lockRow cards, [text id.text]⟩
  | .cardUser id => ⟨lockRow cardUsers, [text id.text]⟩
  | .lineByRef reference => ⟨selectBy lines "provider_ref", [text reference]⟩
  | .entryByRef reference => ⟨selectBy journal "reference", [text reference]⟩
  | .setCardBalance id balance reset =>
    ⟨.update cards [("balance", .param 2), (declineColumn, .zeroIf 3), touched],
      [text id.text, .int balance, .bool reset]⟩
  | .setCardUserBalance id balance =>
    ⟨.update cardUsers [("balance", .param 2), touched], [text id.text, .int balance]⟩
  | .countDecline id => ⟨.update cards [(declineColumn, .increment), touched], [text id.text]⟩
  | .setCardStatus id status =>
    ⟨.update cards [("status", .param 2), touched], [text id.text, text status.word]⟩
  | .createLine n =>
    ⟨insertLine, [text n.cardId.text, text n.cardUserId.text, text n.userId.text,
      text n.reference, text n.kind.word, text n.status.word, .int n.amount, .int n.fee,
      text n.currency, optInt n.balanceBefore, optInt n.balanceAfter, optText n.merchant.name,
      optText n.merchant.city, optText n.merchant.country, optText n.merchant.category,
      optText n.merchant.categoryCode, optText n.declineReason, .bool n.feeSettled]⟩
  | .patchLine id p =>
    ⟨patchLine, [text id.text, optText (p.status.map (·.word)), optInt p.amount, optInt p.fee,
      optInt p.balanceBefore, optInt p.balanceAfter, optText p.declineReason,
      optBool p.feeSettled]⟩
  | .createEntry n =>
    ⟨insertEntry, [text n.userId.text, text n.reference, text n.kind.word, text n.status.word,
      .int n.amount, .int n.fee, text n.currency, optInt n.balanceBefore, optInt n.balanceAfter,
      n.metadata]⟩
  | .patchEntry id p =>
    ⟨patchEntry, [text id.text, optText (p.status.map (·.word)), optInt p.amount, optInt p.fee,
      optInt p.balanceBefore, optInt p.balanceAfter]⟩

/-! ## Answers -/

def first? {α : Type} (ofRow : Row → Except StoreError α) : List Row → Except StoreError (Option α)
  | [] => .ok none
  | r :: _ => (ofRow r).map some

def noRow : String := "no rows returned by a query that expected to return at least one row"

def first {α : Type} (ofRow : Row → Except StoreError α) : List Row → Except StoreError α
  | [] => .error (.database noRow)
  | r :: _ => ofRow r

def every {α : Type} (t : Table) (ofRow : Row → Except StoreError α) (rows : List Row) :
    Except StoreError (List α) := do
  rows.forM t.check
  rows.mapM ofRow

def answer : (c : StoreCall) → List Row → Except StoreError c.Answer
  | .ping => fun _ => .ok ()
  | .cardByRef _ => first? cardOfRow
  | .primaryCard _ => first? cardOfRow
  | .patchCard .. => first? cardOfRow
  | .cardUserById _ => first? cardUserOfRow
  | .cardUserByRef _ => first? cardUserOfRow
  | .cardUserByUser _ => first? cardUserOfRow
  | .setCardUserStatus .. => first? cardUserOfRow
  | .lineByRef _ => first? lineOfRow
  | .settleFee .. => first? lineOfRow
  | .depositAddress .. => first? addressOfRow
  | .registerAddress .. => first addressOfRow
  | .unsettledFees _ => every linesTable lineOfRow

def answerTx : (c : TxCall) → List Row → Except StoreError c.Answer
  | .card _ => first? cardOfRow
  | .setCardBalance .. => first? cardOfRow
  | .countDecline _ => first? cardOfRow
  | .setCardStatus .. => first? cardOfRow
  | .cardUser _ => first? cardUserOfRow
  | .setCardUserBalance .. => first? cardUserOfRow
  | .lineByRef _ => first? lineOfRow
  | .patchLine .. => first? lineOfRow
  | .entryByRef _ => first? entryOfRow
  | .patchEntry .. => first? entryOfRow
  | .createLine _ => first lineOfRow
  | .createEntry _ => first entryOfRow

end PrepaidLedger.Sql
