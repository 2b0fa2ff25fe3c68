import PrepaidLedger.Sql.Store
import PrepaidLedger.Sql.Table

/-!
The tables of the ledger and their indexes as a script that makes them.
-/
namespace PrepaidLedger.Sql

inductive Definition
  | table (t : Table)
  | index (unique : Bool) (name table : String) (keys : List String) (conditions : List Condition)
deriving DecidableEq, Repr

def Definition.text : Definition → String
  | .table t => "CREATE TABLE " ++ t.name ++ " ( " ++ commas (t.columns.map Column.text) ++ " );"
  | .index unique name target keys conditions =>
    "CREATE " ++ (if unique then "UNIQUE " else "") ++ "INDEX " ++ name ++ " ON " ++ target ++
      "(" ++ commas keys ++ ")" ++
      (if conditions = [] then ""
        else " WHERE " ++ " AND ".intercalate (conditions.map Condition.text)) ++ ";"

def schema : List Definition :=
  [.table cardUsersTable, .table cardsTable,
    .index false "idx_cards_card_user_id" cards ["card_user_id"] [],
    .table linesTable,
    .index false "idx_card_transactions_unsettled_fees" lines ["created_at"] isUnsettled,
    .table journalTable, .table addressesTable,
    .index true "idx_deposit_addresses_chain_address" addresses ["chain_id", lower "address"] []]

def schemaScript : String := " ".intercalate (schema.map Definition.text)

end PrepaidLedger.Sql
