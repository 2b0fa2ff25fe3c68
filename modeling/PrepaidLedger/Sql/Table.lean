import PrepaidLedger.Card.Basic
import PrepaidLedger.Ledger.Balance
import PrepaidLedger.Ledger.Line
import PrepaidLedger.Sql.Statement

/-!
The tables in which a database keeps the ledger: their columns, what a column may hold, and which of
them must hold a value.
-/
namespace PrepaidLedger.Sql

inductive ColumnType
  | uuid
  | text
  | bigint
  | integer
  | smallint
  | boolean
  | timestamp
  | jsonb
deriving DecidableEq, Repr

def ColumnType.word : ColumnType → String
  | .uuid => "UUID"
  | .text => "TEXT"
  | .bigint => "BIGINT"
  | .integer => "INTEGER"
  | .smallint => "SMALLINT"
  | .boolean => "BOOLEAN"
  | .timestamp => "TIMESTAMPTZ"
  | .jsonb => "JSONB"

inductive Constraint
  | primaryKey
  | notNull
  | unique
  | default (value : String)
  | references (table : String)
  | isBalance
  | isWord (words : List String)
deriving DecidableEq, Repr

def Constraint.text (column : String) : Constraint → String
  | .primaryKey => "PRIMARY KEY"
  | .notNull => "NOT NULL"
  | .unique => "UNIQUE"
  | .default value => "DEFAULT " ++ value
  | .references table => "REFERENCES " ++ table ++ "(id)"
  | .isBalance =>
    "CHECK (" ++ column ++ " >= 0 AND " ++ column ++ " <= " ++ toString maxSafeAmount ++ ")"
  | .isWord words => "CHECK (" ++ (Condition.isOneOf column words).text ++ ")"

structure Column where
  name : String
  type : ColumnType
  constraints : List Constraint
deriving DecidableEq, Repr

def Column.text (c : Column) : String :=
  " ".intercalate (c.name :: c.type.word :: c.constraints.map (Constraint.text c.name))

/-- Null is admitted where no value is required, and in a document, where it is a value itself. -/
def Column.admitsNull (c : Column) : Bool :=
  c.type = .jsonb || !c.constraints.any (· ∈ [.primaryKey, .notNull])

structure Table where
  name : String
  columns : List Column
deriving DecidableEq, Repr

/-! ## The ledger -/

def cards : String := "cards"
def cardUsers : String := "card_users"
def lines : String := "card_transactions"
def journal : String := "main_transactions"
def addresses : String := "deposit_addresses"

def declineColumn : String := "insufficient_funds_decline_count"

def identity : Column := ⟨"id", .uuid, [.primaryKey, .default "gen_random_uuid()"]⟩

def required (name : String) (type : ColumnType) (more : List Constraint) : Column :=
  ⟨name, type, .notNull :: more⟩

def optional (name : String) (type : ColumnType) : Column := ⟨name, type, []⟩

def createdAt : Column := required "created_at" .timestamp [.default "NOW()"]

def updatedAt : Column := required "updated_at" .timestamp [.default "NOW()"]

def balanceColumn : Column := required "balance" .bigint [.default "0", .isBalance]

def words (α : Type) [Vocabulary α] : List String := (Vocabulary.all : List α).map Vocabulary.word

def cardUsersTable : Table :=
  ⟨cardUsers, [identity, required "user_id" .uuid [.unique],
    required "provider_ref" .text [.unique], required "status" .text [.default (quoted "pending")],
    balanceColumn, createdAt, updatedAt]⟩

def cardsTable : Table :=
  ⟨cards, [identity, required "user_id" .uuid [],
    required "card_user_id" .uuid [.references cardUsers],
    required "provider_ref" .text [.unique],
    required "status" .text [.default (quoted CardStatus.pending.word), .isWord (words CardStatus)],
    balanceColumn, optional "spending_limit" .bigint, optional "limit_frequency" .text,
    required "is_frozen" .boolean [.default "FALSE"],
    required declineColumn .integer [.default "0"], optional "expiration_month" .smallint,
    optional "expiration_year" .smallint, optional "last_four" .text, createdAt, updatedAt]⟩

def amountColumns : List Column :=
  [required "amount" .bigint [], required "fee" .bigint [.default "0"],
    required "currency" .text [.default (quoted "USD")], optional "balance_before" .bigint,
    optional "balance_after" .bigint]

def kindColumn : Column := required "kind" .text [.isWord (words LineKind)]

def statusColumn (α : Type) [Vocabulary α] : Column := required "status" .text [.isWord (words α)]

def linesTable : Table :=
  ⟨lines, [identity, required "card_id" .uuid [.references cards],
      required "card_user_id" .uuid [.references cardUsers], required "user_id" .uuid [],
      required "provider_ref" .text [.unique], kindColumn, statusColumn LineStatus] ++
    amountColumns ++
    [optional "merchant_name" .text, optional "merchant_city" .text,
      optional "merchant_country" .text, optional "merchant_category" .text,
      optional "merchant_category_code" .text, optional "decline_reason" .text,
      optional "fee_provider_ref" .text, required "fee_settled" .boolean [.default "FALSE"],
      createdAt, updatedAt]⟩

def journalTable : Table :=
  ⟨journal, [identity, required "user_id" .uuid [], required "reference" .text [.unique],
      kindColumn, statusColumn JournalStatus] ++ amountColumns ++
    [required "metadata" .jsonb [.default (quoted "\x7b\x7d" ++ "::jsonb")], createdAt, updatedAt]⟩

def addressesTable : Table :=
  ⟨addresses, [identity, required "user_id" .uuid [], required "chain_id" .bigint [],
    required "address" .text [], createdAt]⟩

end PrepaidLedger.Sql
