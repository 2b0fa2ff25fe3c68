/-!
The statements by which the ledger is kept in a relational database, and their text. Parameters are
numbered from one; a row is changed by its identity, which is the first of them.
-/
namespace PrepaidLedger.Sql

inductive Source
  | param (n : Nat)
  /-- The parameter, but where that is null the column stays. -/
  | unlessNull (n : Nat)
  /-- Zero where the parameter holds, else the column stays. -/
  | zeroIf (n : Nat)
  | increment
  | now
  | yes
deriving DecidableEq, Repr

inductive Condition
  | equals (column : String) (param : Nat)
  | equalsFolded (column : String) (param : Nat)
  | isNot (column word : String)
  | isPositive (column : String)
  | isFalse (column : String)
  | isOneOf (column : String) (words : List String)
deriving DecidableEq, Repr

inductive Order
  | wordFirst (column word : String)
  | newestFirst (column : String)
  | oldestFirst (column : String)
deriving DecidableEq, Repr

inductive Limit
  | one
  | param (n : Nat)
deriving DecidableEq, Repr

structure Selection where
  table : String
  conditions : List Condition
  order : List Order
  limit : Option Limit
  forUpdate : Bool
deriving DecidableEq, Repr

/-- Where a row with the same value of one column, and of another one in small letters, is there
already, only a third column of it is replaced. -/
structure Conflict where
  same : String
  sameFolded : String
  replaced : String
deriving DecidableEq, Repr

inductive Statement
  | ping
  | select (s : Selection)
  | update (table : String) (sets : List (String × Source))
  | insert (table : String) (columns : List String) (conflict : Option Conflict)
  | tryLock
  | unlock
deriving DecidableEq, Repr

/-! ## Text -/

def commas (parts : List String) : String := ", ".intercalate parts

def quoted (word : String) : String := "'" ++ word ++ "'"

def placeholder (n : Nat) : String := "$" ++ toString n

def lower (text : String) : String := "lower(" ++ text ++ ")"

def Source.text (column : String) : Source → String
  | .param n => placeholder n
  | .unlessNull n => "COALESCE(" ++ commas [placeholder n, column] ++ ")"
  | .zeroIf n => "CASE WHEN " ++ placeholder n ++ " THEN 0 ELSE " ++ column ++ " END"
  | .increment => column ++ " + 1"
  | .now => "NOW()"
  | .yes => "TRUE"

def Condition.text : Condition → String
  | .equals column n => column ++ " = " ++ placeholder n
  | .equalsFolded column n => lower column ++ " = " ++ lower (placeholder n)
  | .isNot column word => column ++ " <> " ++ quoted word
  | .isPositive column => column ++ " > 0"
  | .isFalse column => column ++ " = FALSE"
  | .isOneOf column words => column ++ " IN (" ++ commas (words.map quoted) ++ ")"

def Order.text : Order → String
  | .wordFirst column word => "(" ++ column ++ " = " ++ quoted word ++ ") DESC"
  | .newestFirst column => column ++ " DESC"
  | .oldestFirst column => column ++ " ASC"

def Limit.text : Limit → String
  | .one => "1"
  | .param n => placeholder n

def Selection.text (s : Selection) : String :=
  "SELECT * FROM " ++ s.table ++
    " WHERE " ++ " AND ".intercalate (s.conditions.map Condition.text) ++
    (if s.order = [] then "" else " ORDER BY " ++ commas (s.order.map Order.text)) ++
    (match s.limit with
      | none => ""
      | some limit => " LIMIT " ++ limit.text) ++
    (if s.forUpdate then " FOR UPDATE" else "")

def columnList (columns : List String) : String :=
  if columns.length ≤ 3 then "(" ++ commas columns ++ ")" else "( " ++ commas columns ++ " )"

def Conflict.text (c : Conflict) : String :=
  " ON CONFLICT (" ++ c.same ++ ", (" ++ lower c.sameFolded ++ ")) DO UPDATE SET " ++ c.replaced ++
    " = EXCLUDED." ++ c.replaced

def lockNumber : String := "hashtextextended($1, 0)"

def Statement.text : Statement → String
  | .ping => "SELECT 1"
  | .select s => s.text
  | .update table sets =>
    "UPDATE " ++ table ++ " SET " ++
      commas (sets.map fun (column, source) => column ++ " = " ++ source.text column) ++
      " WHERE id = $1 RETURNING *"
  | .insert table columns conflict =>
    "INSERT INTO " ++ table ++ " " ++ columnList columns ++ " VALUES (" ++
      commas ((List.range' 1 columns.length).map placeholder) ++ ")" ++
      (conflict.map Conflict.text).getD "" ++ " RETURNING *"
  | .tryLock => "SELECT pg_try_advisory_lock(" ++ lockNumber ++ ")"
  | .unlock => "SELECT pg_advisory_unlock(" ++ lockNumber ++ ")"

end PrepaidLedger.Sql
