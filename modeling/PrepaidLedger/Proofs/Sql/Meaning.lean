import Mathlib.Logic.Function.Basic
import PrepaidLedger.Sql.Store

/-! What the writing statements mean to the rows of a table: an update sets columns of the rows with
an identity and leaves the others as they are, an insertion puts its parameters into the columns
that it lists and defaults into the others, and both return what they have written. Checks and
references are left to those who send the statements. -/

namespace PrepaidLedger.Sql

/-! ## Values -/

def parameter (params : List Json) (n : Nat) : Json := (params[n - 1]?).getD .null

def coalesce (given held : Json) : Json := if given.isNull then held else given

def zeroed (flag held : Json) : Json :=
  match flag with
  | .bool true => .int 0
  | _ => held

def successor : Json → Json
  | .number (.int n) => .int (n + 1)
  | v => v

def Source.value (params : List Json) (now : Timestamp) (held : Json) : Source → Json
  | .param n => parameter params n
  | .unlessNull n => coalesce (parameter params n) held
  | .zeroIf n => zeroed (parameter params n) held
  | .increment => successor held
  | .now => .int now.seconds
  | .yes => .bool true

def updated (sets : List (String × Source)) (params : List Json) (now : Timestamp) (r : Row)
    (column : String) : Json :=
  match sets.lookup column with
  | some source => source.value params now (r.cell column)
  | none => r.cell column

def Column.default? (c : Column) : Option String :=
  c.constraints.findSome? fun
    | .default value => some value
    | _ => none

def defaultValue (now : Timestamp) (fresh : Uuid) : String → Json
  | "gen_random_uuid()" => .string fresh.text
  | "NOW()" => .int now.seconds
  | "0" => .int 0
  | "FALSE" => .bool false
  | "'\x7b\x7d'::jsonb" => .object []
  | quoted => .string (String.ofList (quoted.toList.drop 1).dropLast)

def Table.initial (t : Table) (now : Timestamp) (fresh : Uuid) (column : String) : Json :=
  match (t.columns.find? (·.name = column)).bind Column.default? with
  | some value => defaultValue now fresh value
  | none => .null

def inserted (t : Table) (columns : List String) (params : List Json) (now : Timestamp)
    (fresh : Uuid) (column : String) : Json :=
  ((columns.zip params).lookup column).getD (t.initial now fresh column)

/-! ## Rows -/

def Table.row (t : Table) (cell : String → Json) : Row :=
  t.columns.map fun c => (c.name, cell c.name)

def Row.hasId (id : Uuid) (r : Row) : Bool := Row.uuid? (r.cell "id") = some id

def Statement.sets : Statement → List (String × Source)
  | .update _ sets => sets
  | _ => []

def Statement.columns : Statement → List String
  | .insert _ columns _ => columns
  | _ => []

def Prepared.change (p : Prepared) (t : Table) (now : Timestamp) (r : Row) : Row :=
  t.row (updated p.statement.sets p.params now r)

def Prepared.newRow (p : Prepared) (t : Table) (now : Timestamp) (fresh : Uuid) : Row :=
  t.row (inserted t p.statement.columns p.params now fresh)

def updateRows (change : Row → Row) (id : Uuid) (rows : List Row) : List Row × List Row :=
  ((rows.filter (Row.hasId id)).map change, rows.map fun r => if r.hasId id then change r else r)

/-! ## Statements -/

abbrev Database := String → List Row

def tableNamed? (name : String) : Option Table :=
  [cardUsersTable, cardsTable, linesTable, journalTable, addressesTable].find? (·.name = name)

def Prepared.write? (p : Prepared) (now : Timestamp) (fresh : Uuid) (db : Database) :
    Option (List Row × Database) :=
  match p.statement with
  | .update name _ => do
    let t ← tableNamed? name
    let id ← Row.uuid? (parameter p.params 1)
    let (returned, rows) := updateRows (p.change t now) id (db name)
    return (returned, Function.update db name rows)
  | .insert name _ none => do
    let row := p.newRow (← tableNamed? name) now fresh
    return ([row], Function.update db name (db name ++ [row]))
  | _ => none

/-! ## What is found by an identity -/

section Found

variable {id : Uuid} {change : Row → Row} {rows : List Row}

theorem find?_updateRows (id' : Uuid)
    (hchange : ∀ r, r.hasId id = true → ∀ id', (change r).hasId id' = r.hasId id') :
    (updateRows change id rows).2.find? (Row.hasId id') =
      (rows.find? (Row.hasId id')).map fun r => if r.hasId id then change r else r := by
  -- A change that leaves the identity shows in the rows of one identity only.
  have hsame : (Row.hasId id' ∘ fun r => if r.hasId id then change r else r) = Row.hasId id' := by
    funext r
    unfold Function.comp
    dsimp only
    split
    next h => exact hchange r h id'
    next => rfl
  unfold updateRows
  rw [List.find?_map, hsame]

theorem head?_updateRows (change : Row → Row) (id : Uuid) (rows : List Row) :
    (updateRows change id rows).1.head? = (rows.find? (Row.hasId id)).map change := by
  unfold updateRows
  rw [List.head?_map, List.head?_filter]

end Found

end PrepaidLedger.Sql
