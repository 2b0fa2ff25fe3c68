import PrepaidLedger.Sql.Schema
import PrepaidLedger.Sql.Server
import PrepaidLedger.Text.Hex

/-!
Bringing a database to the schema of the ledger: each migration is applied once, in one transaction
with its entry in the book of migrations. A database with another history is left alone.
-/
namespace PrepaidLedger.Sql

structure Migration where
  version : Int
  description : String
  checksum : String
  script : String
deriving DecidableEq, Repr

def createLedger : Migration where
  version := 20250101000001
  description := "create card ledger"
  checksum :=
    "194bfda825b3bdf0613e5f8a3b1734daef28ae17c57cafbb" ++
      "e1ab0385318d46d6848ea5776b33ce85927b29870f0a76a7"
  script := schemaScript

def migrations : List Migration := [createLedger]

structure AppliedMigration where
  version : Int
  checksum : String
deriving DecidableEq, Repr

def AppliedMigration.agrees (a : AppliedMigration) (m : Migration) : Bool :=
  Text.bytesOfHex? a.checksum.toList = Text.bytesOfHex? m.checksum.toList

inductive MigrationError
  | unfinished (version : Int)
  | unknown (version : Int)
  | modified (version : Int)
  | script (version : Int) (detail : String)
  | database (detail : String)
deriving DecidableEq, Repr

namespace MigrationError

def named (version : Int) : String := "migration " ++ toString version

def message : MigrationError → String
  | .unfinished v =>
    named v ++ " is partially applied; fix and remove row from \x60_sqlx_migrations\x60 table"
  | .unknown v =>
    named v ++ " was previously applied but is missing in the resolved migrations"
  | .modified v => named v ++ " was previously applied but has been modified"
  | .script v detail => "while executing " ++ named v ++ ": " ++ detail
  | .database detail => "while executing migrations: " ++ detail

end MigrationError

namespace Server

def runScript (script : String) (s : Server) : Except String (List Row) × Server :=
  { s with scripts := s.scripts ++ [script] }.takeReply

def record (m : Migration) (s : Server) : Server :=
  s.log (.prepared "INSERT INTO _sqlx_migrations" [.int m.version, .string m.description])

def apply (m : Migration) (s : Server) : Except MigrationError Unit × Server :=
  match s.begin.runScript m.script with
  | (.error e, s) => (.error (.script m.version e), s.rollback)
  | (.ok _, s) =>
    match (s.record m).commit with
    | (.error e, s) => (.error (.database e), s.rollback)
    | (.ok (), s) => (.ok (), s)

/-- Applies the migrations that the book does not hold. Of several entries of one version the last
one counts. -/
def applyMissing (applied : List AppliedMigration) :
    List Migration → Server → Except MigrationError Unit × Server
  | [], s => (.ok (), s)
  | m :: rest, s =>
    match applied.reverse.find? (·.version = m.version) with
    | some a =>
      if a.agrees m then applyMissing applied rest s
      else (.error (.modified m.version), s)
    | none =>
      match s.apply m with
      | (.error e, s) => (.error e, s)
      | (.ok (), s) => applyMissing applied rest s

def migrate (applied : List AppliedMigration) (failed : List Int) (s : Server) :
    Except MigrationError Unit × Server :=
  match failed.head? with
  | some v => (.error (.unfinished v), s)
  | none =>
    match applied.find? fun a => migrations.all (·.version ≠ a.version) with
    | some a => (.error (.unknown a.version), s)
    | none => applyMissing applied migrations s

end Server
end PrepaidLedger.Sql
