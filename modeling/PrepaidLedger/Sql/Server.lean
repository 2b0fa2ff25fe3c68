import PrepaidLedger.Sql.Store
import PrepaidLedger.Store.Backend

/-!
A conversation with a database server: what it was sent so far, and what it will answer. The ledger
is kept there by statements, and its locks are held by the sessions of the server.
-/
namespace PrepaidLedger.Sql

inductive Reply
  | rows (rows : List Row)
  | error (message : String)
deriving Repr

inductive Sent
  | begin
  | commit
  | prepared (text : String) (params : List Json)
deriving Repr

structure Server where
  replies : List Reply
  -- Why the next commit will be refused, if it will.
  commitError : Option String
  isOpen : Bool
  -- The first one first.
  sent : List Sent
  rollbacks : Nat
  scripts : List String
deriving Repr

namespace Server

def ofReplies (replies : List Reply) (commitError : Option String) : Server :=
  ⟨replies, commitError, false, [], 0, []⟩

def log (s : Server) (m : Sent) : Server := { s with sent := s.sent ++ [m] }

def serverError (message : String) : String := "error returned from database: " ++ message

def takeReply (s : Server) : Except String (List Row) × Server :=
  match s.replies with
  | [] => (.ok [], s)
  | .rows rows :: rest => (.ok rows, { s with replies := rest })
  | .error message :: rest => (.error (serverError message), { s with replies := rest })

def execute (p : Prepared) (s : Server) : Except String (List Row) × Server :=
  -- The record of a conversation holds what can be read of the texts that were sent.
  (s.log (.prepared p.statement.text (p.params.map Row.document))).takeReply

def ask {α : Type} (p : Prepared) (answer : List Row → Except StoreError α) (s : Server) :
    Except StoreError α × Server :=
  match s.execute p with
  | (.ok rows, s) => (answer rows, s)
  | (.error e, s) => (.error (.database e), s)

/-! ## Transactions -/

def begin (s : Server) : Server := { s.log .begin with isOpen := true }

/-- A transaction whose commit is refused is still open. -/
def commit (s : Server) : Except String Unit × Server :=
  let s := s.log .commit
  match s.commitError with
  | some message => (.error (serverError message), { s with commitError := none })
  | none => (.ok (), { s with isOpen := false })

def rollback (s : Server) : Server :=
  if s.isOpen then { s with isOpen := false, rollbacks := s.rollbacks + 1 } else s

/-! ## Locks -/

def firstPause : Nat := 10
def longestPause : Nat := 250

def flagOfRow (r : Row) : Except StoreError Bool :=
  -- The only column of an answer about a lock. A complaint names it by its place, the first.
  if (r.cell "flag").isNull then .error (missingValue "0") else r.bool "flag"

def lockFailure : StoreError → LockError
  | .database detail => .backend detail
  | e => .backend e.message

/-- Tries until the lock is granted, the server fails, or the time to wait has passed. Each pause is
twice as long as the one before, up to a limit; `fuel` is at least the number of pauses. -/
def tryLock (key : LockKey) (wait : Nat) : Nat → Nat → Nat → Server → Except LockError Unit × Server
  | fuel, waited, pause, s =>
    match s.ask ⟨.tryLock, [.string key.text]⟩ (first flagOfRow) with
    | (.error e, s) => (.error (lockFailure e), s)
    | (.ok true, s) => (.ok (), s)
    | (.ok false, s) =>
      if wait ≤ waited then (.error (.timeout key.text), s)
      else
        match fuel with
        | 0 => (.error (.timeout key.text), s)
        | fuel + 1 => tryLock key wait fuel (waited + pause) (min (pause * 2) longestPause) s

def acquire (wait : Nat) (key : LockKey) (s : Server) : Except LockError Unit × Server :=
  -- No pause is shorter than the first one.
  tryLock key wait (wait / firstPause + 1) 0 firstPause s

/-- A session that cannot give up its lock is closed, which frees the lock as well. -/
def release (key : LockKey) (s : Server) : Server :=
  (s.execute ⟨.unlock, [.string key.text]⟩).2

/-! ## The store -/

def database {α : Type} : Except String α × Server → Except StoreError α × Server
  | (r, s) => (r.mapError .database, s)

def backend (wait : Nat) : Backend Server where
  call c := ask (prepare c) (answer c)
  begin s := (.ok (), s.begin)
  tx c := ask (prepareTx c) (answerTx c)
  commit s := database s.commit
  rollback s := (.ok (), s.rollback)
  abandon := rollback
  acquire := acquire wait
  release := release

end Server
end PrepaidLedger.Sql
