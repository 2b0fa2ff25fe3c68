import PrepaidLedger.Lock.Key

/-!
Named locks within one process. Each key in use has a mutex of its own, found through a table. A
mutex is granted in order of arrival: who gives it up hands it to the first in line, who takes it
when next looking. The table forgets a mutex that nobody refers to any more, but looks only when a
holder gives one up.
-/
namespace PrepaidLedger

structure Holder where
  who : String
  key : LockKey
  mutex : Nat
deriving DecidableEq, Repr

structure Waiter where
  who : String
  key : LockKey
  mutex : Nat
  /-- The mutex is this waiter's already, but not yet taken. -/
  handed : Bool
deriving DecidableEq, Repr

structure LocalLocks where
  table : List (LockKey × Nat)
  made : Nat
  -- In order of being granted.
  holders : List Holder
  /-- In order of arrival. -/
  waiters : List Waiter
deriving Repr

inductive LockStep
  | acquire (who : String) (key : LockKey)
  | release (who : String)
  | cancel (who : String)
  | poll (who : String)
deriving DecidableEq, Repr

namespace LocalLocks

def empty : LocalLocks := ⟨[], 0, [], []⟩

def mutexOf? (s : LocalLocks) (key : LockKey) : Option Nat :=
  (s.table.find? (·.1 = key)).map (·.2)

/-- Held, or handed to someone who will hold it. -/
def isLocked (s : LocalLocks) (mutex : Nat) : Bool :=
  s.holders.any (·.mutex = mutex) || s.waiters.any fun w => w.handed && w.mutex = mutex

def isReferred (s : LocalLocks) (mutex : Nat) : Bool :=
  s.holders.any (·.mutex = mutex) || s.waiters.any (·.mutex = mutex)

def isActive (s : LocalLocks) (who : String) : Bool :=
  s.holders.any (·.who = who) || s.waiters.any (·.who = who)

def handOver (mutex : Nat) : List Waiter → List Waiter
  | [] => []
  | w :: rest =>
    if w.mutex = mutex then { w with handed := true } :: rest else w :: handOver mutex rest

def lookUp (s : LocalLocks) (key : LockKey) : Nat × LocalLocks :=
  match s.mutexOf? key with
  | some mutex => (mutex, s)
  | none => (s.made, { s with table := s.table ++ [(key, s.made)], made := s.made + 1 })

def acquire (s : LocalLocks) (who : String) (key : LockKey) : LocalLocks :=
  if s.isActive who then s
  else
    let (mutex, s) := s.lookUp key
    if s.isLocked mutex then { s with waiters := s.waiters ++ [⟨who, key, mutex, false⟩] }
    else { s with holders := s.holders ++ [⟨who, key, mutex⟩] }

def forget (s : LocalLocks) (key : LockKey) : LocalLocks :=
  match s.mutexOf? key with
  | none => s
  | some mutex =>
    if s.isReferred mutex then s else { s with table := s.table.filter (·.1 ≠ key) }

def release (s : LocalLocks) (who : String) : LocalLocks :=
  match s.holders.find? (·.who = who) with
  | none => s
  | some h =>
    { s with
      holders := s.holders.filter (·.who ≠ who)
      waiters := handOver h.mutex s.waiters }.forget h.key

/-- A mutex that was handed over goes to the next in line. The table stays as it is. -/
def cancel (s : LocalLocks) (who : String) : LocalLocks :=
  match s.waiters.find? (·.who = who) with
  | none => s
  | some w =>
    let rest := s.waiters.filter (·.who ≠ who)
    { s with waiters := if w.handed then handOver w.mutex rest else rest }

def poll (s : LocalLocks) (who : String) : LocalLocks :=
  match s.waiters.find? fun w => w.who = who ∧ w.handed with
  | none => s
  | some w =>
    { s with
      holders := s.holders ++ [⟨w.who, w.key, w.mutex⟩]
      waiters := s.waiters.filter (·.who ≠ who) }

def step (s : LocalLocks) : LockStep → LocalLocks
  | .acquire who key => s.acquire who key
  | .release who => s.release who
  | .cancel who => s.cancel who
  | .poll who => s.poll who

/-- Everyone who waits looks once, in order of arrival. -/
def pollAll (s : LocalLocks) : LocalLocks :=
  s.waiters.foldl (fun s w => s.poll w.who) s

end LocalLocks
end PrepaidLedger
