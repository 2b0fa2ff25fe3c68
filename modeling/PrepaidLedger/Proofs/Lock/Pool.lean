import Mathlib.Logic.Function.Basic
import PrepaidLedger.Sql.Server

/-! Sessions of the server, lent from a pool to callers that lock keys with them. A caller sends one
statement at a time and may be stopped wherever it waits; what it has sent is carried out all the
same. The server knows a key by its hash only. -/

namespace PrepaidLedger.Sql

/-! ## One caller -/

def Reply.flag : Reply → Except StoreError Bool
  | .rows found => first Server.flagOfRow found
  | .error message => .error (.database (Server.serverError message))

structure Attempt where
  waited : Nat
  pause : Nat

inductive Heard
  | granted
  | again (next : Attempt)
  | denied (cause : LockError)

namespace Attempt

def start : Attempt := ⟨0, Server.firstPause⟩

def later (a : Attempt) (elapsed : Nat) : Attempt := { a with waited := a.waited + elapsed }

def hear (key : LockKey) (wait : Nat) (a : Attempt) : Except StoreError Bool → Heard
  | .error e => .denied (Server.lockFailure e)
  | .ok true => .granted
  | .ok false =>
    if wait ≤ a.waited then .denied (.timeout key.text)
    else .again ⟨a.waited + a.pause, min (a.pause * 2) Server.longestPause⟩

end Attempt

inductive Query
  | tryLock (key : LockKey)
  | unlock (key : LockKey)

namespace Query

def key : Query → LockKey
  | .tryLock key => key
  | .unlock key => key

def prepared : Query → Prepared
  | .tryLock key => ⟨.tryLock, [.string key.text]⟩
  | .unlock key => ⟨.unlock, [.string key.text]⟩

end Query

namespace Server

theorem ask_flag {s : Server} {r : Reply} {rest : List Reply} (h : s.replies = r :: rest)
    (q : Query) : s.ask q.prepared (first flagOfRow) = (r.flag, (s.execute q.prepared).2) := by
  unfold ask execute log takeReply
  dsimp only
  rw [h]
  cases r <;> rfl

theorem tryLock_eq_hear (key : LockKey) (wait fuel : Nat) (a : Attempt) {s : Server} {r : Reply}
    {rest : List Reply} (h : s.replies = r :: rest) :
    tryLock key wait (fuel + 1) a.waited a.pause s =
      let s' := (s.execute (Query.tryLock key).prepared).2
      match a.hear key wait r.flag with
      | .granted => (.ok (), s')
      | .denied cause => (.error cause, s')
      | .again next => tryLock key wait fuel next.waited next.pause s' := by
  -- A turn of the loop sends one statement and makes of the answer what every caller does.
  have hask : s.ask ⟨.tryLock, [.string key.text]⟩ (first flagOfRow) =
      (r.flag, (s.execute (Query.tryLock key).prepared).2) := ask_flag h (.tryLock key)
  rw [tryLock, hask]
  dsimp only
  cases r.flag with
  | error e => rfl
  | ok granted =>
    cases granted with
    | true => rfl
    | false =>
      unfold Attempt.hear
      dsimp only
      by_cases hwait : wait ≤ a.waited
      · rw [if_pos hwait, if_pos hwait]
      · rw [if_neg hwait, if_neg hwait]

end Server

/-! ## The pool -/

structure Answer where
  reply : Reply
  -- The statement has changed the locks.
  changed : Bool

inductive Place
  | pooled
  | lent
  | closed
deriving DecidableEq, Repr

structure Session where
  place : Place
  pending : Option Query
  answer : Option Answer

inductive Caller (σ : Type)
  | away
  | connecting (key : LockKey)
  | trying (key : LockKey) (s : σ) (a : Attempt)
  | pausing (key : LockKey) (s : σ) (a : Attempt)
  | guarding (key : LockKey) (s : σ)
  | releasing (key : LockKey) (s : σ)

def Caller.session? {σ : Type} : Caller σ → Option σ
  | .away | .connecting _ => none
  | .trying _ s _ | .pausing _ s _ | .guarding _ s | .releasing _ s => some s

structure Pool (ι σ η : Type) where
  caller : ι → Caller σ
  session : σ → Session
  locks : η → Option (σ × Nat)

inductive Course
  | carriedOut
  | failed (message : String)
  | cutShort (message : String)

def Query.change {σ : Type} [DecidableEq σ] (s : σ) :
    Query → Option (σ × Nat) → Option (σ × Nat) × Bool
  | .tryLock _, none => (some (s, 0), true)
  | .tryLock _, some (t, n) => if t = s then (some (s, n + 1), true) else (some (t, n), false)
  | .unlock _, none => (none, false)
  | .unlock _, some (t, 0) => if t = s then (none, true) else (some (t, 0), false)
  | .unlock _, some (t, n + 1) => if t = s then (some (t, n), true) else (some (t, n + 1), false)

namespace Pool

variable {ι σ η : Type} [DecidableEq ι] [DecidableEq σ] [DecidableEq η]

def start : Pool ι σ η := ⟨fun _ => .away, fun _ => ⟨.pooled, none, none⟩, fun _ => none⟩

def become (m : Pool ι σ η) (i : ι) (c : Caller σ) : Pool ι σ η :=
  { m with caller := Function.update m.caller i c }

def setSession (m : Pool ι σ η) (s : σ) (session : Session) : Pool ι σ η :=
  { m with session := Function.update m.session s session }

def send (m : Pool ι σ η) (s : σ) (q : Query) : Pool ι σ η :=
  m.setSession s ⟨.lent, some q, none⟩

def read (m : Pool ι σ η) (s : σ) : Pool ι σ η :=
  m.setSession s { m.session s with answer := none }

def giveBack (m : Pool ι σ η) (s : σ) : Pool ι σ η :=
  -- A statement that was sent may still be under way.
  m.setSession s { m.session s with place := .pooled, answer := none }

def close (m : Pool ι σ η) (s : σ) : Pool ι σ η :=
  -- A session that is closed gives up its locks.
  { m.setSession s ⟨.closed, none, none⟩ with
    locks := fun h => (m.locks h).filter fun lock => lock.1 ≠ s }

def flagRow (flag : Bool) : Row := [("flag", .bool flag)]

def respond (m : Pool ι σ η) (s : σ) (answer : Answer) : Pool ι σ η :=
  -- Nobody waits for what comes on a session that is not lent.
  m.setSession s { m.session s with
    pending := none
    answer := if (m.session s).place = .lent then some answer else none }

section Machine

variable (hash : LockKey → η) (wait : Nat)

def execute (m : Pool ι σ η) (s : σ) (q : Query) : Bool × Pool ι σ η :=
  let (lock, flag) := q.change s (m.locks (hash q.key))
  (flag, { m with locks := Function.update m.locks (hash q.key) lock })

def serve (m : Pool ι σ η) (s : σ) (course : Course) : Pool ι σ η :=
  match (m.session s).pending with
  | none => m
  | some q =>
    match course with
    | .carriedOut =>
      let (flag, m) := m.execute hash s q
      m.respond s ⟨.rows [flagRow flag], flag⟩
    | .failed message => m.respond s ⟨.error message, false⟩
    | .cutShort message =>
      let (flag, m) := m.execute hash s q
      m.respond s ⟨.error message, flag⟩

def receive (m : Pool ι σ η) (i : ι) (late : Nat) : Pool ι σ η :=
  match m.caller i with
  | .trying key s a =>
    match (m.session s).answer with
    | none => m
    | some answer =>
      match (a.later late).hear key wait answer.reply.flag with
      | .granted => (m.read s).become i (.guarding key s)
      | .again next => (m.read s).become i (.pausing key s next)
      | .denied _ => (m.giveBack s).become i .away
  | .releasing _ s =>
    match (m.session s).answer with
    | none => m
    | some answer =>
      match answer.reply.flag with
      | .ok _ => (m.giveBack s).become i .away
      | .error _ => (m.close s).become i .away
  | _ => m

inductive Op (ι σ : Type)
  | call (i : ι) (key : LockKey)
  | connect (i : ι) (s : σ)
  | refuse (i : ι)
  | serve (s : σ) (course : Course)
  | receive (i : ι) (late : Nat)
  | wake (i : ι)
  | release (i : ι)
  | drop (i : ι)
  | cancel (i : ι)
  | drain (s : σ)

def step (m : Pool ι σ η) : Op ι σ → Pool ι σ η
  | .call i key =>
    match m.caller i with
    | .away => m.become i (.connecting key)
    | _ => m
  | .connect i s =>
    match m.caller i with
    | .connecting key =>
      if (m.session s).place = .pooled ∧ (m.session s).pending.isNone then
        (m.send s (.tryLock key)).become i (.trying key s .start)
      else m
    | _ => m
  | .refuse i =>
    match m.caller i with
    | .connecting _ => m.become i .away
    | _ => m
  | .serve s course => m.serve hash s course
  | .receive i late => m.receive wait i late
  | .wake i =>
    match m.caller i with
    | .pausing key s a => (m.send s (.tryLock key)).become i (.trying key s a)
    | _ => m
  | .release i =>
    match m.caller i with
    | .guarding key s => (m.send s (.unlock key)).become i (.releasing key s)
    | _ => m
  | .drop i =>
    match m.caller i with
    | .guarding _ s => (m.close s).become i .away
    | _ => m
  | .cancel i =>
    match m.caller i with
    | .connecting _ => m.become i .away
    | .trying _ s _ | .pausing _ s _ | .releasing _ s => (m.giveBack s).become i .away
    | _ => m
  | .drain s =>
    if (m.session s).place = .pooled ∧ (m.session s).pending.isNone then m.close s else m

def after (m : Pool ι σ η) (ops : List (Op ι σ)) : Pool ι σ η := ops.foldl (step hash wait) m

end Machine

def Holds (m : Pool ι σ η) (s : σ) (h : η) : Prop := ∃ n, m.locks h = some (s, n)

def Clean (m : Pool ι σ η) : Prop :=
  ∀ s, (m.session s).place = .pooled → ∀ h, ¬ m.Holds s h

/-- A lock is left without a guard on a session that goes on to others. -/
inductive Strands (hash : LockKey → η) (m : Pool ι σ η) : Op ι σ → Prop
  -- The caller is stopped when the lock has been granted and the answer not been read.
  | unread {i : ι} {key : LockKey} {s : σ} {a : Attempt} {answer : Answer}
    (trying : m.caller i = .trying key s a) (sent : (m.session s).answer = some answer)
    (changed : answer.changed = true) : Strands hash m (.cancel i)
  -- The caller is stopped when the unlocking has not been carried out.
  | unfinished {i : ι} {key : LockKey} {s : σ} (releasing : m.caller i = .releasing key s)
    (unchanged : ∀ answer, (m.session s).answer = some answer → answer.changed = false) :
    Strands hash m (.cancel i)
  -- The answer is an error, and the lock has been granted.
  | misread {i : ι} {late : Nat} {key : LockKey} {s : σ} {a : Attempt} {answer : Answer}
    {e : StoreError} (trying : m.caller i = .trying key s a)
    (sent : (m.session s).answer = some answer) (changed : answer.changed = true)
    (failed : answer.reply.flag = .error e) : Strands hash m (.receive i late)
  -- The lock is granted when the caller has gone.
  | unheard {s : σ} {course : Course} {key : LockKey}
    (pooled : (m.session s).place = .pooled)
    (pending : (m.session s).pending = some (.tryLock key)) (free : m.locks (hash key) = none)
    (served : ∀ message, course ≠ .failed message) : Strands hash m (.serve s course)

end Pool
end PrepaidLedger.Sql
