import PrepaidLedger.Lock.Local

/-! The local locks one movement at a time. Who acquires a lock finds its mutex in the table and
gets in line only afterwards; who gives it up hands it over, lets go of the mutex, and looks at the
table last. Others may move in between, so the table is looked at when the mutex has long found a
new holder, or has been found by someone who is in no line yet. -/

namespace PrepaidLedger

structure Grip where
  who : String
  key : LockKey
  mutex : Nat
deriving DecidableEq, Repr

def Holder.grip (h : Holder) : Grip := ⟨h.who, h.key, h.mutex⟩

def Waiter.grip (w : Waiter) : Grip := ⟨w.who, w.key, w.mutex⟩

structure Leaver where
  grip : Grip
  -- Has held the mutex, and will look whether the table has to keep it.
  looks : Bool
deriving DecidableEq, Repr

inductive Fate
  | waiting
  | granted
  | canceled
deriving DecidableEq, Repr

/-- An arrival, and what has come of it. -/
structure Ticket where
  who : String
  key : LockKey
  fate : Fate
deriving DecidableEq, Repr

def Ticket.settle (who : String) (fate : Fate) (t : Ticket) : Ticket :=
  if t.who = who ∧ t.fate = .waiting then { t with fate := fate } else t

namespace LocalLocks

def enter (s : LocalLocks) (g : Grip) : LocalLocks :=
  if s.isLocked g.mutex then { s with waiters := s.waiters ++ [⟨g.who, g.key, g.mutex, false⟩] }
  else { s with holders := s.holders ++ [⟨g.who, g.key, g.mutex⟩] }

def giveUp (s : LocalLocks) (h : Holder) : LocalLocks :=
  { s with
    holders := s.holders.filter (·.who ≠ h.who)
    waiters := handOver h.mutex s.waiters }

end LocalLocks

structure Crowd where
  locks : LocalLocks
  entering : List Grip
  leaving : List Leaver
  looking : List (String × LockKey)
  tickets : List Ticket

inductive LockMove
  | find (who : String) (key : LockKey)
  | join (who : String)
  | poll (who : String)
  | cancel (who : String)
  | unlock (who : String)
  | letGo (who : String)
  | look (who : String)
deriving DecidableEq, Repr

def LockMove.who : LockMove → String
  | .find who _ | .join who | .poll who | .cancel who | .unlock who | .letGo who | .look who => who

namespace Crowd

def empty : Crowd := ⟨.empty, [], [], [], []⟩

def grips (c : Crowd) : List Grip :=
  c.locks.holders.map Holder.grip ++ c.locks.waiters.map Waiter.grip ++ c.entering ++
    c.leaving.map Leaver.grip

def names (c : Crowd) : List String := c.grips.map Grip.who ++ c.looking.map Prod.fst

def find (c : Crowd) (who : String) (key : LockKey) : Crowd :=
  if who ∈ c.names then c
  else
    let (mutex, locks) := c.locks.lookUp key
    { c with locks := locks, entering := c.entering ++ [⟨who, key, mutex⟩] }

def join (c : Crowd) (who : String) : Crowd :=
  match c.entering.find? (·.who = who) with
  | none => c
  | some g =>
    let fate := if c.locks.isLocked g.mutex then .waiting else .granted
    { c with
      locks := c.locks.enter g
      entering := c.entering.filter (·.who ≠ who)
      tickets := c.tickets ++ [⟨g.who, g.key, fate⟩] }

def poll (c : Crowd) (who : String) : Crowd :=
  match c.locks.waiters.find? fun w => w.who = who ∧ w.handed with
  | none => c
  | some _ => { c with locks := c.locks.poll who, tickets := c.tickets.map (.settle who .granted) }

def cancel (c : Crowd) (who : String) : Crowd :=
  match c.locks.waiters.find? (·.who = who) with
  | none => c
  | some w =>
    { c with
      locks := c.locks.cancel who
      leaving := c.leaving ++ [⟨w.grip, false⟩]
      tickets := c.tickets.map (.settle who .canceled) }

def unlock (c : Crowd) (who : String) : Crowd :=
  match c.locks.holders.find? (·.who = who) with
  | none => c
  | some h => { c with locks := c.locks.giveUp h, leaving := c.leaving ++ [⟨h.grip, true⟩] }

def letGo (c : Crowd) (who : String) : Crowd :=
  match c.leaving.find? (·.grip.who = who) with
  | none => c
  | some l =>
    { c with
      leaving := c.leaving.filter (·.grip.who ≠ who)
      looking := if l.looks then c.looking ++ [(who, l.grip.key)] else c.looking }

def forget (c : Crowd) (key : LockKey) : LocalLocks :=
  match c.locks.mutexOf? key with
  | none => c.locks
  | some mutex =>
    if c.grips.any (·.mutex = mutex) then c.locks
    else { c.locks with table := c.locks.table.filter (·.1 ≠ key) }

def look (c : Crowd) (who : String) : Crowd :=
  match c.looking.find? (·.1 = who) with
  | none => c
  | some l => { c with locks := c.forget l.2, looking := c.looking.filter (·.1 ≠ who) }

def step (c : Crowd) : LockMove → Crowd
  | .find who key => c.find who key
  | .join who => c.join who
  | .poll who => c.poll who
  | .cancel who => c.cancel who
  | .unlock who => c.unlock who
  | .letGo who => c.letGo who
  | .look who => c.look who

def after (c : Crowd) (moves : List LockMove) : Crowd := moves.foldl step c

theorem after_append (c : Crowd) (xs ys : List LockMove) :
    c.after (xs ++ ys) = (c.after xs).after ys := List.foldl_append

theorem after_keeps {P : Crowd → Prop} (hstep : ∀ c move, P c → P (c.step move)) {c : Crowd}
    (hc : P c) (moves : List LockMove) : P (c.after moves) := by
  induction moves generalizing c with
  | nil => exact hc
  | cons move rest ih => exact ih (hstep c move hc)

end Crowd

/-! ## Whole steps -/

def LockStep.moves : LockStep → List LockMove
  | .acquire who key => [.find who key, .join who]
  | .release who => [.unlock who, .letGo who, .look who]
  | .cancel who => [.cancel who, .letGo who]
  | .poll who => [.poll who]

namespace Crowd

structure IsSettled (c : Crowd) : Prop where
  entering : c.entering = []
  leaving : c.leaving = []
  looking : c.looking = []

variable {c : Crowd}

theorem grips_of_settled (hentering : c.entering = []) (hleaving : c.leaving = []) :
    c.grips = c.locks.holders.map Holder.grip ++ c.locks.waiters.map Waiter.grip := by
  simp [grips, hentering, hleaving]

theorem mem_names_of_settled (h : c.IsSettled) (who : String) :
    who ∈ c.names ↔ c.locks.isActive who = true := by
  unfold names LocalLocks.isActive
  rw [grips_of_settled h.entering h.leaving, h.looking]
  simp [Holder.grip, Waiter.grip]

theorem forget_of_settled (hentering : c.entering = []) (hleaving : c.leaving = [])
    (key : LockKey) : c.forget key = c.locks.forget key := by
  have hany (mutex : Nat) : c.grips.any (·.mutex = mutex) = c.locks.isReferred mutex := by
    rw [grips_of_settled hentering hleaving, List.any_append, List.any_map, List.any_map]
    rfl
  unfold forget LocalLocks.forget
  cases c.locks.mutexOf? key with
  | none => rfl
  | some mutex =>
    dsimp only
    rw [hany]

def Comes (c : Crowd) (locks : LocalLocks) : Prop := c.IsSettled ∧ c.locks = locks

theorem comes_acquire (h : c.IsSettled) (who : String) (key : LockKey) :
    (c.after (LockStep.acquire who key).moves).Comes (c.locks.acquire who key) := by
  change ((c.find who key).join who).Comes _
  unfold LocalLocks.acquire find
  by_cases hmem : who ∈ c.names
  · have hactive : c.locks.isActive who = true := (mem_names_of_settled h who).mp hmem
    rw [if_pos hmem, if_pos hactive]
    simp [join, h.entering, Comes, h]
  · have hactive : ¬ c.locks.isActive who = true := fun ha =>
      hmem ((mem_names_of_settled h who).mpr ha)
    rw [if_neg hmem, if_neg hactive, h.entering]
    rcases c.locks.lookUp key with ⟨mutex, locks⟩
    simp only [join, List.nil_append, List.find?_cons, decide_true, List.filter_cons]
    refine ⟨⟨by simp, h.leaving, h.looking⟩, rfl⟩

theorem comes_release (h : c.IsSettled) (who : String) :
    (c.after (LockStep.release who).moves).Comes (c.locks.release who) := by
  change (((c.unlock who).letGo who).look who).Comes _
  unfold LocalLocks.release
  cases hfind : c.locks.holders.find? (·.who = who) with
  | none => simp [unlock, hfind, letGo, look, h.leaving, h.looking, Comes, h]
  | some holder =>
    have hwho : holder.who = who := by simpa using List.find?_some hfind
    let given : Crowd := { c with locks := c.locks.giveUp holder, looking := [(who, holder.key)] }
    have hgiven : ((c.unlock who).letGo who) = given := by
      simp [unlock, hfind, letGo, h.leaving, h.looking, Holder.grip, hwho, given]
    have hlook : given.look who =
        { given with locks := given.forget holder.key, looking := [] } := by
      simp [look, given]
    have hforget : given.forget holder.key = given.locks.forget holder.key :=
      forget_of_settled (c := given) h.entering h.leaving holder.key
    rw [hgiven, hlook, hforget]
    exact ⟨⟨h.entering, h.leaving, rfl⟩, by simp [given, LocalLocks.giveUp, hwho]⟩

theorem comes_cancel (h : c.IsSettled) (who : String) :
    (c.after (LockStep.cancel who).moves).Comes (c.locks.cancel who) := by
  change ((c.cancel who).letGo who).Comes _
  cases hfind : c.locks.waiters.find? (·.who = who) with
  | none => simp [cancel, hfind, letGo, LocalLocks.cancel, h.leaving, Comes, h]
  | some w =>
    have hwho : w.who = who := by simpa using List.find?_some hfind
    have hgone : (c.cancel who).letGo who =
        { c with
          locks := c.locks.cancel who, leaving := [],
          tickets := c.tickets.map (.settle who .canceled) } := by
      simp [cancel, hfind, letGo, h.leaving, Waiter.grip, hwho]
    rw [hgone]
    exact ⟨⟨h.entering, rfl, h.looking⟩, rfl⟩

theorem comes_poll (h : c.IsSettled) (who : String) :
    (c.after (LockStep.poll who).moves).Comes (c.locks.poll who) := by
  change (c.poll who).Comes _
  unfold poll
  cases hfind : c.locks.waiters.find? fun w => w.who = who ∧ w.handed with
  | none =>
    unfold LocalLocks.poll
    rw [hfind]
    exact ⟨h, rfl⟩
  | some w => exact ⟨⟨h.entering, h.leaving, h.looking⟩, rfl⟩

theorem comes_step (h : c.IsSettled) (s : LockStep) :
    (c.after s.moves).Comes (c.locks.step s) := by
  cases s with
  | acquire who key => exact comes_acquire h who key
  | release who => exact comes_release h who
  | cancel who => exact comes_cancel h who
  | poll who => exact comes_poll h who

theorem comes_steps (h : c.IsSettled) (steps : List LockStep) :
    (c.after (steps.flatMap LockStep.moves)).Comes (steps.foldl LocalLocks.step c.locks) := by
  induction steps generalizing c with
  | nil => exact ⟨h, rfl⟩
  | cons s rest ih =>
    obtain ⟨hsettled, hlocks⟩ := comes_step h s
    rw [List.flatMap_cons, after_append, List.foldl_cons, ← hlocks]
    exact ih hsettled

end Crowd
end PrepaidLedger
