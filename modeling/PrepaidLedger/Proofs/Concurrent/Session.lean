import PrepaidLedger.Proofs.Concurrent.Basic
import PrepaidLedger.Proofs.Engine.Transaction

/-! One transaction among others. Between two of its calls the tables may change, though not in the
rows it holds and never by the loss of a line. Whatever changes in that way, the transaction of a
delivery locks its card before its card-user and nothing else, and what it commits is counted from
the rows as they stand in the moment of the commit. -/

namespace PrepaidLedger

variable {α β : Type}

/-! ## What others may do -/

/-- What a transaction that holds these rows can rely on. -/
structure Tables.Spares (held : List Uuid) (t t' : Tables) : Prop where
  card : ∀ id ∈ held, t'.card? id = t.card? id
  cardUser : ∀ id ∈ held, t'.cardUser? id = t.cardUser? id
  line : ∀ id, t'.line? id = none → t.line? id = none

namespace Tables.Spares

variable {held : List Uuid} {t t₁ t₂ t₃ : Tables}

theorem refl (t : Tables) : t.Spares held t := ⟨fun _ _ => rfl, fun _ _ => rfl, fun _ h => h⟩

theorem of_rows {t' : Tables} (hcards : t'.cards = t.cards) (husers : t'.cardUsers = t.cardUsers)
    (hlines : t'.lines = t.lines) : t.Spares held t' where
  card id _ := by rw [Tables.card?, Tables.card?, hcards]
  cardUser id _ := by rw [Tables.cardUser?, Tables.cardUser?, husers]
  line id h := by rwa [Tables.line?, hlines] at h

theorem trans (h : t₁.Spares held t₂) (h' : t₂.Spares held t₃) : t₁.Spares held t₃ where
  card id hid := (h'.card id hid).trans (h.card id hid)
  cardUser id hid := (h'.cardUser id hid).trans (h.cardUser id hid)
  line id hid := h.line id (h'.line id hid)

theorem pendingCard? (h : t₁.Spares held t₂) {id : Uuid} (hid : id ∈ held) (p : Pending) :
    p.card? t₂ id = p.card? t₁ id := by
  rw [Pending.card?, Pending.card?, h.card id hid]

theorem pendingCardUser? (h : t₁.Spares held t₂) {id : Uuid} (hid : id ∈ held) (p : Pending) :
    p.cardUser? t₂ id = p.cardUser? t₁ id := by
  rw [Pending.cardUser?, Pending.cardUser?, h.cardUser id hid]

end Tables.Spares

/-! ## Locks in order -/

def TxCall.InOrder (c : TxCall) (order held : List Uuid) : Prop :=
  ∀ id ∈ c.row?, id ∈ held ∨ held ++ [id] <+: order

def TxCall.hold (c : TxCall) (held : List Uuid) : List Uuid :=
  match c.row? with
  | none => held
  | some id => if id ∈ held then held else held ++ [id]

theorem TxCall.mem_hold {c : TxCall} {held : List Uuid} {id : Uuid} :
    id ∈ c.hold held ↔ id ∈ held ∨ c.row? = some id := by
  unfold hold
  split
  next h => simp [h]
  next row h =>
    split
    next hrow =>
      rw [h, Option.some.injEq]
      exact ⟨.inl, fun h => h.elim (fun h => h) fun h => h ▸ hrow⟩
    · simp [h, eq_comm]

theorem TxCall.hold_of_mem {c : TxCall} {held : List Uuid} (h : ∀ id ∈ c.row?, id ∈ held) :
    c.hold held = held := by
  unfold hold
  split
  · rfl
  next id hid => rw [if_pos (h id hid)]

/-! ## Safe programs -/

inductive Phase
  | within (held : List Uuid) (p : Pending) (t : Tables)
  | committed (held : List Uuid) (p : Pending) (t : Tables)
  | undone

def Request.Leads (order : List Uuid) :
    (r : Request) → Phase → (r.Reply → Phase → Prop) → Prop
  | .tx c, .within held p t, on =>
    c.InOrder order held ∧ ∀ t', t.Spares held t' →
      on (p.call t' c).1 (.within (c.hold held) (p.call t' c).2 t')
  | .commit, .within held p t, on => ∀ t', t.Spares held t' → on (.ok ()) (.committed held p t')
  | .rollback, .within .., on => on (.ok ()) .undone
  | .abandon, .within .., on => on () .undone
  | _, _, _ => False

def Program.Safe (order : List Uuid) (post : α → Phase → Prop) : Program α → Phase → Prop
  | .done a, φ => post a φ
  | .ask r next, φ => r.Leads order φ fun reply ψ => (next reply).Safe order post ψ

def Task.Safe (order : List Uuid) (post : α → Phase → Prop) (task : Task α) (φ : Phase) : Prop :=
  task.run.Safe order
    (fun r ψ =>
      match r, ψ with
      | .ok a, ψ => post a ψ
      | .error _, .within .. => True
      | .error _, _ => False) φ

variable {order held : List Uuid} {p : Pending} {t : Tables} {φ : Phase}

theorem Request.Leads.mono {r : Request} {on on' : r.Reply → Phase → Prop}
    (h : r.Leads order φ on) (hon : ∀ reply ψ, on reply ψ → on' reply ψ) :
    r.Leads order φ on' := by
  cases φ with
  | within held p t =>
    cases r with
    | tx c => exact ⟨h.1, fun t' ht' => hon _ _ (h.2 t' ht')⟩
    | commit => exact fun t' ht' => hon _ _ (h t' ht')
    | rollback => exact hon _ _ h
    | abandon => exact hon _ _ h
    | _ => exact h.elim
  | committed held p t => cases r <;> exact h.elim
  | undone => cases r <;> exact h.elim

theorem Program.Safe.bind {post : β → Phase → Prop} {x : Program α} {f : α → Program β}
    (h : x.Safe order (fun a ψ => (f a).Safe order post ψ) φ) : (x.bind f).Safe order post φ := by
  induction x generalizing φ with
  | done a => exact h
  | ask r next ih => exact Request.Leads.mono h fun reply ψ => ih reply

theorem Program.Safe.mono {post post' : α → Phase → Prop} {x : Program α}
    (h : x.Safe order post φ) (hpost : ∀ a ψ, post a ψ → post' a ψ) : x.Safe order post' φ := by
  induction x generalizing φ with
  | done a => exact hpost a φ h
  | ask r next ih => exact Request.Leads.mono h fun reply ψ => ih reply

namespace Task

variable {post : α → Phase → Prop}

theorem Safe.bind {post : β → Phase → Prop} {x : Task α} {f : α → Task β}
    (h : x.Safe order (fun a ψ => (f a).Safe order post ψ) φ) : (x >>= f).Safe order post φ := by
  refine Program.Safe.bind (x := x.run) (Program.Safe.mono h fun r ψ hr => ?_)
  cases r with
  | error e => cases ψ <;> exact hr
  | ok a => exact hr

theorem safe_pure {a : α} (h : post a φ) : (pure a : Task α).Safe order post φ := h

theorem safe_ofExcept {r : Except EngineError α} (h : ∀ a, r = .ok a → post a (.within held p t)) :
    (ofExcept r).Safe order post (.within held p t) := by
  cases r with
  | error e => exact trivial
  | ok a => exact h a rfl

theorem safe_found {entity : Entity} {id : RowId} {row : Option α}
    (h : ∀ a, row = some a → post a (.within held p t)) :
    (found entity id row).Safe order post (.within held p t) := by
  cases row with
  | none => exact trivial
  | some a => exact h a rfl

theorem safe_tx {c : TxCall} {post : c.Answer → Phase → Prop} (horder : c.InOrder order held)
    (h : ∀ t', t.Spares held t' → ∀ a, (p.call t' c).1 = .ok a →
      post a (.within (c.hold held) (p.call t' c).2 t')) :
    (tx c).Safe order post (.within held p t) := by
  refine ⟨horder, fun t' ht' => ?_⟩
  have ht := h t' ht'
  generalize p.call t' c = x at ht ⊢
  obtain ⟨e | a, p'⟩ := x
  · exact trivial
  · exact ht a rfl

theorem safe_tx_held {c : TxCall} {post : c.Answer → Phase → Prop} (hrow : ∀ id ∈ c.row?, id ∈ held)
    (h : ∀ t', t.Spares held t' → ∀ a, (p.call t' c).1 = .ok a →
      post a (.within held (p.call t' c).2 t')) :
    (tx c).Safe order post (.within held p t) := by
  refine safe_tx (fun id hid => .inl (hrow id hid)) fun t' ht' a ha => ?_
  rw [TxCall.hold_of_mem hrow]
  exact h t' ht' a ha

theorem safe_tx_row {c : TxCall} {post : c.Answer → Phase → Prop} {id : Uuid}
    (hrow : c.row? = some id) (hid : id ∈ held)
    (h : ∀ t', t.Spares held t' → ∀ a, (p.call t' c).1 = .ok a →
      post a (.within held (p.call t' c).2 t')) :
    (tx c).Safe order post (.within held p t) :=
  safe_tx_held (fun _ h => Option.some.inj (hrow.symm.trans h) ▸ hid) h

theorem safe_tx_free {c : TxCall} {post : c.Answer → Phase → Prop} (hrow : c.row? = none)
    (h : ∀ t', t.Spares held t' → ∀ a, (p.call t' c).1 = .ok a →
      post a (.within held (p.call t' c).2 t')) :
    (tx c).Safe order post (.within held p t) :=
  safe_tx_held (fun id hid => by simp [hrow] at hid) h

theorem safe_commit {post : Unit → Phase → Prop}
    (h : ∀ t', t.Spares held t' → post () (.committed held p t')) :
    commit.Safe order post (.within held p t) := h

theorem safe_rollback {post : Unit → Phase → Prop} (h : post () .undone) :
    rollback.Safe order post (.within held p t) := h

end Task
end PrepaidLedger
