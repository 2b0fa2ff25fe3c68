import PrepaidLedger.Proofs.Concurrent.Write
import PrepaidLedger.Proofs.Store.Labels

/-! The order in which a delivery asks for the rows of the two ledgers and writes them. It locks its
card and its card-user before it asks for its line, makes a line only if there was none, and treats
its journal entry alike; and it commits only what has one of each. -/

namespace PrepaidLedger

variable {α β : Type}

/-- How far a transaction has come with its line and its entry. -/
inductive Stage
  | opened (held : List Uuid)
  | soughtLine (found : Option RowId)
  | lined
  | soughtEntry (found : Option RowId)
  | filed
  | failed
  | ended

def TxCall.Due (d : Delivery) (φ : Stage) : TxCall → Prop
  | .lineByRef reference =>
    reference = d.posting.reference ∧ ∃ held, φ = .opened held ∧ ∀ id ∈ d.rows, id ∈ held
  | .createLine new => new.reference = d.posting.reference ∧ φ = .soughtLine none
  | .patchLine id _ => φ = .soughtLine (some id)
  | .entryByRef reference => reference = d.posting.reference ∧ φ = .lined
  | .createEntry new => new.reference = d.posting.reference ∧ φ = .soughtEntry none
  | .patchEntry id _ => φ = .soughtEntry (some id)
  | _ => True

namespace Stage

def lock (φ : Stage) (c : TxCall) : Stage :=
  match φ with
  | .opened held => .opened (c.hold held)
  | φ => φ

def after (φ : Stage) : (c : TxCall) → Except StoreError c.Answer → Stage
  | _, .error _ => .failed
  | .lineByRef _, .ok l? => .soughtLine (l?.map (·.id))
  | .createLine _, .ok _ => .lined
  | .patchLine .., .ok none => .failed
  | .patchLine .., .ok (some _) => .lined
  | .entryByRef _, .ok e? => .soughtEntry (e?.map (·.id))
  | .createEntry _, .ok _ => .filed
  | .patchEntry .., .ok none => .failed
  | .patchEntry .., .ok (some _) => .filed
  | c, .ok _ => φ.lock c

variable {φ : Stage} {c : TxCall}

theorem after_row {id : Uuid} (hrow : c.row? = some id) (a : c.Answer) :
    φ.after c (.ok a) = φ.lock c := by
  cases c <;> first | rfl | cases hrow

end Stage

/-! ## What it knows and what it wrote -/

theorem Tables.known_lineByRef? (r q : String) (t : Tables) :
    Known r q t.lineLabels ((t.lineByRef? q).map (·.id)) := known_rowOf? r q t.lines

theorem Tables.known_entryByRef? (r q : String) (t : Tables) :
    Known r q t.entryLabels ((t.entryByRef? q).map (·.id)) := known_rowOf? r q t.journal

namespace Pending

variable {p : Pending} {t : Tables} {c : TxCall}

def SameLedgers (p p' : Pending) : Prop :=
  p'.batch = p.batch ∧ p'.lineLabels = p.lineLabels ∧ p'.entryLabels = p.entryLabels

theorem sameLedgers_writeCard (p : Pending) (t : Tables) (id : Uuid) (change : Card → Card) :
    p.SameLedgers (p.writeCard t id change).2 := by
  unfold writeCard
  split <;> exact ⟨rfl, rfl, rfl⟩

theorem sameLedgers_writeCardUser (p : Pending) (t : Tables) (id : Uuid)
    (change : CardUser → CardUser) : p.SameLedgers (p.writeCardUser t id change).2 := by
  unfold writeCardUser
  split <;> exact ⟨rfl, rfl, rfl⟩

theorem call_row {id : Uuid} (hrow : c.row? = some id) :
    (∃ a, (p.call t c).1 = .ok a) ∧ p.SameLedgers (p.call t c).2 := by
  cases c with
  | card | cardUser => exact ⟨⟨_, rfl⟩, rfl, rfl, rfl⟩
  | setCardBalance | countDecline | setCardStatus =>
    exact ⟨⟨_, rfl⟩, p.sameLedgers_writeCard ..⟩
  | setCardUserBalance => exact ⟨⟨_, rfl⟩, p.sameLedgers_writeCardUser ..⟩
  | _ => cases hrow

theorem lineByRef?_of_nil (h : p.lineLabels = []) (q : String) :
    p.lineByRef? t q = t.lineByRef? q := by
  unfold lineByRef?
  rw [List.map_eq_nil_iff.mp h]
  rfl

theorem line?_of_nil (h : p.lineLabels = []) (id : RowId) : p.line? t id = t.line? id := by
  unfold line?
  rw [List.map_eq_nil_iff.mp h]
  rfl

theorem entryByRef?_of_nil (h : p.entryLabels = []) (q : String) :
    p.entryByRef? t q = t.entryByRef? q := by
  unfold entryByRef?
  rw [List.map_eq_nil_iff.mp h]
  rfl

theorem entry?_of_nil (h : p.entryLabels = []) (id : RowId) : p.entry? t id = t.entry? id := by
  unfold entry?
  rw [List.map_eq_nil_iff.mp h]
  rfl

theorem lineLabels_put_of_nil (h : p.lineLabels = []) (l : Line) :
    (putRow Line.id l p.lines).map Line.label = [l.label] := by
  rw [List.map_eq_nil_iff.mp h]
  rfl

theorem entryLabels_put_of_nil (h : p.entryLabels = []) (e : Entry) :
    (putRow Entry.id e p.journal).map Entry.label = [e.label] := by
  rw [List.map_eq_nil_iff.mp h]
  rfl

theorem batch_call : (p.call t c).2.batch = p.batch := by
  cases c with
  | lineByRef | entryByRef | createEntry => rfl
  | createLine new =>
    unfold call
    dsimp only
    split <;> rfl
  | patchLine id =>
    unfold call
    dsimp only
    split <;> rfl
  | patchEntry id =>
    unfold call
    dsimp only
    split <;> rfl
  | _ => exact (call_row rfl).2.1

end Pending

namespace Stage

/-- The stage as it shows in the labels of the tables and of the rows written so far. -/
def Fits (r : String) (d : Delivery) (t : Tables) (p : Pending) : Stage → Prop
  | .opened _ => p.lineLabels = [] ∧ p.entryLabels = []
  | .soughtLine found =>
    p.lineLabels = [] ∧ p.entryLabels = [] ∧ Known r d.posting.reference t.lineLabels found
  | .lined =>
    Written r d.posting.reference p.batch t.lineLabels p.lineLabels ∧ p.entryLabels = []
  | .soughtEntry found =>
    Written r d.posting.reference p.batch t.lineLabels p.lineLabels ∧ p.entryLabels = [] ∧
      Known r d.posting.reference t.entryLabels found
  | .filed =>
    Written r d.posting.reference p.batch t.lineLabels p.lineLabels ∧
      Written r d.posting.reference p.batch t.entryLabels p.entryLabels
  | .failed => True
  | .ended => True

def Holds (d : Delivery) (holds : Uuid → Prop) : Stage → Prop
  | .opened held => ∀ id ∈ held, holds id
  | .soughtLine _ | .lined | .soughtEntry _ | .filed => ∀ id ∈ d.rows, holds id
  | .failed | .ended => True

variable {r : String} {d : Delivery} {t : Tables} {p p' : Pending} {φ : Stage} {c : TxCall}
  {holds holds' : Uuid → Prop}

theorem Fits.lock (h : φ.Fits r d t p) (hsame : p.SameLedgers p') : (φ.lock c).Fits r d t p' := by
  obtain ⟨hbatch, hlines, hentries⟩ := hsame
  cases φ with
  | failed | ended => exact trivial
  | opened | soughtLine => simpa only [Stage.lock, Fits, hlines, hentries] using h
  | _ => simpa only [Stage.lock, Fits, hbatch, hlines, hentries] using h

theorem Fits.call (hlines : (t.lines.map Line.id).Nodup) (hentries : (t.journal.map Entry.id).Nodup)
    (hdue : c.Due d φ) (h : φ.Fits r d t p) :
    (φ.after c (p.call t c).1).Fits r d t (p.call t c).2 := by
  have hrows {id : Uuid} (hrow : c.row? = some id) :
      (φ.after c (p.call t c).1).Fits r d t (p.call t c).2 := by
    obtain ⟨⟨a, ha⟩, hsame⟩ := Pending.call_row (p := p) (t := t) hrow
    rw [ha, after_row hrow]
    exact h.lock hsame
  cases c with
  | lineByRef reference =>
    obtain ⟨rfl, held, rfl, -⟩ := hdue
    obtain ⟨hnoLine, hnoEntry⟩ := h
    refine ⟨hnoLine, hnoEntry, ?_⟩
    rw [Pending.lineByRef?_of_nil hnoLine]
    exact t.known_lineByRef? r d.posting.reference
  | createLine new =>
    obtain ⟨href, rfl⟩ := hdue
    obtain ⟨hnoLine, hnoEntry, hknown⟩ := h
    unfold Pending.call
    dsimp only
    split
    · exact trivial
    · refine ⟨⟨none, _, hknown, .new p.made, ?_⟩, hnoEntry⟩
      rw [← href]
      exact Pending.lineLabels_put_of_nil hnoLine _
  | patchLine id patch =>
    obtain rfl : φ = .soughtLine (some id) := hdue
    obtain ⟨hnoLine, hnoEntry, hknown⟩ := h
    obtain ⟨l, hl, hid, href⟩ := exists_rowOf?_of_label hlines hknown
    have hseen : p.line? t id = some l := (Pending.line?_of_nil hnoLine id).trans hl
    unfold Pending.call
    dsimp only
    rw [hseen]
    refine ⟨⟨some id, id, hknown, .old id, ?_⟩, hnoEntry⟩
    rw [← hid, ← href]
    exact Pending.lineLabels_put_of_nil hnoLine _
  | entryByRef reference =>
    obtain ⟨rfl, rfl⟩ := hdue
    obtain ⟨hline, hnoEntry⟩ := h
    refine ⟨hline, hnoEntry, ?_⟩
    rw [Pending.entryByRef?_of_nil hnoEntry]
    exact t.known_entryByRef? r d.posting.reference
  | createEntry new =>
    obtain ⟨href, rfl⟩ := hdue
    obtain ⟨hline, hnoEntry, hknown⟩ := h
    refine ⟨hline, none, _, hknown, .new p.made, ?_⟩
    rw [← href]
    exact Pending.entryLabels_put_of_nil hnoEntry _
  | patchEntry id patch =>
    obtain rfl : φ = .soughtEntry (some id) := hdue
    obtain ⟨hline, hnoEntry, hknown⟩ := h
    obtain ⟨e, he, hid, href⟩ := exists_rowOf?_of_label hentries hknown
    have hseen : p.entry? t id = some e := (Pending.entry?_of_nil hnoEntry id).trans he
    unfold Pending.call
    dsimp only
    rw [hseen]
    refine ⟨hline, some id, id, hknown, .old id, ?_⟩
    rw [← hid, ← href]
    exact Pending.entryLabels_put_of_nil hnoEntry _
  | _ => exact hrows rfl

theorem Holds.mono (h : φ.Holds d holds) (hmono : ∀ id, holds id → holds' id) :
    φ.Holds d holds' := by
  cases φ with
  | failed | ended => exact trivial
  | _ => exact fun id hid => hmono id (h id hid)

theorem Holds.rows (h : φ.Holds d holds) (hdue : c.Due d φ) (hledger : c.row? = none) :
    ∀ id ∈ d.rows, holds id := by
  cases c with
  | lineByRef reference =>
    obtain ⟨-, held, rfl, hheld⟩ := hdue
    exact fun id hid => h id (hheld id hid)
  | createLine | entryByRef | createEntry =>
    obtain ⟨-, rfl⟩ := hdue
    exact h
  | patchLine id | patchEntry id =>
    subst hdue
    exact h
  | _ => cases hledger

theorem holds_after_ledger (hheld : ∀ id ∈ d.rows, holds id) (hledger : c.row? = none)
    (reply : Except StoreError c.Answer) : (φ.after c reply).Holds d holds := by
  cases reply with
  | error e => cases c <;> exact trivial
  | ok a =>
    cases c with
    | lineByRef | createLine | entryByRef | createEntry => exact hheld
    | patchLine | patchEntry => cases a with
      | none => exact trivial
      | some row => exact hheld
    | _ => cases hledger

theorem Holds.lock (h : φ.Holds d holds) {id : Uuid} (hrow : c.row? = some id) (hid : holds id) :
    (φ.lock c).Holds d holds := by
  cases φ with
  | opened held =>
    intro other hmem
    rcases TxCall.mem_hold.mp hmem with hmem | hother
    · exact h other hmem
    · exact Option.some.inj (hrow.symm.trans hother) ▸ hid
  | _ => exact h

theorem Holds.after (h : φ.Holds d holds) (hdue : c.Due d φ)
    (hmono : ∀ id, holds id → holds' id) (hrow : ∀ id, c.row? = some id → holds' id)
    (reply : Except StoreError c.Answer) : (φ.after c reply).Holds d holds' := by
  cases hc : c.row? with
  | none => exact holds_after_ledger (fun id hid => hmono id (h.rows hdue hc id hid)) hc reply
  | some id => cases reply with
    | error e => cases c <;> exact trivial
    | ok a =>
      rw [after_row hc]
      exact (h.mono hmono).lock hc (hrow id hc)

end Stage

def Request.Files (d : Delivery) : (r : Request) → Stage → (r.Reply → Stage → Prop) → Prop
  | _, .ended, _ => False
  | .tx c, φ, on => c.Due d φ ∧ ∀ reply, on reply (φ.after c reply)
  | .commit, .filed, on => on (.ok ()) .ended
  | .rollback, _, on => on (.ok ()) .ended
  | .abandon, _, on => on () .ended
  | _, _, _ => False

def Program.Files (d : Delivery) (post : α → Stage → Prop) : Program α → Stage → Prop
  | .done a, φ => post a φ
  | .ask r next, φ => r.Files d φ fun reply ψ => (next reply).Files d post ψ

def Task.Files (d : Delivery) (post : α → Stage → Prop) (task : Task α) (φ : Stage) : Prop :=
  task.run.Files d
    (fun r ψ =>
      match r with
      | .ok a => post a ψ
      | .error _ => ψ ≠ .ended) φ

variable {d : Delivery} {φ : Stage}

theorem Request.Files.mono {r : Request} {on on' : r.Reply → Stage → Prop} (h : r.Files d φ on)
    (hon : ∀ reply ψ, on reply ψ → on' reply ψ) : r.Files d φ on' := by
  cases r with
  | tx c => cases φ with
    | ended => exact h
    | _ => exact ⟨h.1, fun reply => hon _ _ (h.2 reply)⟩
  | commit => cases φ with
    | filed => exact hon _ _ h
    | _ => exact h
  | rollback => cases φ with
    | ended => exact h
    | _ => exact hon _ _ h
  | abandon => cases φ with
    | ended => exact h
    | _ => exact hon _ _ h
  | _ => cases φ <;> exact h

theorem Program.Files.bind {post : β → Stage → Prop} {x : Program α} {f : α → Program β}
    (h : x.Files d (fun a ψ => (f a).Files d post ψ) φ) : (x.bind f).Files d post φ := by
  induction x generalizing φ with
  | done a => exact h
  | ask r next ih => exact Request.Files.mono h fun reply ψ => ih reply

theorem Program.Files.mono {post post' : α → Stage → Prop} {x : Program α}
    (h : x.Files d post φ) (hpost : ∀ a ψ, post a ψ → post' a ψ) : x.Files d post' φ := by
  induction x generalizing φ with
  | done a => exact hpost a φ h
  | ask r next ih => exact Request.Files.mono h fun reply ψ => ih reply

namespace Task

variable {post : α → Stage → Prop}

theorem Files.bind {post : β → Stage → Prop} {x : Task α} {f : α → Task β}
    (h : x.Files d (fun a ψ => (f a).Files d post ψ) φ) : (x >>= f).Files d post φ := by
  refine Program.Files.bind (x := x.run) (Program.Files.mono h fun r ψ hr => ?_)
  cases r with
  | error e => exact hr
  | ok a => exact hr

theorem files_pure {a : α} (h : post a φ) : (pure a : Task α).Files d post φ := h

theorem files_ofExcept {r : Except EngineError α} (hφ : φ ≠ .ended) (h : ∀ a, post a φ) :
    (ofExcept r).Files d post φ := by
  cases r with
  | error e => exact hφ
  | ok a => exact h a

theorem files_found {entity : Entity} {id : RowId} {row : Option α} (hφ : φ ≠ .ended)
    (h : ∀ a, row = some a → post a φ) : (found entity id row).Files d post φ := by
  cases row with
  | none => exact hφ
  | some a => exact h a rfl

theorem files_tx {c : TxCall} {post : c.Answer → Stage → Prop} (hφ : φ ≠ .ended) (hdue : c.Due d φ)
    (h : ∀ a, post a (φ.after c (.ok a))) : (tx c).Files d post φ := by
  cases φ with
  | ended => exact absurd rfl hφ
  | _ =>
    refine ⟨hdue, fun reply => ?_⟩
    cases reply with
    | error e => cases c <;> exact nofun
    | ok a => exact h a

theorem files_tx_row {c : TxCall} {post : c.Answer → Stage → Prop} {id : Uuid}
    {found : Option RowId} (hrow : c.row? = some id) (h : ∀ a, post a (.soughtLine found)) :
    (tx c).Files d post (.soughtLine found) := by
  -- Rows are read and written, and the ledgers have to wait.
  have hdue : c.Due d (.soughtLine found) := by
    cases c <;> first | exact trivial | cases hrow
  refine files_tx nofun hdue fun a => ?_
  rw [Stage.after_row hrow]
  exact h a

/-! ## Part by part -/

section Rows

variable {found : Option RowId}

theorem files_writeCardBalance {id : Uuid} {n : Int} {reset : Bool} {post : Card → Stage → Prop}
    (h : ∀ c, post c (.soughtLine found)) :
    (writeCardBalance id n reset).Files d post (.soughtLine found) := by
  unfold writeCardBalance
  refine Files.bind (files_tx_row rfl fun written => ?_)
  refine Files.bind (files_ofExcept nofun fun _ => ?_)
  exact Files.bind (files_tx_row rfl fun c => files_ofExcept nofun h)

theorem files_writeCardUserBalance {id : Uuid} {n : Int} {post : CardUser → Stage → Prop}
    (h : ∀ u, post u (.soughtLine found)) :
    (writeCardUserBalance id n).Files d post (.soughtLine found) := by
  unfold writeCardUserBalance
  refine Files.bind (files_tx_row rfl fun written => ?_)
  refine Files.bind (files_ofExcept nofun fun _ => ?_)
  exact Files.bind (files_tx_row rfl fun u => files_ofExcept nofun h)

theorem files_recordDecline {policy : DeclinePolicy} {id : Uuid}
    {post : DeclineRecord → Stage → Prop} (h : ∀ r, post r (.soughtLine found)) :
    (recordDecline policy id).Files d post (.soughtLine found) := by
  unfold recordDecline
  refine Files.bind (files_tx_row rfl fun c? => ?_)
  refine Files.bind (files_found nofun fun c _ => ?_)
  split
  · refine Files.bind (files_tx_row rfl fun blocked? => ?_)
    exact Files.bind (files_found nofun fun blocked _ => files_pure (h _))
  · exact files_pure (h _)

end Rows

theorem files_writeLine {card : Card} {owner : CardUser} {m : Movement} {stored : Option Line}
    {post : Line → Stage → Prop} (h : ∀ l, post l .lined) :
    (writeLine d.posting card owner m stored).Files d post
      (.soughtLine (stored.map (·.id))) := by
  unfold writeLine
  cases stored with
  | none => exact files_tx nofun ⟨rfl, rfl⟩ h
  | some stored =>
    refine Files.bind (files_tx nofun rfl fun l? => ?_)
    cases l? with
    | none => exact nofun
    | some l => exact h l

theorem files_writeEntry {card : Card} {l : Line} {post : Unit → Stage → Prop}
    (h : post () .filed) : (writeEntry d.posting card l).Files d post .lined := by
  unfold writeEntry
  refine Files.bind (files_tx nofun ⟨rfl, rfl⟩ fun e? => ?_)
  cases e? with
  | none => exact Files.bind (files_tx nofun ⟨rfl, rfl⟩ fun e => files_pure h)
  | some stored =>
    refine Files.bind (files_tx nofun rfl fun e? => ?_)
    cases e? with
    | none => exact nofun
    | some e => exact Files.bind (files_found nofun fun _ _ => files_pure h)

theorem files_writePosting (s : Settings) {card : Card} {owner : CardUser} {stored : Option Line}
    {post : Applied → Stage → Prop} (h : ∀ a, post a .ended) :
    (writePosting s d.posting card owner stored).Files d post
      (.soughtLine (stored.map (·.id))) := by
  unfold writePosting
  refine Files.bind (files_ofExcept nofun fun cardBalance => ?_)
  refine Files.bind (files_ofExcept nofun fun ownerBalance => ?_)
  refine Files.bind (files_writeCardBalance fun written => ?_)
  refine Files.bind (files_writeCardUserBalance fun ownerAfter => ?_)
  have hrest (decline : DeclineRecord) : Task.Files d post (do
      let l ← writeLine d.posting card owner
        ⟨card.balance, cardBalance, d.posting.delta (stored.map (·.snapshot))⟩ stored
      writeEntry d.posting card l
      commit
      return ⟨l, decline.card, ownerAfter, d.posting.delta (stored.map (·.snapshot)),
        decline.newlyBlocked⟩) (.soughtLine (stored.map (·.id))) :=
    Files.bind (files_writeLine fun l => Files.bind (files_writeEntry (h _)))
  split
  · exact Files.bind (files_recordDecline hrest)
  · exact Files.bind (files_pure (hrest _))

/-! ## The whole transaction -/

end Task

def Program.OpensFiling (d : Delivery) : Program Conclusion → Prop
  | .done _ => True
  | .ask .begin next => (next (.ok ())).Files d (fun _ _ => True) (.opened [])
  | _ => False

namespace Task

theorem Files.inTransaction {body : Task (Except Dismissal Applied)}
    (h : body.Files d (fun _ _ => True) (.opened [])) :
    (inTransaction body).run.OpensFiling d := by
  change Program.Files d _ (body.run.bind _) _
  refine Program.Files.bind (Program.Files.mono h fun r φ hr => ?_)
  cases r with
  | ok a => exact trivial
  | error e => cases φ with
    | ended => exact hr rfl
    | _ => exact trivial

theorem opensFiling_write (s : Settings) (d : Delivery) : (write s d).run.OpensFiling d := by
  refine Files.inTransaction ?_
  refine Files.bind (files_tx nofun trivial fun card? => ?_)
  refine Files.bind (files_found nofun fun card _ => ?_)
  refine Files.bind (files_tx nofun trivial fun owner? => ?_)
  refine Files.bind (files_found nofun fun owner _ => ?_)
  -- Both rows are locked, so the line may be asked for.
  have hheld : ∀ id ∈ d.rows,
      id ∈ (TxCall.cardUser d.cardUserId).hold ((TxCall.card d.cardId).hold []) := by
    intro id hid
    rw [TxCall.mem_hold, TxCall.mem_hold]
    rcases List.mem_pair.mp hid with rfl | rfl
    · exact .inl (.inr rfl)
    · exact .inr rfl
  refine Files.bind (files_tx nofun ⟨rfl, _, rfl, hheld⟩ fun stored => ?_)
  dsimp only
  split
  · exact Files.bind trivial
  · exact Files.bind (files_writePosting s fun a => files_pure trivial)

end Task
end PrepaidLedger
