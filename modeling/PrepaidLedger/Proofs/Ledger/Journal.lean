import PrepaidLedger.Proofs.Engine.Serial
import PrepaidLedger.Proofs.Ledger.Filing

/-! The journal shows every line. A line and the entry of its reference are written together, and
what the entry takes over from the line is always there: no line is without the balances around its
last movement. -/

namespace PrepaidLedger

/-- The entry tells the user what the line says. -/
structure Entry.Shows (e : Entry) (l : Line) : Prop where
  status : e.status = l.status.toJournal
  amount : e.amount = l.amount
  fee : e.fee = l.fee
  balanceBefore : e.balanceBefore = l.balanceBefore
  balanceAfter : e.balanceAfter = l.balanceAfter

structure Line.HasBalances (l : Line) : Prop where
  before : l.balanceBefore.isSome
  after : l.balanceAfter.isSome

theorem Entry.Shows.settles {e : Entry} {l l' : Line} (h : e.Shows l) (hl : l.SettlesTo l') :
    e.Shows l' := by
  rw [hl]
  exact ⟨h.status, h.amount, h.fee, h.balanceBefore, h.balanceAfter⟩

theorem Line.HasBalances.settles {l l' : Line} (h : l.HasBalances) (hl : l.SettlesTo l') :
    l'.HasBalances := by
  rw [hl]
  exact ⟨h.before, h.after⟩

namespace Tables

structure JournalKeyed (t : Tables) : Prop where
  ids : (t.journal.map Entry.id).Nodup
  numbered : ∀ e ∈ t.journal, e.id.IsBefore t.batches

/-- Every line is shown by the entry that is found under its reference. -/
structure Journaled (t : Tables) : Prop extends t.JournalKeyed where
  balances : ∀ l ∈ t.lines, l.HasBalances
  shows : ∀ l ∈ t.lines, ∃ e, t.entryByRef? l.reference = some e ∧ e.Shows l

variable {s : Settings} {t t' : Tables} {p : Posting} {card : Card} {owner : CardUser} {e : Entry}

/-! ## The entry that is written -/

theorem entryOf_of_new (h : t.entryByRef? p.reference = none) :
    t.entryOf p card owner = (p.newEntry card (t.lineOf p card owner)).toEntry
      (.numbered t.batches (t.linesMade p)) t.now := by
  unfold entryOf
  dsimp only
  rw [h]

theorem JournalKeyed.entryOf_of_stored (hj : t.JournalKeyed)
    (h : t.entryByRef? p.reference = some e) :
    t.entryOf p card owner =
      { (p.entryPatch (t.lineOf p card owner)).apply e with updatedAt := t.now } := by
  have he : t.entry? e.id = some e := rowOf?_of_mem hj.ids (mem_of_rowOf? h)
  unfold entryOf
  dsimp only
  rw [h]
  dsimp only
  rw [he, Option.getD_some]

theorem JournalKeyed.id_ne_fresh (hj : t.JournalKeyed) (item : Nat) :
    ∀ e ∈ t.journal, e.id ≠ .numbered t.batches item := by
  intro e he hid
  have hbefore := hj.numbered e he
  rw [hid] at hbefore
  exact Nat.lt_irrefl _ hbefore

theorem JournalKeyed.reference_entryOf (hj : t.JournalKeyed) :
    (t.entryOf p card owner).reference = p.reference := by
  cases h : t.entryByRef? p.reference with
  | none =>
    rw [entryOf_of_new h]
    rfl
  | some e =>
    rw [hj.entryOf_of_stored h]
    exact (key_of_rowOf? h : e.reference = p.reference)

theorem JournalKeyed.isBefore_entryOf (hj : t.JournalKeyed) :
    (t.entryOf p card owner).id.IsBefore (t.batches + 1) := by
  cases h : t.entryByRef? p.reference with
  | none =>
    rw [entryOf_of_new h]
    exact Nat.lt_succ_self t.batches
  | some e =>
    rw [hj.entryOf_of_stored h]
    exact (hj.numbered e (mem_of_rowOf? h)).mono (Nat.le_succ _)

theorem JournalKeyed.entryByRef?_apply (hj : t.JournalKeyed) (reference : String) :
    (t.apply (t.changeOf s p card owner)).entryByRef? reference =
      if p.reference = reference then some (t.entryOf p card owner)
      else t.entryByRef? reference := by
  have href : (t.entryOf p card owner).reference = p.reference := hj.reference_entryOf
  change rowOf? Entry.reference reference (putRow Entry.id (t.entryOf p card owner) t.journal) = _
  rw [← href]
  cases h : t.entryByRef? p.reference with
  | none =>
    refine (fits_of_new ?_ ?_).rowOf?_putRow reference
    · rw [entryOf_of_new h]
      exact hj.id_ne_fresh _
    · rw [href]
      exact h
  | some e =>
    have hfound : rowOf? Entry.reference (t.entryOf p card owner).reference t.journal = some e := by
      rw [href]
      exact h
    refine rowOf?_putRow_of_first hj.ids hfound ?_ reference
    rw [hj.entryOf_of_stored h]
    rfl

theorem JournalKeyed.apply (hj : t.JournalKeyed) :
    (t.apply (t.changeOf s p card owner)).JournalKeyed where
  ids := (fits_self _ _).nodup_putRow hj.ids
  numbered e he := by
    rcases mem_of_mem_putRow he with rfl | he
    · exact hj.isBefore_entryOf
    · exact (hj.numbered e he).mono (Nat.le_succ _)

/-! ## Line and entry together -/

theorem Keyed.hasBalances_lineOf (hk : t.Keyed) (hb : ∀ l ∈ t.lines, l.HasBalances) :
    (t.lineOf p card owner).HasBalances := by
  cases h : t.storedFor p with
  | none =>
    rw [lineOf_of_new h]
    exact ⟨rfl, rfl⟩
  | some l =>
    obtain ⟨hbefore, hafter⟩ := hb l (mem_of_rowOf? h)
    rw [hk.lineOf_of_stored h]
    constructor
    · change ((p.linePatch (t.movementOf p card)).balanceBefore <|> l.balanceBefore).isSome
      simp [hbefore]
    · change ((p.linePatch (t.movementOf p card)).balanceAfter <|> l.balanceAfter).isSome
      simp [hafter]

theorem JournalKeyed.shows_entryOf (hj : t.JournalKeyed) (hk : t.Keyed)
    (hb : (t.lineOf p card owner).HasBalances) :
    (t.entryOf p card owner).Shows (t.lineOf p card owner) := by
  -- The entry is patched with balances that are there, so none of its own are left.
  have hstatus : (t.lineOf p card owner).status = p.status := hk.status_lineOf
  have hamount : (t.lineOf p card owner).amount = p.amount := hk.amount_lineOf
  cases h : t.entryByRef? p.reference with
  | none =>
    rw [entryOf_of_new h]
    exact ⟨congrArg LineStatus.toJournal hstatus.symm, hamount.symm, rfl, rfl, rfl⟩
  | some e =>
    obtain ⟨before, hbefore⟩ := Option.isSome_iff_exists.mp hb.before
    obtain ⟨after, hafter⟩ := Option.isSome_iff_exists.mp hb.after
    rw [hj.entryOf_of_stored h]
    refine ⟨congrArg LineStatus.toJournal hstatus.symm, hamount.symm, rfl, ?_, ?_⟩
    · change ((t.lineOf p card owner).balanceBefore <|> e.balanceBefore) = _
      rw [hbefore]
      rfl
    · change ((t.lineOf p card owner).balanceAfter <|> e.balanceAfter) = _
      rw [hafter]
      rfl

theorem Journaled.apply (ht : t.Journaled) (hk : t.Keyed) :
    (t.apply (t.changeOf s p card owner)).Journaled where
  toJournalKeyed := ht.toJournalKeyed.apply
  balances l hl := by
    rcases mem_of_mem_putRow hl with rfl | hl
    · exact hk.hasBalances_lineOf ht.balances
    · exact ht.balances l hl
  shows l hl := by
    rw [ht.toJournalKeyed.entryByRef?_apply]
    by_cases href : p.reference = l.reference
    -- No other line has the reference of the written one.
    · have hl' : (t.apply (t.changeOf s p card owner)).lineByRef? l.reference = some l :=
        rowOf?_of_mem hk.apply.references hl
      rw [hk.lineByRef?_apply, if_pos href] at hl'
      obtain rfl := Option.some.inj hl'
      rw [if_pos href]
      exact ⟨_, rfl, ht.toJournalKeyed.shows_entryOf hk (hk.hasBalances_lineOf ht.balances)⟩
    · rw [if_neg href]
      rcases mem_of_mem_putRow hl with rfl | hl
      · exact absurd hk.reference_lineOf.symm href
      · exact ht.shows l hl

theorem Journaled.steady (ht : t.Journaled) (h : t.Steady t') : t'.Journaled where
  ids := by
    rw [h.journal]
    exact ht.ids
  numbered e he := (ht.numbered e (h.journal ▸ he)).mono h.batches
  balances l' hl' := by
    obtain ⟨l, hl, hsettles⟩ := exists_of_forall₂ h.lines hl'
    exact (ht.balances l hl).settles hsettles
  shows l' hl' := by
    obtain ⟨l, hl, hsettles⟩ := exists_of_forall₂ h.lines hl'
    obtain ⟨e, he, hshows⟩ := ht.shows l hl
    refine ⟨e, ?_, hshows.settles hsettles⟩
    rw [Line.SettlesTo.reference_eq l l' hsettles, entryByRef?, h.journal]
    exact he

theorem journalKeyed_of_no_entries (h : t.journal = []) : t.JournalKeyed := by
  constructor <;> simp [h]

theorem JournalKeyed.journaled_of_no_lines (hj : t.JournalKeyed) (h : t.lines = []) :
    t.Journaled where
  toJournalKeyed := hj
  balances := by simp [h]
  shows := by simp [h]

end Tables

theorem World.journaled_after {s : Settings} {w : World Memory} (hk : w.store.tables.Keyed)
    (hj : w.store.tables.Journaled) (turns : List Turn) :
    (w.after s turns).store.tables.Journaled := by
  refine (after_invariant (P := fun t => t.Keyed ∧ t.Journaled) (fun t t' ht h => ?_)
    (fun t reference ev d card owner ht _ => ?_) ⟨hk, hj⟩ turns).2
  · exact ⟨ht.1.quiet h.quiet, ht.2.steady h⟩
  · exact ⟨ht.1.apply, ht.2.apply ht.1⟩

end PrepaidLedger
