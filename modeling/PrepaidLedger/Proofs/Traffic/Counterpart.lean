import PrepaidLedger.Proofs.Ledger.Journal
import PrepaidLedger.Proofs.Traffic.Advance

/-! Ledger and journal go in step. Every line has one entry under its reference and every entry one
line, and the two agree in all that they both say, however deliveries overlap. -/

namespace PrepaidLedger

structure Entry.Matches (e : Entry) (l : Line) : Prop extends e.Shows l where
  reference : e.reference = l.reference
  userId : e.userId = l.userId
  kind : e.kind = l.kind
  currency : e.currency = l.currency

theorem Entry.Matches.settles {e : Entry} {l l' : Line} (h : e.Matches l) (hl : l.SettlesTo l') :
    e.Matches l' := by
  have hshows : e.Shows l' := h.toShows.settles hl
  rw [hl] at hshows ⊢
  exact ⟨hshows, h.reference, h.userId, h.kind, h.currency⟩

namespace Tables

/-- Lines and entries were made in the same order, so they pair off place by place. -/
structure InStep (t : Tables) : Prop where
  keyed : t.Keyed
  journalKeyed : t.JournalKeyed
  balances : ∀ l ∈ t.lines, l.HasBalances
  pairs : List.Forall₂ (fun l e => e.Matches l) t.lines t.journal

theorem inStep_of_empty {t : Tables} (hlines : t.lines = []) (hjournal : t.journal = []) :
    t.InStep where
  keyed := keyed_of_no_lines hlines
  journalKeyed := journalKeyed_of_no_entries hjournal
  balances := by simp [hlines]
  pairs := by simp [hlines, hjournal]

variable {s : Settings} {t t' : Tables} {p : Posting} {card : Card} {owner : CardUser} {l : Line}
  {e : Entry}

/-! ## Found by reference -/

theorem InStep.references_eq (h : t.InStep) :
    t.journal.map Entry.reference = t.lines.map Line.reference :=
  map_eq_of_forall₂ (fun _ _ hle => hle.reference) h.pairs

theorem InStep.nodup_journal (h : t.InStep) : (t.journal.map Entry.reference).Nodup := by
  rw [h.references_eq]
  exact h.keyed.references

theorem InStep.rel_byRef (h : t.InStep) (reference : String) :
    Option.Rel (fun l e => e.Matches l) (t.lineByRef? reference) (t.entryByRef? reference) :=
  rowOf?_forall₂ (fun _ _ hle => hle.reference) h.pairs reference

theorem InStep.found (h : t.InStep) (reference : String) :
    (t.lineByRef? reference = none ∧ t.entryByRef? reference = none) ∨
      ∃ l e, t.lineByRef? reference = some l ∧ t.entryByRef? reference = some e ∧ e.Matches l := by
  have hrel := h.rel_byRef reference
  generalize t.lineByRef? reference = l?, t.entryByRef? reference = e? at hrel
  cases hrel with
  | none => exact .inl ⟨rfl, rfl⟩
  | some hle => exact .inr ⟨_, _, rfl, rfl, hle⟩

theorem InStep.matches_of_reference (h : t.InStep) (hl : l ∈ t.lines) (he : e ∈ t.journal)
    (href : e.reference = l.reference) : e.Matches l := by
  obtain ⟨e', he', hmatches⟩ := exists_of_forall₂_left h.pairs hl
  have hsame : e'.reference = e.reference := hmatches.reference.trans href.symm
  obtain rfl := List.inj_on_of_nodup_map h.nodup_journal he' he hsame
  exact hmatches

theorem InStep.existsUnique_entry (h : t.InStep) (hl : l ∈ t.lines) :
    ∃! e, e ∈ t.journal ∧ e.reference = l.reference := by
  obtain ⟨e, he, hmatches⟩ := exists_of_forall₂_left h.pairs hl
  refine ⟨e, ⟨he, hmatches.reference⟩, fun e' he' => ?_⟩
  have hsame : e'.reference = e.reference := he'.2.trans hmatches.reference.symm
  exact List.inj_on_of_nodup_map h.nodup_journal he'.1 he hsame

theorem InStep.existsUnique_line (h : t.InStep) (he : e ∈ t.journal) :
    ∃! l, l ∈ t.lines ∧ l.reference = e.reference := by
  obtain ⟨l, hl, hmatches⟩ := exists_of_forall₂ h.pairs he
  refine ⟨l, ⟨hl, hmatches.reference.symm⟩, fun l' hl' => ?_⟩
  have hsame : l'.reference = l.reference := hl'.2.trans hmatches.reference
  exact List.inj_on_of_nodup_map h.keyed.references hl'.1 hl hsame

/-! ## A commit -/

theorem InStep.fits_entryOf (h : t.InStep) :
    Fits Entry.id Entry.reference (t.entryOf p card owner) t.journal := by
  have href : (t.entryOf p card owner).reference = p.reference := h.journalKeyed.reference_entryOf
  cases he : t.entryByRef? p.reference with
  | none =>
    refine fits_of_new ?_ ?_
    · rw [entryOf_of_new he]
      exact h.journalKeyed.id_ne_fresh _
    · rw [href]
      exact he
  | some e =>
    rw [h.journalKeyed.entryOf_of_stored he]
    exact fits_of_stored h.journalKeyed.ids h.nodup_journal (mem_of_rowOf? he) rfl rfl

theorem InStep.matches_entryOf (h : t.InStep) :
    (t.entryOf p card owner).Matches (t.lineOf p card owner) := by
  -- What a patch says nothing of was agreed upon before it.
  have hbalances : (t.lineOf p card owner).HasBalances := h.keyed.hasBalances_lineOf h.balances
  have hshows : (t.entryOf p card owner).Shows (t.lineOf p card owner) :=
    h.journalKeyed.shows_entryOf h.keyed hbalances
  have href : (t.entryOf p card owner).reference = (t.lineOf p card owner).reference := by
    rw [h.journalKeyed.reference_entryOf, h.keyed.reference_lineOf]
  rcases h.found p.reference with ⟨hl, he⟩ | ⟨l, e, hl, he, hmatches⟩
  · refine ⟨hshows, href, ?_, ?_, ?_⟩ <;> rw [entryOf_of_new he, lineOf_of_new hl] <;> rfl
  · have hline : t.lineOf p card owner =
        { (p.linePatch (t.movementOf p card)).apply l with updatedAt := t.now } :=
      h.keyed.lineOf_of_stored hl
    have hentry : t.entryOf p card owner =
        { (p.entryPatch (t.lineOf p card owner)).apply e with updatedAt := t.now } :=
      h.journalKeyed.entryOf_of_stored he
    refine ⟨hshows, href, ?_, ?_, ?_⟩ <;> rw [hentry, hline]
    · exact hmatches.userId
    · exact hmatches.kind
    · exact hmatches.currency

theorem InStep.apply (h : t.InStep) : (t.apply (t.changeOf s p card owner)).InStep where
  keyed := h.keyed.apply
  journalKeyed := h.journalKeyed.apply
  balances l hl := by
    rcases mem_of_mem_putRow hl with rfl | hl
    · exact h.keyed.hasBalances_lineOf h.balances
    · exact h.balances l hl
  pairs := by
    refine forall₂_putRow_pair h.pairs (fun l hl e he hmatches => ?_) h.matches_entryOf
    have hline : l.id = (t.lineOf p card owner).id ↔ l.reference = p.reference := by
      rw [h.keyed.fits_lineOf l hl, h.keyed.reference_lineOf]
    have hentry : e.id = (t.entryOf p card owner).id ↔ e.reference = p.reference := by
      rw [h.fits_entryOf e he, h.journalKeyed.reference_entryOf]
    rw [← hmatches.reference] at hline
    exact hline.trans hentry.symm

/-! ## Steady changes -/

theorem InStep.steady (h : t.InStep) (hsteady : t.Steady t') : t'.InStep where
  keyed := h.keyed.quiet hsteady.quiet
  journalKeyed :=
    ⟨hsteady.journal ▸ h.journalKeyed.ids,
      fun e he => (h.journalKeyed.numbered e (hsteady.journal ▸ he)).mono hsteady.batches⟩
  balances l' hl' := by
    obtain ⟨l, hl, hsettles⟩ := exists_of_forall₂ hsteady.lines hl'
    exact (h.balances l hl).settles hsettles
  pairs := by
    rw [hsteady.journal]
    exact forall₂_trans (fun l' l e hsettles hmatches => hmatches.settles hsettles)
      (List.Forall₂.flip hsteady.lines) h.pairs

end Tables

theorem Traffic.inStep_after {s : Settings} {m : Traffic} (hm : m.tables.InStep)
    (moves : List Move) : (m.after s moves).tables.InStep :=
  tables_after_invariant (fun _ _ h hsteady => h.steady hsteady) (fun _ _ _ _ h => h.apply) hm moves

/-- Wherever a run of overlapping deliveries stands, references pair the lines off with the journal
entries, and each pair agrees. -/
theorem journal_matches_ledger (s : Settings) {w : World Memory}
    (hlines : w.store.tables.lines = []) (hjournal : w.store.tables.journal = [])
    (moves : List Move) :
    let t := ((Traffic.start w).after s moves).tables
    (t.lines.map Line.reference).Nodup ∧ (t.journal.map Entry.reference).Nodup ∧
      (∀ l ∈ t.lines, ∃! e, e ∈ t.journal ∧ e.reference = l.reference) ∧
      (∀ e ∈ t.journal, ∃! l, l ∈ t.lines ∧ l.reference = e.reference) ∧
      ∀ l ∈ t.lines, ∀ e ∈ t.journal, e.reference = l.reference → e.Matches l := by
  intro t
  have h : t.InStep :=
    Traffic.inStep_after (m := .start w) (Tables.inStep_of_empty hlines hjournal) moves
  exact ⟨h.keyed.references, h.nodup_journal, fun l hl => h.existsUnique_entry hl,
    fun e he => h.existsUnique_line he, fun l hl e he href => h.matches_of_reference hl he href⟩

theorem contradicted_hold_matches_entry :
    let moves := Specimen.held ++ Specimen.contradicted
    let t := ((Traffic.start Specimen.world).after Specimen.settings moves).tables
    Specimen.world.store.tables.lines = [] ∧ Specimen.world.store.tables.journal = [] ∧
      t.lines.map (fun l => (l.reference, l.status, l.amount)) = [("t", .declined, 20)] ∧
      ∀ l ∈ t.lines, ∃! e, e ∈ t.journal ∧ e.reference = l.reference := by
  intro moves t
  obtain ⟨-, -, hentry, -, -⟩ :=
    journal_matches_ledger Specimen.settings (w := Specimen.world) rfl rfl moves
  exact ⟨rfl, rfl, rfl, hentry⟩

end PrepaidLedger
