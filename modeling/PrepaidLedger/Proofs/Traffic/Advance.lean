import PrepaidLedger.Proofs.Ledger.Filing
import PrepaidLedger.Proofs.Specimen
import PrepaidLedger.Proofs.Traffic.Basic

/-! However deliveries overlap, a line comes to an end once and stays as it is then. What was found
when a delivery was prepared may be out of date: the check inside the transaction is enough. -/

namespace PrepaidLedger

/-! ## Lines over time -/

def Line.SameTransaction (l l' : Line) : Prop :=
  l' = { l with
    status := l'.status, amount := l'.amount, fee := l'.fee
    balanceBefore := l'.balanceBefore, balanceAfter := l'.balanceAfter
    declineReason := l'.declineReason, feeSettled := l'.feeSettled
    feeChargeRef := l'.feeChargeRef, updatedAt := l'.updatedAt }

/-- The line stays as it is but for the settlement of its fee, or it was pending and is final. -/
structure Line.Advances (l l' : Line) : Prop where
  same : l.SameTransaction l'
  moves : l.SettlesTo l' ∨ l.status = .pending ∧ l'.status ≠ .pending

namespace Line

variable {l l₁ l₂ l₃ : Line}

theorem SettlesTo.status_eq (h : l₁.SettlesTo l₂) : l₂.status = l₁.status := by rw [h]

theorem SettlesTo.advances (h : l₁.SettlesTo l₂) : l₁.Advances l₂ := by
  refine ⟨?_, .inl h⟩
  rw [h]
  rfl

theorem SameTransaction.trans (h : l₁.SameTransaction l₂) (h' : l₂.SameTransaction l₃) :
    l₁.SameTransaction l₃ := by
  unfold SameTransaction at h h' ⊢
  rw [h] at h'
  exact h'

theorem Advances.trans (h : l₁.Advances l₂) (h' : l₂.Advances l₃) : l₁.Advances l₃ := by
  refine ⟨h.same.trans h'.same, ?_⟩
  rcases h.moves with hsettles | ⟨hpending, hfinal⟩ <;> rcases h'.moves with hsettles' | hmoves'
  · exact .inl (hsettles.trans hsettles')
  · exact .inr ⟨hsettles.status_eq ▸ hmoves'.1, hmoves'.2⟩
  · exact .inr ⟨hpending, hsettles'.status_eq ▸ hfinal⟩
  · exact absurd hmoves'.1 hfinal

theorem Advances.settles (h : l₁.Advances l₂) (hfinal : l₁.status ≠ .pending) :
    l₁.SettlesTo l₂ := h.moves.resolve_right fun hmoves => hfinal hmoves.1

end Line

theorem Tables.Keyed.advances_lineOf {s : Settings} {t : Tables} {p : Posting} {card : Card}
    {owner : CardUser} {l : Line} (hk : t.Keyed) (hproceed : t.verdictOn s p = .proceed)
    (hl : t.storedFor p = some l) : l.Advances (t.lineOf p card owner) := by
  obtain ⟨hpending, hfinal⟩ := pending_of_proceeds hproceed hl
  refine ⟨?_, .inr ⟨hpending, ?_⟩⟩
  · rw [hk.lineOf_of_stored hl]
    rfl
  · rw [hk.status_lineOf]
    exact hfinal

/-! ## References over time -/

namespace Traffic

def Advances (reference : String) (m m' : Traffic) : Prop :=
  ∀ l, m.line? reference = some l → ∃ l', m'.line? reference = some l' ∧ l.Advances l' ∧
    (l.status ≠ .pending → m'.commitsOn reference = m.commitsOn reference)

structure Counted (m : Traffic) (reference : String) : Prop where
  absent : m.line? reference = none → m.commitsOn reference = []
  pending : ∀ l, m.line? reference = some l → l.status = .pending →
    (m.commitsOn reference).length ≤ 1 ∧ ∀ a ∈ m.commitsOn reference, a.line.status = .pending
  bounded : (m.commitsOn reference).length ≤ 2
  ordered : (m.commitsOn reference).Pairwise fun a _ => a.line.status = .pending

variable {s : Settings} {m m₁ m₂ m₃ : Traffic} {reference : String}

theorem Advances.refl (reference : String) (m : Traffic) : m.Advances reference m :=
  fun l hl => ⟨l, hl, (Line.SettlesTo.refl l).advances, fun _ => rfl⟩

theorem Advances.trans (h : Advances reference m₁ m₂) (h' : Advances reference m₂ m₃) :
    Advances reference m₁ m₃ := by
  intro l hl
  obtain ⟨l', hl', hadvances, hsame⟩ := h l hl
  obtain ⟨l'', hl'', hadvances', hsame'⟩ := h' l' hl'
  refine ⟨l'', hl'', hadvances.trans hadvances', fun hfinal => ?_⟩
  have hfinal' : l'.status ≠ .pending := (hadvances.settles hfinal).status_eq ▸ hfinal
  exact (hsame' hfinal').trans (hsame hfinal)

/-! ## One step -/

theorem keyed_step {m' : Traffic} (hk : m.tables.Keyed) (h : Progress s m m') :
    m'.tables.Keyed := by
  cases h with
  | quiet htables => exact hk.quiet htables
  | commit f _ card owner _ htables =>
    rw [htables]
    exact hk.apply

theorem line?_commit (reference : String) {m' : Traffic} {p : Posting} {card : Card}
    {owner : CardUser} (hk : m.tables.Keyed)
    (h : m'.tables = m.tables.apply (m.tables.changeOf s p card owner)) :
    m'.line? reference = if p.reference = reference then some (m.tables.lineOf p card owner)
      else m.line? reference := by
  unfold line?
  rw [h]
  exact hk.lineByRef?_apply reference

theorem commitsOn_of_eq {m' : Traffic} (h : m'.commits = m.commits) :
    m'.commitsOn reference = m.commitsOn reference := by
  unfold commitsOn
  rw [h]

theorem commitsOn_commit (reference : String) {m' : Traffic} {p : Posting} {card : Card}
    {owner : CardUser} (hk : m.tables.Keyed)
    (h : m'.commits = m.commits ++ [(m.tables.changeOf s p card owner).applied]) :
    m'.commitsOn reference = m.commitsOn reference ++
      if p.reference = reference then [(m.tables.changeOf s p card owner).applied] else [] := by
  have href : (m.tables.changeOf s p card owner).applied.line.reference = p.reference :=
    hk.reference_lineOf
  unfold commitsOn
  rw [h, List.filter_append]
  split
  next hp => simp [href, hp]
  next hp => simp [href, hp]

theorem advances_step {m' : Traffic} (hk : m.tables.Keyed) (h : Progress s m m') :
    m.Advances reference m' := by
  intro l hl
  cases h with
  | quiet htables hcommits =>
    obtain ⟨l', hl', hsettles⟩ := htables.line_after hl
    exact ⟨l', hl', hsettles.advances, fun _ => commitsOn_of_eq hcommits⟩
  | commit f _ card owner hcarries htables hcommits =>
    rw [line?_commit reference hk htables, commitsOn_commit reference hk hcommits]
    by_cases hp : f.delivery.posting.reference = reference
    · rw [if_pos hp, if_pos hp]
      have hstored : m.tables.storedFor f.delivery.posting = some l :=
        (Tables.storedFor_of_reference hp).trans hl
      refine ⟨_, rfl, hk.advances_lineOf hcarries.proceeds hstored, fun hfinal => ?_⟩
      exact absurd (Tables.pending_of_proceeds hcarries.proceeds hstored).1 hfinal
    · rw [if_neg hp, if_neg hp]
      exact ⟨l, hl, (Line.SettlesTo.refl l).advances, fun _ => List.append_nil _⟩

theorem counted_write {m' : Traffic} {a : Applied} (hm : m.Counted reference)
    (hline : m'.line? reference = some a.line)
    (hon : m'.commitsOn reference = m.commitsOn reference ++ [a])
    (hstored : ∀ l, m.line? reference = some l → l.status = .pending ∧ a.line.status ≠ .pending) :
    m'.Counted reference := by
  have habsent : m'.line? reference = none → m'.commitsOn reference = [] := by
    rw [hline]
    exact nofun
  cases hl : m.line? reference with
  | none =>
    rw [hm.absent hl, List.nil_append] at hon
    refine ⟨habsent, fun l hl' hpending => ?_, ?_, ?_⟩
    · obtain rfl := Option.some.inj (hline.symm.trans hl')
      rw [hon]
      exact ⟨Nat.le_refl 1, fun b hb => List.mem_singleton.mp hb ▸ hpending⟩
    · rw [hon]
      exact Nat.le_succ 1
    · rw [hon]
      exact List.pairwise_singleton _ _
  | some l =>
    obtain ⟨hpending, hfinal⟩ := hstored l hl
    obtain ⟨hone, hall⟩ := hm.pending l hl hpending
    refine ⟨habsent, fun l' hl' hpending' => ?_, ?_, ?_⟩
    · obtain rfl := Option.some.inj (hline.symm.trans hl')
      exact absurd hpending' hfinal
    · rw [hon, List.length_append]
      exact Nat.succ_le_succ hone
    · rw [hon, List.pairwise_append]
      exact ⟨hm.ordered, List.pairwise_singleton _ _, fun b hb _ _ => hall b hb⟩

theorem counted_step {m' : Traffic} (hk : m.tables.Keyed) (hm : m.Counted reference)
    (h : Progress s m m') : m'.Counted reference := by
  cases h with
  | quiet htables hcommits =>
    have hsame : m'.commitsOn reference = m.commitsOn reference := commitsOn_of_eq hcommits
    refine ⟨fun hnone => ?_, fun l' hl' hpending => ?_, hsame ▸ hm.bounded, hsame ▸ hm.ordered⟩
    -- A line that was not there does not come by a quiet change.
    · rw [hsame]
      refine hm.absent (Option.eq_none_iff_forall_ne_some.mpr fun l hl => ?_)
      obtain ⟨l', hl', -⟩ := htables.line_after hl
      exact nomatch hnone.symm.trans hl'
    · obtain ⟨l, hl, hsettles⟩ := htables.line_before hl'
      rw [hsame]
      exact hm.pending l hl (hsettles.status_eq ▸ hpending)
  | commit f _ card owner hcarries htables hcommits =>
    have hline := line?_commit reference hk htables
    have hon := commitsOn_commit reference hk hcommits
    by_cases hp : f.delivery.posting.reference = reference
    · rw [if_pos hp] at hline hon
      refine counted_write hm hline hon fun l hl => ?_
      have hstored : m.tables.storedFor f.delivery.posting = some l :=
        (Tables.storedFor_of_reference hp).trans hl
      obtain ⟨hpending, hfinal⟩ := Tables.pending_of_proceeds hcarries.proceeds hstored
      refine ⟨hpending, ?_⟩
      change (m.tables.lineOf f.delivery.posting card owner).status ≠ .pending
      rw [hk.status_lineOf]
      exact hfinal
    · rw [if_neg hp] at hline hon
      rw [List.append_nil] at hon
      refine ⟨fun hnone => ?_, fun l hl hpending => ?_, ?_, ?_⟩
      · rw [hon]
        exact hm.absent (hline ▸ hnone)
      · rw [hon]
        exact hm.pending l (hline ▸ hl) hpending
      · rw [hon]
        exact hm.bounded
      · rw [hon]
        exact hm.ordered

/-! ## Whole runs -/

theorem keyed_after (hk : m.tables.Keyed) (moves : List Move) : (m.after s moves).tables.Keyed :=
  after_keeps (fun _ _ hk h => keyed_step hk h) hk moves

theorem advances_after (hk : m.tables.Keyed) (moves : List Move) :
    m.Advances reference (m.after s moves) := by
  induction moves generalizing m with
  | nil => exact .refl reference m
  | cons move rest ih =>
    have hstep := progress_step s m move
    exact (advances_step hk hstep).trans (ih (keyed_step hk hstep))

theorem counted_start (w : World Memory) (reference : String) : (start w).Counted reference := by
  have hon : (start w).commitsOn reference = [] := rfl
  refine ⟨fun _ => hon, fun _ _ _ => ?_, ?_, ?_⟩ <;> rw [hon]
  · exact ⟨Nat.zero_le 1, fun a ha => absurd ha List.not_mem_nil⟩
  · exact Nat.zero_le 2
  · exact .nil

theorem counted_after {w : World Memory} (hk : w.store.tables.Keyed) (moves : List Move) :
    ((start w).after s moves).Counted reference := by
  have hstep : ∀ m m' : Traffic, m.tables.Keyed ∧ m.Counted reference → Progress s m m' →
      m'.tables.Keyed ∧ m'.Counted reference :=
    fun m m' hm h => ⟨keyed_step hm.1 h, counted_step hm.1 hm.2 h⟩
  exact (after_keeps (m := start w) hstep ⟨hk, counted_start w reference⟩ moves).2

end Traffic

/-- In every run of deliveries that overlap in any way, and between any two points of it, a line of
a reference stays and advances. A reference is written twice at most, first as pending if there is a
second time, and never once its line is final. -/
theorem line_ends_once (s : Settings) {w : World Memory} (hk : w.store.tables.Keyed)
    (past later : List Move) (reference : String) :
    let before := (Traffic.start w).after s past
    let after := before.after s later
    (∀ l, before.line? reference = some l → ∃ l', after.line? reference = some l' ∧
      l.Advances l' ∧ (l.status ≠ .pending →
        l.SettlesTo l' ∧ after.commitsOn reference = before.commitsOn reference)) ∧
    (after.commitsOn reference).length ≤ 2 ∧
    (after.commitsOn reference).Pairwise fun a _ => a.line.status = .pending := by
  intro before after
  have hbefore : before.tables.Keyed := Traffic.keyed_after (m := .start w) hk past
  have hcounted : after.Counted reference := by
    have h : ((Traffic.start w).after s (past ++ later)).Counted reference :=
      Traffic.counted_after hk (past ++ later)
    rwa [Traffic.after_append] at h
  refine ⟨fun l hl => ?_, hcounted.bounded, hcounted.ordered⟩
  obtain ⟨l', hl', hadvances, hsame⟩ := Traffic.advances_after hbefore later l hl
  exact ⟨l', hl', hadvances, fun hfinal => ⟨hadvances.settles hfinal, hsame hfinal⟩⟩

theorem held_spend_ends_once :
    let before := (Traffic.start Specimen.world).after Specimen.settings Specimen.held
    let after := before.after Specimen.settings Specimen.contradicted
    Specimen.world.store.tables.Keyed ∧
      (before.line? "t").map (·.status) = some .pending ∧
      (after.line? "t").map (·.status) = some .declined ∧
      (∃ l l', before.line? "t" = some l ∧ after.line? "t" = some l' ∧ l.Advances l') ∧
      (after.commitsOn "t").length ≤ 2 := by
  have hbefore : (((Traffic.start Specimen.world).after Specimen.settings
      Specimen.held).line? "t").map (·.status) = some .pending := rfl
  have hafter : ((((Traffic.start Specimen.world).after Specimen.settings
      Specimen.held).after Specimen.settings Specimen.contradicted).line? "t").map (·.status) =
        some .declined := rfl
  intro before after
  have hk : Specimen.world.store.tables.Keyed := Tables.keyed_of_no_lines rfl
  obtain ⟨hline, hbounded, -⟩ :=
    line_ends_once Specimen.settings hk Specimen.held Specimen.contradicted "t"
  obtain ⟨l, hl, -⟩ := Option.map_eq_some_iff.mp hbefore
  obtain ⟨l', hl', hadvances, -⟩ := hline l hl
  exact ⟨hk, hbefore, hafter, ⟨l, l', hl, hl', hadvances⟩, hbounded⟩

end PrepaidLedger
