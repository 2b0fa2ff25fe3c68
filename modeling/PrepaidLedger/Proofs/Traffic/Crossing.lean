import PrepaidLedger.Proofs.Traffic.Advance

/-! The stored line is asked for its card when a delivery is prepared and not again when it is
written. Two deliveries of one reference on two cards are under two locks, so the later one can be
written over the line of the other card. -/

namespace PrepaidLedger

namespace Traffic

/-- The delivery was prepared on the tables it has seen, and their lines are still there. -/
structure Foresees (s : Settings) (m : Traffic) (f : InFlight) : Prop where
  prepares : ∃ reference kind, f.seen.Prepares s reference kind f.delivery
  lines : ∀ reference l, f.seen.lineByRef? reference = some l →
    ∃ l', m.line? reference = some l' ∧ l.Advances l'

variable {s : Settings} {m m' : Traffic} {f : InFlight}

theorem Foresees.step (hf : m.Foresees s f) (hk : m.tables.Keyed) (h : Progress s m m') :
    m'.Foresees s f where
  prepares := hf.prepares
  lines reference l hl := by
    obtain ⟨l', hl', hadvances⟩ := hf.lines reference l hl
    obtain ⟨l'', hl'', hadvances', -⟩ := advances_step hk h l' hl'
    exact ⟨l'', hl'', hadvances.trans hadvances'⟩

theorem foresees_step (hk : m.tables.Keyed) (hm : ∀ f ∈ m.inFlight, m.Foresees s f)
    (h : Progress s m m') : ∀ f ∈ m'.inFlight, m'.Foresees s f := by
  intro f hf
  have hnew : f ∈ m.inFlight ∨
      f.seen = m.tables ∧ ∃ reference kind, m.tables.Prepares s reference kind f.delivery := by
    cases h with
    | quiet _ _ hinFlight => exact hinFlight f hf
    | commit _ _ _ _ _ _ _ hinFlight => exact .inl (hinFlight hf)
  rcases hnew with hold | ⟨hseen, hprepares⟩
  · exact (hm f hold).step hk h
  · have hnow : m.Foresees s f := by
      refine ⟨hseen ▸ hprepares, fun reference l hl => ?_⟩
      rw [hseen] at hl
      exact ⟨l, hl, (Line.SettlesTo.refl l).advances⟩
    exact hnow.step hk h

theorem foresees_after {w : World Memory} (hk : w.store.tables.Keyed) (moves : List Move) :
    ∀ f ∈ ((start w).after s moves).inFlight, ((start w).after s moves).Foresees s f := by
  have hstep : ∀ m m' : Traffic, (m.tables.Keyed ∧ ∀ f ∈ m.inFlight, m.Foresees s f) →
      Progress s m m' → m'.tables.Keyed ∧ ∀ f ∈ m'.inFlight, m'.Foresees s f :=
    fun m m' hm h => ⟨keyed_step hm.1 h, foresees_step hm.1 hm.2 h⟩
  have hstart : ∀ f ∈ (start w).inFlight, (start w).Foresees s f :=
    fun f hf => absurd hf List.not_mem_nil
  exact (after_keeps (m := start w) hstep ⟨hk, hstart⟩ moves).2

end Traffic

/-! ## One write -/

/-- A committed write moves the balance of the card it was prepared for and files its movement on
the line of its reference. That line is one of the same card exactly if no line of another card
stands there by then. One that does was not there when the delivery was prepared. -/
theorem crossing_write_iff (s : Settings) {w : World Memory} (hk : w.store.tables.Keyed)
    (moves : List Move) {f : InFlight} (hf : f ∈ ((Traffic.start w).after s moves).inFlight)
    {refusal : LockKey → Option LockError} {C : Collaborators} {a : Applied} {w' : World Memory}
    (hwrite : (writeLocked s f.delivery).runIn (Memory.backend refusal) C
      ((Traffic.start w).after s moves).world = (.ok (.ok a), w')) :
    let m := (Traffic.start w).after s moves
    let reference := f.delivery.posting.reference
    (∀ id, (w'.store.tables.card? id).map (·.balance) = (m.tables.card? id).map fun c =>
      c.balance + if f.delivery.cardId = id then a.delta else 0) ∧
    w'.store.tables.lineByRef? reference = some a.line ∧
    (a.line.cardId = f.delivery.cardId ↔
      ∀ l, m.line? reference = some l → l.cardId = f.delivery.cardId) ∧
    (a.line.cardId ≠ f.delivery.cardId → f.seen.lineByRef? reference = none ∧
      ∃ l, m.line? reference = some l ∧ l.cardId = a.line.cardId ∧ l.status = .pending) := by
  intro m reference
  have hm : m.tables.Keyed := Traffic.keyed_after (m := .start w) hk moves
  obtain ⟨⟨_, _, hprepares⟩, hlines⟩ := Traffic.foresees_after hk moves f hf
  have hresult := Task.tables_writeLocked refusal C s m.world f.delivery
  rw [hwrite] at hresult
  obtain ⟨c, hc, rfl, ht⟩ := hresult
  obtain ⟨card, owner, hcarries, rfl⟩ := Tables.change_eq_ok.mp hc
  have hid : card.id = f.delivery.cardId := key_of_rowOf? hcarries.card_eq
  have hcard : (m.tables.lineOf f.delivery.posting card owner).cardId =
      ((m.line? reference).map (·.cardId)).getD card.id := hm.cardId_lineOf
  have hiff : (m.tables.lineOf f.delivery.posting card owner).cardId = f.delivery.cardId ↔
      ∀ l, m.line? reference = some l → l.cardId = f.delivery.cardId := by
    rw [hcard]
    cases m.line? reference with
    | none => simp [hid]
    | some l => simp
  refine ⟨fun id => ?_, ?_, hiff, fun hcross => ?_⟩
  · rw [ht]
    exact hcarries.map_balance_apply id
  · rw [ht]
    exact (hm.lineByRef?_apply reference).trans (if_pos rfl)
  · have hother : ∃ l, m.line? reference = some l ∧ l.cardId ≠ f.delivery.cardId := by
      by_contra hnone
      refine hcross (hiff.mpr fun l hl => ?_)
      by_contra hne
      exact hnone ⟨l, hl, hne⟩
    obtain ⟨l, hl, hne⟩ := hother
    refine ⟨?_, l, hl, ?_, (Tables.pending_of_proceeds hcarries.proceeds hl).1⟩
    -- Had the line stood there already, it would have passed the check for another card.
    · cases hseen : f.seen.lineByRef? reference with
      | none => rfl
      | some l₀ =>
        obtain ⟨l₁, hl₁, hadvances⟩ := hlines reference l₀ hseen
        obtain rfl := Option.some.inj (hl.symm.trans hl₁)
        have hcardId : l.cardId = l₀.cardId := by rw [hadvances.same]
        exact absurd (hcardId.trans (hprepares.ownLine l₀ hseen)) hne
    · change l.cardId = (m.tables.lineOf f.delivery.posting card owner).cardId
      rw [hcard, hl]
      rfl

theorem eq_ok_of_toOption {ε α : Type} {x : Except ε α} {a : α} (h : x.toOption = some a) :
    x = .ok a := by
  cases x with
  | error e => cases h
  | ok b => exact congrArg Except.ok (Option.some.inj h)

theorem late_decline_crosses :
    let m := (Traffic.start Specimen.world).after Specimen.settings Specimen.crossing
    ∃ f a w', f ∈ m.inFlight ∧
      (writeLocked Specimen.settings f.delivery).runIn (Memory.backend fun _ => none)
        Specimen.refusing m.world = (.ok (.ok a), w') ∧
      a.line.cardId = ⟨1⟩ ∧ f.delivery.cardId = ⟨2⟩ ∧
      f.seen.lineByRef? f.delivery.posting.reference = none := by
  have hk : Specimen.world.store.tables.Keyed := Tables.keyed_of_no_lines rfl
  have hcards : (((Traffic.start Specimen.world).after Specimen.settings
      Specimen.crossing).inFlight.head?.bind fun f =>
        ((writeLocked Specimen.settings f.delivery).runIn (Memory.backend fun _ => none)
          Specimen.refusing ((Traffic.start Specimen.world).after Specimen.settings
            Specimen.crossing).world).1.toOption.bind fun r =>
              r.toOption.map fun a => (a.line.cardId, f.delivery.cardId)) =
                some (⟨1⟩, ⟨2⟩) := rfl
  intro m
  obtain ⟨f, hf, hcards⟩ := Option.bind_eq_some_iff.mp hcards
  have hmem : f ∈ m.inFlight := List.mem_of_mem_head? hf
  obtain ⟨r, hr, hcards⟩ := Option.bind_eq_some_iff.mp hcards
  obtain ⟨a, ha, hcards⟩ := Option.map_eq_some_iff.mp hcards
  obtain ⟨hline, hcard⟩ := Prod.mk.inj hcards
  obtain ⟨w', hwrite⟩ : ∃ w', (writeLocked Specimen.settings f.delivery).runIn
      (Memory.backend fun _ => none) Specimen.refusing m.world = (.ok (.ok a), w') := by
    refine ⟨_, Prod.ext ?_ rfl⟩
    rw [← eq_ok_of_toOption ha]
    exact eq_ok_of_toOption hr
  obtain ⟨-, -, -, hraced⟩ := crossing_write_iff Specimen.settings hk Specimen.crossing hmem hwrite
  refine ⟨f, a, w', hmem, hwrite, hline, hcard, (hraced ?_).1⟩
  rw [hline, hcard]
  decide

def Traffic.MovesOwnCards (m : Traffic) : Prop :=
  ∀ a ∈ m.commits, a.delta ≠ 0 → a.line.cardId = a.card.id

/-- The spend is held on the first card, and its decline is credited to the second. -/
theorem crossing_write_credits_other_card :
    let m := (Traffic.start Specimen.world).after Specimen.settings
      (Specimen.crossing ++ [Specimen.move (.write 0)])
    m.tables.cards.map (·.balance) = [10, 40] ∧
      m.tables.lines.map (fun l => (l.cardId, l.status)) = [(⟨1⟩, .declined)] ∧
      ¬ m.MovesOwnCards := by
  have hcrossed : (((Traffic.start Specimen.world).after Specimen.settings
      (Specimen.crossing ++ [Specimen.move (.write 0)])).commits.all fun a =>
        a.delta = 0 ∨ a.line.cardId = a.card.id) = false := rfl
  intro m
  refine ⟨rfl, rfl, fun hown => ?_⟩
  obtain ⟨a, ha, hmoved⟩ := List.all_eq_false.mp hcrossed
  simp only [decide_eq_true_eq, not_or] at hmoved
  exact hmoved.2 (hown a ha hmoved.1)

end PrepaidLedger
