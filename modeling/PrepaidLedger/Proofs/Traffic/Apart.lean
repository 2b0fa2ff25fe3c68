import PrepaidLedger.Proofs.Traffic.Background

/-! Deliveries of one reference that keep apart. Where a reference is delivered again only after its
last delivery was written, whatever is written over a line is for the card of that line, and so for
its card-user. -/

namespace PrepaidLedger

namespace Traffic

def Apart (m : Traffic) : Prop := (m.inFlight.map fun f => f.delivery.posting.reference).Nodup

/-- The delivery is for a card and a card-user who belong together, and the line that stands under
its reference is one of that card. -/
structure Fits (m : Traffic) (d : Delivery) : Prop where
  joins : m.tables.Joins d.cardId d.cardUserId
  line : ∀ l, m.line? d.posting.reference = some l → l.cardId = d.cardId

structure Orderly (m : Traffic) : Prop where
  keyed : m.tables.Keyed
  distinct : m.tables.Distinct
  owned : ∀ l ∈ m.tables.lines, l.OwnedIn m.tables
  inFlight : ∀ f ∈ m.inFlight, m.Fits f.delivery
  commits : ∀ a ∈ m.commits, ¬ a.Strays

variable {s : Settings} {m m' : Traffic} {d : Delivery} {card : Card} {owner : CardUser}

theorem fits_of_delivery {reference : String} {ev : LedgerEvent}
    (h : ev.delivery s m.tables reference = .ok (.ok d)) : m.Fits d := by
  obtain ⟨card, owner, hposts, hscreen⟩ := LedgerEvent.delivery_eq_ok.mp h
  obtain ⟨hdelivery, hline, -⟩ := Tables.screen_eq_ok.mp hscreen
  obtain ⟨hcard, howner, hown⟩ := LedgerEvent.mem_of_parties hposts.parties_eq
  rw [hdelivery]
  exact ⟨⟨card, hcard, owner, howner, rfl, rfl, hown⟩, hline⟩

theorem inFlight_step (s : Settings) (m : Traffic) (move : Move) :
    ∀ f ∈ (m.step s move).inFlight, f ∈ m.inFlight ∨
      ∃ reference ev, LedgerEvent.delivery s m.tables reference ev = .ok (.ok f.delivery) := by
  have hprepared (r : Except EngineError (Except Dismissal Delivery)) :
      ∀ f ∈ (m.prepared (r, m.world)).inFlight, f ∈ m.inFlight ∨ r = .ok (.ok f.delivery) := by
    intro f hf
    rcases r with e | dismissal | d
    · exact .inl hf
    · exact .inl hf
    · refine (List.mem_append.mp hf).imp_right fun hf => ?_
      rw [List.mem_singleton.mp hf]
  intro f hf
  obtain ⟨refusal, parties, act⟩ := move
  unfold step at hf
  cases act with
  | spend reference e =>
    dsimp only at hf
    rw [Task.runIn_prepareSpend] at hf
    exact (hprepared _ f hf).imp_right fun h => ⟨reference, .spend e, h⟩
  | collateral reference e =>
    dsimp only at hf
    rw [Task.runIn_prepareCollateral] at hf
    refine (hprepared _ f hf).imp_right fun h => ⟨reference, .collateral e, ?_⟩
    rw [LedgerEvent.delivery_collateral]
    exact h
  | write place =>
    dsimp only at hf
    split at hf
    · exact .inl hf
    next g _ =>
      left
      generalize (writeLocked s g.delivery).runIn (Memory.backend refusal) parties m.world = x
        at hf
      rcases x with ⟨e | dismissal | a, w⟩ <;> exact List.mem_of_mem_eraseIdx hf
  | effects place =>
    dsimp only at hf
    split at hf <;> exact .inl hf
  | _ => exact .inl hf

theorem Fits.of_quiet (h : m.Fits d) (haccounts : m.tables.SameAccounts m'.tables)
    (hquiet : m.tables.Quiet m'.tables) : m'.Fits d where
  joins := h.joins.of_sameAccounts haccounts
  line l' hl' := by
    obtain ⟨l, hl, hsettles⟩ := hquiet.line_before hl'
    rw [hsettles]
    exact h.line l hl

theorem Orderly.moveTo (h : m.Orderly) {w : World Memory}
    (hsteady : m.tables.Steady w.store.tables) : (m.moveTo w).Orderly where
  keyed := h.keyed.quiet hsteady.quiet
  distinct := h.distinct.of_sameAccounts (.of_steady hsteady)
  owned l' hl' := by
    obtain ⟨l, hl, hsettles⟩ := exists_of_forall₂ hsteady.lines hl'
    have howned := (h.owned l hl).of_sameAccounts (.of_steady hsteady)
    rw [hsettles]
    exact howned
  inFlight f hf := (h.inFlight f hf).of_quiet (.of_steady hsteady) hsteady.quiet
  commits := h.commits

/-! ## One commit -/

theorem Fits.cardUserId_lineOf (hfits : m.Fits d) (hm : m.Orderly)
    (hcarries : m.tables.Carries s d card owner) :
    (m.tables.lineOf d.posting card owner).cardId = d.cardId ∧
      (m.tables.lineOf d.posting card owner).cardUserId = d.cardUserId := by
  have hcard : card.id = d.cardId := key_of_rowOf? hcarries.card_eq
  have howner : owner.id = d.cardUserId := key_of_rowOf? hcarries.owner_eq
  cases hstored : m.tables.storedFor d.posting with
  | none =>
    rw [Tables.lineOf_of_new hstored]
    exact ⟨hcard, howner⟩
  | some l =>
    have hl : l.cardId = d.cardId := hfits.line l hstored
    have hjoins : m.tables.Joins l.cardId l.cardUserId := hm.owned l (mem_of_rowOf? hstored)
    rw [hl] at hjoins
    rw [hm.keyed.lineOf_of_stored hstored]
    exact ⟨hl, hjoins.cardUserId_eq hm.distinct hfits.joins⟩

theorem Orderly.commit (h : m.Orderly) (hapart : m.Apart) {f : InFlight} (hf : f ∈ m.inFlight)
    (hcarries : m.tables.Carries s f.delivery card owner)
    (htables : m'.tables = m.tables.apply (m.tables.changeOf s f.delivery.posting card owner))
    (hcommits : m'.commits =
      m.commits ++ [(m.tables.changeOf s f.delivery.posting card owner).applied])
    (hinFlight : m'.inFlight ⊆ m.inFlight) : m'.Orderly := by
  have hfits := h.inFlight f hf
  have haccounts : m.tables.SameAccounts m'.tables := by
    rw [htables]
    exact hcarries.sameAccounts
  obtain ⟨hcardId, hcardUserId⟩ := hfits.cardUserId_lineOf h hcarries
  refine ⟨htables ▸ h.keyed.apply, h.distinct.of_sameAccounts haccounts, fun l hl => ?_,
    fun g hg => ⟨?_, fun l hl => ?_⟩, fun a ha => ?_⟩
  · rw [htables] at hl
    refine Line.OwnedIn.of_sameAccounts ?_ haccounts
    rcases mem_of_mem_putRow hl with rfl | hl
    · change (m.tables.lineOf f.delivery.posting card owner).OwnedIn m.tables
      rw [Line.ownedIn_iff, hcardId, hcardUserId]
      exact hfits.joins
    · exact h.owned l hl
  · exact (h.inFlight g (hinFlight hg)).joins.of_sameAccounts haccounts
  · rw [line?_commit _ h.keyed htables] at hl
    split at hl
    next href =>
      -- Another delivery of this reference would not be apart from the one that was written.
      obtain rfl : f = g := List.inj_on_of_nodup_map hapart hf (hinFlight hg) href
      obtain rfl := Option.some.inj hl
      exact hcardId
    · exact (h.inFlight g (hinFlight hg)).line l hl
  · rw [hcommits] at ha
    rcases List.mem_append.mp ha with ha | ha
    · exact h.commits a ha
    · rw [List.mem_singleton.mp ha]
      have howner : owner.id = f.delivery.cardUserId := key_of_rowOf? hcarries.owner_eq
      exact not_not.mpr (hcardUserId.trans howner.symm)

theorem Orderly.step (h : m.Orderly) (hapart : m.Apart) (s : Settings) (move : Move) :
    (m.step s move).Orderly := by
  cases progress_step s m move with
  | commit f hf card owner hcarries htables hcommits hinFlight =>
    exact h.commit hapart hf hcarries htables hcommits hinFlight
  | quiet hquiet hcommits _ =>
    have haccounts : m.tables.SameAccounts (m.step s move).tables :=
      (grows_step h.keyed s move).accounts
    refine ⟨h.keyed.quiet hquiet, h.distinct.of_sameAccounts haccounts, fun l' hl' => ?_,
      fun f hf => ?_, hcommits ▸ h.commits⟩
    · obtain ⟨l, hl, hsettles⟩ := exists_of_forall₂ hquiet.lines hl'
      have howned := (h.owned l hl).of_sameAccounts haccounts
      rw [hsettles]
      exact howned
    · refine Fits.of_quiet ?_ haccounts hquiet
      rcases inFlight_step s m move f hf with hold | ⟨reference, ev, hdelivery⟩
      · exact h.inFlight f hold
      · exact fits_of_delivery hdelivery

end Traffic

/-! ## Whole runs -/

namespace Background

variable {m : Background}

theorem Sound.orderly_step (h : m.Sound) (horderly : m.traffic.Orderly)
    (hapart : m.traffic.Apart) (s : Settings) (act : Act) : (m.step s act).traffic.Orderly := by
  unfold Background.step
  cases act with
  | traffic move => exact horderly.step hapart s move
  | effects place =>
    dsimp only
    split <;> exact horderly
  | sweep limit => exact horderly
  | proceed place parties =>
    dsimp only
    split
    next r next hask =>
      have hbills : (Program.ask r next).Bills m.traffic :=
        h.running _ (List.mem_of_getElem? hask)
      have hallows : m.traffic.Allows r := (hbills m.traffic (.refl h.keyed)).1
      exact horderly.moveTo (World.steady_answer hallows.isSingle m.traffic.world)
    · exact horderly

theorem Sound.orderly_after {s : Settings} (h : m.Sound) (horderly : m.traffic.Orderly)
    {acts : List Act} (hapart : ∀ past, past <+: acts → (m.after s past).traffic.Apart) :
    (m.after s acts).traffic.Orderly := by
  induction acts generalizing m with
  | nil => exact horderly
  | cons act rest ih =>
    have hnow : m.traffic.Apart := hapart [] List.nil_prefix
    have hnext : (m.step s act).traffic.Orderly := h.orderly_step horderly hnow s act
    refine ih (h.step s act) hnext fun past hpast => ?_
    exact hapart (act :: past) (List.prefix_cons_inj act |>.mpr hpast)

theorem orderly_start {w : World Memory} (hk : w.store.tables.Keyed)
    (hd : w.store.tables.Distinct)
    (howned : ∀ l ∈ w.store.tables.lines, l.OwnedIn w.store.tables) :
    (start w).traffic.Orderly where
  keyed := hk
  distinct := hd
  owned := howned
  inFlight _ hf := absurd hf List.not_mem_nil
  commits _ ha := absurd ha List.not_mem_nil

end Background
end PrepaidLedger
