import PrepaidLedger.Proofs.Profile.Shadow

/-! A card event that is overtaken. It reads the card, decides, and writes what it decided; what is
delivered in between is not looked at again. Only a card that is blocked in between shows it. -/

namespace PrepaidLedger

/-! ## Programs that are kept waiting -/

def Program.runAround {σ α : Type} (answer : (r : Request) → σ → r.Reply × σ) (between : σ → σ) :
    Program α → σ → α × σ
  | .done a, s => (a, between s)
  | .ask r next, s =>
    let (reply, s) := answer r s
    (next reply).run answer (between s)

theorem Program.runAround_id {σ α : Type} (answer : (r : Request) → σ → r.Reply × σ)
    (p : Program α) (s : σ) : p.runAround answer id s = p.run answer s := by
  cases p <;> rfl

def Task.runAround {σ α : Type} (B : Backend σ) (C : Collaborators) (between : World σ → World σ)
    (t : Task α) (w : World σ) : Except EngineError α × World σ :=
  t.run.runAround (World.answer B C) between w

/-! ## Card events -/

def Card.undated (c : Card) : Card := { c with updatedAt := ⟨0⟩ }

def Tables.CardsMatch (t t' : Tables) : Prop :=
  t.cards.map Card.undated = t'.cards.map Card.undated

def Tables.patched (t : Tables) (id : Uuid) (patch : CardPatch) : Tables :=
  (t.call (.patchCard id patch)).2

def World.patched (w : World Memory) (id : Uuid) (patch : CardPatch) : World Memory :=
  { w with store.tables := w.store.tables.patched id patch }

/-- Blocked after the event was decided and before it is written, by which the decision is out of
date. -/
structure CardEvent.IsOvertaken (e : CardEvent) (card card' : Card) : Prop where
  before : card.status ≠ .blocked
  after : card'.status = .blocked
  stale : e.status = some .locked ∨
    e.status = some .active ∧ card.status = .active ∧ card'.declineCount ≠ 0

theorem Task.run_updateCard (e : CardEvent) :
    (updateCard e).run = .ask (.store (.cardByRef e.cardRef)) fun
      | .error cause => .done (.error (.store cause))
      | .ok none => .done (.ok (.error .cardNotFound))
      | .ok (some card) => (do
          match ← Task.store (.patchCard card.id (e.patch card.status)) with
          | none => return .error .cardNotFound
          | some card => return .ok card : Task (Except Rejection Card)).run := by
  refine congrArg (Program.ask _) (funext fun reply => ?_)
  rcases reply with cause | _ | card
  · rfl
  · rfl
  · refine congrArg (Program.ask _) (funext fun reply => ?_)
    rcases reply with cause | _ | card <;> rfl

section Events

variable (refusal : LockKey → Option LockError) (C : Collaborators) (w : World Memory)
  (e : CardEvent)

theorem Task.runAround_updateCard (between : World Memory → World Memory) :
    ((updateCard e).runAround (Memory.backend refusal) C between w).2 =
      match w.store.tables.cardByRef? e.cardRef with
      | none => between w
      | some card => (between w).patched card.id (e.patch card.status) := by
  have hanswer : World.answer (Memory.backend refusal) C (.store (.cardByRef e.cardRef)) w =
      (.ok (w.store.tables.cardByRef? e.cardRef), w) := rfl
  unfold runAround
  rw [run_updateCard, Program.runAround, hanswer]
  cases w.store.tables.cardByRef? e.cardRef with
  | none => rfl
  | some card =>
    refine (congrArg Prod.snd (runIn_bind ..)).trans ?_
    rw [runIn_store]
    dsimp only
    split <;> rfl

theorem Task.runIn_updateCard :
    ((updateCard e).runIn (Memory.backend refusal) C w).2 =
      match w.store.tables.cardByRef? e.cardRef with
      | none => w
      | some card => w.patched card.id (e.patch card.status) := by
  have haround := runAround_updateCard refusal C w e id
  unfold runAround at haround
  rw [Program.runAround_id] at haround
  exact haround

end Events

namespace Tables

variable {t : Tables} {card : Card} {ref : String} {patch patch' : CardPatch}

theorem patched_eq (hd : t.Distinct) (hcard : t.cardByRef? ref = some card) :
    t.patched card.id patch = t.putCard { patch.apply card with updatedAt := t.now } := by
  have hid : t.card? card.id = some card := rowOf?_of_mem hd.cards (mem_of_rowOf? hcard)
  unfold patched call
  dsimp only
  rw [hid]

theorem cardByRef?_patched (hd : t.Distinct) (hcard : t.cardByRef? ref = some card) :
    (t.patched card.id patch).cardByRef? ref =
      some { patch.apply card with updatedAt := t.now } := by
  have href : card.providerRef = ref := key_of_rowOf? hcard
  have hstored : rowOf? Card.providerRef card.providerRef t.cards = some card := by
    rw [href]
    exact hcard
  let row : Card := { patch.apply card with updatedAt := t.now }
  rw [patched_eq hd hcard]
  exact (@rowOf?_putRow_of_first _ _ _ Card.id Card.providerRef _ _ row card _ hd.cards hstored rfl
    ref).trans (if_pos href)

theorem cardsMatch_patched_iff (hd : t.Distinct) (hcard : t.cardByRef? ref = some card) :
    (t.patched card.id patch).CardsMatch (t.patched card.id patch') ↔
      (patch.apply card).undated = (patch'.apply card).undated := by
  let row (p : CardPatch) : Card := { p.apply card with updatedAt := t.now }
  have hkey : (row patch).id = (row patch').id := rfl
  rw [patched_eq hd hcard, patched_eq hd hcard]
  exact map_putRow_inj hkey t.cards

theorem CardsMatch.cardByRef? {t' : Tables} (h : t.CardsMatch t') (ref : String) :
    (t.cardByRef? ref).map Card.undated = (t'.cardByRef? ref).map Card.undated := by
  have hrow (rows : List Card) : (rowOf? Card.providerRef ref rows).map Card.undated =
      rowOf? Card.providerRef ref (rows.map Card.undated) := by
    unfold rowOf?
    rw [List.find?_map]
    rfl
  unfold Tables.cardByRef?
  rw [hrow, hrow, h]

end Tables

theorem CardEvent.undated_patch_iff {e : CardEvent} {card card' : Card}
    (h : card'.status = card.status ∨ card'.status = .blocked) :
    ((e.patch card.status).apply card').undated = ((e.patch card'.status).apply card').undated ↔
      ¬ e.IsOvertaken card card' := by
  rcases h with h | h
  · rw [h]
    refine iff_of_true rfl fun ho => ho.before ?_
    rw [← h, ho.after]
  by_cases hbefore : card.status = .blocked
  · rw [h, hbefore]
    exact iff_of_true rfl fun ho => ho.before hbefore
  have hiff : e.IsOvertaken card card' ↔ e.status = some .locked ∨
      e.status = some .active ∧ card.status = .active ∧ card'.declineCount ≠ 0 :=
    ⟨fun ho => ho.stale, fun hs => ⟨hbefore, h, hs⟩⟩
  rw [hiff, h]
  unfold patch
  rcases e.status with _ | provider
  · simp [CardPatch.apply, Card.undated]
  · cases provider <;> simp [CardPatch.apply, Card.undated, ProviderCardStatus.toCard, hbefore]

/-! ## Other orders -/

theorem Card.Shadows.refl (c : Card) : c.Shadows c := ⟨⟨rfl, rfl, rfl, rfl, rfl, rfl⟩, fun h => h⟩

theorem Tables.shadows_patched {t : Tables} {card : Card} {ref : String} {patch : CardPatch}
    (hd : t.Distinct) (hk : t.Keyed) (hcard : t.cardByRef? ref = some card)
    (hblocked : card.status = .blocked → (patch.apply card).status = .blocked)
    (hcount : (patch.apply card).declineCount = card.declineCount) :
    t.Shadows (t.patched card.id patch) := by
  -- A patch that neither lifts a block nor wipes declines leaves a shadow.
  let row : Card := { patch.apply card with updatedAt := t.now }
  have hrow : card.Shadows row := ⟨⟨rfl, rfl, rfl, rfl, rfl, hcount⟩, hblocked⟩
  have hstored : rowOf? Card.id row.id t.cards = some card :=
    rowOf?_of_mem hd.cards (mem_of_rowOf? hcard)
  have hkeyed : (t.patched card.id patch).Keyed := hk.quiet (t.steady_call _).quiet
  rw [patched_eq hd hcard] at hkeyed ⊢
  have hcards : List.Forall₂ Card.Shadows t.cards (t.putCard row).cards :=
    forall₂_putRow Card.Shadows.refl hstored hrow
  refine ⟨⟨hcards.imp fun _ _ hc => hc.toResembles, rfl, fun reference => ?_, rfl, rfl⟩, hcards, hk,
    hkeyed⟩
  change Option.Rel _ (t.lineByRef? reference) (t.lineByRef? reference)
  cases t.lineByRef? reference with
  | none => exact .none
  | some l => exact .some ⟨rfl, rfl⟩

theorem World.exists_cardByRef?_after {turns : List Turn}
    (hturns : ∀ turn ∈ turns, IsDelivery turn) (s : Settings) {w : World Memory} {ref : String}
    {card : Card} (hcard : w.store.tables.cardByRef? ref = some card) :
    ∃ card', (w.after s turns).store.tables.cardByRef? ref = some card' ∧
      card.DeliveredTo s.declinePolicy card' := by
  have hrel := w.cardByRef?_after hturns s ref
  rw [hcard] at hrel
  generalize (w.after s turns).store.tables.cardByRef? ref = c'? at hrel ⊢
  cases hrel with
  | some h => exact ⟨_, rfl, h⟩

section Orders

variable {s : Settings} {w : World Memory} {turns : List Turn} {e : CardEvent}
  {card card' : Card}

theorem CardEvent.IsOvertaken.patch_eq (ho : e.IsOvertaken card card') :
    ((e.patch card.status).apply card').status =
        (if e.status = some .locked then .suspended else .active) ∧
      ((e.patch card.status).apply card').declineCount = card'.declineCount := by
  rcases ho.stale with he | ⟨he, hactive, -⟩
  · simp [patch, CardPatch.apply, he, ProviderCardStatus.toCard, ho.before]
  · simp [patch, CardPatch.apply, he, ProviderCardStatus.toCard, hactive]

theorem IsSpend.isDelivery {turn : Turn} (h : IsSpend turn) : IsDelivery turn := by
  obtain ⟨reference, e, h⟩ := h
  exact ⟨reference, .spend e, h⟩

theorem CardEvent.IsOvertaken.ends (ho : e.IsOvertaken card card')
    (hd : w.store.tables.Distinct) (hk : w.store.tables.Keyed) {xs ys : List Turn}
    (hspends : ∀ turn ∈ xs ++ ys, IsSpend turn)
    (hcard : w.store.tables.cardByRef? e.cardRef = some card)
    (hcard' : (w.after s (xs ++ ys)).store.tables.cardByRef? e.cardRef = some card')
    (refusal : LockKey → Option LockError) (C : Collaborators) :
    ∃ last, (((updateCard e).runIn (Memory.backend refusal) C (w.after s xs)).2.after s
        ys).store.tables.cardByRef? e.cardRef = some last ∧
      (last.status = .blocked ∨ e.status = some .active ∧ last.InCredit s.declinePolicy) := by
  have hys : ∀ turn ∈ ys, IsSpend turn := fun turn h => hspends turn (List.mem_append_right xs h)
  have hd₁ : (w.after s xs).store.tables.Distinct := World.distinct_after hd s xs
  have hk₁ : (w.after s xs).store.tables.Keyed := World.keyed_after hk s xs
  obtain ⟨mid, hmid, hto⟩ := World.exists_cardByRef?_after
    (fun turn h => (hspends turn (List.mem_append_left ys h)).isDelivery) s hcard
  let patch := e.patch mid.status
  let row : Card := { patch.apply mid with updatedAt := (w.after s xs).store.tables.now }
  obtain ⟨last, hlast, hrowTo⟩ : ∃ last, (((w.after s xs).patched mid.id patch).after s
      ys).store.tables.cardByRef? e.cardRef = some last ∧ row.DeliveredTo s.declinePolicy last :=
    World.exists_cardByRef?_after (fun turn h => (hys turn h).isDelivery) s
      (Tables.cardByRef?_patched hd₁ hmid)
  rw [Task.runIn_updateCard, hmid]
  refine ⟨last, hlast, ?_⟩
  by_cases hmidBlocked : mid.status = .blocked
  · rcases ho.stale with he | ⟨he, -, -⟩
    · left
      refine hrowTo.blocked ?_
      simp [row, patch, CardEvent.patch, CardPatch.apply, he, ProviderCardStatus.toCard,
        hmidBlocked]
    · refine .inr ⟨he, hrowTo.inCredit fun _ => .inl ?_⟩
      simp [row, patch, CardEvent.patch, CardPatch.apply, he, ProviderCardStatus.toCard,
        hmidBlocked]
  · -- The card is not blocked yet, and the spends that will block it will do so all the same.
    left
    have hstatus : mid.status = card.status := hto.status.resolve_right hmidBlocked
    have hcount : (patch.apply mid).declineCount = mid.declineCount := by
      rcases ho.stale with he | ⟨he, hactive, -⟩
      · simp [patch, CardEvent.patch, CardPatch.apply, he, ProviderCardStatus.toCard, hmidBlocked]
      · simp [patch, CardEvent.patch, CardPatch.apply, he, ProviderCardStatus.toCard, hstatus,
          hactive]
    have hshadows : (w.after s xs).store.tables.Shadows
        ((w.after s xs).patched mid.id patch).store.tables :=
      Tables.shadows_patched hd₁ hk₁ hmid (fun h => absurd h hmidBlocked) hcount
    have hrel := rowOf?_forall₂ (fun _ _ hc => hc.providerRef)
      (World.shadows_after hys s hshadows).cards e.cardRef
    rw [World.after_append] at hcard'
    change Option.Rel _ (((w.after s xs).after s ys).store.tables.cardByRef? e.cardRef)
      ((((w.after s xs).patched mid.id patch).after s ys).store.tables.cardByRef? e.cardRef) at hrel
    rw [hcard', hlast] at hrel
    cases hrel with
    | some h => exact h.blocked ho.after

theorem CardEvent.IsOvertaken.no_order (ho : e.IsOvertaken card card')
    (hd : w.store.tables.Distinct) (hk : w.store.tables.Keyed) {xs ys : List Turn}
    (hspends : ∀ turn ∈ xs ++ ys, IsSpend turn)
    (hcard : w.store.tables.cardByRef? e.cardRef = some card)
    (hcard' : (w.after s (xs ++ ys)).store.tables.cardByRef? e.cardRef = some card')
    (hlost : e.status = some .locked ∨ s.declinePolicy.blockThreshold ≤ card'.declineCount)
    (refusal : LockKey → Option LockError) (C : Collaborators) {found : Card} {t : Tables}
    (hfound : t.cardByRef? e.cardRef = some found)
    (hstatus : found.status = if e.status = some .locked then .suspended else .active)
    (hcount : found.declineCount = card'.declineCount) :
    ¬ t.CardsMatch ((((updateCard e).runIn (Memory.backend refusal) C (w.after s xs)).2).after s
        ys).store.tables := by
  -- So at no place would it leave the card as it does.
  intro hmatch
  obtain ⟨last, hlast, hends⟩ := ho.ends (s := s) hd hk hspends hcard hcard' refusal C
  have hsame := hmatch.cardByRef? e.cardRef
  rw [hfound, hlast] at hsame
  have hundated : found.undated = last.undated := Option.some.inj hsame
  have hlastStatus : found.undated.status = last.undated.status := congrArg Card.status hundated
  have hlastCount : found.undated.declineCount = last.undated.declineCount :=
    congrArg Card.declineCount hundated
  change found.status = last.status at hlastStatus
  change found.declineCount = last.declineCount at hlastCount
  rcases ho.stale with he | ⟨he, -, hzero⟩
  · rw [he, if_pos rfl] at hstatus
    rcases hends with hblocked | ⟨hactive, -⟩
    · rw [hstatus, hblocked] at hlastStatus
      cases hlastStatus
    · rw [he] at hactive
      cases hactive
  · rw [he, if_neg (by decide)] at hstatus
    rcases hends with hblocked | ⟨-, hcredit⟩
    · rw [hstatus, hblocked] at hlastStatus
      cases hlastStatus
    · have hleft := hcredit (hlastStatus.symm.trans hstatus)
      have hthreshold : s.declinePolicy.blockThreshold ≤ card'.declineCount := by
        refine hlost.resolve_left fun hlocked => ?_
        rw [he] at hlocked
        cases hlocked
      omega

end Orders

/-- The event has the effect of one that comes after the deliveries, unless the card was blocked in
between and the decision is out of date by that. Then the block is undone, with the declines that
led to it still counted if the event was to activate the card. If all the deliveries are spends, no
other place between them explains that: where the event locks the card never, and where it activates
it not as long as the declines still suffice for a block. -/
theorem card_update_serial_unless_overtaken (s : Settings) (refusal : LockKey → Option LockError)
    (C : Collaborators) {w : World Memory} (hd : w.store.tables.Distinct)
    (hk : w.store.tables.Keyed) {turns : List Turn} (hturns : ∀ turn ∈ turns, IsDelivery turn)
    (e : CardEvent) :
    let update (v : World Memory) := ((updateCard e).runIn (Memory.backend refusal) C v).2
    let w' := w.after s turns
    let late := ((updateCard e).runAround (Memory.backend refusal) C (·.after s turns) w).2
    (w.store.tables.cardByRef? e.cardRef = none → late = update w') ∧
    ∀ card, w.store.tables.cardByRef? e.cardRef = some card → ∃ card' found,
      w'.store.tables.cardByRef? e.cardRef = some card' ∧
      late.store.tables.cardByRef? e.cardRef = some found ∧
      (card'.status = card.status ∨ card'.status = .blocked) ∧
      (late.store.tables.CardsMatch (update w').store.tables ↔ ¬ e.IsOvertaken card card') ∧
      (e.IsOvertaken card card' →
        found.status = (if e.status = some .locked then .suspended else .active) ∧
        found.declineCount = card'.declineCount ∧
        ((∀ turn ∈ turns, IsSpend turn) →
          e.status = some .locked ∨ s.declinePolicy.blockThreshold ≤ card'.declineCount →
          ∀ xs ys, xs ++ ys = turns →
            ¬ late.store.tables.CardsMatch ((update (w.after s xs)).after s ys).store.tables)) := by
  intro update w' late
  have hlate : late = _ := Task.runAround_updateCard refusal C w e (·.after s turns)
  have hupdate : update w' = _ := Task.runIn_updateCard refusal C w' e
  refine ⟨fun hnone => ?_, fun card hcard => ?_⟩
  · have hnone' : w'.store.tables.cardByRef? e.cardRef = none := by
      have hrel := w.cardByRef?_after hturns s e.cardRef
      rw [hnone] at hrel
      change Option.Rel _ none (w'.store.tables.cardByRef? e.cardRef) at hrel
      generalize w'.store.tables.cardByRef? e.cardRef = c'? at hrel ⊢
      cases hrel
      rfl
    rw [hlate, hupdate, hnone, hnone']
  · obtain ⟨card', hcard', hto⟩ := World.exists_cardByRef?_after hturns s hcard
    have hd' : w'.store.tables.Distinct := World.distinct_after hd s turns
    rw [hcard] at hlate
    dsimp only at hlate
    rw [← hto.id] at hlate
    rw [show w'.store.tables.cardByRef? e.cardRef = some card' from hcard'] at hupdate
    have hfound : late.store.tables.cardByRef? e.cardRef =
        some { (e.patch card.status).apply card' with updatedAt := w'.store.tables.now } := by
      rw [hlate]
      exact Tables.cardByRef?_patched hd' hcard'
    refine ⟨card', _, hcard', hfound, hto.status, ?_, fun ho => ?_⟩
    · rw [hlate, hupdate]
      exact (Tables.cardsMatch_patched_iff hd' hcard').trans (CardEvent.undated_patch_iff hto.status)
    · refine ⟨ho.patch_eq.1, ho.patch_eq.2, fun hspends hlost xs ys hsplit => ?_⟩
      subst hsplit
      exact ho.no_order hd hk hspends hcard hcard' hlost refusal C hfound ho.patch_eq.1
        ho.patch_eq.2

namespace Specimen

def strict : Settings := { settings with declinePolicy := ⟨1⟩ }

def cardEvent (status : ProviderCardStatus) : CardEvent :=
  ⟨"first", some status, none, none, none, none⟩

def lateUpdate (status : ProviderCardStatus) : World Memory :=
  ((updateCard (cardEvent status)).runAround (Memory.backend fun _ => none) refusing
    (·.after strict [declinedTurn]) world).2

def updated (status : ProviderCardStatus) (w : World Memory) : World Memory :=
  ((updateCard (cardEvent status)).runIn (Memory.backend fun _ => none) refusing w).2

end Specimen

/-- A lock that the provider reports is written over the block of a decline in between. -/
theorem late_lock_matches_no_order :
    let late := Specimen.lateUpdate .locked
    (late.store.tables.cardByRef? "first").map (·.status) = some .suspended ∧
      ∀ xs ys, xs ++ ys = [Specimen.declinedTurn] →
        ¬ late.store.tables.CardsMatch ((Specimen.updated .locked
          (Specimen.world.after Specimen.strict xs)).after Specimen.strict ys).store.tables := by
  intro late
  have hspend : IsSpend Specimen.declinedTurn := ⟨_, _, rfl⟩
  have hdelivery : ∀ turn ∈ [Specimen.declinedTurn], IsDelivery turn :=
    List.forall_mem_singleton.mpr hspend.isDelivery
  have hkeyed : Specimen.world.store.tables.Keyed := Tables.keyed_of_no_lines rfl
  obtain ⟨card', found, hcard', hfound, -, -, hovertaken⟩ :=
    (card_update_serial_unless_overtaken Specimen.strict (fun _ => none) Specimen.refusing
      Specimen.distinct_tables hkeyed hdelivery (Specimen.cardEvent .locked)).2
        (Specimen.card 1 "first" 20) rfl
  have hblocked : (((Specimen.world.after Specimen.strict
      [Specimen.declinedTurn]).store.tables.cardByRef? "first").map (·.status)) =
        some .blocked := rfl
  rw [show (Specimen.world.after Specimen.strict [Specimen.declinedTurn]).store.tables.cardByRef?
    "first" = some card' from hcard'] at hblocked
  obtain ⟨hstatus, -, horders⟩ := hovertaken
    ⟨by decide, Option.some.inj hblocked, .inl rfl⟩
  refine ⟨?_, horders (List.forall_mem_singleton.mpr hspend) (.inl rfl)⟩
  rw [show late.store.tables.cardByRef? "first" = some found from hfound]
  exact congrArg some hstatus

/-- A lock leaves a card suspended that is blocked in every order, and an activation leaves one
active with as many declines as block it. -/
theorem late_update_undoes_block :
    (∀ status ∈ [ProviderCardStatus.locked, .active], ∀ xs ys, xs ++ ys = [Specimen.declinedTurn] →
      ¬ (Specimen.lateUpdate status).store.tables.CardsMatch ((Specimen.updated status
        (Specimen.world.after Specimen.strict xs)).after Specimen.strict ys).store.tables) ∧
    ((Specimen.lateUpdate .locked).store.tables.cardByRef? "first").map (·.status) =
      some .suspended ∧
    ((Specimen.lateUpdate .active).store.tables.cardByRef? "first").map
      (fun c => (c.status, c.declineCount)) =
        some (.active, Specimen.strict.declinePolicy.blockThreshold) := by
  refine ⟨fun status hstatus xs ys hsplit => ?_, rfl, rfl⟩
  unfold Tables.CardsMatch
  rcases List.mem_pair.mp hstatus with rfl | rfl <;>
    rcases List.append_eq_singleton_iff.mp hsplit with ⟨rfl, rfl⟩ | ⟨rfl, rfl⟩ <;> decide +kernel

end PrepaidLedger
