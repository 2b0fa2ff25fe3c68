import PrepaidLedger.Proofs.Engine.Course
import PrepaidLedger.Proofs.Traffic.Background

/-! Fees where effects run at once. A line is charged as it stands in the ledger, and is marked as
settled as soon as the provider has accepted. Whoever comes to it later finds it settled. -/

namespace PrepaidLedger

/-! ## Names of charges -/

theorem Charge.reference_eq_of_key {l l' : Line} {userRef userRef' : String}
    (h : (Charge.ofLine l userRef).idempotencyKey = (Charge.ofLine l' userRef').idempotencyKey) :
    l.reference = l'.reference := (String.append_right_inj "fee:").mp h

def Outbound.Precedes (o o' : Outbound) : Prop :=
  ∀ c receipt c' answer, o = .charge c (some receipt) → o' = .charge c' answer →
    c.idempotencyKey ≠ c'.idempotencyKey

namespace Tables

def Explains (t : Tables) : Outbound → Prop
  | .charge c answer => ∃ l, t.lineByRef? l.reference = some l ∧ l.BearsFee ∧
      c = .ofLine l c.userRef ∧
      ∀ receipt, answer = some receipt → l.feeSettled = true ∧ l.feeChargeRef = some receipt
  | _ => True

def KeepsFees (t t' : Tables) : Prop :=
  ∀ reference l, t.lineByRef? reference = some l → l.BearsFee →
    ∃ l', t'.lineByRef? reference = some l' ∧ l.SettlesTo l' ∧ (l.feeSettled = true → l' = l)

variable {s : Settings} {t t' : Tables} {d : Delivery} {card : Card} {owner : CardUser} {l : Line}

theorem keepsFees_of_lines (h : t'.lines = t.lines) : t.KeepsFees t' := by
  intro reference l hl _
  refine ⟨l, ?_, .refl l, fun _ => rfl⟩
  unfold lineByRef?
  rw [h]
  exact hl

theorem Explains.keepsFees {o : Outbound} (h : t.Explains o) (hkeeps : t.KeepsFees t') :
    t'.Explains o := by
  cases o with
  | charge c answer =>
    obtain ⟨l, hl, hbears, hc, hreceipt⟩ := h
    obtain ⟨l', hl', hsettles, hsame⟩ := hkeeps _ l hl hbears
    have href : l'.reference = l.reference := by rw [hsettles]
    refine ⟨l', href ▸ hl', hsettles.bearsFee hbears, ?_, fun receipt hanswer => ?_⟩
    · rw [hsettles.charge_eq]
      exact hc
    · rw [hsame (hreceipt receipt hanswer).1]
      exact hreceipt receipt hanswer
  | _ => exact trivial

theorem Carries.keepsFees (h : t.Carries s d card owner) (hk : t.Keyed) :
    t.KeepsFees (t.apply (t.changeOf s d.posting card owner)) := by
  -- A line whose fee is earned is final, so it is not the one that is written.
  intro reference l hl hbears
  refine ⟨l, ?_, .refl l, fun _ => rfl⟩
  rw [hk.lineByRef?_apply]
  split
  next href =>
    have hstored : t.storedFor d.posting = some l := (storedFor_of_reference href).trans hl
    have hpending : l.status = .pending := (pending_of_proceeds h.proceeds hstored).1
    exact absurd hpending hbears.status_ne
  · exact hl

/-! ## Settling one line -/

namespace Keyed

variable (hk : t.Keyed) (hl : t.lineByRef? l.reference = some l)
  (receipt : String) (now : Timestamp)

include hk hl

theorem fits_settledBy : Fits Line.id Line.reference (l.settledBy receipt now) t.lines :=
  fits_of_stored hk.ids hk.references (mem_of_rowOf? hl) rfl rfl

theorem settle : (t.putLine (l.settledBy receipt now)).Keyed where
  ids := (fits_self _ _).nodup_putRow hk.ids
  references := (hk.fits_settledBy hl receipt now).nodup_putRow hk.references
  numbered l' hl' := by
    rcases mem_of_mem_putRow hl' with rfl | hl'
    · exact hk.numbered l (mem_of_rowOf? hl)
    · exact hk.numbered l' hl'

theorem lineByRef?_settle (reference : String) :
    (t.putLine (l.settledBy receipt now)).lineByRef? reference =
      if l.reference = reference then some (l.settledBy receipt now)
      else t.lineByRef? reference :=
  (hk.fits_settledBy hl receipt now).rowOf?_putRow reference

theorem keepsFees_settle (hopen : l.feeSettled = false) :
    t.KeepsFees (t.putLine (l.settledBy receipt now)) := by
  intro reference l' hl' _
  rw [hk.lineByRef?_settle hl receipt now]
  split
  next href =>
    obtain rfl : l = l' := Option.some.inj (hl.symm.trans (href ▸ hl'))
    refine ⟨_, rfl, rfl, fun hsettled => ?_⟩
    rw [hopen] at hsettled
    cases hsettled
  · exact ⟨l', hl', .refl l', fun _ => rfl⟩

end Keyed
end Tables

/-! ## Trying one line -/

namespace World

/-- What becomes of a try to collect the fee of a line that stands in the ledger. -/
inductive Attempt (w : World Memory) (l : Line) (userRef : String) : World Memory → Prop
  | notDue : Attempt w l userRef w
  | refused (due : l.feeDue = true) :
    Attempt w l userRef (w.send (.charge (.ofLine l userRef) none))
  | accepted (due : l.feeDue = true) (receipt : String) :
    Attempt w l userRef
      { w.send (.charge (.ofLine l userRef) (some receipt)) with
        store := { w.store with
          tables := w.store.tables.putLine (l.settledBy receipt w.store.tables.now) } }

/-- Every charge is for the fee of a line. Once one was accepted for a line there is no other, and
the line shows its receipt. -/
structure Billed (w : World Memory) : Prop where
  keyed : w.store.tables.Keyed
  once : w.outbound.Pairwise Outbound.Precedes
  explained : ∀ o ∈ w.outbound, w.store.tables.Explains o

variable {s : Settings} {refusal : LockKey → Option LockError} {C : Collaborators}
  {w w' : World Memory} {l : Line} {userRef : String}

theorem Attempt.lineByRef?_of_ne (h : w.Attempt l userRef w') (hk : w.store.tables.Keyed)
    (hl : w.store.tables.lineByRef? l.reference = some l) {reference : String}
    (hne : l.reference ≠ reference) :
    w'.store.tables.lineByRef? reference = w.store.tables.lineByRef? reference := by
  cases h with
  | notDue => rfl
  | refused => rfl
  | accepted _ receipt => exact (hk.lineByRef?_settle hl _ _ reference).trans (if_neg hne)

theorem attempt_collectFee (refusal : LockKey → Option LockError) (C : Collaborators)
    (userRef : String) (hl : w.store.tables.line? l.id = some l) :
    w.Attempt l userRef ((collectFee l userRef).runIn (Memory.backend refusal) C w).2 := by
  by_cases hdue : l.feeDue = true
  · cases hanswer : C.charge w.outbound (.ofLine l userRef) with
    | none =>
      have hrun : ((collectFee l userRef).runIn (Memory.backend refusal) C w).2 =
          w.send (.charge (.ofLine l userRef) none) := by
        unfold collectFee
        rw [if_pos hdue, Program.runIn_bind, Program.runIn_request]
        dsimp only [answer]
        rw [hanswer]
        rfl
      rw [hrun]
      exact .refused hdue
    | some receipt =>
      rw [Program.runIn_collectFee_of_due refusal hdue hl hanswer]
      exact .accepted hdue receipt
  · unfold collectFee
    rw [if_neg hdue]
    exact .notDue

namespace Billed

theorem keeps (h : w.Billed) (hk : w'.store.tables.Keyed)
    (hkeeps : w.store.tables.KeepsFees w'.store.tables) (hsent : w'.outbound = w.outbound) :
    w'.Billed where
  keyed := hk
  once := hsent ▸ h.once
  explained o ho := (h.explained o (hsent ▸ ho)).keepsFees hkeeps

theorem send (h : w.Billed) (hk : w'.store.tables.Keyed)
    (hkeeps : w.store.tables.KeepsFees w'.store.tables) {o : Outbound}
    (hsent : w'.outbound = w.outbound ++ [o]) (honce : ∀ o' ∈ w.outbound, o'.Precedes o)
    (hexplained : w'.store.tables.Explains o) : w'.Billed where
  keyed := hk
  once := by
    rw [hsent, List.pairwise_append]
    refine ⟨h.once, List.pairwise_singleton _ _, fun o₁ ho₁ o₂ ho₂ => ?_⟩
    rw [List.mem_singleton.mp ho₂]
    exact honce o₁ ho₁
  explained o' ho' := by
    rw [hsent] at ho'
    rcases List.mem_append.mp ho' with hold | hnew
    · exact (h.explained o' hold).keepsFees hkeeps
    · rw [List.mem_singleton.mp hnew]
      exact hexplained

theorem precedes_of_open (h : w.Billed) (hl : w.store.tables.lineByRef? l.reference = some l)
    (hopen : l.feeSettled = false) {o : Outbound} (ho : o ∈ w.outbound)
    (answer : Option String) : o.Precedes (.charge (.ofLine l userRef) answer) := by
  -- A line that is not settled has not been charged with success.
  rintro c receipt c' answer' rfl hc' hkey
  obtain ⟨rfl, -⟩ := Outbound.charge.inj hc'
  obtain ⟨l₀, hl₀, -, hc, hreceipt⟩ := h.explained _ ho
  rw [hc] at hkey
  have href : l₀.reference = l.reference := Charge.reference_eq_of_key hkey
  rw [href, hl] at hl₀
  obtain rfl := Option.some.inj hl₀
  rw [(hreceipt receipt rfl).1] at hopen
  cases hopen

theorem attempt (h : w.Billed) (hl : w.store.tables.lineByRef? l.reference = some l)
    (hw' : w.Attempt l userRef w') : w'.Billed := by
  cases hw' with
  | notDue => exact h
  | refused hdue =>
    obtain ⟨hbears, hopen⟩ := Line.feeDue_iff.mp hdue
    refine h.send h.keyed (Tables.keepsFees_of_lines rfl) rfl ?_ ⟨l, hl, hbears, rfl, nofun⟩
    exact fun o ho => h.precedes_of_open hl hopen ho _
  | accepted hdue receipt =>
    obtain ⟨hbears, hopen⟩ := Line.feeDue_iff.mp hdue
    refine h.send (h.keyed.settle hl _ _) (h.keyed.keepsFees_settle hl _ _ hopen) rfl ?_
      ⟨l.settledBy receipt w.store.tables.now, ?_, ⟨hbears.fee_pos, hbears.earned⟩, rfl, ?_⟩
    · exact fun o ho => h.precedes_of_open hl hopen ho _
    · exact (h.keyed.lineByRef?_settle hl _ _ _).trans (if_pos rfl)
    · intro receipt' heq
      obtain rfl := Option.some.inj heq
      exact ⟨rfl, rfl⟩

theorem line?_of_lineByRef? (h : w.Billed) (hl : w.store.tables.lineByRef? l.reference = some l) :
    w.store.tables.line? l.id = some l := rowOf?_of_mem h.keyed.ids (mem_of_rowOf? hl)

theorem telling (h : w.Billed) {p : Program Unit} (hp : p.Asks Request.IsTelling) :
    (p.runIn (Memory.backend refusal) C w).2.Billed := by
  refine hp.keeps (R := fun w w' : World Memory => w.Billed → w'.Billed) (fun _ h => h)
    (fun _ _ _ hfirst hsecond h => hsecond (hfirst h)) (fun r w hr h => ?_) w h
  have hno {o : Outbound} (ho : o.charge? = none) : ∀ o' ∈ w.outbound, o'.Precedes o := by
    rintro o' - c receipt c' answer - rfl
    cases ho
  cases r with
  | lockCard | notify | announce =>
    exact h.send h.keyed (Tables.keepsFees_of_lines rfl) rfl (hno rfl) trivial
  | _ => exact hr.elim

theorem effects (h : w.Billed) {a : Applied}
    (hl : w.store.tables.lineByRef? a.line.reference = some a.line) :
    ((runEffects a).runIn (Memory.backend refusal) C w).2.Billed := by
  unfold runEffects
  rw [Program.runIn_bind]
  have hattempt := attempt_collectFee refusal C a.cardUser.providerRef (h.line?_of_lineByRef? hl)
  exact (h.attempt hl hattempt).telling (Program.asks_tell a)

theorem sweepLines (h : w.Billed) {lines : List Line}
    (hlines : ∀ l ∈ lines, w.store.tables.lineByRef? l.reference = some l)
    (hids : (lines.map Line.id).Nodup) (summary : SweepSummary) :
    ((PrepaidLedger.sweepLines summary lines).runIn (Memory.backend refusal) C w).2.Billed := by
  induction lines generalizing w summary with
  | nil => exact h
  | cons l rest ih =>
    have hl := hlines l (List.mem_cons_self ..)
    have hrest : ∀ l' ∈ rest, w.store.tables.lineByRef? l'.reference = some l' :=
      fun l' hl' => hlines l' (List.mem_cons_of_mem l hl')
    rw [List.map_cons, List.nodup_cons] at hids
    unfold PrepaidLedger.sweepLines
    rw [Task.runIn_bind, Task.runIn_read refusal C w rfl]
    dsimp only
    split
    · exact ih h hrest hids.2 summary
    next owner _ =>
      rw [Task.runIn_bind, Task.runIn_ofProgram]
      have hattempt := attempt_collectFee refusal C owner.providerRef (h.line?_of_lineByRef? hl)
      generalize (collectFee l owner.providerRef).runIn (Memory.backend refusal) C w = x
        at hattempt ⊢
      refine ih (h.attempt hl hattempt) (fun l' hl' => ?_) hids.2 _
      have hne : l.reference ≠ l'.reference := by
        intro href
        have hsame : some l = some l' := hl.symm.trans (href ▸ hrest l' hl')
        exact hids.1 (Option.some.inj hsame ▸ List.mem_map_of_mem hl')
      exact (hattempt.lineByRef?_of_ne h.keyed hl hne).trans (hrest l' hl')

theorem sweepFees (h : w.Billed) (limit : Int) :
    ((PrepaidLedger.sweepFees limit).runIn (Memory.backend refusal) C w).2.Billed := by
  unfold PrepaidLedger.sweepFees
  rw [Task.runIn_bind, Task.runIn_read refusal C w rfl]
  refine h.sweepLines (fun l hl => ?_) (h.keyed.nodup_unsettled limit) .empty
  have hmem : l ∈ w.store.tables.lines := ((Tables.isBatch_unsettled _ limit).mem l hl).1
  exact rowOf?_of_mem h.keyed.references hmem

/-! ## Whole runs -/

theorem turn (hs : s.effects = .inline) (h : w.Billed) (hw : w.deferred = []) (turn : Turn) :
    (turn.run s w).Billed := by
  cases turn.course hs hw with
  | aside haside hsteady =>
    exact h.keeps (h.keyed.quiet hsteady.quiet) (Tables.keepsFees_of_lines haside.lines)
      haside.outbound
  | swept limit hrun =>
    rw [hrun]
    exact h.sweepFees limit
  | committed reference ev d card owner hcommits hrun =>
    let c := w.store.tables.changeOf s d.posting card owner
    have hwritten : (w.resting (w.store.tables.apply c)).Billed :=
      h.keeps h.keyed.apply (hcommits.carries.keepsFees h.keyed) rfl
    have hline : (w.store.tables.apply c).lineByRef? c.applied.line.reference =
        some c.applied.line := by
      rw [h.keyed.lineByRef?_apply]
      exact if_pos h.keyed.reference_lineOf.symm
    rw [hrun]
    exact hwritten.effects hline

theorem after (hs : s.effects = .inline) (h : w.Billed) (hw : w.deferred = [])
    (turns : List Turn) : (w.after s turns).Billed := by
  induction turns generalizing w with
  | nil => exact h
  | cons turn rest ih => exact ih (h.turn hs hw turn) (turn.deferred_run_inline hs hw)

end Billed

theorem billed_of_unsent (hk : w.store.tables.Keyed) (hnew : w.outbound = []) : w.Billed where
  keyed := hk
  once := hnew ▸ .nil
  explained _ ho := absurd (hnew ▸ ho) List.not_mem_nil

theorem outbound_answer (r : Request) (w : World Memory) :
    w.outbound <+: (answer (Memory.backend refusal) C r w).2.outbound := by
  cases r with
  | charge | lockCard | notify | announce => exact List.prefix_append ..
  | _ => exact List.prefix_refl _

end World

theorem Program.Asks.outbound_grows {α : Type} {allowed : Request → Prop} {p : Program α}
    {refusal : LockKey → Option LockError} {C : Collaborators} (hp : p.Asks allowed)
    (w : World Memory) : w.outbound <+: (p.runIn (Memory.backend refusal) C w).2.outbound :=
  hp.keeps (R := fun w w' : World Memory => w.outbound <+: w'.outbound)
    (fun _ => List.prefix_refl _) (fun _ _ _ h h' => h.trans h')
    (fun r w _ => World.outbound_answer r w) w

theorem Turn.outbound_grows {s : Settings} (hs : s.effects = .inline) {w : World Memory}
    (hw : w.deferred = []) (turn : Turn) : w.outbound <+: (turn.run s w).outbound := by
  cases turn.course hs hw with
  | aside haside _ => exact haside.outbound ▸ List.prefix_refl _
  | swept limit hrun =>
    have hsweep : (sweepFees limit).run.Asks Request.IsSweep := Task.asks_sweepFees limit
    rw [hrun]
    exact hsweep.outbound_grows w
  | committed reference ev d card owner _ hrun =>
    let c := w.store.tables.changeOf s d.posting card owner
    rw [hrun]
    exact (Program.asks_runEffects c.applied).outbound_grows
      (w.resting (w.store.tables.apply c))

theorem World.outbound_grows_after {s : Settings} (hs : s.effects = .inline) {w : World Memory}
    (hw : w.deferred = []) (turns : List Turn) : w.outbound <+: (w.after s turns).outbound := by
  induction turns generalizing w with
  | nil => exact List.prefix_refl _
  | cons turn rest ih =>
    exact (turn.outbound_grows hs hw).trans (ih (turn.deferred_run_inline hs hw))

end PrepaidLedger
