import PrepaidLedger.Proofs.Ledger.Sweep
import PrepaidLedger.Proofs.Traffic.Advance

/-! Effects and sweeps in the background. They go on one request at a time, while deliveries are
prepared and written, and so they charge fees of lines that they have read long before. What a line
says of its fee does not change any more once the fee is earned. -/

namespace PrepaidLedger

structure Background where
  traffic : Traffic
  running : List (Program Unit)

namespace Background

inductive Act
  | traffic (move : Move)
  | effects (place : Nat)
  | sweep (limit : Int)
  | proceed (place : Nat) (parties : Collaborators)

def start (w : World Memory) : Background := ⟨.start w, []⟩

def begun (m : Background) (p : Program Unit) : Background :=
  { m with running := m.running ++ [p] }

def step (s : Settings) (m : Background) : Act → Background
  | .traffic move => { m with traffic := m.traffic.step s move }
  | .effects place =>
    match m.traffic.commits[place]? with
    | none => m
    | some a => m.begun (runEffects a)
  | .sweep limit => m.begun ((sweepFees limit).run.bind fun _ => .done ())
  | .proceed place parties =>
    match m.running[place]? with
    | some (.ask r next) =>
      let (reply, w) := World.answer (Memory.backend fun _ => none) parties r m.traffic.world
      ⟨m.traffic.moveTo w, m.running.set place (next reply)⟩
    | _ => m

def after (s : Settings) (m : Background) (acts : List Act) : Background := acts.foldl (step s) m

end Background

/-! ## What lasts -/

structure Line.BearsFee (l : Line) : Prop where
  fee_pos : 0 < l.fee
  earned : l.kind = .deposit ∧ l.status = .successful ∨ l.kind = .spend ∧ l.status = .declined

theorem Line.feeDue_iff {l : Line} : l.feeDue = true ↔ l.BearsFee ∧ l.feeSettled = false := by
  have hearned : l.BearsFee ↔ 0 < l.fee ∧
      (l.kind = .deposit ∧ l.status = .successful ∨ l.kind = .spend ∧ l.status = .declined) :=
    ⟨fun h => ⟨h.fee_pos, h.earned⟩, fun h => ⟨h.1, h.2⟩⟩
  rw [hearned]
  unfold feeDue
  cases l.kind <;> cases l.status <;> simp

theorem Line.BearsFee.status_ne {l : Line} (h : l.BearsFee) : l.status ≠ .pending := by
  rcases h.earned with ⟨-, hstatus⟩ | ⟨-, hstatus⟩ <;> simp [hstatus]

theorem Line.SettlesTo.bearsFee {l l' : Line} (h : l.SettlesTo l') (hl : l.BearsFee) :
    l'.BearsFee := by
  rw [h]
  exact ⟨hl.fee_pos, hl.earned⟩

theorem Line.SettlesTo.charge_eq {l l' : Line} (h : l.SettlesTo l') (userRef : String) :
    Charge.ofLine l' userRef = .ofLine l userRef := by
  rw [h]
  rfl

/-- The amount was moved on a card-user who is not the one of the line. -/
def Applied.Strays (a : Applied) : Prop := a.line.cardUserId ≠ a.cardUser.id

namespace Traffic

/-- All that a program in the background may rely on later. -/
structure Grows (m m' : Traffic) : Prop where
  keyed : m'.tables.Keyed
  accounts : m.tables.SameAccounts m'.tables
  final : ∀ reference l, m.line? reference = some l → l.status ≠ .pending →
    ∃ l', m'.line? reference = some l' ∧ l.SettlesTo l'
  commits : m.commits ⊆ m'.commits

/-- The charge is for the fee of the line of its reference, and goes to the card-user of that line,
or else to the one of a commit that strayed. -/
def Backs (m : Traffic) (c : Charge) : Prop :=
  ∃ l, m.line? l.reference = some l ∧ l.BearsFee ∧ c = .ofLine l c.userRef ∧
    ((∃ owner, m.tables.cardUser? l.cardUserId = some owner ∧ c.userRef = owner.providerRef) ∨
      ∃ a ∈ m.commits, a.Strays ∧ a.line.reference = l.reference ∧
        c.userRef = a.cardUser.providerRef)

variable {s : Settings} {m m₁ m₂ m₃ : Traffic} {c : Charge}

theorem Grows.refl (hk : m.tables.Keyed) : m.Grows m :=
  ⟨hk, .refl _, fun _ l hl _ => ⟨l, hl, .refl l⟩, List.Subset.refl _⟩

theorem Grows.trans (h : m₁.Grows m₂) (h' : m₂.Grows m₃) : m₁.Grows m₃ where
  keyed := h'.keyed
  accounts := h.accounts.trans h'.accounts
  final reference l hl hfinal := by
    obtain ⟨l', hl', hsettles⟩ := h.final reference l hl hfinal
    obtain ⟨l'', hl'', hsettles'⟩ := h'.final reference l' hl' (hsettles.status_eq ▸ hfinal)
    exact ⟨l'', hl'', hsettles.trans hsettles'⟩
  commits := List.Subset.trans h.commits h'.commits

theorem grows_moveTo (hk : m.tables.Keyed) {w : World Memory}
    (h : m.tables.Steady w.store.tables) : m.Grows (m.moveTo w) where
  keyed := hk.quiet h.quiet
  accounts := .of_steady h
  final _ _ hl _ := h.quiet.line_after hl
  commits := List.Subset.refl _

theorem grows_step (hk : m.tables.Keyed) (s : Settings) (move : Move) :
    m.Grows (m.step s move) := by
  have hprogress := progress_step s m move
  refine ⟨keyed_step hk hprogress, ?_, fun reference l hl hfinal => ?_, ?_⟩
  · rcases tables_step s m move with h | ⟨f, -, card, owner, hcarries, h⟩
    · exact .of_steady h
    · rw [h]
      exact hcarries.sameAccounts
  · obtain ⟨l', hl', hadvances, -⟩ := advances_step hk hprogress l hl
    exact ⟨l', hl', hadvances.settles hfinal⟩
  · cases hprogress with
    | quiet _ hcommits => rw [hcommits]; exact List.Subset.refl _
    | commit _ _ _ _ _ _ hcommits => rw [hcommits]; exact List.subset_append_left _ _

theorem Backs.grows (h : m₁.Backs c) (hgrows : m₁.Grows m₂) : m₂.Backs c := by
  obtain ⟨l, hl, hbears, hc, huser⟩ := h
  obtain ⟨l', hl', hsettles⟩ := hgrows.final _ l hl hbears.status_ne
  have href : l'.reference = l.reference := by rw [hsettles]
  refine ⟨l', href ▸ hl', hsettles.bearsFee hbears, ?_, ?_⟩
  · rw [hsettles.charge_eq]
    exact hc
  · rcases huser with ⟨owner, howner, huser⟩ | ⟨a, ha, hstrays, haref, huser⟩
    · have hid : l'.cardUserId = l.cardUserId := by rw [hsettles]
      obtain ⟨owner', howner', hsame⟩ :=
        hgrows.accounts.cardUser_of_row (fun _ _ hu => hu.id) howner
      refine .inl ⟨owner', ?_, huser.trans hsame.providerRef.symm⟩
      rw [hid]
      exact howner'
    · exact .inr ⟨a, hgrows.commits ha, hstrays, haref.trans href.symm, huser⟩

theorem backs_of_commit {m' : Traffic} {f : InFlight} {card : Card} {owner : CardUser}
    (hk : m.tables.Keyed)
    (htables : m'.tables = m.tables.apply (m.tables.changeOf s f.delivery.posting card owner))
    (hcommits : m'.commits =
      m.commits ++ [(m.tables.changeOf s f.delivery.posting card owner).applied]) :
    let a := (m.tables.changeOf s f.delivery.posting card owner).applied
    a.line.BearsFee → m'.Backs (.ofLine a.line a.cardUser.providerRef) := by
  -- What was committed just now backs the charge that its effects may make.
  intro a hbears
  have href : a.line.reference = f.delivery.posting.reference := hk.reference_lineOf
  have hline : m'.line? a.line.reference = some a.line := by
    rw [line?_commit _ hk htables, if_pos href.symm]
    rfl
  refine ⟨a.line, hline, hbears, rfl, ?_⟩
  by_cases hstrays : a.Strays
  · refine .inr ⟨a, ?_, hstrays, rfl, rfl⟩
    rw [hcommits]
    exact List.mem_append_right _ (List.mem_singleton_self a)
  · have hid : a.cardUser.id = a.line.cardUserId := (not_not.mp hstrays).symm
    refine .inl ⟨a.cardUser, ?_, rfl⟩
    rw [htables]
    exact (rowOf?_putRow ..).trans (if_pos hid)

end Traffic

/-! ## What a program may still charge -/

def Request.AnsweredOn (t : Tables) : (r : Request) → r.Reply → Prop
  | .store c, reply => reply = .ok (t.call c).1
  | _, _ => True

def Traffic.Allows (m : Traffic) : Request → Prop
  | .charge c => m.Backs c
  | r => r.IsSingle

theorem Traffic.Allows.isSingle {m : Traffic} {r : Request} (h : m.Allows r) : r.IsSingle := by
  cases r <;> first | exact trivial | exact h

def Program.Bills {α : Type} : Program α → Traffic → Prop
  | .done _, _ => True
  | .ask r next, m => ∀ m', m.Grows m' →
    m'.Allows r ∧ ∀ reply, r.AnsweredOn m'.tables reply → (next reply).Bills m'

namespace Program

variable {α β : Type} {p : Program α} {m m' : Traffic}

theorem Bills.mono (h : p.Bills m) (hgrows : m.Grows m') : p.Bills m' := by
  cases p with
  | done a => exact trivial
  | ask r next => exact fun m'' hgrows' => h m'' (hgrows.trans hgrows')

theorem Bills.bind (hp : p.Bills m) {f : α → Program β} (hf : ∀ a, (f a).Bills m) :
    (p.bind f).Bills m := by
  induction p generalizing m with
  | done a => exact hf a
  | ask r next ih =>
    intro m' hgrows
    obtain ⟨hallows, hnext⟩ := hp m' hgrows
    exact ⟨hallows, fun reply hreply =>
      ih reply (hnext reply hreply) fun a => (hf a).mono hgrows⟩

theorem Asks.bills (hp : p.Asks Request.IsTelling) (m : Traffic) : p.Bills m := by
  induction p generalizing m with
  | done a => exact trivial
  | ask r next ih =>
    intro m' _
    refine ⟨?_, fun reply _ => ih reply (hp.2 reply) m'⟩
    cases r <;> first | exact trivial | exact hp.1.elim

theorem bills_collectFee {l : Line} {userRef : String}
    (h : l.feeDue = true → m.Backs (.ofLine l userRef)) : (collectFee l userRef).Bills m := by
  unfold collectFee
  split
  next hdue =>
    intro m' hgrows
    refine ⟨(h hdue).grows hgrows, fun receipt? _ => ?_⟩
    cases receipt? with
    | none => exact trivial
    | some receipt =>
      intro m'' _
      refine ⟨trivial, fun reply _ => ?_⟩
      cases reply <;> exact trivial
  · exact trivial

theorem bills_runEffects {a : Applied}
    (h : a.line.feeDue = true → m.Backs (.ofLine a.line a.cardUser.providerRef)) :
    (runEffects a).Bills m :=
  (bills_collectFee h).bind fun _ => (asks_tell a).bills m

end Program

namespace Task

variable {m : Traffic}

theorem bills_store {α : Type} {c : StoreCall} {f : c.Answer → Task α}
    (h : ∀ m', m.Grows m' → (f (m'.tables.call c).1).run.Bills m') :
    (store c >>= f).run.Bills m := by
  intro m' hgrows
  refine ⟨trivial, fun reply hreply => ?_⟩
  obtain rfl : reply = .ok (m'.tables.call c).1 := hreply
  exact h m' hgrows

theorem bills_ofProgram {α β : Type} {p : Program α} {f : α → Task β} (hp : p.Bills m)
    (hf : ∀ a, (f a).run.Bills m) : (ofProgram p >>= f).run.Bills m := by
  have hdone : (p.bind fun a => .done (.ok a) : Program (Except EngineError α)).Bills m :=
    hp.bind fun _ => trivial
  refine hdone.bind fun r => ?_
  cases r with
  | error e => exact trivial
  | ok a => exact hf a

theorem bills_sweepLines {lines : List Line} (hlines : ∀ l ∈ lines, l.feeDue = true →
    ∃ l', m.line? l.reference = some l' ∧ l.SettlesTo l') (summary : SweepSummary) :
    (sweepLines summary lines).run.Bills m := by
  -- A line that owes its fee is final, so what the sweep has read of it holds whenever it
  -- comes to it.
  induction lines generalizing m summary with
  | nil => exact trivial
  | cons l rest ih =>
    refine bills_store fun m' hgrows => ?_
    have hlines' : ∀ x ∈ l :: rest, x.feeDue = true →
        ∃ x', m'.line? x.reference = some x' ∧ x.SettlesTo x' := by
      intro x hx hdue
      obtain ⟨x', hx', hsettles⟩ := hlines x hx hdue
      have hfinal : x'.status ≠ .pending :=
        (hsettles.bearsFee (Line.feeDue_iff.mp hdue).1).status_ne
      obtain ⟨x'', hx'', hsettles'⟩ := hgrows.final _ x' hx' hfinal
      exact ⟨x'', hx'', hsettles.trans hsettles'⟩
    have hrest : ∀ summary, (sweepLines summary rest).run.Bills m' :=
      fun summary => ih (fun x hx => hlines' x (List.mem_cons_of_mem l hx)) summary
    cases howner : (m'.tables.call (.cardUserById l.cardUserId)).1 with
    | none => exact hrest summary
    | some owner =>
      refine bills_ofProgram (Program.bills_collectFee fun hdue => ?_) fun c => hrest _
      obtain ⟨l', hl', hsettles⟩ := hlines' l (List.mem_cons_self ..) hdue
      have href : l'.reference = l.reference := by rw [hsettles]
      have hid : l'.cardUserId = l.cardUserId := by rw [hsettles]
      refine ⟨l', href ▸ hl', hsettles.bearsFee (Line.feeDue_iff.mp hdue).1,
        (hsettles.charge_eq owner.providerRef).symm, .inl ⟨owner, ?_, rfl⟩⟩
      rw [hid]
      exact howner

theorem bills_sweepFees (limit : Int) (m : Traffic) : (sweepFees limit).run.Bills m := by
  refine bills_store fun m' hgrows => bills_sweepLines (fun l hl _ => ?_) .empty
  have hmem : l ∈ m'.tables.lines :=
    ((Tables.isBatch_unsettled m'.tables limit).mem l hl).1
  exact ⟨l, rowOf?_of_mem hgrows.keyed.references hmem, .refl l⟩

end Task

/-! ## What has been charged -/

structure Traffic.GoesOn (m m' : Traffic) : Prop extends m.Grows m' where
  charges : ∀ c ∈ m'.world.charges, c ∈ m.world.charges ∨ m'.Backs c

section Steps

variable {α : Type} {m m₁ m₂ m₃ : Traffic} {r : Request}
  (refusal : LockKey → Option LockError) (C : Collaborators)

theorem Traffic.GoesOn.trans (h : m₁.GoesOn m₂) (h' : m₂.GoesOn m₃) : m₁.GoesOn m₃ where
  toGrows := h.toGrows.trans h'.toGrows
  charges _ hc := by
    rcases h'.charges _ hc with hc | hbacks
    · exact (h.charges _ hc).imp_right fun hbacks => hbacks.grows h'.toGrows
    · exact .inr hbacks

theorem Traffic.Grows.goesOn (h : m₁.Grows m₂)
    (hcharges : m₂.world.charges = m₁.world.charges) : m₁.GoesOn m₂ :=
  ⟨h, fun _ hc => .inl (hcharges ▸ hc)⟩

theorem Traffic.goesOn_answer (hk : m.tables.Keyed) (h : m.Allows r) :
    m.GoesOn (m.moveTo (World.answer (Memory.backend refusal) C r m.world).2) := by
  have hgrows : m.Grows (m.moveTo (World.answer (Memory.backend refusal) C r m.world).2) :=
    grows_moveTo hk (World.steady_answer h.isSingle m.world)
  cases r with
  | charge c =>
    refine ⟨hgrows, fun x hx => ?_⟩
    have hsent : x ∈ m.world.charges ++ [c] :=
      World.charges_send m.world (.charge c (C.charge m.world.outbound c)) ▸ hx
    refine (List.mem_append.mp hsent).imp_right fun hx => ?_
    obtain rfl := List.mem_singleton.mp hx
    exact Backs.grows h hgrows
  | store | defer => exact hgrows.goesOn rfl
  | lockCard | notify | announce =>
    refine hgrows.goesOn ?_
    exact (World.charges_send m.world _).trans (List.append_nil _)
  | _ => exact h.elim

theorem Request.answeredOn_answer (w : World Memory) :
    r.AnsweredOn w.store.tables (World.answer (Memory.backend refusal) C r w).1 := by
  cases r <;> first | exact rfl | exact trivial

theorem Program.Bills.ask {next : r.Reply → Program α} (hk : m.tables.Keyed)
    (h : (Program.ask r next).Bills m) :
    let x := World.answer (Memory.backend refusal) C r m.world
    m.GoesOn (m.moveTo x.2) ∧ (next x.1).Bills (m.moveTo x.2) := by
  intro x
  obtain ⟨hallows, hnext⟩ := h m (.refl hk)
  have hgoesOn : m.GoesOn (m.moveTo x.2) := Traffic.goesOn_answer refusal C hk hallows
  have hreply : r.AnsweredOn m.tables x.1 := Request.answeredOn_answer refusal C m.world
  exact ⟨hgoesOn, (hnext x.1 hreply).mono hgoesOn.toGrows⟩

theorem Program.Bills.runIn {p : Program α} (hk : m.tables.Keyed) (h : p.Bills m) :
    m.GoesOn (m.moveTo (p.runIn (Memory.backend refusal) C m.world).2) := by
  induction p generalizing m with
  | done a => exact (Traffic.Grows.refl hk).goesOn rfl
  | ask r next ih =>
    obtain ⟨hgoesOn, hnext⟩ := h.ask refusal C hk
    exact hgoesOn.trans (ih _ hgoesOn.keyed hnext)

theorem Task.outbound_writeLocked (s : Settings) (d : Delivery) (w : World Memory) :
    ((writeLocked s d).runIn (Memory.backend refusal) C w).2.outbound = w.outbound := by
  rw [runIn_writeLocked]
  cases refusal d.lockKey with
  | some e => rfl
  | none =>
    dsimp only
    rw [runIn_write]
    rcases w.store.tables.change s d with e | dismissal | c <;> rfl

def Traffic.BillsCommits (m : Traffic) : Prop := ∀ a ∈ m.commits, (runEffects a).Bills m

theorem Traffic.goesOn_step (hk : m.tables.Keyed) (hm : m.BillsCommits) (s : Settings)
    (move : Move) : m.GoesOn (m.step s move) := by
  have hgrows : m.Grows (m.step s move) := grows_step hk s move
  obtain ⟨refusal, parties, act⟩ := move
  cases act with
  | spend reference e =>
    refine hgrows.goesOn ?_
    unfold step
    dsimp only
    rw [Task.runIn_prepareSpend, world_prepared]
  | collateral reference e =>
    refine hgrows.goesOn ?_
    unfold step
    dsimp only
    rw [Task.runIn_prepareCollateral, world_prepared]
  | write place =>
    refine hgrows.goesOn ?_
    unfold step
    dsimp only
    split
    · rfl
    next f _ =>
      rw [world_written]
      unfold World.charges
      rw [Task.outbound_writeLocked]
  | effects place =>
    unfold step
    dsimp only
    split
    · exact (Grows.refl hk).goesOn rfl
    next a ha => exact (hm a (List.mem_of_getElem? ha)).runIn refusal parties hk
  | sweep limit =>
    have hsweep : (sweepFees limit).run.Bills m := Task.bills_sweepFees limit m
    exact hsweep.runIn refusal parties hk
  | call => exact hgrows.goesOn rfl
  | clock => exact hgrows.goesOn rfl

theorem Traffic.billsCommits_step (hk : m.tables.Keyed) (hm : m.BillsCommits) (s : Settings)
    (move : Move) : (m.step s move).BillsCommits := by
  intro a ha
  have hgrows : m.Grows (m.step s move) := grows_step hk s move
  cases progress_step s m move with
  | quiet _ hcommits =>
    rw [hcommits] at ha
    exact (hm a ha).mono hgrows
  | commit f _ card owner _ htables hcommits =>
    have hmem := ha
    rw [hcommits] at hmem
    rcases List.mem_append.mp hmem with hold | hnew
    · exact (hm a hold).mono hgrows
    · obtain rfl := List.mem_singleton.mp hnew
      refine Program.bills_runEffects fun hdue => ?_
      exact backs_of_commit hk htables hcommits (Line.feeDue_iff.mp hdue).1

end Steps

namespace Background

structure Sound (m : Background) : Prop where
  keyed : m.traffic.tables.Keyed
  charged : ∀ c ∈ m.traffic.world.charges, m.traffic.Backs c
  commits : m.traffic.BillsCommits
  running : ∀ p ∈ m.running, p.Bills m.traffic

variable {m : Background}

theorem Sound.goesOn (h : m.Sound) {traffic : Traffic} (hgoesOn : m.traffic.GoesOn traffic)
    (hcommits : traffic.BillsCommits) {running : List (Program Unit)}
    (hrunning : ∀ p ∈ running, p ∈ m.running ∨ p.Bills traffic) :
    (⟨traffic, running⟩ : Background).Sound where
  keyed := hgoesOn.keyed
  charged c hc := (hgoesOn.charges c hc).elim
    (fun hold => (h.charged c hold).grows hgoesOn.toGrows) fun hbacks => hbacks
  commits := hcommits
  running p hp := (hrunning p hp).elim
    (fun hold => (h.running p hold).mono hgoesOn.toGrows) fun hbills => hbills

theorem Sound.begun (h : m.Sound) {p : Program Unit} (hp : p.Bills m.traffic) :
    (m.begun p).Sound :=
  h.goesOn ((Traffic.Grows.refl h.keyed).goesOn rfl) h.commits fun q hq => by
    refine (List.mem_append.mp hq).imp_right fun hq => ?_
    rw [List.mem_singleton.mp hq]
    exact hp

theorem Sound.step (h : m.Sound) (s : Settings) (act : Act) : (m.step s act).Sound := by
  unfold Background.step
  cases act with
  | traffic move =>
    exact h.goesOn (Traffic.goesOn_step h.keyed h.commits s move)
      (Traffic.billsCommits_step h.keyed h.commits s move) fun _ hp => .inl hp
  | effects place =>
    dsimp only
    split
    · exact h
    next a ha => exact h.begun (h.commits a (List.mem_of_getElem? ha))
  | sweep limit =>
    have hsweep : (sweepFees limit).run.Bills m.traffic := Task.bills_sweepFees limit m.traffic
    exact h.begun (hsweep.bind fun _ => trivial)
  | proceed place parties =>
    dsimp only
    split
    next r next hask =>
      have hbills : (Program.ask r next).Bills m.traffic :=
        h.running _ (List.mem_of_getElem? hask)
      obtain ⟨hgoesOn, hnext⟩ := hbills.ask (fun _ => none) parties h.keyed
      refine h.goesOn hgoesOn (fun a ha => (h.commits a ha).mono hgoesOn.toGrows) fun p hp => ?_
      refine (List.mem_or_eq_of_mem_set hp).imp_right fun hp => ?_
      rw [hp]
      exact hnext
    · exact h

theorem sound_start {w : World Memory} (hk : w.store.tables.Keyed) (hnew : w.charges = []) :
    (start w).Sound where
  keyed := hk
  charged c hc := by
    change c ∈ w.charges at hc
    rw [hnew] at hc
    cases hc
  commits _ ha := absurd ha List.not_mem_nil
  running _ hp := absurd hp List.not_mem_nil

theorem sound_after (h : m.Sound) (s : Settings) (acts : List Act) : (m.after s acts).Sound := by
  induction acts generalizing m with
  | nil => exact h
  | cons act rest ih => exact ih (h.step s act)

end Background
end PrepaidLedger
