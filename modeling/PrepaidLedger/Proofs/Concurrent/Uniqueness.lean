import PrepaidLedger.Proofs.Concurrent.Alone
import PrepaidLedger.Proofs.Concurrent.References
import PrepaidLedger.Proofs.Ledger.Footprint

/-! A reference is given once over every interleaving, unless two of its deliveries lock no row in
common. Those two can come to their commits side by side, each having found nothing, and then both
of them commit. -/

namespace PrepaidLedger

section Catalogues

variable {r : String} {t : Tables}

theorem Tables.Identified.of_no_rows (hd : t.Distinct) (hlines : t.lines = [])
    (hjournal : t.journal = []) (haddresses : t.addresses = []) : t.Identified where
  toDistinct := hd
  toJournalKeyed := Tables.journalKeyed_of_no_entries hjournal
  lines := by simp [hlines]
  linesNumbered := by simp [hlines]
  addresses := by simp [haddresses]
  addressesNumbered := by simp [haddresses]

theorem Tables.Identified.lines_catalogue (ht : t.Identified)
    (honce : (t.lines.map Line.reference).count r ≤ 1) :
    Catalogue r t.batches t.lineLabels where
  ids := by
    rw [Tables.lineLabels, List.map_map]
    exact ht.lines
  numbered x hx := by
    obtain ⟨l, hl, rfl⟩ := List.mem_map.mp hx
    exact ht.linesNumbered l hl
  once := by rwa [t.map_snd_lineLabels]

theorem Tables.Identified.entries_catalogue (ht : t.Identified)
    (honce : (t.journal.map Entry.reference).count r ≤ 1) :
    Catalogue r t.batches t.entryLabels where
  ids := by
    rw [Tables.entryLabels, List.map_map]
    exact ht.ids
  numbered x hx := by
    obtain ⟨e, he, rfl⟩ := List.mem_map.mp hx
    exact ht.numbered e he
  once := by rwa [t.map_snd_entryLabels]

end Catalogues

theorem Tables.change_numbered {s : Settings} {t : Tables} {d : Delivery} {c : Change}
    (h : t.change s d = .ok (.ok c)) : ∃ c', t.numbered.change s d = .ok (.ok c') := by
  obtain ⟨card, owner, hcarries, -⟩ := Tables.change_eq_ok.mp h
  have hcarries' : t.numbered.Carries s d card owner :=
    { hcarries with
      card_eq := hcarries.card_eq
      owner_eq := hcarries.owner_eq }
  exact ⟨_, Tables.change_eq_ok.mpr ⟨card, owner, hcarries', rfl⟩⟩

theorem Program.Safe.runIn_ne_applied {order : List Uuid} {x : Program Conclusion}
    (h : x.Safe order Conclusion.Fits .undone) (B : Backend Memory) (C : Collaborators)
    (w : World Memory) (a : Applied) : (x.runIn B C w).1 ≠ .ok (.ok a) := by
  obtain ⟨c, rfl, hnone⟩ := h.done_of_undone
  rintro rfl
  cases hnone

namespace Interleaving

variable {ι : Type} [DecidableEq ι] {r : String} {deliveries : ι → Delivery} {m m' : Interleaving ι}
  {i : ι}

/-! ## Up to the commit -/

structure Awaits (r : String) (t₀ : Tables) (deliveries : ι → Delivery) (i : ι)
    (m m' : Interleaving ι) : Prop where
  filed : m'.Filed r deliveries
  sound : m'.Sound t₀ deliveries
  tables : m'.tables = m.tables
  runner : ∃ next p, m'.runner = Function.update m.runner i (.within (.ask .commit next) p)
  holder : ∀ id ∉ (deliveries i).rows, m'.holder id = m.holder id

variable {t₀ : Tables}

theorem Awaits.of_step {m₁ : Interleaving ι} {runner : Runner} (h : Awaits r t₀ deliveries i m₁ m')
    (htables : m₁.tables = m.tables) (hrunner : m₁.runner = Function.update m.runner i runner)
    (hholder : ∀ id ∉ (deliveries i).rows, m₁.holder id = m.holder id) :
    Awaits r t₀ deliveries i m m' where
  filed := h.filed
  sound := h.sound
  tables := h.tables.trans htables
  runner := by
    obtain ⟨next, p, hnext⟩ := h.runner
    exact ⟨next, p, by rw [hnext, hrunner, Function.update_idem]⟩
  holder id hid := (h.holder id hid).trans (hholder id hid)

omit [DecidableEq ι] in
theorem Sound.row_of_call (h : m.Sound t₀ deliveries) {c : TxCall}
    {next : Except StoreError c.Answer → Program Conclusion} {p : Pending}
    (hr : m.runner i = .within (.ask (.tx c) next) p) (id : Uuid) (hid : c.row? = some id) :
    m.holder id = some i ∨ id ∈ (deliveries i).rows := by
  have hrunner := h.runner i
  rw [hr] at hrunner
  obtain ⟨held, seen, hheld, -, horder, -⟩ := hrunner
  refine (horder id hid).imp (hheld id).mpr fun hprefix => ?_
  exact hprefix.subset (List.mem_append_right held (List.mem_singleton_self id))

theorem Filed.awaits_within (C : Collaborators) {a : Applied} {x : Program Conclusion} {p : Pending}
    (hf : m.Filed r deliveries) (hs : m.Sound t₀ deliveries) (hr : m.runner i = .within x p)
    (hfree : ∀ id ∈ (deliveries i).rows, m.holder id = none ∨ m.holder id = some i)
    (w : World Memory) (hw : w.store = ⟨m.tables, p⟩)
    (ha : (x.runIn (Memory.backend fun _ => none) C w).1 = .ok (.ok a)) :
    ∃ n, Awaits r t₀ deliveries i m (m.after (List.replicate n (.advance i))) := by
  -- Alone with the rows it needs, a transaction that is to be committed comes to its commit.
  -- On what is left of the program. It never waits, as it asks for no row but its own.
  induction x generalizing m p w with
  | done c =>
    have hrunner := hs.runner i
    rw [hr] at hrunner
    obtain ⟨held, seen, -, -, hsafe⟩ := hrunner
    rcases c with e | dismissal | a <;> exact hsafe.elim
  | ask req next ih =>
    have hrunner := hs.runner i
    rw [hr] at hrunner
    obtain ⟨held, seen, -, -, hsafe⟩ := hrunner
    obtain ⟨store, outbound, deferred⟩ := w
    dsimp only at hw
    subst hw
    cases req with
    | tx c =>
      have hrow := hs.row_of_call hr
      let m₁ : Interleaving ι :=
        { m with
          runner := Function.update m.runner i
            (.within (next (p.call m.tables c).1) (p.call m.tables c).2)
          holder := m.take i c.row? }
      have hadvance : m.advance i = some m₁ := by
        have hgrants : m.Grants i c.row? := fun id hid => (hrow id hid).elim .inr (hfree id)
        unfold Interleaving.advance
        rw [hr]
        exact if_pos hgrants
      have hfree₁ (id : Uuid) (hid : id ∈ (deliveries i).rows) :
          m₁.holder id = none ∨ m₁.holder id = some i := by
        change m.take i c.row? id = none ∨ m.take i c.row? id = some i
        unfold take
        split
        · exact .inr rfl
        · exact hfree id hid
      have hothers (id : Uuid) (hid : id ∉ (deliveries i).rows) : m₁.holder id = m.holder id := by
        change m.take i c.row? id = m.holder id
        unfold take
        split
        next htaken => exact ((hrow id htaken).resolve_right hid).symm
        · rfl
      obtain ⟨n, hn⟩ := ih (p.call m.tables c).1 (m := m₁)
        (hf.advance (fun next' p' hcommit => nomatch hr.symm.trans hcommit) hadvance)
        (hs.advance hadvance) (Function.update_self ..) hfree₁
        ⟨⟨m.tables, (p.call m.tables c).2⟩, outbound, deferred⟩ rfl ha
      refine ⟨n + 1, ?_⟩
      rw [after_advance hadvance]
      exact hn.of_step rfl rfl hothers
    | commit =>
      refine ⟨0, hf, hs, rfl, ⟨next, p, ?_⟩, fun _ _ => rfl⟩
      rw [← hr, Function.update_eq_self]
      rfl
    | rollback => exact absurd ha (Program.Safe.runIn_ne_applied hsafe _ C _ a)
    | abandon => exact absurd ha (Program.Safe.runIn_ne_applied hsafe _ C _ a)
    | _ => exact hsafe.elim

theorem Filed.awaits (C : Collaborators) {s : Settings} {c : Change} (hf : m.Filed r deliveries)
    (hs : m.Sound t₀ deliveries) (hr : m.runner i = .outside (write s (deliveries i)).run)
    (hfree : ∀ id ∈ (deliveries i).rows, m.holder id = none)
    (hc : m.tables.change s (deliveries i) = .ok (.ok c)) :
    ∃ n, Awaits r t₀ deliveries i { m with tables := m.tables.numbered }
      (m.after (List.replicate n (.advance i))) := by
  obtain ⟨next, hnext⟩ : ∃ next, (write s (deliveries i)).run = .ask .begin next := ⟨_, rfl⟩
  have hrun : ((write s (deliveries i)).run.runIn (Memory.backend fun _ => none) C
      (.ofStore (.ofTables m.tables))).1 = .ok (.ok c.applied) := by
    have hwrite := Task.runIn_write (fun _ => none) C (.ofStore (.ofTables m.tables)) s
      (deliveries i)
    rw [show (World.ofStore (Memory.ofTables m.tables)).store.tables = m.tables from rfl, hc]
      at hwrite
    exact congrArg Prod.fst hwrite
  rw [hnext] at hr hrun
  let m₁ : Interleaving ι :=
    { m with
      tables := m.tables.numbered
      runner := Function.update m.runner i (.within (next (.ok ())) (.empty m.tables.batches)) }
  have hadvance : m.advance i = some m₁ := by
    unfold Interleaving.advance
    rw [hr]
    rfl
  have hf₁ : m₁.Filed r deliveries :=
    hf.advance (fun next' p' hcommit => nomatch hr.symm.trans hcommit) hadvance
  obtain ⟨n, hn⟩ := hf₁.awaits_within C (hs.advance hadvance) (Function.update_self ..)
    (fun id hid => .inl (hfree id hid)) ⟨⟨m₁.tables, .empty m.tables.batches⟩, [], []⟩ rfl hrun
  refine ⟨n + 1, ?_⟩
  rw [after_advance hadvance]
  exact hn.of_step rfl rfl fun _ _ => rfl

/-! ## Two commits -/

theorem step_commit {next : Except StoreError Unit → Program Conclusion} {p : Pending}
    (hr : m.runner i = .within (.ask .commit next) p) :
    (m.step (.advance i)).tables = m.tables.commit p ∧
      ∀ j ≠ i, (m.step (.advance i)).runner j = m.runner j := by
  have hadvance : m.step (.advance i) = (m.advance i).getD m := rfl
  rw [hadvance]
  unfold Interleaving.advance
  rw [hr]
  exact ⟨rfl, fun j hj => Function.update_of_ne hj _ _⟩

theorem Filed.count_after_commits (h : m.Filed r deliveries) {j : ι} (hij : i ≠ j)
    {next next' : Except StoreError Unit → Program Conclusion} {p p' : Pending}
    (hi : m.runner i = .within (.ask .commit next) p)
    (hj : m.runner j = .within (.ask .commit next') p')
    (hir : (deliveries i).posting.reference = r) (hjr : (deliveries j).posting.reference = r)
    (hlines : ∀ x ∈ m.tables.lineLabels, x.2 ≠ r) (hentries : ∀ x ∈ m.tables.entryLabels, x.2 ≠ r) :
    let t := (m.after [.advance i, .advance j]).tables
    (t.lines.map Line.reference).count r = 2 ∧ (t.journal.map Entry.reference).count r = 2 := by
  intro t
  obtain ⟨hnumbers, -, hfits⟩ := h.ready hi
  obtain ⟨hnumbers', -, hfits'⟩ := h.ready hj
  have hbatch : p.batch ≠ p'.batch := fun he => hij (h.apart i j p.batch (by rw [hi]; rfl)
    (by rw [hj, he]; rfl))
  obtain ⟨htables, hrunner⟩ := step_commit hi
  have ht : t = (m.tables.commit p).commit p' := by
    rw [← htables]
    exact (step_commit ((hrunner j hij.symm).trans hj)).1
  unfold Stage.Fits at hfits hfits'
  rw [hir] at hfits
  rw [hjr] at hfits'
  rw [← t.map_snd_lineLabels, ← t.map_snd_entryLabels, ht, Tables.lineLabels_commit,
    Tables.lineLabels_commit, Tables.entryLabels_commit, Tables.entryLabels_commit]
  exact ⟨hfits.1.count_twice hfits'.1 hlines hbatch hnumbers.lines hnumbers'.lines,
    hfits.2.count_twice hfits'.2 hentries hbatch hnumbers.entries hnumbers'.entries⟩

theorem exists_twice (s : Settings) {t : Tables} (hf : (start s t deliveries).Filed r deliveries)
    {j : ι} (hij : i ≠ j) (hir : (deliveries i).posting.reference = r)
    (hjr : (deliveries j).posting.reference = r)
    (hapart : ¬ (deliveries i).Overlaps (deliveries j))
    (hline : t.lineByRef? r = none) (hentry : t.entryByRef? r = none) {c c' : Change}
    (hc : t.change s (deliveries i) = .ok (.ok c)) (hc' : t.change s (deliveries j) = .ok (.ok c')) :
    ∃ ops, let t' := ((start s t deliveries).after ops).tables
      (t'.lines.map Line.reference).count r = 2 ∧
        (t'.journal.map Entry.reference).count r = 2 := by
  -- The one is stopped before its commit, then the other, and then both commit.
  let C : Collaborators := ⟨fun _ _ => none, fun _ _ => false, fun _ _ => false, fun _ _ => false⟩
  obtain ⟨n, hi⟩ := hf.awaits C (sound_start s t deliveries) (i := i) rfl (fun _ _ => rfl) hc
  generalize hm₁ : (start s t deliveries).after (List.replicate n (.advance i)) = m₁ at hi
  obtain ⟨next₁, p₁, hr₁⟩ := hi.runner
  have hfree (id : Uuid) (hid : id ∈ (deliveries j).rows) : m₁.holder id = none :=
    hi.holder id fun hown => hapart ⟨id, hown, hid⟩
  have hrj : m₁.runner j = .outside (write s (deliveries j)).run := by
    rw [hr₁, Function.update_of_ne hij.symm]
    rfl
  -- The first one took a number, which changes nothing for the second.
  obtain ⟨c₂, hc₂⟩ : ∃ c₂, m₁.tables.change s (deliveries j) = .ok (.ok c₂) := by
    rw [hi.tables]
    exact Tables.change_numbered hc'
  obtain ⟨n', hj⟩ := hi.filed.awaits C hi.sound hrj hfree hc₂
  generalize hm₂ : m₁.after (List.replicate n' (.advance j)) = m₂ at hj
  obtain ⟨next₂, p₂, hr₂⟩ := hj.runner
  have hri : m₂.runner i = .within (.ask .commit next₁) p₁ := by
    rw [hr₂, Function.update_of_ne hij]
    change m₁.runner i = _
    rw [hr₁, Function.update_self]
  have hrj₂ : m₂.runner j = .within (.ask .commit next₂) p₂ := by
    rw [hr₂, Function.update_self]
  have ht₂ : m₂.tables = t.numbered.numbered := by
    rw [hj.tables]
    exact congrArg Tables.numbered hi.tables
  have hnoLine : ∀ x ∈ m₂.tables.lineLabels, x.2 ≠ r := by
    have hknown := t.known_lineByRef? r r
    rw [hline] at hknown
    rw [ht₂]
    exact hknown rfl
  have hnoEntry : ∀ x ∈ m₂.tables.entryLabels, x.2 ≠ r := by
    have hknown := t.known_entryByRef? r r
    rw [hentry] at hknown
    rw [ht₂]
    exact hknown rfl
  refine ⟨List.replicate n (.advance i) ++ List.replicate n' (.advance j) ++
    [.advance i, .advance j], ?_⟩
  rw [after_append, after_append, hm₁, hm₂]
  exact hj.filed.count_after_commits hij hri hrj₂ hir hjr hnoLine hnoEntry

end Interleaving

/-! ## Deliveries of one reference -/

/-- A reference that is given once at most stays so over every interleaving, with whatever calls in
between, if any two of its deliveries have a row in common. And two of them that have none, each of
which would be carried out, can both make a line and an entry of it. -/
theorem reference_given_once_unless_apart {ι : Type} [DecidableEq ι] (s : Settings) {t : Tables}
    (ht : t.Identified) (deliveries : ι → Delivery) (r : String)
    (hlines : (t.lines.map Line.reference).count r ≤ 1)
    (hentries : (t.journal.map Entry.reference).count r ≤ 1) :
    ((∀ i j, i ≠ j → (deliveries i).posting.reference = r → (deliveries j).posting.reference = r →
        (deliveries i).Overlaps (deliveries j)) →
      ∀ ops, let t' := ((Interleaving.start s t deliveries).after ops).tables
        (t'.lines.map Line.reference).count r ≤ 1 ∧
          (t'.journal.map Entry.reference).count r ≤ 1) ∧
    ∀ i j, i ≠ j → (deliveries i).posting.reference = r → (deliveries j).posting.reference = r →
      ¬ (deliveries i).Overlaps (deliveries j) → t.lineByRef? r = none → t.entryByRef? r = none →
      (∃ c, t.change s (deliveries i) = .ok (.ok c)) →
      (∃ c, t.change s (deliveries j) = .ok (.ok c)) →
      ∃ ops, let t' := ((Interleaving.start s t deliveries).after ops).tables
        (t'.lines.map Line.reference).count r = 2 ∧
          (t'.journal.map Entry.reference).count r = 2 := by
  have hstart : (Interleaving.start s t deliveries).Filed r deliveries :=
    Interleaving.filed_start s (ht.lines_catalogue hlines) (ht.entries_catalogue hentries)
      deliveries
  refine ⟨fun hshare ops => ?_, fun i j hij hir hjr hapart hline hentry hi hj => ?_⟩
  · have hcontends (i : ι) : Interleaving.Contends r deliveries i :=
      fun hir j hj hjr => hshare i j hj.symm hir hjr
    have hfiled := Interleaving.after_keeps (fun _ op h => h.step hcontends op) hstart ops
    intro t'
    rw [← t'.map_snd_lineLabels, ← t'.map_snd_entryLabels]
    exact ⟨hfiled.lines.once, hfiled.entries.once⟩
  · obtain ⟨c, hc⟩ := hi
    obtain ⟨c', hc'⟩ := hj
    exact Interleaving.exists_twice s hstart hij hir hjr hapart hline hentry hc hc'

namespace Specimen

open Interleaving

/-! One reference on two cards, of one owner and of two. -/

def sharedSpends : Bool → Delivery
  | false => spendOf (card 1 "first" 20) "t" .completed 5
  | true => spendOf (card 2 "second" 30) "t" .completed 7

def otherOwnersCard : Card := { card 2 "second" 30 with userId := ⟨8⟩, cardUserId := ⟨6⟩ }

def twoOwners : Tables :=
  { Tables.empty with
    cards := [card 1 "first" 20, otherOwnersCard]
    cardUsers := [owner 20, { owner 30 with id := ⟨6⟩, userId := ⟨8⟩, providerRef := "other" }] }

def apartSpends : Bool → Delivery
  | false => spendOf (card 1 "first" 20) "t" .completed 5
  | true => spendOf otherOwnersCard "t" .completed 7

def apartSpent : Interleaving Bool :=
  (start settings twoOwners apartSpends).after
    (List.replicate 11 (.advance false) ++ List.replicate 11 (.advance true) ++
      [.advance false, .advance true])

def preparedSpend (cardRef : String) (amount : Nat) :
    Except EngineError (Except Dismissal Delivery) :=
  ((prepareSpend settings "t" (spendEvent cardRef .completed amount)).runIn
    (Memory.backend fun _ => none) refusing (.ofStore (.ofTables twoOwners))).1

end Specimen

theorem shared_spends_file_once_and_apart_twice :
    (∀ ops, let t := ((Interleaving.start Specimen.settings Specimen.tables
        Specimen.sharedSpends).after ops).tables
      (t.lines.map Line.reference).count "t" ≤ 1 ∧
        (t.journal.map Entry.reference).count "t" ≤ 1) ∧
    ∃ ops, let t := ((Interleaving.start Specimen.settings Specimen.twoOwners
        Specimen.apartSpends).after ops).tables
      (t.lines.map Line.reference).count "t" = 2 ∧
        (t.journal.map Entry.reference).count "t" = 2 := by
  have hshared : Specimen.tables.Identified :=
    .of_no_rows ⟨by decide, by decide⟩ rfl rfl rfl
  have hapart : Specimen.twoOwners.Identified :=
    .of_no_rows ⟨by decide, by decide⟩ rfl rfl rfl
  obtain ⟨honce, -⟩ := reference_given_once_unless_apart Specimen.settings hshared
    Specimen.sharedSpends "t" (by decide) (by decide)
  obtain ⟨-, htwice⟩ := reference_given_once_unless_apart Specimen.settings hapart
    Specimen.apartSpends "t" (by decide) (by decide)
  have hshare : ∀ i j, i ≠ j → (Specimen.sharedSpends i).posting.reference = "t" →
      (Specimen.sharedSpends j).posting.reference = "t" →
        (Specimen.sharedSpends i).Overlaps (Specimen.sharedSpends j) := by decide
  exact ⟨honce hshare,
    htwice false true (by decide) rfl rfl (by decide) rfl rfl ⟨_, rfl⟩ ⟨_, rfl⟩⟩

/-- Two spends that were prepared from their events, under locks of their own, leave two lines and
two entries of one reference in tables that had none. -/
theorem apart_spends_share_a_reference :
    Specimen.twoOwners.lines = [] ∧ Specimen.twoOwners.journal = [] ∧
      Specimen.preparedSpend "first" 5 = .ok (.ok (Specimen.apartSpends false)) ∧
      Specimen.preparedSpend "second" 7 = .ok (.ok (Specimen.apartSpends true)) ∧
      (Specimen.apartSpends false).lockKey ≠ (Specimen.apartSpends true).lockKey ∧
      Specimen.apartSpent.tables.lines.map (·.reference) = ["t", "t"] ∧
      Specimen.apartSpent.tables.journal.map (·.reference) = ["t", "t"] := by
  refine ⟨rfl, rfl, rfl, rfl, by decide, by decide +kernel, by decide +kernel⟩

end PrepaidLedger
