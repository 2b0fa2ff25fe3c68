import PrepaidLedger.Proofs.Concurrent.Interleaved

/-! A delivery that nothing comes between, operation by operation, ends as it ends when its program
is run in one go. -/

namespace PrepaidLedger

variable {ι : Type} [DecidableEq ι] {i : ι} {m : Interleaving ι}

namespace Interleaving

def concluded (m : Interleaving ι) (i : ι) (r : Conclusion × World Memory) : Interleaving ι where
  tables := r.2.store.tables
  runner := Function.update m.runner i (.outside (.done r.1))
  holder _ := none
  commits := m.commits ++ (Program.done r.1).applied?.toList

theorem after_advance {m' : Interleaving ι} (h : m.advance i = some m') (n : ℕ) :
    m.after (List.replicate (n + 1) (.advance i)) = m'.after (List.replicate n (.advance i)) := by
  rw [List.replicate_succ]
  change (m.step (.advance i)).after _ = _
  rw [show m.step (.advance i) = m' from congrArg (Option.getD · m) h]

theorem holder_leave_eq_none (hfree : ∀ id, m.holder id = none ∨ m.holder id = some i)
    (r : Runner) : (m.leave i r).holder = fun _ => none := by
  funext id
  unfold leave
  dsimp only
  split
  · rfl
  next hi => exact (hfree id).resolve_right hi

variable (refusal : LockKey → Option LockError) (C : Collaborators)

section Last

variable {order held : List Uuid} {p : Pending} {x : Program Conclusion}

theorem after_committed (hfree : ∀ id, m.holder id = none ∨ m.holder id = some i)
    (hx : x.Safe order Conclusion.Fits (.committed held p m.tables)) (w : World Memory)
    (hw : w.store = .ofTables (m.tables.commit p))
    (hm : m.advance i = some
      { m.leave i (.outside x) with
        tables := m.tables.commit p
        commits := m.commits ++ x.applied?.toList }) :
    ∃ n, m.after (List.replicate n (.advance i)) =
      m.concluded i (x.runIn (Memory.backend refusal) C w) := by
  obtain ⟨a, rfl, -⟩ := hx.applied_of_committed
  refine ⟨1, (after_advance hm 0).trans ?_⟩
  change Interleaving.mk _ _ (m.leave i (.outside (.done (.ok (.ok a))))).holder _ =
    Interleaving.mk w.store.tables _ _ _
  rw [holder_leave_eq_none hfree, hw]
  rfl

theorem after_undone (hfree : ∀ id, m.holder id = none ∨ m.holder id = some i)
    (hx : x.Safe order Conclusion.Fits .undone) (w : World Memory)
    (hw : w.store = .ofTables m.tables) (hm : m.advance i = some (m.leave i (.outside x))) :
    ∃ n, m.after (List.replicate n (.advance i)) =
      m.concluded i (x.runIn (Memory.backend refusal) C w) := by
  obtain ⟨c, rfl, hnone⟩ := hx.done_of_undone
  refine ⟨1, (after_advance hm 0).trans ?_⟩
  change Interleaving.mk _ _ (m.leave i (.outside (.done c))).holder _ =
    Interleaving.mk w.store.tables _ _ (m.commits ++ (Program.done c).applied?.toList)
  rw [holder_leave_eq_none hfree, hw, hnone]
  exact congrArg (Interleaving.mk _ _ _) (List.append_nil _).symm

end Last

theorem after_alone_within
    {order held : List Uuid} {seen : Tables} {x : Program Conclusion} {p : Pending}
    (w : World Memory) (hx : x.Safe order Conclusion.Fits (.within held p seen))
    (hseen : seen.Spares held m.tables) (hr : m.runner i = .within x p)
    (hfree : ∀ id, m.holder id = none ∨ m.holder id = some i) (hw : w.store = ⟨m.tables, p⟩) :
    ∃ n, m.after (List.replicate n (.advance i)) =
      m.concluded i (x.runIn (Memory.backend refusal) C w) := by
  -- On what is left of the program. The lock of every row is free or its own, so it never waits.
  induction x generalizing m held seen p w with
  | done c => rcases c with e | dismissal | a <;> exact hx.elim
  | ask r next ih =>
    obtain ⟨store, outbound, deferred⟩ := w
    dsimp only at hw
    subst hw
    cases r with
    | tx c =>
      obtain ⟨-, hsafe⟩ := hx
      let m₁ : Interleaving ι :=
        { m with
          runner := Function.update m.runner i
            (.within (next (p.call m.tables c).1) (p.call m.tables c).2)
          holder := m.take i c.row? }
      have hadvance : m.advance i = some m₁ := by
        have hgrants : m.Grants i c.row? := fun id _ => hfree id
        unfold Interleaving.advance
        rw [hr]
        exact if_pos hgrants
      have hfree₁ (id : Uuid) : m₁.holder id = none ∨ m₁.holder id = some i := by
        change m.take i c.row? id = none ∨ m.take i c.row? id = some i
        unfold take
        split
        · exact .inr rfl
        · exact hfree id
      obtain ⟨n, hn⟩ := ih (p.call m.tables c).1 (m := m₁)
        ⟨⟨m.tables, (p.call m.tables c).2⟩, outbound, deferred⟩ (hsafe m.tables hseen) (.refl _)
        (Function.update_self ..) hfree₁ rfl
      refine ⟨n + 1, (after_advance hadvance n).trans (hn.trans ?_)⟩
      unfold concluded
      rw [Function.update_idem]
      rfl
    | commit =>
      refine after_committed refusal C hfree (hx m.tables hseen)
        ⟨.ofTables (m.tables.commit p), outbound, deferred⟩ rfl ?_
      unfold Interleaving.advance
      rw [hr]
    | rollback =>
      refine after_undone refusal C hfree hx ⟨.ofTables m.tables, outbound, deferred⟩ rfl ?_
      unfold Interleaving.advance
      rw [hr]
    | abandon =>
      refine after_undone refusal C hfree hx ⟨.ofTables m.tables, outbound, deferred⟩ rfl ?_
      unfold Interleaving.advance
      rw [hr]
    | _ => exact hx.elim

theorem after_alone (s : Settings) (d : Delivery) (w : World Memory)
    (hr : m.runner i = .outside (write s d).run) (hfree : ∀ id, m.holder id = none)
    (hw : w.store.tables = m.tables) :
    ∃ n, m.after (List.replicate n (.advance i)) =
      m.concluded i ((write s d).runIn (Memory.backend refusal) C w) := by
  obtain ⟨next, hnext⟩ : ∃ next, (write s d).run = .ask .begin next := ⟨_, rfl⟩
  have hopens := Task.opens_write s d
  rw [hnext] at hopens hr
  let m₁ : Interleaving ι :=
    { m with
      tables := { m.tables with batches := m.tables.batches + 1 }
      runner := Function.update m.runner i (.within (next (.ok ())) (.empty m.tables.batches)) }
  have hadvance : m.advance i = some m₁ := by
    unfold Interleaving.advance
    rw [hr]
  obtain ⟨n, hn⟩ := after_alone_within refusal C (m := m₁)
    ⟨⟨m₁.tables, .empty m.tables.batches⟩, w.outbound, w.deferred⟩ (hopens m.tables)
    (.of_rows rfl rfl rfl) (Function.update_self ..) (fun id => .inl (hfree id)) rfl
  refine ⟨n + 1, (after_advance hadvance n).trans (hn.trans ?_)⟩
  obtain ⟨⟨t, p⟩, outbound, deferred⟩ := w
  change t = m.tables at hw
  subst hw
  unfold concluded Task.runIn
  rw [Function.update_idem, hnext]
  rfl

end Interleaving
end PrepaidLedger
