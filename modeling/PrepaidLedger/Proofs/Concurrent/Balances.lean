import PrepaidLedger.Proofs.Concurrent.Write
import PrepaidLedger.Proofs.Engine.Aftermath

/-! The committed tables, accounted for by the commits in their order: what each row was moved by,
which balance each commit started from, and which lines there are. -/

namespace PrepaidLedger

def Applied.sumOn (row : Applied → Uuid) (commits : List Applied) (id : Uuid) : Int :=
  ((commits.filter (row · = id)).map (·.delta)).sum

def Tables.balanceLeft (t₀ : Tables) (commits : List Applied) (id : Uuid) : Option Int :=
  commits.foldl (fun left a => if a.card.id = id then some a.card.balance else left)
    ((t₀.card? id).map (·.balance))

def Applied.MakesLine (a : Applied) (t₀ : Tables) (before : List Applied) : Prop :=
  t₀.line? a.line.id = none ∧ ∀ b ∈ before, b.line.id ≠ a.line.id

/-- The change starts from the balance that was left by the commit before it on its card, and where
it makes its line or moves a balance, the line says so. -/
structure Applied.Follows (a : Applied) (t₀ : Tables) (before : List Applied) : Prop where
  balance : t₀.balanceLeft before a.card.id = some (a.card.balance - a.delta)
  snapshots : a.MakesLine t₀ before ∨ a.delta ≠ 0 →
    a.line.balanceBefore = t₀.balanceLeft before a.card.id ∧
      a.line.balanceAfter = some a.card.balance

structure Tables.Accounts (t₀ : Tables) (commits : List Applied) (t : Tables) : Prop where
  card : ∀ id, (t.card? id).map (·.balance) =
    (t₀.card? id).map (·.balance + Applied.sumOn (·.card.id) commits id)
  cardUser : ∀ id, (t.cardUser? id).map (·.balance) =
    (t₀.cardUser? id).map (·.balance + Applied.sumOn (·.cardUser.id) commits id)
  left : ∀ id, (t.card? id).map (·.balance) = t₀.balanceLeft commits id
  line : ∀ id, t₀.line? id = none → (∀ a ∈ commits, a.line.id ≠ id) → t.line? id = none
  follows : ∀ before a after, commits = before ++ a :: after → a.Follows t₀ before

theorem Applied.sumOn_append (row : Applied → Uuid) (commits : List Applied) (a : Applied)
    (id : Uuid) :
    sumOn row (commits ++ [a]) id = sumOn row commits id + if row a = id then a.delta else 0 := by
  by_cases h : row a = id <;> simp [sumOn, List.filter_append, h]

theorem Tables.balanceLeft_append (t₀ : Tables) (commits : List Applied) (a : Applied) (id : Uuid) :
    t₀.balanceLeft (commits ++ [a]) id =
      if a.card.id = id then some a.card.balance else t₀.balanceLeft commits id := by
  simp [balanceLeft, List.foldl_append]

namespace Tables

variable {t₀ t t' : Tables} {commits : List Applied} {a : Applied} {held held' : List Uuid}
  {p : Pending}

theorem Accounts.start (t₀ : Tables) : t₀.Accounts [] t₀ where
  card id := by simp [Applied.sumOn]
  cardUser id := by simp [Applied.sumOn]
  left _ := rfl
  line _ h _ := h
  follows before a after h := by simp at h

theorem Accounts.steady (h : t₀.Accounts commits t) (hsteady : t.Steady t') :
    t₀.Accounts commits t' where
  card id := (hsteady.quiet.map_balance id).trans (h.card id)
  cardUser id := (hsteady.map_ownerBalance id).trans (h.cardUser id)
  left id := (hsteady.quiet.map_balance id).trans (h.left id)
  line id hnone hcommits := by
    have hsame : (t'.line? id).map (·.id) = (t.line? id).map (·.id) :=
      map_rowOf?_of_forall₂ (fun _ _ hl => hl.id_eq) (fun _ _ hl => hl.id_eq) hsteady.lines id
    rw [h.line id hnone hcommits] at hsame
    simpa using hsame
  follows := h.follows

end Tables

/-! ## A commit -/

namespace Applied.Commits

variable {α : Type} {t₀ t : Tables} {commits : List Applied} {a : Applied}
  {held held' : List Uuid} {p : Pending}

theorem card?_commit (h : a.Commits held p t) (id : Uuid) :
    (t.commit p).card? id = if a.card.id = id then some a.card else t.card? id := by
  change rowOf? Card.id id (putRows Card.id p.cards t.cards) = _
  rw [h.cards]
  exact rowOf?_putRow a.card id t.cards

theorem cardUser?_commit (h : a.Commits held p t) (id : Uuid) :
    (t.commit p).cardUser? id = if a.cardUser.id = id then some a.cardUser else t.cardUser? id := by
  change rowOf? CardUser.id id (putRows CardUser.id p.cardUsers t.cardUsers) = _
  rw [h.cardUsers]
  exact rowOf?_putRow a.cardUser id t.cardUsers

theorem line?_commit (h : a.Commits held p t) (id : RowId) :
    (t.commit p).line? id = if a.line.id = id then some a.line else t.line? id := by
  change rowOf? Line.id id (putRows Line.id p.lines t.lines) = _
  rw [h.lines]
  exact rowOf?_putRow a.line id t.lines

theorem spares (h : a.Commits held p t) (hapart : ∀ id ∈ held', id ∉ held) :
    t.Spares held' (t.commit p) where
  card id hid := by
    rw [h.card?_commit, if_neg]
    rintro rfl
    exact hapart _ hid h.card_held
  cardUser id hid := by
    rw [h.cardUser?_commit, if_neg]
    rintro rfl
    exact hapart _ hid h.owner_held
  line id hid := by
    rw [h.line?_commit] at hid
    split at hid
    · cases hid
    · exact hid

theorem follows (h : a.Commits held p t) (ht : t₀.Accounts commits t) :
    a.Follows t₀ commits where
  balance := (ht.left a.card.id).symm.trans h.balance
  snapshots hmoves := by
    rw [← ht.left, h.balance]
    exact h.snapshots (hmoves.imp_left fun hmakes => ht.line _ hmakes.1 hmakes.2)

theorem map_add_of_before {row? : Option α} {balance : α → Int} {sum delta n : Int}
    (h : row?.map (balance · + sum) = some (n - delta)) :
    row?.map (balance · + (sum + delta)) = some n := by
  cases row? with
  | none => cases h
  | some row =>
    have hn := Option.some.inj h
    exact congrArg some (by dsimp only at hn ⊢; omega)

theorem accounts (h : a.Commits held p t) (ht : t₀.Accounts commits t) :
    t₀.Accounts (commits ++ [a]) (t.commit p) where
  card id := by
    rw [h.card?_commit]
    split
    next hid =>
      -- The row is put as it is, but its balance was counted from the one it replaces.
      rw [Applied.sumOn_append, if_pos hid]
      exact (map_add_of_before ((ht.card id).symm.trans (hid ▸ h.balance))).symm
    next hid => simp only [Applied.sumOn_append, if_neg hid, Int.add_zero, ht.card]
  cardUser id := by
    rw [h.cardUser?_commit]
    split
    next hid =>
      rw [Applied.sumOn_append, if_pos hid]
      exact (map_add_of_before ((ht.cardUser id).symm.trans (hid ▸ h.ownerBalance))).symm
    next hid => simp only [Applied.sumOn_append, if_neg hid, Int.add_zero, ht.cardUser]
  left id := by
    rw [h.card?_commit, Tables.balanceLeft_append, ← ht.left]
    split <;> rfl
  line id hnone hcommits := by
    have hne : a.line.id ≠ id := hcommits a (by simp)
    rw [h.line?_commit, if_neg hne]
    exact ht.line id hnone fun b hb => hcommits b (by simp [hb])
  follows before b after hsplit := by
    -- The commit is the new one, or it is an earlier one and the new one comes after it.
    rcases List.eq_nil_or_concat after with rfl | ⟨rest, c, rfl⟩
    · obtain ⟨rfl, hlast⟩ := List.append_inj' hsplit rfl
      obtain rfl := List.singleton_inj.mp hlast
      exact h.follows ht
    · have hsplit' : commits ++ [a] = (before ++ b :: rest) ++ [c] := by simpa using hsplit
      exact ht.follows before b rest (List.append_inj' hsplit' rfl).1

end Applied.Commits
end PrepaidLedger
