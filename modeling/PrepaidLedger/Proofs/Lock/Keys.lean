import PrepaidLedger.Proofs.Lock.Order
import PrepaidLedger.Proofs.Text.Digits

/-! Names of locks. The reference in the middle of a name is any text, and may look like the rest of
one; but the identifiers around it have a fixed width, so a name is that of one transaction and one
card only. -/

namespace PrepaidLedger

namespace LockKey

variable {user user' card card' : Uuid} {reference reference' : String}

theorem toList_ofTransaction (user : Uuid) (reference : String) (card : Uuid) :
    (ofTransaction user reference card).text.toList =
      (tag ++ ":").toList ++ (user.chars ++ (':' :: reference.toList ++ (':' :: card.chars))) := by
  simp [ofTransaction, Uuid.text]

theorem ofTransaction_inj :
    ofTransaction user reference card = ofTransaction user' reference' card' ↔
      user = user' ∧ reference = reference' ∧ card = card' := by
  constructor
  · intro h
    have htext := congrArg (fun key => key.text.toList) h
    simp only [toList_ofTransaction] at htext
    have hrest := List.append_cancel_left htext
    obtain ⟨huser, hrest⟩ := List.append_inj hrest (user.length_chars.trans user'.length_chars.symm)
    obtain ⟨hreference, hcard⟩ := List.append_inj' hrest rfl
    refine ⟨Uuid.chars_injective huser, String.toList_inj.mp (List.cons.inj hreference).2, ?_⟩
    exact Uuid.chars_injective (List.cons.inj hcard).2
  · rintro ⟨rfl, rfl, rfl⟩
    rfl

end LockKey

namespace Crowd

theorem mutex_eq_iff_of_keys {c : Crowd} (h : c.Kept) {g g' : Grip} (hg : g ∈ c.grips)
    (hg' : g' ∈ c.grips) {user user' card card' : Uuid} {reference reference' : String}
    (hkey : g.key = .ofTransaction user reference card)
    (hkey' : g'.key = .ofTransaction user' reference' card') :
    g.mutex = g'.mutex ↔ user = user' ∧ reference = reference' ∧ card = card' := by
  rw [← h.referring.key_eq_iff hg hg', hkey, hkey', LockKey.ofTransaction_inj]

end Crowd

/-- A lock's name is that of one user, one transaction and one card, whatever the reference of the
transaction looks like. So however many people move at however many keys, two of them have found,
hold or wait for one mutex exactly if they have come for the same user, transaction and card. -/
theorem lock_names_keep_transactions_apart (user user' card card' : Uuid)
    (reference reference' : String) :
    ((LockKey.ofTransaction user reference card).text =
        (LockKey.ofTransaction user' reference' card').text ↔
      user = user' ∧ reference = reference' ∧ card = card') ∧
    (∀ moves, ∀ g ∈ (Crowd.empty.after moves).grips, ∀ g' ∈ (Crowd.empty.after moves).grips,
      g.key = .ofTransaction user reference card → g'.key = .ofTransaction user' reference' card' →
        (g.mutex = g'.mutex ↔ user = user' ∧ reference = reference' ∧ card = card')) ∧
    Uuid.IsHyphenated user.text := by
  refine ⟨?_, fun moves g hg g' hg' hkey hkey' => ?_, user.isHyphenated_text⟩
  · rw [← LockKey.ofTransaction_inj, LockKey.mk.injEq]
  · exact Crowd.mutex_eq_iff_of_keys (Crowd.kept_after moves) hg hg' hkey hkey'

/-- The reference of the second goes on like the name of the first, and neither waits; the third has
come for what the first holds. -/
theorem look_alike_reference_shares_no_mutex :
    let card : Uuid := ⟨7⟩
    let plain := LockKey.ofTransaction .nil "tx" card
    let alike := LockKey.ofTransaction .nil ("tx:" ++ card.text ++ ":card-ledger") card
    let c := Crowd.empty.after
      [.find "first" plain, .join "first", .find "second" alike, .join "second",
        .find "third" plain, .join "third"]
    ∃ g ∈ c.grips, ∃ g' ∈ c.grips, g.key = plain ∧ g'.key = alike ∧ g.mutex ≠ g'.mutex ∧
      c.locks.waiters.map (·.who) = ["third"] := by
  intro card plain alike c
  have hg : ⟨"first", plain, 0⟩ ∈ c.grips := by decide +kernel
  have hg' : ⟨"second", alike, 1⟩ ∈ c.grips := by decide +kernel
  obtain ⟨-, happart, -⟩ := lock_names_keep_transactions_apart .nil .nil card card "tx"
    ("tx:" ++ card.text ++ ":card-ledger")
  refine ⟨_, hg, _, hg', rfl, rfl, fun hmutex => ?_, by decide +kernel⟩
  have hsame := ((happart _ _ hg _ hg' rfl rfl).mp hmutex).2.1
  exact absurd hsame (by decide +kernel)

end PrepaidLedger
