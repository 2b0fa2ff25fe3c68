import PrepaidLedger.Card.Decline
import PrepaidLedger.Proofs.Text.LowerCase

/-! Reasons that tell of missing funds. They are searched in full lower case, which for the phrases
that are looked for is no different from a search that only passes over the case of ASCII letters.
-/

namespace PrepaidLedger

theorem occursIn_iff {part whole : List Char} : occursIn part whole = true ↔ part <:+: whole := by
  induction whole with
  | nil => simp [occursIn]
  | cons c whole ih =>
    rw [occursIn, Bool.or_eq_true, ih, List.isPrefixOf_iff_prefix, ← List.infix_cons_iff]

/-- The phrase stands in the text without a gap, whatever the case of its ASCII letters. -/
def Mentions (phrase text : String) : Prop :=
  ∃ before part after, text = before ++ part ++ after ∧ Text.sameUpToAsciiCase part phrase = true

variable {phrase text : String}

theorem mentions_iff :
    Mentions phrase text ↔ phrase.toList.map Char.toLower <:+: text.toList.map Char.toLower := by
  constructor
  · rintro ⟨before, part, after, rfl, hsame⟩
    rw [← Text.sameUpToAsciiCase_iff.mp hsame]
    refine List.IsInfix.map Char.toLower ⟨before.toList, after.toList, ?_⟩
    rw [String.toList_append, String.toList_append]
  · intro h
    obtain ⟨part, ⟨before, after, hsplit⟩, hpart⟩ := List.infix_map_iff.mp h
    refine ⟨String.ofList before, String.ofList part, String.ofList after, ?_, ?_⟩
    · rw [← String.toList_inj, ← hsplit]
      simp
    · rw [Text.sameUpToAsciiCase_iff, hpart, String.toList_ofList]

theorem Mentions.congr {text' : String} (h : Text.sameUpToAsciiCase text text' = true) :
    Mentions phrase text' ↔ Mentions phrase text := by
  rw [mentions_iff, mentions_iff, Text.sameUpToAsciiCase_iff.mp h]

theorem Mentions.between (h : Mentions phrase text) (before after : String) :
    Mentions phrase (before ++ text ++ after) := by
  rw [mentions_iff] at h ⊢
  rw [String.toList_append, String.toList_append, List.map_append, List.map_append]
  exact h.trans ⟨_, _, rfl⟩

theorem isSought_of_mem (h : phrase ∈ insufficientFundsPhrases) :
    Text.IsSought phrase.toList ∧ phrase.toList.map Char.toLower = phrase.toList := by
  have hall : ∀ phrase ∈ insufficientFundsPhrases, phrase.toList.all (decide <| Text.IsPlain ·) :=
    List.all_eq_true.mp (by decide)
  have hlast : ∀ phrase ∈ insufficientFundsPhrases, phrase.toList.getLast? ≠ some 'i' :=
    List.all_iff_forall_prop.mp (by decide)
  have hplain : ∀ c ∈ phrase.toList, Text.IsPlain c := List.all_iff_forall_prop.mp (hall phrase h)
  refine ⟨⟨hplain, hlast phrase h⟩, ?_⟩
  exact (List.map_congr_left fun c hc => (hplain c hc).small).trans (List.map_id _)

theorem isInsufficientFunds_iff {reason : String} :
    isInsufficientFunds (some reason) = true ↔
      ∃ phrase ∈ insufficientFundsPhrases, Mentions phrase reason := by
  unfold isInsufficientFunds tellsOfMissingFunds Text.lowerCase
  rw [Option.any_some, List.any_eq_true]
  refine exists_congr fun phrase => and_congr_right fun hmem => ?_
  obtain ⟨hsought, hsmall⟩ := isSought_of_mem hmem
  rw [occursIn_iff, String.toList_ofList, Text.infix_lowerFrom_iff hsought, mentions_iff, hsmall]

/-- A reason tells of missing funds if it mentions one of the two phrases, whatever the case of the
ASCII letters. So it does in any case of them, and with any text around it. -/
theorem missing_funds_told_in_any_case (reason : String) :
    (isInsufficientFunds (some reason) = true ↔
      Mentions "insufficient funds" reason ∨ Mentions "credit limit exceeded" reason) ∧
    (∀ reason', Text.sameUpToAsciiCase reason reason' = true →
      isInsufficientFunds (some reason') = isInsufficientFunds (some reason)) ∧
    (isInsufficientFunds (some reason) = true →
      ∀ before after, isInsufficientFunds (some (before ++ reason ++ after)) = true) := by
  refine ⟨?_, fun reason' hsame => ?_, fun htells before after => ?_⟩
  · rw [isInsufficientFunds_iff]
    simp [insufficientFundsPhrases]
  · rw [Bool.eq_iff_iff, isInsufficientFunds_iff, isInsufficientFunds_iff]
    simp only [Mentions.congr hsame]
  · obtain ⟨phrase, hmem, hmentions⟩ := isInsufficientFunds_iff.mp htells
    exact isInsufficientFunds_iff.mpr ⟨phrase, hmem, hmentions.between before after⟩

/-- Neither a capital I with a dot before the phrase nor a final sigma behind it makes a difference.
-/
theorem loud_reason_told_between_others :
    let reason := "Declined: CREDIT Limit Exceeded"
    let around := "\u0130" ++ reason ++ "\u0391\u03A3"
    isInsufficientFunds (some reason) = true ∧
      Text.sameUpToAsciiCase reason "dECLINED: credit lIMIT eXCEEDED" = true ∧
      isInsufficientFunds (some "dECLINED: credit lIMIT eXCEEDED") = true ∧
      isInsufficientFunds (some around) = true := by
  intro reason around
  obtain ⟨hiff, hcase, haround⟩ := missing_funds_told_in_any_case reason
  have hmentions : Mentions "credit limit exceeded" reason :=
    ⟨"Declined: ", "CREDIT Limit Exceeded", "", by decide, by decide⟩
  have htold := hiff.mpr (.inr hmentions)
  have hsame : Text.sameUpToAsciiCase reason "dECLINED: credit lIMIT eXCEEDED" = true := by decide
  exact ⟨htold, hsame, (hcase _ hsame).trans htold, haround htold _ _⟩

example : isInsufficientFunds (some "\u0130NSUFFICIENT FUNDS") = false := by decide +kernel

end PrepaidLedger
