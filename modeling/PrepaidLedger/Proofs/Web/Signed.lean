import Mathlib.Data.Bool.AllAny
import PrepaidLedger.Proofs.Specimen
import PrepaidLedger.Proofs.Text.Digits
import PrepaidLedger.Proofs.Text.LowerCase
import PrepaidLedger.Proofs.Text.Trimming
import PrepaidLedger.Web.App

/-! Signed requests. A header signs a body if it holds the keyed hash of its bytes in hexadecimal
digits, between blanks and maybe after the name of the hash. Only a request with such a header gets
to the engine, and what the engine reads is the body that was signed. -/

namespace PrepaidLedger

namespace Text

/-! ## Blanks -/

theorem toLower_of_isBlank {c : Char} (h : isBlank c) : c.toLower = c := by
  refine toLower_of_not_capital fun hcapital => ?_
  simp [isBlank, blankRanges] at h
  omega

theorem isBlank_of_toLower_mem {c : Char} (h : c.toLower ∈ hexDigits) : isBlank c = false := by
  have hdigits : ∀ c ∈ hexDigits, isBlank c = false := List.all_iff_forall_prop.mp (by decide)
  by_contra hblank
  rw [Bool.not_eq_false] at hblank
  rw [toLower_of_isBlank hblank] at h
  rw [hdigits c h] at hblank
  cases hblank

end Text

/-! ## Signatures -/

namespace Signature

variable {secret body : List UInt8} {value : String}

/-- The value holds the digits of the keyed hash of the body, in any case, as they are or after the
name of the scheme, and else nothing but blanks around. -/
def Fits (secret body : List UInt8) (value : String) : Prop :=
  ∃ before named digits after, value.toList = before ++ (named ++ digits) ++ after ∧
    (∀ c ∈ before ++ after, Text.isBlank c) ∧ (named = [] ∨ named = scheme) ∧
    digits.map Char.toLower = Text.hexOfBytes (Digest.hmacSha256 secret body)

theorem verify_eq_true :
    verify secret body value = true ↔
      Text.bytesOfHex? (withoutScheme (Text.trimChars value.toList)) =
        some (Digest.hmacSha256 secret body) := by
  unfold verify digest?
  exact decide_eq_true_iff

theorem withoutScheme_append {named digits : List Char} (hnamed : named = [] ∨ named = scheme)
    (hdigits : ∀ c ∈ digits, c.toLower ∈ Text.hexDigits) :
    withoutScheme (named ++ digits) = digits := by
  -- The name of the scheme is taken off once, and stands before nothing that is made of
  -- digits.
  unfold withoutScheme
  rcases hnamed with rfl | rfl
  · rw [List.nil_append, if_neg]
    intro hprefix
    obtain ⟨rest, rfl⟩ := List.isPrefixOf_iff_prefix.mp hprefix
    exact absurd (hdigits 's' (List.mem_append_left _ (by decide))) (by decide)
  · rw [if_pos (List.isPrefixOf_iff_prefix.mpr (List.prefix_append ..)), List.drop_left]

theorem exists_withoutScheme (cs : List Char) :
    ∃ named, cs = named ++ withoutScheme cs ∧ (named = [] ∨ named = scheme) := by
  unfold withoutScheme
  split
  next h =>
    obtain ⟨rest, rfl⟩ := List.isPrefixOf_iff_prefix.mp h
    exact ⟨scheme, by rw [List.drop_left], .inr rfl⟩
  · exact ⟨[], rfl, .inl rfl⟩

theorem verify_iff_fits : verify secret body value = true ↔ Fits secret body value := by
  rw [verify_eq_true, Text.bytesOfHex?_eq_some]
  constructor
  · intro h
    obtain ⟨before, after, hvalue, hblank⟩ := Text.exists_trimChars value.toList
    obtain ⟨named, htrimmed, hnamed⟩ := exists_withoutScheme (Text.trimChars value.toList)
    rw [htrimmed] at hvalue
    exact ⟨before, named, _, after, hvalue, hblank, hnamed, h⟩
  · rintro ⟨before, named, digits, after, hvalue, hblank, hnamed, hdigits⟩
    have hhex : ∀ c ∈ digits, c.toLower ∈ Text.hexDigits := by
      intro c hc
      have hmem : c.toLower ∈ digits.map Char.toLower := List.mem_map_of_mem hc
      rw [hdigits] at hmem
      exact Text.mem_hexDigits_of_mem_hexOfBytes hmem
    have hscheme : ∀ c ∈ scheme, Text.isBlank c = false :=
      List.all_iff_forall_prop.mp (by decide)
    have hcore : ∀ c ∈ named ++ digits, Text.isBlank c = false := by
      intro c hc
      rcases List.mem_append.mp hc with hc | hc
      · rcases hnamed with rfl | rfl
        · cases hc
        · exact hscheme c hc
      · exact Text.isBlank_of_toLower_mem (hhex c hc)
    rw [hvalue, Text.trimChars_append hblank hcore, withoutScheme_append hnamed hhex]
    exact hdigits

theorem Fits.length_le (h : Fits secret body value) : 64 ≤ value.length := by
  -- A digest has thirty-two bytes, so nothing shorter than their digits fits.
  obtain ⟨before, named, digits, after, hvalue, -, -, hdigits⟩ := h
  have hlength := congrArg List.length hdigits
  rw [List.length_map, Text.length_hexOfBytes, Digest.length_hmacSha256] at hlength
  rw [← String.length_toList, hvalue]
  simp only [List.length_append, hlength]
  omega

theorem fits_ofBody (secret body : List UInt8) : Fits secret body (ofBody secret body) :=
  ⟨[], scheme, Text.hexOfBytes (Digest.hmacSha256 secret body), [],
    by rw [ofBody, String.toList_ofList, List.nil_append, List.append_nil], by simp, .inr rfl,
    Text.map_toLower_hexOfBytes _⟩

end Signature

/-! ## Requests -/

namespace Web

def HttpRequest.signature? (r : HttpRequest) : Option String :=
  (r.header? "signature").filter isHeaderText

def HttpRequest.IsReadable (r : HttpRequest) : Prop :=
  r.body.length ≤ maxBodyBytes ∧ r.breakOff? = none

instance (r : HttpRequest) : Decidable r.IsReadable :=
  inferInstanceAs (Decidable (r.body.length ≤ maxBodyBytes ∧ r.breakOff? = none))

/-- The request has a textual signature and a body that can be read, and the one fits the other. -/
def HttpRequest.IsSigned (secret : List UInt8) (r : HttpRequest) : Prop :=
  ∃ value, r.signature? = some value ∧ r.IsReadable ∧ Signature.Fits secret r.body value

variable {secret : List UInt8} {r : HttpRequest}

theorem wholeBody_of_isReadable (h : r.IsReadable) : r.wholeBody = .ok r.body := by
  unfold HttpRequest.wholeBody
  rw [if_neg (Nat.not_lt.mpr h.1), h.2]

theorem wholeBody_of_not_isReadable (h : ¬ r.IsReadable) :
    ∃ detail, r.wholeBody = .error (.invalidRequest detail) := by
  unfold HttpRequest.wholeBody
  split
  · exact ⟨_, rfl⟩
  next hlength =>
    cases hbreak : r.breakOff? with
    | some detail => exact ⟨_, rfl⟩
    | none => exact absurd ⟨Nat.not_lt.mp hlength, hbreak⟩ h

theorem signedBody_eq :
    signedBody secret r =
      match r.signature? with
      | none => .error .invalidSignature
      | some value => r.wholeBody.bind fun body =>
        if Signature.verify secret body value then .ok body else .error .invalidSignature := by
  -- First the signature has to be there, then the body has to be readable, then they have to
  -- fit.
  unfold signedBody HttpRequest.signature?
  cases r.header? "signature" with
  | none => rfl
  | some value =>
    rw [Option.filter_some]
    dsimp only
    cases isHeaderText value <;> rfl

theorem signedBody_of_isSigned (h : r.IsSigned secret) : signedBody secret r = .ok r.body := by
  obtain ⟨value, hvalue, hreadable, hfits⟩ := h
  rw [signedBody_eq, hvalue, wholeBody_of_isReadable hreadable]
  exact if_pos (Signature.verify_iff_fits.mpr hfits)

theorem signedBody_of_not_isSigned (h : ¬ r.IsSigned secret) :
    ∃ e, signedBody secret r = .error e ∧
      e.status = if r.IsReadable ∨ r.signature? = none then 401 else 400 := by
  -- Only a body that cannot be read is found fault with otherwise than with a signature.
  rw [signedBody_eq]
  cases hvalue : r.signature? with
  | none => exact ⟨_, rfl, (if_pos (.inr rfl)).symm⟩
  | some value =>
    by_cases hreadable : r.IsReadable
    · rw [wholeBody_of_isReadable hreadable]
      refine ⟨_, if_neg fun hverify => h ?_, (if_pos (.inl hreadable)).symm⟩
      exact ⟨value, hvalue, hreadable, Signature.verify_iff_fits.mp hverify⟩
    · obtain ⟨detail, hbody⟩ := wholeBody_of_not_isReadable hreadable
      rw [hbody]
      exact ⟨_, rfl, (if_neg fun hor => hor.elim hreadable nofun).symm⟩

theorem isHeaderText_ofBody (secret body : List UInt8) :
    isHeaderText (Signature.ofBody secret body) = true := by
  have hdigits : ∀ c ∈ Signature.scheme ++ Text.hexDigits,
      (c = '\t' || (' ' ≤ c && c ≤ '~')) = true := List.all_iff_forall_prop.mp (by decide)
  refine List.all_eq_true.mpr fun c hc => hdigits c ?_
  rw [Signature.ofBody, String.toList_ofList] at hc
  rcases List.mem_append.mp hc with hc | hc
  · exact List.mem_append_left _ hc
  · exact List.mem_append_right _ (Text.mem_hexDigits_of_mem_hexOfBytes hc)

theorem isSigned_ofBody (h : r.header? "signature" = some (Signature.ofBody secret r.body))
    (hreadable : r.IsReadable) : r.IsSigned secret := by
  refine ⟨_, ?_, hreadable, Signature.fits_ofBody secret r.body⟩
  rw [HttpRequest.signature?, h, Option.filter_some, if_pos (isHeaderText_ofBody secret r.body)]

section Answers

variable {s : Settings} {now : Timestamp}

theorem answer_of_signed {body : List UInt8} (hmethod : r.method = "POST")
    (hpath : r.path = "/webhooks/card-provider") (h : signedBody secret r = .ok body) :
    answer s secret now r = ingest s body := by
  unfold answer
  rw [hpath, h]
  exact if_pos hmethod

theorem answer_of_refused {e : WebError} (hpath : r.path = "/webhooks/card-provider")
    (h : signedBody secret r = .error e) : answer s secret now r = return .ofError e := by
  unfold answer
  rw [hpath, h]
  rfl

end Answers

theorem runIn_respond_post {σ : Type} (B : Backend σ) (C : Collaborators) (w : World σ)
    (s : Settings) (now : Timestamp) (hmethod : r.method = "POST") :
    (respond s secret now r).runIn B C w = (answer s secret now r).runIn B C w := by
  unfold respond
  rw [Program.runIn_bind, if_neg (by rw [hmethod]; decide)]
  rfl

theorem runIn_respond_signed {σ : Type} (B : Backend σ) (C : Collaborators) (w : World σ)
    (s : Settings) (now : Timestamp) (hmethod : r.method = "POST")
    (hpath : r.path = "/webhooks/card-provider") (h : r.IsSigned secret) :
    (respond s secret now r).runIn B C w = (ingest s r.body).runIn B C w := by
  rw [runIn_respond_post B C w s now hmethod,
    answer_of_signed hmethod hpath (signedBody_of_isSigned h)]

theorem runIn_ingest_of_unreadable {σ : Type} (B : Backend σ) (C : Collaborators) (w : World σ)
    (s : Settings) {body : List UInt8} (h : Envelope.ofBytes? body = none) :
    ∃ payload, (ingest s body).runIn B C w = (⟨400, payload⟩, w) := by
  unfold ingest
  rw [h]
  exact ⟨_, rfl⟩

theorem runIn_ingest_of_envelope {σ : Type} (B : Backend σ) (C : Collaborators) (w : World σ)
    (s : Settings) {body : List UInt8} {e : Envelope} (h : Envelope.ofBytes? body = some e) :
    (ingest s body).runIn B C w =
      (match ((dispatch s e).runIn B C w).1 with
        | .ok o => ⟨200, .json o.toJson⟩
        | .error cause => .ofError (.unavailable cause.message),
        ((dispatch s e).runIn B C w).2) := by
  unfold ingest
  rw [h]
  dsimp only
  rw [Program.runIn_bind]
  cases ((dispatch s e).runIn B C w).1 <;> rfl

/-- An event is looked at exactly if its request is signed, and it is read from the signed bytes and
from nothing else. If they are no envelope, they are refused and the world is as it was; otherwise
the world is as the dispatch of that envelope leaves it, and the sender is told the outcome, or that
the service is not available. Any other request is refused, and nothing has come of it: no table is
another and no party outside was asked for anything. -/
theorem only_signed_bodies_are_read (s : Settings) (secret : List UInt8) (now : Timestamp)
    (r : HttpRequest) (hmethod : r.method = "POST") (hpath : r.path = "/webhooks/card-provider") :
    (r.IsSigned secret → ∀ {σ : Type} (B : Backend σ) (C : Collaborators) (w : World σ),
      (Envelope.ofBytes? r.body = none → ∃ response : HttpResponse, response.status = 400 ∧
        (respond s secret now r).runIn B C w = (response, w)) ∧
      ∀ e, Envelope.ofBytes? r.body = some e → ∃ response : HttpResponse,
        (respond s secret now r).runIn B C w = (response, ((dispatch s e).runIn B C w).2) ∧
          (∀ o, ((dispatch s e).runIn B C w).1 = .ok o → response = ⟨200, .json o.toJson⟩) ∧
          ∀ cause, ((dispatch s e).runIn B C w).1 = .error cause → response.status = 503) ∧
    (¬ r.IsSigned secret → ∃ response : HttpResponse,
      (response.status = if r.IsReadable ∨ r.signature? = none then 401 else 400) ∧
        ∀ {σ : Type} (B : Backend σ) (C : Collaborators) (w : World σ),
          (respond s secret now r).runIn B C w = (response, w)) := by
  refine ⟨fun hsigned σ B C w => ?_, fun hunsigned => ?_⟩
  · rw [runIn_respond_signed B C w s now hmethod hpath hsigned]
    refine ⟨fun hnone => ?_, fun e he => ?_⟩
    · obtain ⟨payload, hrun⟩ := runIn_ingest_of_unreadable B C w s hnone
      exact ⟨_, rfl, hrun⟩
    · refine ⟨_, runIn_ingest_of_envelope B C w s he, fun o ho => ?_, fun cause hcause => ?_⟩
      · rw [ho]
      · rw [hcause]
        rfl
  · obtain ⟨e, hbody, hstatus⟩ := signedBody_of_not_isSigned hunsigned
    refine ⟨.ofError e, hstatus, fun B C w => ?_⟩
    rw [runIn_respond_post B C w s now hmethod, answer_of_refused hpath hbody]
    rfl

end Web

namespace Specimen

open Web

def key : List UInt8 := [107, 101, 121]

/-- News of the owner's application, `["e","user","updated",["owner","x"]]`. -/
def newsBytes : List UInt8 :=
  [91, 34, 101, 34, 44, 34, 117, 115, 101, 114, 34, 44, 34, 117, 112, 100, 97, 116, 101, 100, 34,
    44, 91, 34, 111, 119, 110, 101, 114, 34, 44, 34, 120, 34, 93, 93]

def news : Envelope := ⟨"e", "user", "updated", .array ["owner", "x"]⟩

theorem ofBytes?_newsBytes : Envelope.ofBytes? newsBytes = some news := by rfl

theorem dispatch_news :
    let ran := (dispatch settings news).runIn (Memory.backend fun _ => none) refusing world
    (∃ o, ran.1 = .ok o) ∧ ran.2.store.tables.cardUsers.map (·.status) = ["x"] :=
  ⟨⟨_, rfl⟩, rfl⟩

def post (body : List UInt8) (signature : Option String) : HttpRequest where
  method := "POST"
  target := "/webhooks/card-provider"
  headers := (signature.map fun value => ("signature", value)).toList
  body := body

def signedPost (body : List UInt8) : HttpRequest := post body (some (Signature.ofBody key body))

def shortSignature : String :=
  String.ofList ((Text.hexOfBytes (Digest.hmacSha256 key newsBytes)).take 62)

theorem path_post (body : List UInt8) (signature : Option String) :
    (post body signature).path = "/webhooks/card-provider" := by
  unfold HttpRequest.path post
  dsimp only
  decide +kernel

theorem header?_post (body : List UInt8) (signature : Option String) :
    (post body signature).header? "signature" = signature := by
  have hname : Text.sameUpToAsciiCase "signature" "signature" = true := by decide +kernel
  cases signature <;> simp [HttpRequest.header?, post, hname]

theorem isSigned_signedPost {body : List UInt8} (h : body.length ≤ maxBodyBytes) :
    (signedPost body).IsSigned key :=
  isSigned_ofBody (header?_post body _) ⟨h, rfl⟩

theorem not_isSigned_shortPost : ¬ (post newsBytes (some shortSignature)).IsSigned key := by
  rintro ⟨value, hvalue, -, hfits⟩
  rw [HttpRequest.signature?, header?_post] at hvalue
  obtain ⟨hsome, -⟩ := Option.filter_eq_some_iff.mp hvalue
  have hlength := hfits.length_le
  rw [← Option.some.inj hsome, shortSignature, String.length_ofList, List.length_take] at hlength
  omega

end Specimen

/-- Signed news are carried out. They are not if the signature is missing or too short, and what is
signed but no envelope is not looked at either. -/
theorem signature_makes_the_difference :
    let answered (r : Web.HttpRequest) :=
      (Web.respond Specimen.settings Specimen.key ⟨0⟩ r).runIn (Memory.backend fun _ => none)
        Specimen.refusing Specimen.world
    let signed := Specimen.signedPost Specimen.newsBytes
    let bare := Specimen.post Specimen.newsBytes none
    let short := Specimen.post Specimen.newsBytes (some Specimen.shortSignature)
    let odd := Specimen.signedPost [91, 93]
    signed.IsSigned Specimen.key ∧ ¬ bare.IsSigned Specimen.key ∧
      ¬ short.IsSigned Specimen.key ∧ odd.IsSigned Specimen.key ∧
      (answered signed).1.status = 200 ∧
      (answered signed).2.store.tables.cardUsers.map (·.status) = ["x"] ∧
      (∃ response, response.status = 401 ∧ answered bare = (response, Specimen.world)) ∧
      (∃ response, response.status = 401 ∧ answered short = (response, Specimen.world)) ∧
      ∃ response, response.status = 400 ∧ answered odd = (response, Specimen.world) := by
  intro answered signed bare short odd
  have hsigned : signed.IsSigned Specimen.key := Specimen.isSigned_signedPost (by decide)
  have hbare : ¬ bare.IsSigned Specimen.key := fun ⟨_, hvalue, _⟩ => nomatch hvalue
  have hshort : ¬ short.IsSigned Specimen.key := Specimen.not_isSigned_shortPost
  have hodd : odd.IsSigned Specimen.key := Specimen.isSigned_signedPost (by decide)
  have hread (body : List UInt8) (signature : Option String) :=
    Web.only_signed_bodies_are_read Specimen.settings Specimen.key ⟨0⟩
      (Specimen.post body signature) rfl (Specimen.path_post body signature)
  obtain ⟨response, hrun, hok, -⟩ := ((hread _ _).1 hsigned (Memory.backend fun _ => none)
    Specimen.refusing Specimen.world).2 _ Specimen.ofBytes?_newsBytes
  obtain ⟨⟨o, ho⟩, hstatus⟩ := Specimen.dispatch_news
  obtain ⟨refusal, hrefusal, hleft⟩ := (hread _ _).2 hbare
  obtain ⟨refusal', hrefusal', hleft'⟩ := (hread _ _).2 hshort
  have hanswered : answered signed = (response, _) := hrun
  refine ⟨hsigned, hbare, hshort, hodd, ?_, ?_, ⟨refusal, hrefusal, hleft ..⟩,
    ⟨refusal', hrefusal', hleft' ..⟩, ?_⟩
  · rw [hanswered, hok o ho]
  · rw [hanswered]
    exact hstatus
  · exact ((hread _ _).1 hodd ..).1 rfl

end PrepaidLedger
