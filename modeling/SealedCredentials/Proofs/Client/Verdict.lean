import SealedCredentials.Client.Basic
import SealedCredentials.Proofs.Agreement.KeyPair
import SealedCredentials.Proofs.Channel.Alone
import SealedCredentials.Proofs.Http.Outcome

/-!
# What a response to a key exchange means

A response is taken through three layers: the text of its body is an object that offers a public
value or refuses, or it is neither; its status says what an unreadable body means; and an offered
value is one in range, one out of range, or no number.  `Verdict.Applies` writes the cases down as
they can be read off the text and the status.  Exactly one applies to every response
(`Verdict.applies_iff`), and the first call on a channel ends with what it means
(`Config.exchange_classified`).
-/

set_option autoImplicit false

namespace SealedCredentials

open Agreement Arithmetic

/-! ## Replies -/

namespace Message.Reply

/-- A text is an object that offers a public value. -/
def Offers (text offered : String) : Prop :=
  ∃ members, Json.Value.parse text = .ok (.object members) ∧
    members.lookup "serverPublic" = some (.text offered)

/-- A text is an object that names no public value and says `false` of its success, with a reason
or without one. -/
def Refuses (text reason : String) : Prop :=
  ∃ members, Json.Value.parse text = .ok (.object members) ∧
    members.lookup "serverPublic" = none ∧ members.lookup "success" = some (.bool false) ∧
    (members.lookup "message" = some (.text reason) ∨
      reason = "" ∧ (members.lookup "message" = none ∨ members.lookup "message" = some .null))

variable {text : String} {members : List (String × Json.Value)}

/-- What an object offers is accepted, and nothing else is. -/
theorem ofMembers_eq_accepted_iff {offered : String} :
    ofMembers members = .ok (.accepted offered) ↔
      members.lookup "serverPublic" = some (.text offered) := by
  unfold ofMembers
  cases members.lookup "serverPublic" with
  | some value => cases value <;> simp
  | none =>
    simp only [reduceCtorEq, iff_false]
    split
    · split <;> simp
    · simp

/-- An object refuses in three ways only. -/
theorem ofMembers_eq_rejected_iff {reason : String} :
    ofMembers members = .ok (.rejected reason) ↔
      members.lookup "serverPublic" = none ∧ members.lookup "success" = some (.bool false) ∧
        (members.lookup "message" = some (.text reason) ∨
          reason = "" ∧
            (members.lookup "message" = none ∨ members.lookup "message" = some .null)) := by
  unfold ofMembers
  cases members.lookup "serverPublic" with
  | some value => cases value <;> simp
  | none =>
    simp only [true_and]
    split
    next failed =>
      simp only [failed, true_and]
      cases members.lookup "message" with
      | none => simp [eq_comm]
      | some value => cases value <;> simp [eq_comm]
    next unfailed =>
      constructor
      · intro impossible
        cases impossible
      · rintro ⟨failed, -⟩
        exact absurd failed unfailed

/-- What is no object is no reply, and of an object the members decide. -/
theorem parse_eq_ok_iff {reply : Reply} :
    parse text = .ok reply ↔
      ∃ members, Json.Value.parse text = .ok (.object members) ∧ ofMembers members = .ok reply := by
  unfold parse parseObject parseValue
  cases Json.Value.parse text with
  | error cause => simp [bind, Except.bind]
  | ok value =>
    cases value <;>
      simp [bind, Except.bind, pure, Except.pure, throw, throwThe, MonadExceptOf.throw]

theorem parse_eq_accepted_iff {offered : String} :
    parse text = .ok (.accepted offered) ↔ Offers text offered := by
  simp only [parse_eq_ok_iff, ofMembers_eq_accepted_iff, Offers]

theorem parse_eq_rejected_iff {reason : String} :
    parse text = .ok (.rejected reason) ↔ Refuses text reason := by
  simp only [parse_eq_ok_iff, ofMembers_eq_rejected_iff, Refuses]

/-- A text that neither offers nor refuses is no reply. -/
theorem parse_eq_error (unoffered : ∀ offered, ¬Offers text offered)
    (unrefused : ∀ reason, ¬Refuses text reason) : ∃ fault, parse text = .error fault := by
  cases read : parse text with
  | error fault => exact ⟨fault, rfl⟩
  | ok reply =>
    cases reply with
    | accepted offered => exact absurd (parse_eq_accepted_iff.mp read) (unoffered offered)
    | rejected reason => exact absurd (parse_eq_rejected_iff.mp read) (unrefused reason)

end Message.Reply

namespace Client

/-! ## Verdicts -/

/-- What a response to a key exchange can be. -/
inductive Verdict where
  /-- An offer of a public value in range. -/
  | agreed (peer : Nat)
  /-- An offer of a number out of range. -/
  | strayed (peer : Nat)
  /-- An offer of something that is no number. -/
  | garbled
  | refused (reason : String)
  /-- Neither an offer nor a refusal, though the status means success. -/
  | unreadable
  /-- Neither an offer nor a refusal, and the status does not mean success. -/
  | failed

namespace Verdict

/-- When a response of a status and a text is what a verdict says, to a channel over a modulus. -/
inductive Applies (modulus status : Nat) (text : String) : Verdict → Prop where
  | agreed {offered : String} {peer : Nat} (offers : Message.Reply.Offers text offered)
      (spells : Decimal.Spells offered peer) (inside : 2 ≤ peer ∧ peer ≤ modulus - 2) :
      Applies modulus status text (.agreed peer)
  | strayed {offered : String} {peer : Nat} (offers : Message.Reply.Offers text offered)
      (spells : Decimal.Spells offered peer) (outside : ¬(2 ≤ peer ∧ peer ≤ modulus - 2)) :
      Applies modulus status text (.strayed peer)
  | garbled {offered : String} (offers : Message.Reply.Offers text offered)
      (unspelled : ∀ peer, ¬Decimal.Spells offered peer) :
      Applies modulus status text .garbled
  | refused {reason : String} (refuses : Message.Reply.Refuses text reason) :
      Applies modulus status text (.refused reason)
  | unreadable (unoffered : ∀ offered, ¬Message.Reply.Offers text offered)
      (unrefused : ∀ reason, ¬Message.Reply.Refuses text reason)
      (success : 200 ≤ status ∧ status < 300) : Applies modulus status text .unreadable
  | failed (unoffered : ∀ offered, ¬Message.Reply.Offers text offered)
      (unrefused : ∀ reason, ¬Message.Reply.Refuses text reason)
      (failure : ¬(200 ≤ status ∧ status < 300)) : Applies modulus status text .failed

/-- The end of an attempt that a verdict stands for.  Only the wording of a malformed reply is left
open. -/
def Means (pair : KeyPair) (status : Nat) : Verdict → Channel.Outcome → Prop
  | agreed peer, outcome =>
    outcome = .ok (.ofSecret ⟨peer ^ pair.exponent % pair.parameters.modulus⟩)
  | strayed _, outcome => outcome = .error .peerValue
  | garbled, outcome => ∃ wording, outcome = .error (.malformed wording)
  | refused reason, outcome => outcome = .error (.rejected reason)
  | unreadable, outcome => ∃ wording, outcome = .error (.malformed wording)
  | failed, outcome =>
    outcome = .error
      (.transport ("HTTP " ++ Http.statusText status ++ " from key exchange endpoint"))

/-- The verdict on a response. -/
def classify (modulus status : Nat) (text : String) : Verdict :=
  match Message.Reply.parse text with
  | .ok (.accepted offered) =>
    match Decimal.parse offered with
    | .ok peer => if 2 ≤ peer ∧ peer ≤ modulus - 2 then .agreed peer else .strayed peer
    | .error _ => .garbled
  | .ok (.rejected reason) => .refused reason
  | .error _ => if Http.isSuccess status then .unreadable else .failed

variable {modulus status : Nat} {text : String}

theorem applies_classify : (classify modulus status text).Applies modulus status text := by
  unfold classify
  cases read : Message.Reply.parse text with
  | error fault =>
    have unoffered (offered : String) : ¬Message.Reply.Offers text offered := by
      rw [← Message.Reply.parse_eq_accepted_iff, read]
      exact fun impossible => by cases impossible
    have unrefused (reason : String) : ¬Message.Reply.Refuses text reason := by
      rw [← Message.Reply.parse_eq_rejected_iff, read]
      exact fun impossible => by cases impossible
    by_cases success : Http.isSuccess status = true
    · simp only [success, if_true]
      exact .unreadable unoffered unrefused (Http.isSuccess_iff.mp success)
    · simp only [success, Bool.false_eq_true, if_false]
      exact .failed unoffered unrefused fun inside => success (Http.isSuccess_iff.mpr inside)
  | ok reply =>
    cases reply with
    | rejected reason => exact .refused (Message.Reply.parse_eq_rejected_iff.mp read)
    | accepted offered =>
      have offers := Message.Reply.parse_eq_accepted_iff.mp read
      cases spelled : Decimal.parse offered with
      | error fault =>
        have unspelled (peer : Nat) : ¬Decimal.Spells offered peer := by
          rw [← Decimal.parse_eq_ok_iff, spelled]
          exact fun impossible => by cases impossible
        simp only [spelled]
        exact .garbled offers unspelled
      | ok peer =>
        have spells := Decimal.parse_eq_ok_iff.mp spelled
        by_cases inside : 2 ≤ peer ∧ peer ≤ modulus - 2
        · simp only [spelled, inside, and_self, if_true]
          exact .agreed offers spells inside
        · simp only [spelled, inside, if_false]
          exact .strayed offers spells inside

/-- **The cases are exclusive.** -/
theorem Applies.eq_classify {verdict : Verdict} (applies : verdict.Applies modulus status text) :
    verdict = classify modulus status text := by
  unfold classify
  cases applies with
  | agreed offers spells inside =>
    simp only [Message.Reply.parse_eq_accepted_iff.mpr offers, Decimal.parse_eq_ok_iff.mpr spells,
      inside, and_self, if_true]
  | strayed offers spells outside =>
    simp only [Message.Reply.parse_eq_accepted_iff.mpr offers, Decimal.parse_eq_ok_iff.mpr spells,
      outside, if_false]
  | @garbled offered offers unspelled =>
    cases spelled : Decimal.parse offered with
    | error fault => simp only [Message.Reply.parse_eq_accepted_iff.mpr offers, spelled]
    | ok peer => exact absurd (Decimal.parse_eq_ok_iff.mp spelled) (unspelled peer)
  | refused refuses => rw [Message.Reply.parse_eq_rejected_iff.mpr refuses]
  | unreadable unoffered unrefused success =>
    obtain ⟨fault, read⟩ := Message.Reply.parse_eq_error unoffered unrefused
    simp only [read, Http.isSuccess_iff.mpr success, if_true]
  | failed unoffered unrefused failure =>
    obtain ⟨fault, read⟩ := Message.Reply.parse_eq_error unoffered unrefused
    simp only [read, Http.isSuccess_iff, failure, if_false]

/-- **Exactly one verdict applies to a response.** -/
theorem applies_iff {verdict : Verdict} :
    verdict.Applies modulus status text ↔ verdict = classify modulus status text := by
  constructor
  · exact Applies.eq_classify
  · rintro rfl
    exact applies_classify

/-- **The end of an attempt is what the verdict on the response stands for.** -/
theorem means_classify (config : Channel.Config) (response : Http.Response) :
    (classify config.pair.parameters.modulus response.head.status response.text).Means config.pair
      response.head.status (config.conclude response.reply) := by
  unfold classify Http.Response.reply
  cases Message.Reply.parse response.text with
  | error fault =>
    by_cases success : Http.isSuccess response.head.status = true
    · simp only [success, if_true]
      exact ⟨_, rfl⟩
    · simp only [success, Bool.false_eq_true, if_false]
      rfl
  | ok reply =>
    cases reply with
    | rejected reason => rfl
    | accepted offered =>
      simp only [Channel.Config.conclude, KeyPair.shareText, readInteger]
      cases Decimal.parse offered with
      | error fault => exact ⟨_, rfl⟩
      | ok peer =>
        by_cases inside : 2 ≤ peer ∧ peer ≤ config.pair.parameters.modulus - 2
        · simp only [KeyPair.share_eq, (Parameters.isPublic_iff _ peer).mpr inside, inside,
            and_self, if_true, powerMod_eq]
          rfl
        · simp only [KeyPair.share_eq, Parameters.isPublic_iff, inside, if_false]
          rfl

/-- Only an agreement stands for a key. -/
theorem Means.isOk_iff {verdict : Verdict} {pair : KeyPair} {outcome : Channel.Outcome}
    (means : verdict.Means pair status outcome) :
    outcome.isOk = true ↔ ∃ peer, verdict = .agreed peer := by
  cases verdict with
  | agreed peer =>
    cases means
    exact ⟨fun _ => ⟨peer, rfl⟩, fun _ => rfl⟩
  | strayed peer | refused reason | failed =>
    cases means
    simp [Except.isOk, Except.toBool]
  | garbled | unreadable =>
    obtain ⟨wording, rfl⟩ := means
    simp [Except.isOk, Except.toBool]

end Verdict

/-! ## The first call -/

namespace Config

/-- The request of every key exchange of a client. -/
def post (config : Config) : Http.Request := ⟨config.keyExchange, config.channel.request.write⟩

/-- A response that comes back within the limit of a request is what the channel gets. -/
theorem transport_of_arrived (config : Config) {wire : Http.Wire} {number delay : Nat}
    {response : Http.Response} (sendable : config.post.isSendable = true)
    (arrives : wire.exchange number config.post = ⟨some delay, .arrived response⟩)
    (within : delay ≤ config.requestLimit) :
    config.transport wire number config.channel.request = ⟨some delay, response.reply⟩ := by
  have brought : (wire.exchange number config.post).within config.requestLimit =
      (delay, .arrived response) := by
    simp only [arrives, Http.Round.within, within, if_true]
  unfold post at sendable brought
  simp only [transport, sendable, if_true, brought]
  rfl

/-- **Every response to a key exchange is classified.**  Exactly one verdict applies to it.  If it
comes within the limits, the first call on the channel of a client ends with what the verdict stands
for, and there is a key exactly if the verdict is an agreement. -/
theorem exchange_classified (config : Config) (wire : Http.Wire) (start caller : Nat) {delay : Nat}
    {response : Http.Response} (sendable : config.post.isSendable = true)
    (arrives : wire.exchange 0 config.post = ⟨some delay, .arrived response⟩)
    (inRequest : delay ≤ config.requestLimit) (inHandshake : delay ≤ config.channel.limit) :
    let modulus := config.channel.pair.parameters.modulus
    let status := response.head.status
    ∃ verdict outcome,
      (∀ other : Verdict, other.Applies modulus status response.text ↔ other = verdict) ∧
      verdict.Means config.channel.pair status outcome ∧
      ∀ spans : List Nat, delay ≤ spans.sum →
        let final := (Channel.State.fresh start).run config.channel (config.transport wire)
          (.call caller .ensure :: Channel.Event.looks caller spans)
        final.2.map Channel.Answer.result = [Channel.Purpose.presence.conclude outcome] ∧
          (final.1.isEstablished = true ↔ ∃ peer, verdict = .agreed peer) := by
  intro modulus status
  have means := Verdict.means_classify config.channel response
  refine ⟨Verdict.classify modulus status response.text, config.channel.conclude response.reply,
    fun other => Verdict.applies_iff, means, ?_⟩
  intro spans enough final
  have exchange := config.transport_of_arrived sendable arrives inRequest
  have needed : Channel.Call.ensure.purpose = .ok .presence := rfl
  obtain ⟨slot, said⟩ := Channel.State.run_alone config.channel (config.transport wire) start caller
    needed exchange inHandshake enough
  refine ⟨said, ?_⟩
  rw [Channel.State.isEstablished_of_slot slot]
  exact means.isOk_iff

/-- A response that reports an error and denies its success, but in the end offers the public value
8 between blanks: the channel over the modulus 23 has its key after the second look. -/
theorem exchange_classified_of_offer :
    let parameters : Parameters := ⟨23, 5, by decide, by decide, by decide⟩
    let address : Address :=
      ⟨"http", some (.ofHost (.name "server")), .segmented ["exchange"], none, none⟩
    let config : Config :=
      ⟨⟨KeyPair.withExponent parameters 6, 10⟩, address, "http://server", "/login", "/register", 9,
        .plain⟩
    let text := "\x7b\"serverPublic\":1,\"success\":false,\"serverPublic\":\" 08 \"\x7d"
    let response : Http.Response := ⟨⟨500, []⟩, Text.Utf8.ofString text⟩
    let wire : Http.Wire := ⟨fun _ _ => ⟨some 5, .arrived response⟩, fun _ _ => ⟨none, .missing⟩⟩
    let final := (Channel.State.fresh 0).run config.channel (config.transport wire)
      (.call 0 .ensure :: Channel.Event.looks 0 [2, 3])
    config.post.isSendable = true ∧ wire.exchange 0 config.post = ⟨some 5, .arrived response⟩ ∧
      (Verdict.agreed 8).Applies 23 500 response.text ∧
      final.2.map Channel.Answer.result = [.ok .ready] ∧ final.1.isEstablished = true := by
  intro parameters address config text response wire final
  have offers : Message.Reply.Offers response.text " 08 " :=
    Message.Reply.parse_eq_accepted_iff.mp (by decide +kernel)
  have spells : Decimal.Spells " 08 " 8 := Decimal.parse_eq_ok_iff.mp (by decide +kernel)
  have applies : (Verdict.agreed 8).Applies 23 500 response.text :=
    .agreed offers spells (by decide)
  obtain ⟨verdict, outcome, exactly, means, ends⟩ :=
    config.exchange_classified wire 0 0 (by decide) rfl (by decide) (by decide)
  have agreed := (exactly (.agreed 8)).mp applies
  obtain ⟨said, established⟩ := ends [2, 3] (by decide)
  subst agreed
  cases means
  exact ⟨by decide, rfl, applies, said, established.mpr ⟨8, rfl⟩⟩

end Config

end Client

end SealedCredentials
