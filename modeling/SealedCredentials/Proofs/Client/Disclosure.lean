import SealedCredentials.Proofs.Client.Log
import SealedCredentials.Proofs.Client.Veil
import SealedCredentials.Proofs.Message.Submission

/-!
# What the network learns of credentials

Two runs whose events differ only in credentials send the same requests in the same order, but for
the bodies of submissions (`State.log_alike`).  These are frames around envelopes, whose lengths
tell how many whole blocks a user name and a password fill (`Posting.Discloses`).  If these numbers
are the same, the bodies differ in the symbols that hold ciphertext, and nowhere else
(`Posting.Covers`).  Together this is `State.disclosure`.
-/

set_option autoImplicit false

namespace SealedCredentials.Client

open Envelope

variable {config : Config} {wire : Http.Wire} {pairs : Submission → Submission → Prop}

/-! ## What is sent on both sides -/

/-- The same request of a key exchange, or requests for submissions that are related. -/
inductive Dispatch.Alike (related : Posting → Posting → Prop) : Dispatch → Dispatch → Prop where
  | exchange (request : Http.Request) :
      Dispatch.Alike related (.exchange request) (.exchange request)
  | submission {posting other : Posting} (each : related posting other) :
      Dispatch.Alike related (.submission posting) (.submission other)

/-- What is known of all submissions that were sent is known of each two of them. -/
theorem Dispatch.alike_of_mem {related closer : Posting → Posting → Prop}
    {log other : List Dispatch} (all : List.Forall₂ (Dispatch.Alike related) log other)
    (known : ∀ first second, .submission first ∈ log → .submission second ∈ other →
      related first second → closer first second) :
    List.Forall₂ (Dispatch.Alike closer) log other := by
  induction all with
  | nil => exact .nil
  | cons head _ ih =>
    refine .cons ?_ (ih fun first second here there =>
      known first second (List.mem_cons_of_mem _ here) (List.mem_cons_of_mem _ there))
    cases head with
    | exchange request => exact .exchange request
    | submission each => exact .submission (known _ _ List.mem_cons_self List.mem_cons_self each)

namespace State

variable {state other : State}

theorem dispatched_alike {after after' : State} (alike : state.Alike pairs other)
    (later : after.Alike pairs after') :
    List.Forall₂ (Dispatch.Alike (Posting.Alike pairs)) (dispatched config state after)
      (dispatched config other after') := by
  unfold dispatched
  refine List.rel_append ?_ ?_
  · rw [alike.channel.attempts, later.channel.attempts]
    rw [List.forall₂_map_left_iff, List.forall₂_map_right_iff]
    exact List.forall₂_same.mpr fun request _ => .exchange request
  · rw [alike.sent.length_eq, List.forall₂_map_left_iff, List.forall₂_map_right_iff]
    exact (List.forall₂_drop other.sent.length later.sent).imp fun _ _ => .submission

/-- Runs over the same events send the same requests in the same order. -/
theorem log_alike (alike : state.Alike pairs other) (config : Config)
    (twins : ∀ submission twin, pairs submission twin → submission.Twin twin)
    (scripted : wire.IsScripted) {events others : List Event}
    (same : List.Forall₂ (Event.Alike pairs) events others) :
    List.Forall₂ (Dispatch.Alike (Posting.Alike pairs)) (log config wire state events)
      (log config wire other others) := by
  induction same generalizing state other with
  | nil => exact .nil
  | cons first _ ih =>
    have next := (step_alike alike config twins scripted first).state
    exact List.rel_append (dispatched_alike alike next) (ih next)

end State

/-! ## What a submission shows -/

/-- What stands around the envelopes of a form. -/
def Form.frame : Form → Message.Frame
  | .login => .around "\"\x7d"
  | .registration role =>
    .around ("\",\"role\":" ++ String.ofList (Json.writeString role.toList) ++ "\x7d")

theorem Form.body_wire (form : Form) (username password : Container) :
    form.body username.wire password.wire = form.frame.fill username.wire password.wire := by
  have first : Json.IsPlain username.wire := Json.isPlain_text username.bytes
  have second : Json.IsPlain password.wire := Json.isPlain_text password.bytes
  cases form with
  | login => exact Message.Login.write_eq first second
  | registration role => exact Message.Registration.write_eq first second

namespace Submission

/-- The container in which the user name travels. -/
def usernameContainer (submission : Submission) (material : Material) : Container :=
  .ofText material submission.usernameSalt submission.username

/-- The container in which the password travels. -/
def passwordContainer (submission : Submission) (material : Material) : Container :=
  .ofText material submission.passwordSalt submission.password

/-- The body of the request for a submission, once there is a key. -/
theorem body_of_request {submission : Submission} {material : Material} {request : Http.Request}
    (sends : submission.request config (.ok material) = .ok request) :
    request.body = submission.form.frame.fill (submission.usernameContainer material).wire
      (submission.passwordContainer material).wire := by
  rw [← Form.body_wire]
  rw [Submission.request, Config.submit] at sends
  cases resolved : config.endpoint submission.form with
  | error unusable =>
    rw [resolved] at sends
    cases sends
  | ok address =>
    simp only [resolved] at sends
    split at sends
    · cases sends
      rfl
    · cases sends

/-- Twins whose credentials fill the same numbers of whole blocks. -/
structure Even (submission other : Submission) : Prop extends submission.Twin other where
  username : wholeBlocks submission.username = wholeBlocks other.username
  password : wholeBlocks submission.password = wholeBlocks other.password

end Submission

/-- Requests for twins go to the same address.  Their bodies are the same frame, filled with
envelopes under one key, and an envelope tells by its length how many whole blocks its text
fills. -/
structure Posting.Discloses (material : Material) (posting other : Posting) : Prop
    extends posting.Alike Submission.Twin other where
  body : posting.request.body = posting.submission.form.frame.fill
    (posting.submission.usernameContainer material).wire
    (posting.submission.passwordContainer material).wire
  otherBody : other.request.body = posting.submission.form.frame.fill
    (other.submission.usernameContainer material).wire
    (other.submission.passwordContainer material).wire
  username : (posting.submission.usernameContainer material).wire.length =
      (other.submission.usernameContainer material).wire.length ↔
    wholeBlocks posting.submission.username = wholeBlocks other.submission.username
  password : (posting.submission.passwordContainer material).wire.length =
      (other.submission.passwordContainer material).wire.length ↔
    wholeBlocks posting.submission.password = wholeBlocks other.submission.password

/-- The bodies of two requests are equally long, and they differ in the symbols that hold
ciphertext, and nowhere else. -/
def Posting.Covers (material : Material) (posting other : Posting) : Prop :=
  AgreeBut
    (posting.submission.form.frame.Carries (posting.submission.usernameContainer material)
      (posting.submission.passwordContainer material))
    (Text.Utf8.ofString posting.request.body) (Text.Utf8.ofString other.request.body)

namespace Posting

variable {posting other : Posting} {material : Material}

/-- Requests that were made under one key for twins. -/
theorem discloses_of_made (alike : posting.Alike Submission.Twin other)
    (made : posting.submission.request config (.ok material) = .ok posting.request)
    (made' : other.submission.request config (.ok material) = .ok other.request) :
    posting.Discloses material other where
  toAlike := alike
  body := Submission.body_of_request made
  otherBody := by
    rw [alike.submission.form]
    exact Submission.body_of_request made'
  username := length_sealText_eq_iff material _ material _ _ _
  password := length_sealText_eq_iff material _ material _ _ _

/-- Credentials that fill the same numbers of whole blocks are covered. -/
theorem Discloses.covers (discloses : posting.Discloses material other)
    (even : posting.submission.Even other.submission) : posting.Covers material other := by
  rw [Covers, discloses.body, discloses.otherBody]
  exact posting.submission.form.frame.agreeBut_fill
    (agreeBut_ofText material even.usernameSalt even.username)
    (agreeBut_ofText material even.passwordSalt even.password)

end Posting

namespace State

/-- Submissions of paired events are sent under one key, and they are paired. -/
theorem log_discloses (config : Config) (start : Nat)
    (twins : ∀ submission twin, pairs submission twin → submission.Twin twin)
    (scripted : wire.IsScripted) {events others : List Event}
    (same : List.Forall₂ (Event.Alike pairs) events others) :
    List.Forall₂
      (Dispatch.Alike fun posting other =>
        pairs posting.submission other.submission ∧ ∃ material, posting.Discloses material other)
      (log config wire (fresh start) events) (log config wire (fresh start) others) := by
  have new : Invariant config wire (fresh start) := .fresh start
  have sent {run : List Event} {posting : Posting}
      (member : .submission posting ∈ log config wire (fresh start) run) :
      posting ∈ ((fresh start).run config wire run).1.sent := by
    rw [← filterMap_log new run]
    exact List.mem_append_right _ (List.mem_filterMap.mpr ⟨_, member, rfl⟩)
  have slot := (run_alike (.fresh start) config twins scripted same).1.channel.slot
  refine Dispatch.alike_of_mem (log_alike (.fresh start) config twins scripted same) ?_
  intro posting other here there related
  obtain ⟨material, held, made⟩ := (new.run events).made posting (sent here)
  obtain ⟨material', held', made'⟩ := (new.run others).made other (sent there)
  -- both clients hold the same key
  obtain rfl := Channel.Slot.established.inj (held.symm.trans (slot.trans held'))
  exact ⟨related.submission, material, Posting.discloses_of_made
    ⟨related.caller, twins _ _ related.submission, related.address⟩ made made'⟩

/-- **What the network learns of credentials.**  Let two clients go through the same events, but for
the credentials that are submitted, and let the network answer submissions whatever their bodies
are.

* Their callers get the same answers: a submission comes to the same result.
* They send the same requests in the same order.  A request of a key exchange is the same; one for a
  submission goes to the same address, and holds envelopes of the credentials whose lengths tell how
  many whole blocks these fill.
* If the credentials that correspond fill the same numbers of whole blocks, the bodies that
  correspond are equally long, and differ in the symbols that hold ciphertext, and nowhere else. -/
theorem disclosure (config : Config) (start : Nat) (scripted : wire.IsScripted)
    {events others : List Event}
    (twins : List.Forall₂ (Event.Alike Submission.Twin) events others) :
    List.Forall₂ (Answer.Alike Submission.Twin) ((fresh start).run config wire events).2
        ((fresh start).run config wire others).2 ∧
      List.Forall₂
        (Dispatch.Alike fun posting other => ∃ material, posting.Discloses material other)
        (log config wire (fresh start) events) (log config wire (fresh start) others) ∧
      (List.Forall₂ (Event.Alike Submission.Even) events others →
        List.Forall₂
          (Dispatch.Alike fun posting other =>
            ∃ material, posting.Discloses material other ∧ posting.Covers material other)
          (log config wire (fresh start) events) (log config wire (fresh start) others)) := by
  refine ⟨?_, ?_, ?_⟩
  · exact (run_alike (.fresh start) config (fun _ _ twin => twin) scripted twins).2
  · have same := log_discloses config start (fun _ _ twin => twin) scripted twins
    exact Dispatch.alike_of_mem same fun posting other _ _ known => known.2
  · intro even
    have same := log_discloses config start (fun _ _ each => each.toTwin) scripted even
    refine Dispatch.alike_of_mem same fun posting other _ _ known => ?_
    obtain ⟨each, material, discloses⟩ := known
    exact ⟨material, discloses, discloses.covers each⟩

/-- A login is followed by a registration.  Whoever the user is, the client sends one key exchange
and two submissions, and short credentials are covered, be they plain or not. -/
theorem disclosure_of_two :
    let parameters : Agreement.Parameters := ⟨23, 5, by decide, by decide, by decide⟩
    let address : Address :=
      ⟨"http", some (.ofHost (.name "server")), .segmented ["exchange"], none, none⟩
    let config : Config :=
      ⟨⟨.withExponent parameters 6, 10⟩, address, "http://server", "/login", "/register", 9,
        .plain⟩
    let reply : Http.Response :=
      ⟨⟨200, []⟩, Text.Utf8.ofString "\x7b\"serverPublic\":\"8\"\x7d"⟩
    let wire : Http.Wire :=
      ⟨fun _ _ => ⟨some 0, .arrived reply⟩, fun _ _ => ⟨some 5, .arrived ⟨⟨201, []⟩, []⟩⟩⟩
    let salt : Salt := ⟨[1, 2, 3, 4, 5, 6, 7, 8], rfl⟩
    let calls (username password : String) : List Event :=
      [.call 0 (.submit ⟨.login, username, password, salt, salt⟩),
        .call 1 (.submit ⟨.registration "admin", username, password, salt, salt⟩)]
    let log (events : List Event) : List Dispatch := (fresh 0).log config wire events
    let events := calls "alice" "wonderland"
    let others := calls "Zoë" "\"\n\\"
    (log events).length = 3 ∧
      List.Forall₂
        (Dispatch.Alike fun posting other =>
          ∃ material, posting.Discloses material other ∧ posting.Covers material other)
        (log events) (log others) := by
  intro parameters address config reply wire salt calls log events others
  have scripted : wire.IsScripted := fun _ _ _ _ => rfl
  have username : wholeBlocks "alice" = wholeBlocks "Zoë" := by decide
  have password : wholeBlocks "wonderland" = wholeBlocks "\"\n\\" := by decide
  have twins (form : Form) :
      Submission.Twin ⟨form, "alice", "wonderland", salt, salt⟩
        ⟨form, "Zoë", "\"\n\\", salt, salt⟩ := ⟨rfl, rfl, rfl⟩
  have even (form : Form) :
      Submission.Even ⟨form, "alice", "wonderland", salt, salt⟩
        ⟨form, "Zoë", "\"\n\\", salt, salt⟩ := ⟨twins form, username, password⟩
  obtain ⟨-, -, covered⟩ := disclosure config 0 scripted
    (.cons (.call 0 (.submit (twins .login)))
      (.cons (.call 1 (.submit (twins (.registration "admin")))) .nil))
  refine ⟨by decide +kernel, ?_⟩
  exact covered (.cons (.call 0 (.submit (even .login)))
    (.cons (.call 1 (.submit (even (.registration "admin")))) .nil))

end State

end SealedCredentials.Client
