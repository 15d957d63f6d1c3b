import SealedCredentials.Proofs.Client.Alone
import SealedCredentials.Proofs.CommandLine.Settings
import SealedCredentials.Proofs.Envelope.Sealing

/-!
# An encryption seals all texts or none

The first text begins the only key exchange of a run (`reportEnvelopes_of_fresh`).  If it fails, the
run is over before anything is printed; if it leads to a key, no later text can fail, since the key
stays in place and nobody else uses the client (`reportEnvelopes_of_established`).  So an encryption
prints an envelope for each text, or nothing at all, whatever the network does, and a client that
cannot be set up sends nothing (`encryption_whole_or_void`).
-/

set_option autoImplicit false

namespace SealedCredentials.CommandLine

open Envelope

/-! ## Sealing one text after the other -/

/-- The envelopes of texts, the first of which stands at a place. -/
def envelopes (material : Material) (salt : Nat → Nat) : Nat → List String → List String
  | _, [] => []
  | place, text :: texts =>
    sealText material text (Salt.ofRandom (salt place)) :: envelopes material salt (place + 1) texts

/-- Base64 makes one line. -/
theorem newline_not_mem_text (bytes : List UInt8) : '\n' ∉ (Codec.Base64.text bytes).toList := by
  intro broken
  rw [Codec.Base64.text, String.toList_ofList] at broken
  obtain ⟨byte, written, same⟩ := List.mem_map.mp broken
  have differs : ∀ byte ∈ Codec.Base64.encode bytes, Char.ofNat byte.toNat ≠ '\n' :=
    Codec.Base64.forall_mem_encode (by decide) (by decide) bytes
  exact differs byte written same

section

variable {material : Material} {salt : Nat → Nat}

/-- The envelopes open to the texts, in their order. -/
theorem opens_envelopes (place : Nat) (texts : List String) :
    List.Forall₂ (fun line text => openText material line = .ok text)
      (envelopes material salt place texts) texts := by
  induction texts generalizing place with
  | nil => exact .nil
  | cons text texts ih => exact .cons (openText_sealText material text _) (ih (place + 1))

/-- An envelope makes one line. -/
theorem line_of_mem_envelopes {place : Nat} {texts : List String} :
    ∀ line ∈ envelopes material salt place texts, '\n' ∉ line.toList := by
  induction texts generalizing place with
  | nil =>
    intro line member
    cases member
  | cons text texts ih =>
    intro line member
    rcases List.mem_cons.mp member with rfl | later
    · exact newline_not_mem_text _
    · exact ih line later

end

section

variable {state : Client.State}

/-- **With the key in place every text is sealed**, and the client stays as it is. -/
theorem reportEnvelopes_of_established (config : Client.Config) (wire : Http.Wire)
    (salt : Nat → Nat) (calm : state.IsCalm) {material : Material}
    (held : state.channel.slot = .established material) (place : Nat) (texts : List String) :
    reportEnvelopes config wire salt place state texts =
      (state, ⟨envelopes material salt place texts, none⟩) := by
  induction texts generalizing place with
  | nil => rfl
  | cons text texts ih =>
    have needed : (Channel.Call.sealText text (Salt.ofRandom (salt place))).purpose =
        .ok (.sealing text (Salt.ofRandom (salt place))) := rfl
    have performed := Client.State.perform_of_established config wire calm held needed
    simp only [reportEnvelopes, asked, performed, Channel.Purpose.serve, ih]
    rfl

/-- The first text decides: its key exchange leads to a key, with which all texts are sealed, or the
run ends with its failure. -/
theorem reportEnvelopes_of_fresh (config : Client.Config) (wire : Http.Wire) (salt : Nat → Nat)
    {texts : List String} (nonempty : texts ≠ []) :
    ∃ after outcome, Client.State.Exchanged config wire (.fresh 0) outcome after ∧
      ((∃ material, outcome = .ok material ∧
          reportEnvelopes config wire salt 0 (.fresh 0) texts =
            (after, ⟨envelopes material salt 0 texts, none⟩)) ∨
        ∃ fault, outcome = .error fault ∧
          reportEnvelopes config wire salt 0 (.fresh 0) texts =
            (after, .ofComplaint (.notEncrypted (.handshake fault)))) := by
  obtain ⟨text, rest, rfl⟩ := List.exists_cons_of_ne_nil nonempty
  have needed : (Channel.Call.sealText text (Salt.ofRandom (salt 0))).purpose =
      .ok (.sealing text (Salt.ofRandom (salt 0))) := rfl
  obtain ⟨after, outcome, exchanged, performed⟩ :=
    Client.State.perform_of_idle config wire (.fresh 0) rfl needed
  refine ⟨after, outcome, exchanged, ?_⟩
  cases outcome with
  | ok material =>
    left
    refine ⟨material, rfl, ?_⟩
    have others :=
      reportEnvelopes_of_established config wire salt exchanged.toIsCalm exchanged.slot 1 rest
    simp only [reportEnvelopes, asked, performed, Client.State.relay, Channel.Purpose.conclude,
      Channel.Purpose.serve, others]
    rfl
  | error fault =>
    right
    refine ⟨fault, rfl, ?_⟩
    simp only [reportEnvelopes, asked, performed, Client.State.relay, Channel.Purpose.conclude]

end

/-! ## Whole runs -/

/-- The client of a run, and its state at the end, if a client is set up at all. -/
def session (environment : String → Option String) (readFile : String → Except FileFault String)
    (wire : Http.Wire) (draws : Draws) (identifier : String) (arguments : List String)
    (resolver : Address.Resolver) : Option (Client.Config × Client.State) :=
  match readDemand environment arguments with
  | some (.invoke invocation) =>
    match invocation.client readFile draws.exponent resolver with
    | .ok config => some (config, (invocation.command.run config wire draws identifier).1)
    | .error _ => none
  | _ => none

/-- What a run sends. -/
def requests (environment : String → Option String) (readFile : String → Except FileFault String)
    (wire : Http.Wire) (draws : Draws) (identifier : String) (arguments : List String)
    (resolver : Address.Resolver) : List Client.Dispatch :=
  match session environment readFile wire draws identifier arguments resolver with
  | some (config, final) => Client.State.dispatched config (.fresh 0) final
  | none => []

/-- A run succeeds after one key exchange, and prints an envelope for each text, in their order; all
open under the key of the session. -/
structure Whole (texts : List String) (config : Client.Config) (final : Client.State)
    (ending : Ending) (sent : List Client.Dispatch) : Prop where
  code : ending.code = 0
  sent : sent = [.exchange config.post]
  opens : ∃ material, final.channel.slot = .established material ∧
    List.Forall₂ (fun line text => openText material line = .ok text) ending.output texts
  lines : ∀ line ∈ ending.output, '\n' ∉ line.toList

/-- A run fails after at most one key exchange, and prints nothing. -/
structure Void (ending : Ending) (sent : List Client.Dispatch) : Prop where
  code : ending.code ≠ 0
  output : ending.output = []
  sent : sent = [] ∨ ∃ request, sent = [.exchange request]

/-- A client that is asked to encrypt seals all texts, or none if it has no key. -/
theorem whole_or_void (config : Client.Config) (wire : Http.Wire) (draws : Draws)
    (identifier : String) {texts : List String} (nonempty : texts ≠ []) :
    let done := (Command.encrypt texts).run config wire draws identifier
    let sent := Client.State.dispatched config (.fresh 0) done.1
    Whole texts config done.1 done.2.ending sent ∨
      Void done.2.ending sent ∧ done.1.channel.slot = .idle := by
  obtain ⟨after, outcome, exchanged, ends⟩ :=
    reportEnvelopes_of_fresh config wire draws.salt nonempty
  rw [Command.run]
  rcases ends with ⟨material, rfl, same⟩ | ⟨fault, rfl, same⟩
  · left
    rw [same, exchanged.dispatched, if_pos exchanged.isSendable_of_ok]
    exact ⟨rfl, rfl, ⟨material, exchanged.slot, opens_envelopes 0 texts⟩, line_of_mem_envelopes⟩
  · right
    rw [same, exchanged.dispatched]
    refine ⟨⟨Nat.one_ne_zero, rfl, ?_⟩, exchanged.slot⟩
    split
    · exact .inr ⟨_, rfl⟩
    · exact .inl rfl

section

variable (environment : String → Option String) (readFile : String → Except FileFault String)
  (wire : Http.Wire) (draws : Draws) (identifier : String) {arguments : List String}
  (resolver : Address.Resolver)

/-- A run without a client sends nothing. -/
theorem requests_of_none
    (unset : session environment readFile wire draws identifier arguments resolver = none) :
    requests environment readFile wire draws identifier arguments resolver = [] := by
  rw [requests, unset]

theorem requests_of_some {config : Client.Config} {final : Client.State}
    (set : session environment readFile wire draws identifier arguments resolver =
      some (config, final)) :
    requests environment readFile wire draws identifier arguments resolver =
      Client.State.dispatched config (.fresh 0) final := by
  rw [requests, set]

/-- A run for an encryption comes to what a client does that is set up with the settings in use, or
it ends without a client. -/
theorem run_encrypt {spelled operands texts : List String} {own : Options}
    (spells : Spells commonFlags spelled own) (given : Operands operands texts)
    (nonempty : texts ≠ []) :
    let arguments := spelled ++ "encrypt" :: operands
    let ending := run environment readFile wire draws identifier arguments resolver
    let session := session environment readFile wire draws identifier arguments resolver
    (∃ config gathered,
        fileMembers readFile (own.value? "config" "AUTH_CLIENT_CONFIG" environment) =
          .ok gathered ∧ Uses resolver environment own gathered config ∧
        let done := (Command.encrypt texts).run config wire draws identifier
        session = some (config, done.1) ∧ ending = done.2.ending) ∨
      session = none ∧ ending.code ≠ 0 ∧ ending.output = [] := by
  intro arguments ending session
  have demand : readDemand environment arguments = _ :=
    readDemand_encrypt environment spells given nonempty
  by_cases accepted : Options.addAll [] own = some own ∧
      own.value? "config" "AUTH_CLIENT_CONFIG" environment ≠ some ""
  · rw [if_pos accepted] at demand
    simp only [ending, session, run, CommandLine.session, demand, Invocation.run]
    cases client :
        (encryption environment own texts).client readFile draws.exponent resolver with
    | error complaint => exact .inr ⟨rfl, Nat.one_ne_zero, rfl⟩
    | ok config =>
      left
      obtain ⟨gathered, read, uses⟩ := Uses.of_client accepted.1 texts client
      exact ⟨config, gathered, read, uses, rfl, rfl⟩
  · rw [if_neg accepted] at demand
    simp only [ending, session, run, CommandLine.session, demand]
    exact .inr ⟨trivial, two_ne_zero, trivial⟩

/-- **An encryption is all or nothing.**  Whatever options are given, whatever texts there are, and
whatever the settings file, the environment, the network and the resolver bring:

* the run succeeds after exactly one key exchange, and prints an envelope for each text, one line
  each and in their order, which all open to the texts under the key of the session; or it fails,
  prints nothing, and has made one key exchange at most, which has brought no key;
* it makes none if the group that is used has no such name, or if the resolver finds no address for
  the server that is used;
* its client, if there is one, uses the server, the time limit and the group that an option names,
  or else the settings file, or else the standard settings, each apart from the others. -/
theorem encryption_whole_or_void {spelled operands texts : List String} {own : Options}
    (spells : Spells commonFlags spelled own) (given : Operands operands texts)
    (nonempty : texts ≠ []) :
    let arguments := spelled ++ "encrypt" :: operands
    let ending := run environment readFile wire draws identifier arguments resolver
    let sent := requests environment readFile wire draws identifier arguments resolver
    let session := session environment readFile wire draws identifier arguments resolver
    let file := fileMembers readFile (own.value? "config" "AUTH_CLIENT_CONFIG" environment)
    ((∃ config final, session = some (config, final) ∧ Whole texts config final ending sent) ∨
        Void ending sent ∧
          ∀ config final, session = some (config, final) → final.channel.slot = .idle) ∧
      (∀ gathered, file = .ok gathered →
        (∀ group, Agreement.Group.ofName (usedGroup own gathered) ≠ .ok group) ∨
          (∀ address, Address.endpoint (usedServer environment own gathered) (usedPath gathered)
            resolver ≠ .ok address) →
        ending.code ≠ 0 ∧ ending.output = [] ∧ sent = []) ∧
      ∀ config final, session = some (config, final) →
        ∃ gathered, file = .ok gathered ∧ Uses resolver environment own gathered config := by
  intro arguments ending sent session file
  rcases run_encrypt environment readFile wire draws identifier resolver spells given nonempty with
    ⟨config, gathered, read, uses, there, ends⟩ | ⟨unset, code, output⟩
  · have there : session = some (config, _) := there
    have ends : ending = _ := ends
    have sends : sent = Client.State.dispatched config (.fresh 0)
        ((Command.encrypt texts).run config wire draws identifier).1 :=
      requests_of_some environment readFile wire draws identifier resolver there
    refine ⟨?_, ?_, ?_⟩
    · rw [sends, ends]
      rcases whole_or_void config wire draws identifier nonempty with whole | ⟨void, keyless⟩
      · exact .inl ⟨config, _, there, whole⟩
      · refine .inr ⟨void, fun config' final found => ?_⟩
        cases there.symm.trans found
        exact keyless
    · intro others readOthers invalid
      cases read.symm.trans readOthers
      -- a client that was set up has a group and an address
      obtain ⟨group, named, -⟩ := uses.group
      rcases invalid with unnamed | unresolved
      · exact absurd named (unnamed group)
      · exact absurd uses.address (unresolved config.keyExchange)
    · intro config' final found
      cases there.symm.trans found
      exact ⟨gathered, read, uses⟩
  · have sends : sent = [] :=
      requests_of_none environment readFile wire draws identifier resolver unset
    have nobody : ∀ config final, session ≠ some (config, final) := by
      intro config final found
      cases unset.symm.trans found
    refine ⟨.inr ⟨⟨code, output, .inl sends⟩, ?_⟩, fun _ _ _ => ⟨code, output, sends⟩, ?_⟩
    · intro config final found
      exact absurd found (nobody config final)
    · intro config final found
      exact absurd found (nobody config final)

/-- A server is named, and a time limit.  The server answers, and both texts are sealed, the second
of which has to stand behind a double hyphen. -/
theorem encryption_whole_of_two :
    let environment (_ : String) : Option String := none
    let readFile (_ : String) : Except FileFault String := .error .missing
    let reply : Http.Response :=
      ⟨⟨200, []⟩, Text.Utf8.ofString "\x7b\"serverPublic\":\"8\"\x7d"⟩
    let wire : Http.Wire := ⟨fun _ _ => ⟨some 0, .arrived reply⟩, fun _ _ => ⟨none, .missing⟩⟩
    let draws : Draws := ⟨6, fun place => place⟩
    let arguments :=
      ["--server=http://server", "--timeout", "3", "encrypt", "plain", "--", "--dashed"]
    let ending := run environment readFile wire draws "" arguments .plain
    ending.code = 0 ∧ ∃ material,
      List.Forall₂ (fun line text => openText material line = .ok text) ending.output
        ["plain", "--dashed"] := by
  intro environment readFile reply wire draws arguments ending
  have spells : Spells commonFlags (["--server=http://server"] ++ (["--timeout", "3"] ++ []))
      [("server", "http://server"), ("timeout", "3")] :=
    .cons (.attached (by decide)) (.cons (.separate (by decide) (by decide)) .nil)
  have given : Operands ["plain", "--", "--dashed"] ["plain", "--dashed"] :=
    .cons (by decide) (.escape _)
  obtain ⟨⟨config, final, -, whole⟩ | ⟨void, -⟩, -, -⟩ :=
    encryption_whole_or_void environment readFile wire draws "" .plain spells given (by simp)
  · obtain ⟨material, -, opens⟩ := whole.opens
    exact ⟨whole.code, material, opens⟩
  · have code : ending.code = 0 := by decide +kernel
    exact absurd code void.code

end

end SealedCredentials.CommandLine
