import SealedCredentials.CommandLine.Run
import SealedCredentials.Proofs.Agreement.KeyPair
import SealedCredentials.Proofs.CommandLine.Arguments

/-!
# Which settings an encryption uses

The server, the time limit of the key exchange and the group are looked up apart from one another:
an option decides, else the settings file does, else the standard settings do (`usedServer`,
`usedTimeout`, `usedGroup`).  A client is set up with what they come to, or not at all
(`Uses.of_client`).
-/

set_option autoImplicit false

namespace SealedCredentials

/-! ## Members of a settings file -/

namespace Json.Members

/-- The integer that a member holds, if any. -/
def count? (gathered : Members) (name : String) : Option Nat :=
  match gathered.lookup name with
  | some (.count value) => some value
  | _ => none

theorem text_eq (gathered : Members) (name standard : String) :
    gathered.text name standard = (gathered.text? name).getD standard := by
  unfold text text?
  split <;> simp_all

theorem count_eq (gathered : Members) (name : String) (standard : Nat) :
    gathered.count name standard = (gathered.count? name).getD standard := by
  unfold count count?
  split <;> simp_all

end Json.Members

theorem Agreement.Group.ofName_name (group : Group) : Group.ofName group.name = .ok group := by
  cases group with
  | legacy => rfl
  | modp2048 => rfl

namespace CommandLine

variable {environment : String → Option String} {readFile : String → Except FileFault String}
  {own : Options} {gathered : Json.Members}

/-- The members of the settings file, of which there are none without a file. -/
def fileMembers (readFile : String → Except FileFault String) :
    Option String → Except Complaint Json.Members
  | none => .ok []
  | some path =>
    match readFile path with
    | .error fault => .error (.unreadable path fault)
    | .ok text =>
      match Settings.shape.parse text with
      | .error fault => .error (.badSettings path fault)
      | .ok gathered => .ok gathered

/-- The settings of an invocation are those of the file, with what the options name over them. -/
theorem settings_eq (invocation : Invocation) (readFile : String → Except FileFault String) :
    invocation.settings readFile =
      (fileMembers readFile invocation.settingsFile).map fun gathered =>
        invocation.override (.ofMembers gathered) := by
  unfold Invocation.settings fileMembers
  cases invocation.settingsFile with
  | none => rfl
  | some path =>
    simp only [loadSettings, Settings.parse]
    cases readFile path with
    | error fault => rfl
    | ok text =>
      dsimp only
      cases Settings.shape.parse text with
      | error fault => rfl
      | ok gathered => rfl

/-! ## What is used -/

/-- The server: that of the option or the variable, else that of the file, else the standard one. -/
def usedServer (environment : String → Option String) (own : Options) (gathered : Json.Members) :
    String :=
  ((own.value? "server" "AUTH_CLIENT_SERVER" environment).or (gathered.text? "server_url")).getD
    Settings.standard.serverUrl

/-- The time limit of the key exchange in seconds: that of the option, else that of the file, else
the standard one. -/
def usedTimeout (own : Options) (gathered : Json.Members) : UInt64 :=
  (((own.lookup "timeout").bind readCount).or
      ((gathered.count? "handshake_timeout_secs").map UInt64.ofNat)).getD
    Settings.standard.handshakeSeconds

/-- The name of the group: that of the option, else that of the file, else the standard one. -/
def usedGroup (own : Options) (gathered : Json.Members) : String :=
  ((own.lookup "group").or (gathered.text? "group")).getD Settings.standard.group

/-- The path of key exchanges, which no option names. -/
def usedPath (gathered : Json.Members) : String :=
  (gathered.text? "key_exchange_path").getD Settings.standard.keyExchangePath

/-- A client is set up with the settings that are used. -/
structure Uses (resolver : Address.Resolver) (environment : String → Option String)
    (own : Options) (gathered : Json.Members) (config : Client.Config) : Prop where
  server : config.server = usedServer environment own gathered
  address : Address.endpoint (usedServer environment own gathered) (usedPath gathered) resolver =
    .ok config.keyExchange
  resolver : config.resolver = resolver
  timeout : config.channel.limit = Span.ofSeconds (usedTimeout own gathered).toNat
  group : ∃ group, Agreement.Group.ofName (usedGroup own gathered) = .ok group ∧
    config.channel.pair.parameters = group.parameters

/-- An option that was not refused has a value that will do. -/
theorem accepts_of_addAll {options all : Options} (added : options.addAll own = some all)
    {name value : String} (found : own.lookup name = some value) : accepts name value = true := by
  induction own generalizing options with
  | nil => cases found
  | cons option later ih =>
    obtain ⟨named, given⟩ := option
    rw [Options.addAll] at added
    obtain ⟨next, one, rest⟩ := Option.bind_eq_some_iff.mp added
    by_cases mine : name = named
    · subst mine
      rw [List.lookup_cons_self] at found
      cases found
      unfold Options.add at one
      split at one
      · cases one
      next accepted =>
        simp only [Bool.or_eq_true, Bool.not_eq_true', not_or, Bool.not_eq_false] at accepted
        exact accepted.2
    · have elsewhere : later.lookup name = some value := by
        rwa [List.lookup_cons, beq_false_of_ne mine] at found
      exact ih rest elsewhere

/-- The group that settings name is the one that is used. -/
theorem ofName_override (accepted : Options.addAll [] own = some own) (texts : List String)
    (settings : Settings) (standard : settings.group =
      (gathered.text? "group").getD Settings.standard.group) :
    Agreement.Group.ofName ((encryption environment own texts).override settings).group =
      Agreement.Group.ofName (usedGroup own gathered) := by
  cases found : own.lookup "group" with
  | none =>
    simp only [Invocation.override, encryption, usedGroup, found, Option.bind_none, Option.map_none,
      Option.getD_none, Option.none_or, standard]
  | some name =>
    have known : (Agreement.Group.ofName name).toBool = true := accepts_of_addAll accepted found
    cases named : Agreement.Group.ofName name with
    | error fault =>
      rw [named] at known
      cases known
    | ok group =>
      simp only [Invocation.override, encryption, usedGroup, found, Option.bind_some, named,
        Except.toOption, Option.map_some, Option.getD_some, Option.some_or,
        Agreement.Group.ofName_name]

/-- What a client is set up from: settings, the group that they name, and a random number. -/
theorem exists_of_client {invocation : Invocation} {random : Nat} {resolver : Address.Resolver}
    {config : Client.Config}
    (client : invocation.client readFile random resolver = .ok config) :
    ∃ settings group, invocation.settings readFile = .ok settings ∧
      Agreement.Group.ofName settings.group = .ok group ∧
      Client.Config.ofSettings settings group random resolver = .ok config := by
  unfold Invocation.client at client
  cases given : invocation.settings readFile with
  | error complaint =>
    rw [given] at client
    cases client
  | ok settings =>
    rw [given] at client
    change (groupOf settings).bind _ = _ at client
    unfold groupOf Client.groupOf at client
    cases named : Agreement.Group.ofName settings.group with
    | error fault =>
      rw [named] at client
      cases client
    | ok group =>
      rw [named] at client
      refine ⟨settings, group, rfl, named, ?_⟩
      simp only [Except.bind] at client
      cases made : Client.Config.ofSettings settings group random resolver with
      | error fault =>
        rw [made] at client
        cases client
      | ok other =>
        rw [made] at client
        cases client
        rfl

/-- A client holds what its settings and its group say. -/
theorem of_ofSettings {settings : Settings} {group : Agreement.Group} {random : Nat}
    {resolver : Address.Resolver} {config : Client.Config}
    (made : Client.Config.ofSettings settings group random resolver = .ok config) :
    config.server = settings.serverUrl ∧
      Address.endpoint settings.serverUrl settings.keyExchangePath resolver =
        .ok config.keyExchange ∧
      config.resolver = resolver ∧
      config.channel.limit = Span.ofSeconds settings.handshakeSeconds.toNat ∧
      config.channel.pair.parameters = group.parameters := by
  rw [Client.Config.ofSettings, Client.Config.make, Client.keyExchangeAddress,
    Agreement.KeyPair.generate_eq] at made
  cases resolved : Address.endpoint settings.serverUrl settings.keyExchangePath resolver with
  | error unusable =>
    rw [resolved] at made
    cases made
  | ok address =>
    rw [resolved] at made
    cases made
    exact ⟨rfl, rfl, rfl, rfl, rfl⟩

/-- **A client is set up with the settings that are used.** -/
theorem Uses.of_client (accepted : Options.addAll [] own = some own) (texts : List String)
    {random : Nat} {resolver : Address.Resolver} {config : Client.Config}
    (client : (encryption environment own texts).client readFile random resolver = .ok config) :
    ∃ gathered, fileMembers readFile (own.value? "config" "AUTH_CLIENT_CONFIG" environment) =
        .ok gathered ∧ Uses resolver environment own gathered config := by
  obtain ⟨settings, group, given, named, made⟩ := exists_of_client client
  rw [settings_eq] at given
  cases read : fileMembers readFile (own.value? "config" "AUTH_CLIENT_CONFIG" environment) with
  | error complaint =>
    have read : fileMembers readFile (encryption environment own texts).settingsFile =
        .error complaint := read
    rw [read] at given
    cases given
  | ok gathered =>
    have read : fileMembers readFile (encryption environment own texts).settingsFile =
        .ok gathered := read
    rw [read] at given
    cases given
    obtain ⟨server, address, resolved, limit, parameters⟩ := of_ofSettings made
    have serverUsed : ((encryption environment own texts).override
        (.ofMembers gathered)).serverUrl = usedServer environment own gathered := by
      rw [usedServer, Option.getD_or, ← Json.Members.text_eq]
      rfl
    have secondsUsed : ((encryption environment own texts).override
        (.ofMembers gathered)).handshakeSeconds = usedTimeout own gathered := by
      rw [usedTimeout, Option.getD_or]
      simp only [Invocation.override, Settings.ofMembers, Json.Members.count_eq, encryption]
      cases gathered.count? "handshake_timeout_secs" with
      | none => rfl
      | some seconds => rfl
    have path : ((encryption environment own texts).override
        (.ofMembers gathered)).keyExchangePath = usedPath gathered := Json.Members.text_eq _ _ _
    rw [ofName_override accepted texts (.ofMembers gathered) (Json.Members.text_eq _ _ _)] at named
    rw [serverUsed] at server address
    rw [path] at address
    rw [secondsUsed] at limit
    exact ⟨gathered, rfl, server, address, resolved, limit, group, named, parameters⟩

end CommandLine

end SealedCredentials
