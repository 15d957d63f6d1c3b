import SealedCredentials.Message.Handshake
import SealedCredentials.Message.Submission
import SealedCredentials.Settings
import SealedCredentials.Proofs.Json.RecordText

/-!
# Messages and settings are read back

Requests of a key exchange, logins, registrations and settings are kept as records: each value comes
to members in the order of their declaration, and is made again from them (`Json.Format`).  A text
is read as a value exactly if it describes members that the value is made from.  What is written for
a value describes its members, so it is read as the value again, and nothing is gained by writing
and reading once more (`records_round_trip`).
-/

set_option autoImplicit false

namespace SealedCredentials

/-! ## Formats -/

namespace Json

variable {α : Type}

/-- How values of a type are kept in records. -/
structure Format (α : Type) where
  shape : Shape
  members : α → Members
  ofMembers : Members → α
  distinct : (shape.fields.map Field.name).Nodup
  holds : ∀ value, shape.Holds (members value)
  back : ∀ value gathered, (∀ name, gathered.lookup name = (members value).lookup name) →
    ofMembers gathered = value

/-- Reading and writing are inverse to one another. -/
structure RoundTrips (format : Format α) (parse : String → Except Fault α)
    (write : α → String) : Prop where
  /-- What is written for a value is read as this value. -/
  parse_write : ∀ value, parse (write value) = .ok value
  /-- What is read is what a text describes, and a text that describes nothing is refused. -/
  parse_eq_ok_iff : ∀ text value, parse text = .ok value ↔
    ∃ gathered, format.shape.Describes text gathered ∧ format.ofMembers gathered = value
  /-- The members of a value may be described in any order. -/
  any_order : ∀ text value gathered, format.shape.Describes text gathered →
    gathered.Perm (format.members value) → parse text = .ok value
  /-- Whatever a value was read from, writing it and reading it once more changes neither the value
  nor what is written. -/
  rewritten : ∀ text value, parse text = .ok value → parse (write value) = .ok value ∧
    ∀ again, parse (write value) = .ok again → write again = write value

theorem Format.roundTrips (format : Format α) {parse : String → Except Fault α}
    {write : α → String}
    (reads : ∀ text, parse text = do return format.ofMembers (← format.shape.parse text))
    (writes : ∀ value, write value = (format.members value).write) :
    RoundTrips format parse write := by
  have described (text : String) (value : α) : parse text = .ok value ↔
      ∃ gathered, format.shape.Describes text gathered ∧ format.ofMembers gathered = value := by
    rw [reads, bind_eq_ok_iff]
    refine exists_congr fun gathered => and_congr Shape.parse_eq_ok_iff ⟨?_, ?_⟩
    · rintro ⟨⟩
      rfl
    · rintro rfl
      rfl
  have anyOrder (text : String) (value : α) (gathered : Members)
      (describes : format.shape.Describes text gathered)
      (order : gathered.Perm (format.members value)) : parse text = .ok value := by
    have once : (gathered.map Prod.fst).Nodup := by
      rw [(order.map Prod.fst).nodup_iff, (format.holds value).names]
      exact format.distinct
    exact (described text value).mpr
      ⟨gathered, describes, format.back value gathered (lookup_eq_of_perm order once)⟩
  have readBack (value : α) : parse (write value) = .ok value := by
    rw [writes]
    exact anyOrder _ value _ ((format.holds value).describes format.distinct) (.refl _)
  refine ⟨readBack, described, anyOrder, fun _ value _ => ⟨readBack value, fun again reread => ?_⟩⟩
  cases (readBack value).symm.trans reread
  rfl

end Json

open Json

/-! ## Messages and settings -/

namespace Message

/-- A request of a key exchange is its public value. -/
def Request.format : Format Request where
  shape := Request.shape
  members request := [("clientPublic", .text request.clientPublic)]
  ofMembers gathered := ⟨gathered.text "clientPublic" ""⟩
  distinct := by decide
  holds request := .cons (Field.holds_text ..) .nil
  back request gathered same := by
    have clientPublic := same "clientPublic"
    rw [Members.text_of_lookup clientPublic]

/-- A login is its two envelopes. -/
def Login.format : Format Login where
  shape := Login.shape
  members login := [("username", .text login.username), ("password", .text login.password)]
  ofMembers gathered := ⟨gathered.text "username" "", gathered.text "password" ""⟩
  distinct := by decide
  holds login := .cons (Field.holds_text ..) (.cons (Field.holds_text ..) .nil)
  back login gathered same := by
    have username := same "username"
    have password := same "password"
    rw [Members.text_of_lookup username, Members.text_of_lookup password]

/-- A registration is its two envelopes and the role. -/
def Registration.format : Format Registration where
  shape := Registration.shape
  members registration :=
    [("username", .text registration.username), ("password", .text registration.password),
      ("role", .text registration.role)]
  ofMembers gathered :=
    ⟨gathered.text "username" "", gathered.text "password" "", gathered.text "role" ""⟩
  distinct := by decide
  holds registration :=
    .cons (Field.holds_text ..) (.cons (Field.holds_text ..) (.cons (Field.holds_text ..) .nil))
  back registration gathered same := by
    have username := same "username"
    have password := same "password"
    have role := same "role"
    rw [Members.text_of_lookup username, Members.text_of_lookup password,
      Members.text_of_lookup role]

end Message

/-- Settings are all their members. -/
def Settings.format : Format Settings where
  shape := Settings.shape
  members settings :=
    [("server_url", .text settings.serverUrl), ("group", .text settings.group),
      ("handshake_timeout_secs", .count settings.handshakeSeconds.toNat),
      ("request_timeout_secs", .count settings.requestSeconds.toNat),
      ("key_exchange_path", .text settings.keyExchangePath),
      ("login_path", .text settings.loginPath),
      ("register_path", .text settings.registerPath)]
  ofMembers := Settings.ofMembers
  distinct := by decide
  holds settings :=
    .cons (Field.holds_text ..) (.cons (Field.holds_text ..) (.cons (Field.holds_count ..)
      (.cons (Field.holds_count ..) (.cons (Field.holds_text ..) (.cons (Field.holds_text ..)
        (.cons (Field.holds_text ..) .nil))))))
  back settings gathered same := by
    have serverUrl := same "server_url"
    have group := same "group"
    have handshakeSeconds := same "handshake_timeout_secs"
    have requestSeconds := same "request_timeout_secs"
    have keyExchangePath := same "key_exchange_path"
    have loginPath := same "login_path"
    have registerPath := same "register_path"
    rw [Settings.ofMembers, Members.text_of_lookup serverUrl, Members.text_of_lookup group,
      Members.count_of_lookup handshakeSeconds, Members.count_of_lookup requestSeconds,
      Members.text_of_lookup keyExchangePath, Members.text_of_lookup loginPath,
      Members.text_of_lookup registerPath, UInt64.ofNat_toNat, UInt64.ofNat_toNat]

/-- **Messages and settings are read back.**  A text is read as a value exactly if it describes
members that the value is made from: as an object with its members in any order, any others between
them and any escapes and blanks, or as an array.  What is written for a value is read as this value,
whatever the value was read from before, and the same is written for it again. -/
theorem records_round_trip :
    RoundTrips Message.Request.format Message.Request.parse Message.Request.write ∧
      RoundTrips Message.Login.format Message.Login.parse Message.Login.write ∧
      RoundTrips Message.Registration.format Message.Registration.parse
        Message.Registration.write ∧
      RoundTrips Settings.format Settings.parse Settings.write := by
  refine ⟨?_, ?_, ?_, ?_⟩
  · apply Format.roundTrips
    · intro text
      rfl
    · intro request
      rfl
  · apply Format.roundTrips
    · intro text
      rfl
    · intro login
      rfl
  · apply Format.roundTrips
    · intro text
      rfl
    · intro registration
      rfl
  · apply Format.roundTrips
    · intro text
      rfl
    · intro settings
      rfl

end SealedCredentials
