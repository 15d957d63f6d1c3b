import SealedCredentials.Settings
import SealedCredentials.Proofs.Json.RecordText

/-!
# Settings files

A settings file is an object that overrides the standard settings.  What a name comes to is decided
by its one member, or by the standard value if there is none (`Settings.Decided`); neither the order
of the members nor others between them play a part.  A name that stands there twice, or with a value
that it does not take, spoils the whole file (`Settings.parse_overrides`).
-/

set_option autoImplicit false

namespace SealedCredentials.Settings

open Json

variable {raw : WrittenMembers} {gathered : Members} {name : String}

/-- What a name comes to: what its member spells, or the standard value without such a member. -/
def Decided (raw : WrittenMembers) (name : String) (kind : Kind) (standard held : Scalar) : Prop :=
  (∃ written, (name, written) ∈ raw ∧ SpellsScalar kind written.text held) ∨
    ((∀ written, (name, written) ∉ raw) ∧ held = standard)

/-- The settings are decided by the members of an object, each one by itself. -/
structure Overridden (raw : WrittenMembers) (settings : Settings) : Prop where
  serverUrl : Decided raw "server_url" .text (.text standard.serverUrl) (.text settings.serverUrl)
  group : Decided raw "group" .text (.text standard.group) (.text settings.group)
  handshakeSeconds : Decided raw "handshake_timeout_secs" (.unsigned 64)
    (.count standard.handshakeSeconds.toNat) (.count settings.handshakeSeconds.toNat)
  requestSeconds : Decided raw "request_timeout_secs" (.unsigned 64)
    (.count standard.requestSeconds.toNat) (.count settings.requestSeconds.toNat)
  keyExchangePath : Decided raw "key_exchange_path" .text (.text standard.keyExchangePath)
    (.text settings.keyExchangePath)
  loginPath : Decided raw "login_path" .text (.text standard.loginPath) (.text settings.loginPath)
  registerPath : Decided raw "register_path" .text (.text standard.registerPath)
    (.text settings.registerPath)

/-! ## One name -/

/-- Under a known name is found what is written under it, or nothing. -/
theorem lookup_cases (gathers : shape.Gathers raw gathered)
    (once : (gathered.map Prod.fst).Nodup) {field : Field}
    (found : shape.field? name = some field) :
    (∃ scalar written, gathered.lookup name = some scalar ∧ (name, written) ∈ raw ∧
        SpellsScalar field.kind written.text scalar) ∨
      (gathered.lookup name = none ∧ ∀ written, (name, written) ∉ raw) := by
  cases held : gathered.lookup name with
  | some scalar =>
    have member := (lookup_eq_some_iff_mem once).mp held
    obtain ⟨written, other, present, same, spells⟩ := gathers.mem_iff.mp member
    cases found.symm.trans same
    exact .inl ⟨scalar, written, rfl, present, spells⟩
  | none =>
    refine .inr ⟨rfl, fun written present => ?_⟩
    obtain ⟨scalar, spells⟩ := gathers.typed (name, written) present field found
    have member := gathers.mem_iff.mpr ⟨written, field, present, found, spells⟩
    exact lookup_eq_none_iff_not_mem.mp held (List.mem_map_of_mem member)

theorem decided_text (gathers : shape.Gathers raw gathered)
    (once : (gathered.map Prod.fst).Nodup)
    (found : shape.field? name = some ⟨name, .text, true⟩) (standard : String) :
    Decided raw name .text (.text standard) (.text (gathered.text name standard)) := by
  rcases lookup_cases gathers once found with ⟨_, written, held, present, spells⟩ | ⟨held, absent⟩
  · obtain ⟨value, rfl⟩ := spells.exists_text
    rw [Members.text_of_lookup held]
    exact .inl ⟨written, present, spells⟩
  · rw [Members.text_of_absent held]
    exact .inr ⟨absent, rfl⟩

theorem decided_count (gathers : shape.Gathers raw gathered)
    (once : (gathered.map Prod.fst).Nodup)
    (found : shape.field? name = some ⟨name, .unsigned 64, true⟩) (standard : UInt64) :
    Decided raw name (.unsigned 64) (.count standard.toNat)
      (.count (UInt64.ofNat (gathered.count name standard.toNat)).toNat) := by
  rcases lookup_cases gathers once found with ⟨_, written, held, present, spells⟩ | ⟨held, absent⟩
  · obtain ⟨value, rfl, small⟩ := spells.exists_count
    rw [Members.count_of_lookup held, UInt64.toNat_ofNat_of_lt' small]
    exact .inl ⟨written, present, spells⟩
  · rw [Members.count_of_absent held, UInt64.ofNat_toNat]
    exact .inr ⟨absent, rfl⟩

/-! ## Whole files -/

theorem overridden_of_gathers (gathers : shape.Gathers raw gathered)
    (once : (gathered.map Prod.fst).Nodup) : Overridden raw (ofMembers gathered) where
  serverUrl := decided_text gathers once rfl standard.serverUrl
  group := decided_text gathers once rfl standard.group
  handshakeSeconds := decided_count gathers once rfl standard.handshakeSeconds
  requestSeconds := decided_count gathers once rfl standard.requestSeconds
  keyExchangePath := decided_text gathers once rfl standard.keyExchangePath
  loginPath := decided_text gathers once rfl standard.loginPath
  registerPath := decided_text gathers once rfl standard.registerPath

theorem ofMembers_congr {others : Members}
    (same : ∀ name, gathered.lookup name = others.lookup name) :
    ofMembers gathered = ofMembers others := by
  simp only [ofMembers, Members.text, Members.count, same]

/-- None of the settings is required. -/
theorem complete_eq (gathered : Members) : shape.complete gathered = .ok gathered := by
  have optional : ∀ field ∈ shape.fields, field.mayMiss = true := by decide
  refine Shape.complete_eq_ok_iff.mpr ⟨rfl, fun field member required => ?_⟩
  rw [optional field member] at required
  cases required

theorem parse_of_object {text : String} (object : WrittenObject text raw) :
    parse text = (raw.foldlM shape.addMember []).map ofMembers := by
  rw [parse, Shape.parse_of_object object]
  cases raw.foldlM shape.addMember [] with
  | error fault => rfl
  | ok gathered =>
    have complete := complete_eq gathered
    simp only [bind, Except.bind, complete]
    rfl

/-- **A settings file overrides the standard settings, in any order, or is refused.** -/
theorem parse_overrides {text : String} (object : WrittenObject text raw) :
    (shape.Proper raw → ∃ settings, parse text = .ok settings ∧ Overridden raw settings) ∧
      (¬shape.Proper raw → ∃ fault, parse text = .error fault) ∧
      ∀ other more, WrittenObject other more → (shape.known raw).Perm (shape.known more) →
        (parse other).toOption = (parse text).toOption := by
  refine ⟨fun proper => ?_, fun improper => ?_, fun other more also order => ?_⟩
  · obtain ⟨gathered, gathers, once⟩ := Shape.proper_iff.mp proper
    have folded := Shape.foldlM_addMember_nil_iff.mpr ⟨gathers, once⟩
    refine ⟨ofMembers gathered, ?_, overridden_of_gathers gathers once⟩
    rw [parse_of_object object, folded]
    rfl
  · obtain ⟨fault, failed⟩ := Shape.foldlM_addMember_of_proper.2 improper
    refine ⟨fault, ?_⟩
    rw [parse_of_object object, failed]
    rfl
  · rw [parse_of_object object, parse_of_object also]
    by_cases proper : shape.Proper raw
    · obtain ⟨gathered, gathers, once⟩ := Shape.proper_iff.mp proper
      obtain ⟨others, both⟩ := Shape.proper_iff.mp ((Shape.proper_congr order).mp proper)
      rw [Shape.foldlM_addMember_nil_iff.mpr ⟨gathers, once⟩,
        Shape.foldlM_addMember_nil_iff.mpr both]
      have same := gathers.lookup_congr both.1 proper.once order
      exact congrArg some (ofMembers_congr same).symm
    · obtain ⟨fault, failed⟩ := Shape.foldlM_addMember_of_proper.2 proper
      have improper : ¬shape.Proper more := fun also => proper ((Shape.proper_congr order).mpr also)
      obtain ⟨cause, also⟩ := Shape.foldlM_addMember_of_proper.2 improper
      rw [failed, also]
      rfl

/-- One path is named beside an unknown member, and alone; a number is no path. -/
theorem parse_overrides_of_path :
    ∃ raw bad, WrittenObject "\x7b\"x\":[],\"login_path\":\"/in\"\x7d" raw ∧ shape.Proper raw ∧
      WrittenObject "\x7b\"login_path\":1\x7d" bad ∧ ¬shape.Proper bad ∧
      (∃ settings, parse "\x7b\"x\":[],\"login_path\":\"/in\"\x7d" = .ok settings ∧
        Overridden raw settings) ∧
      (∃ fault, parse "\x7b\"login_path\":1\x7d" = .error fault) ∧
      (parse "\x7b\"login_path\":\"/in\"\x7d").toOption =
        (parse "\x7b\"x\":[],\"login_path\":\"/in\"\x7d").toOption := by
  let empty : Written := ⟨['[', ']'], 1, IsNode.array (.none isGap_nil)⟩
  have spells := SpellsScalar.text (spellsText_write "/in".toList)
  let path : Written := ⟨writeString "/in".toList, spells.isLeaf.wellFormed⟩
  have digits : Arithmetic.Decimal.digits 1 = ['1'] := Arithmetic.Decimal.digits_of_lt (by decide)
  have isWhole : IsWhole ['1'] := by
    rw [← digits]
    exact isWhole_digits 1
  have number : SpellsScalar (.unsigned 64) ['1'] _ := .count isWhole (by decide) (by decide)
  let one : Written := ⟨['1'], number.isLeaf.wellFormed⟩
  have pathMember := spellsMember_written "login_path" path
  have alone : WrittenObject "\x7b\"login_path\":\"/in\"\x7d" [("login_path", path)] :=
    writtenObject_intercalate (.cons pathMember .nil) rfl
  have beside : WrittenObject "\x7b\"x\":[],\"login_path\":\"/in\"\x7d"
      [("x", empty), ("login_path", path)] :=
    writtenObject_intercalate (.cons (spellsMember_written "x" empty) (.cons pathMember .nil)) rfl
  have bad : WrittenObject "\x7b\"login_path\":1\x7d" [("login_path", one)] :=
    writtenObject_intercalate (.cons (spellsMember_written "login_path" one) .nil) rfl
  have proper : shape.Proper [("x", empty), ("login_path", path)] :=
    Shape.proper_iff.mpr ⟨_, .unknown rfl (.known rfl spells .nil), by decide⟩
  have improper : ¬shape.Proper [("login_path", one)] := by
    intro proper
    obtain ⟨scalar, impossible⟩ := proper.typed _ List.mem_cons_self _ rfl
    cases impossible
  exact ⟨_, _, beside, proper, bad, improper, (parse_overrides beside).1 proper,
    (parse_overrides bad).2.1 improper, (parse_overrides beside).2.2 _ _ alone (.refl _)⟩

end SealedCredentials.Settings
