import SealedCredentials.Agreement.Parameters
import SealedCredentials.Json.Record

/-!
# Settings

What a client is told about its server: where it is, which group it uses, and how long to
wait.  A settings file names any of them; the others keep their standard values.
-/

set_option autoImplicit false

namespace SealedCredentials

/-- The settings of a client. -/
structure Settings where
  serverUrl : String
  group : String
  handshakeSeconds : UInt64
  requestSeconds : UInt64
  keyExchangePath : String
  loginPath : String
  registerPath : String
  deriving DecidableEq, Repr

namespace Settings

/-- The settings that hold unless a file or the command line says otherwise. -/
def standard : Settings where
  serverUrl := "http://localhost:8080"
  group := Agreement.Group.standard.name
  handshakeSeconds := 15
  requestSeconds := 10
  keyExchangePath := "/api/key-exchange"
  loginPath := "/api/login"
  registerPath := "/api/register"

/-- The members of a settings file. -/
def shape : Json.Shape :=
  ⟨"ClientConfig",
    [⟨"server_url", .text, true⟩, ⟨"group", .text, true⟩,
      ⟨"handshake_timeout_secs", .unsigned 64, true⟩,
      ⟨"request_timeout_secs", .unsigned 64, true⟩, ⟨"key_exchange_path", .text, true⟩,
      ⟨"login_path", .text, true⟩, ⟨"register_path", .text, true⟩]⟩

/-- The settings that members amount to. -/
def ofMembers (gathered : Json.Members) : Settings where
  serverUrl := gathered.text "server_url" standard.serverUrl
  group := gathered.text "group" standard.group
  handshakeSeconds := UInt64.ofNat
    (gathered.count "handshake_timeout_secs" standard.handshakeSeconds.toNat)
  requestSeconds := UInt64.ofNat
    (gathered.count "request_timeout_secs" standard.requestSeconds.toNat)
  keyExchangePath := gathered.text "key_exchange_path" standard.keyExchangePath
  loginPath := gathered.text "login_path" standard.loginPath
  registerPath := gathered.text "register_path" standard.registerPath

/-- The settings of a text. -/
def parse (text : String) : Except Json.Fault Settings := do
  return ofMembers (← shape.parse text)

/-- Settings as they are written, all members in the order of their declaration. -/
def write (settings : Settings) : String :=
  Json.Members.write
    [("server_url", .text settings.serverUrl), ("group", .text settings.group),
      ("handshake_timeout_secs", .count settings.handshakeSeconds.toNat),
      ("request_timeout_secs", .count settings.requestSeconds.toNat),
      ("key_exchange_path", .text settings.keyExchangePath),
      ("login_path", .text settings.loginPath),
      ("register_path", .text settings.registerPath)]

end Settings

end SealedCredentials
