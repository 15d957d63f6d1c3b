import SealedCredentials.Channel.Identifier
import SealedCredentials.CommandLine.Run

/-!
# The program

Everything the program decides is decided by `CommandLine.run`.  Here the environment, the
settings file and random numbers are read, and the ending is printed.  The program has no
network of its own: it runs on the wire where nobody answers, and with the resolver for hosts
in ASCII.
-/

set_option autoImplicit false

namespace SealedCredentials.CommandLine

/-- The text of a file. -/
def readText (path : String) : IO (Except FileFault String) := do
  try
    let bytes ← IO.FS.readBinFile path
    return match Text.Utf8.toString? bytes.toList with
      | .ok text => .ok text
      | .error _ => .error .notText
  catch fault =>
    return .error <|
      match fault with
      | .noFileOrDirectory .. => .missing
      | .inappropriateType .. => .directory
      | other => .other (toString other)

/-- The variables of the environment that the program looks at. -/
def readVariables : IO (String → Option String) := do
  let names := ["AUTH_CLIENT_CONFIG", "AUTH_CLIENT_SERVER", "AUTH_CLIENT_PASSWORD"]
  let values ← names.mapM fun name => return (name, ← IO.getEnv name)
  return fun name => (values.lookup name).join

/-- A random number of so many bytes. -/
def drawNumber (bytes : Nat) : IO Nat := do
  return Agreement.ofBytes (← IO.getRandomBytes bytes.toUSize).toList

/-- The settings file that arguments name, if any. -/
def settingsFileOf : Option Demand → Option String
  | some (.invoke invocation) => invocation.settingsFile
  | _ => none

end SealedCredentials.CommandLine

open SealedCredentials SealedCredentials.CommandLine in
/-- Runs the program. -/
def main (arguments : List String) : IO UInt32 := do
  let environment ← readVariables
  let file ←
    match settingsFileOf (readDemand environment arguments) with
    | some path => readText path
    | none => pure (.error .missing)
  let exponent ← drawNumber 264
  let salts ← drawNumber (8 * (arguments.length + 2))
  let identifier := Channel.identifier (← drawNumber 16)
  let draws : Draws := ⟨exponent, fun place => salts / Nat.pow 2 (64 * place)⟩
  let ending :=
    run environment (fun _ => file) .unreachable draws identifier arguments .plain
  for line in ending.output do
    IO.println line
  match ending.complaint with
  | some complaint => IO.eprintln complaint.text
  | none => if ending.code = 2 then IO.eprintln "error: the arguments make no sense"
  return ending.code.toUInt32
