import SealedCredentials.Message.Submission
import SealedCredentials.Proofs.Envelope.Outline

/-!
# What a form shows of its envelopes

A form is a fixed frame around two envelopes (`Frame`).  No symbol of base64 needs an escape, so the
envelopes stand in it as they are (`Login.write_eq`, `Registration.write_eq`).  Two forms with the
same frame and salts, whose envelopes are equally long, therefore differ where the envelopes hold
their ciphertexts, and nowhere else (`Frame.agreeBut_fill`).
-/

set_option autoImplicit false

namespace SealedCredentials

theorem Text.Utf8.ofString_append (front back : String) :
    ofString (front ++ back) = ofString front ++ ofString back := by
  rw [ofString, String.toList_append, encode, List.flatMap_append]
  rfl

/-! ## Strings without escapes -/

namespace Json

/-- A text that is written as it is. -/
def IsPlain (text : String) : Prop := ∀ c ∈ text.toList, writeChar c = [c]

theorem writeString_of_isPlain {text : String} (plain : IsPlain text) :
    writeString text.toList = '"' :: text.toList ++ ['"'] := by
  have same (characters : List Char) (each : ∀ c ∈ characters, writeChar c = [c]) :
      characters.flatMap writeChar = characters := by
    induction characters with
    | nil => rfl
    | cons c rest ih =>
      rw [List.flatMap_cons, each c List.mem_cons_self,
        ih fun other member => each other (List.mem_cons_of_mem c member)]
      rfl
  rw [writeString, same text.toList plain]

/-- Base64 needs no escapes. -/
theorem isPlain_text (bytes : List UInt8) : IsPlain (Codec.Base64.text bytes) := by
  intro c member
  rw [Codec.Base64.text, String.toList_ofList] at member
  obtain ⟨byte, written, rfl⟩ := List.mem_map.mp member
  have plain : ∀ byte ∈ Codec.Base64.encode bytes,
      writeChar (Char.ofNat byte.toNat) = [Char.ofNat byte.toNat] :=
    Codec.Base64.forall_mem_encode (by decide) (by decide) bytes
  exact plain byte written

end Json

namespace Message

/-! ## Frames -/

/-- What stands before, between and behind the two envelopes of a form. -/
structure Frame where
  opening : String
  between : String
  closing : String

namespace Frame

/-- The frame of a form whose last envelope is followed by some text. -/
def around (closing : String) : Frame :=
  ⟨"\x7b\"username\":\"", "\",\"password\":\"", closing⟩

/-- A frame around two envelopes. -/
def fill (frame : Frame) (username password : String) : String :=
  frame.opening ++ username ++ frame.between ++ password ++ frame.closing

/-- A byte of a form holds bits of one of the two ciphertexts. -/
def Carries (frame : Frame) (username password : Envelope.Container) (place : Nat) : Prop :=
  let first := (Text.Utf8.ofString frame.opening).length
  let second := (Text.Utf8.ofString (frame.opening ++ username.wire ++ frame.between)).length
  (first ≤ place ∧ username.Carries (place - first)) ∨
    (second ≤ place ∧ password.Carries (place - second))

/-- **Forms with the same frame and salts and equally long ciphertexts differ where they hold the
ciphertexts, and nowhere else.** -/
theorem agreeBut_fill (frame : Frame) {username other password another : Envelope.Container}
    (first : AgreeBut username.Carries (Text.Utf8.ofString username.wire)
      (Text.Utf8.ofString other.wire))
    (second : AgreeBut password.Carries (Text.Utf8.ofString password.wire)
      (Text.Utf8.ofString another.wire)) :
    AgreeBut (frame.Carries username password)
      (Text.Utf8.ofString (frame.fill username.wire password.wire))
      (Text.Utf8.ofString (frame.fill other.wire another.wire)) := by
  have fixed (text : String) :
      AgreeBut (fun _ => False) (Text.Utf8.ofString text) (Text.Utf8.ofString text) := .refl _ _
  have whole :=
    ((((fixed frame.opening).append first).append (fixed frame.between)).append second).append
      (fixed frame.closing)
  simp only [fill, Text.Utf8.ofString_append]
  refine whole.mono ?_
  intro place changed
  simp only [Carries, Text.Utf8.ofString_append]
  simpa only [false_or, and_false, or_false] using changed

end Frame

/-! ## The two forms -/

/-- Lists with a separator between them: it stands before each one but the first. -/
theorem intercalate_cons {α : Type} (separator list : List α) (lists : List (List α)) :
    separator.intercalate (list :: lists) =
      list ++ lists.flatMap fun next => separator ++ next := by
  induction lists generalizing list with
  | nil => simp [List.intercalate]
  | cons next later ih =>
    rw [List.intercalate_cons_cons, ih next, List.flatMap_cons, List.append_assoc,
      List.append_assoc]

/-- Whatever members follow its envelopes, a form is a frame around them. -/
theorem write_form {username password : String} (first : Json.IsPlain username)
    (second : Json.IsPlain password) (more : Json.Members) :
    Json.Members.write (("username", .text username) :: ("password", .text password) :: more) =
      (Frame.around ("\"" ++
          String.ofList (more.flatMap fun member => ',' :: Json.writeMember member) ++
          "\x7d")).fill username password := by
  have named : Json.writeString "username".toList = "\"username\"".toList := by decide
  have secured : Json.writeString "password".toList = "\"password\"".toList := by decide
  apply String.toList_injective
  simp only [Json.Members.write, List.map_cons, intercalate_cons, List.flatMap_cons,
    List.flatMap_map, Json.writeMember, Json.Scalar.write, named, secured,
    Json.writeString_of_isPlain first, Json.writeString_of_isPlain second, String.toList_ofList,
    Frame.fill, Frame.around, String.toList_append]
  simp

/-- A login is a frame around its envelopes. -/
theorem Login.write_eq {login : Login} (first : Json.IsPlain login.username)
    (second : Json.IsPlain login.password) :
    login.write = (Frame.around "\"\x7d").fill login.username login.password :=
  write_form first second []

/-- A registration is a frame around its envelopes; the frame holds the role. -/
theorem Registration.write_eq {registration : Registration}
    (first : Json.IsPlain registration.username) (second : Json.IsPlain registration.password) :
    registration.write =
      (Frame.around ("\",\"role\":" ++
          String.ofList (Json.writeString registration.role.toList) ++ "\x7d")).fill
        registration.username registration.password := by
  have role : "\"" ++ String.ofList
        ([("role", Json.Scalar.text registration.role)].flatMap fun member =>
          ',' :: Json.writeMember member) =
      "\",\"role\":" ++ String.ofList (Json.writeString registration.role.toList) := by
    apply String.toList_injective
    have named : Json.writeString "role".toList = "\"role\"".toList := by decide
    simp only [List.flatMap_cons, List.flatMap_nil, Json.writeMember, Json.Scalar.write, named,
      String.toList_append, String.toList_ofList]
    simp
  rw [write, write_form first second, role]

end Message

end SealedCredentials
