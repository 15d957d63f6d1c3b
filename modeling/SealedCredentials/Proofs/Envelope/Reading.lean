import SealedCredentials.Proofs.Envelope.Sealing

/-!
# Containers have one written form

A container may hold any ciphertext, also none or one that is not made of whole blocks.  It is read
from its own bytes and from no others, and from its own form in base64, blank characters around it
left aside, and from no other text.  Everything else is refused as a container, for whatever cause
(`Container.reading_exact`).

Reading cuts the bytes at fixed places.  The cuts are repeated here as slices that have to lie
inside (`slice?`), with no result if one does not; they always do, since fewer than sixteen bytes
are refused before any cut (`Container.ofSlices?_eq_some`).
-/

set_option autoImplicit false

namespace SealedCredentials.Envelope

/-! ## Slices -/

/-- The bytes from one place up to another, if both lie inside and in this order. -/
def slice? (bytes : List UInt8) (start stop : Nat) : Option (List UInt8) :=
  if start ≤ stop ∧ stop ≤ bytes.length then some ((bytes.drop start).take (stop - start)) else none

theorem slice?_of_le {bytes : List UInt8} {start stop : Nat} (ordered : start ≤ stop)
    (inside : stop ≤ bytes.length) :
    slice? bytes start stop = some ((bytes.drop start).take (stop - start)) := by
  rw [slice?, if_pos ⟨ordered, inside⟩]

/-- A slice up to the end is all that is left. -/
theorem slice?_length {bytes : List UInt8} {start : Nat} (inside : start ≤ bytes.length) :
    slice? bytes start bytes.length = some (bytes.drop start) := by
  rw [slice?_of_le inside (Nat.le_refl _), ← List.length_drop, List.take_length]

namespace Container

/-- A container read slice by slice.  There is no result if a slice does not lie inside, or if the
one for the salt is not eight bytes long. -/
def ofSlices? (raw : List UInt8) : Option (Except Fault Container) :=
  if raw.length < 16 then some (.error (.container (.shortHeader raw.length)))
  else do
    let front ← slice? raw 0 8
    if front = tag then
      let salt ← (slice? raw 8 16).bind Salt.ofBytes?
      let ciphertext ← slice? raw 16 raw.length
      return .ok ⟨salt, ciphertext⟩
    else return .error (.container .missingTag)

/-- **Every slice lies inside**, and what is read slice by slice is what is read. -/
theorem ofSlices?_eq_some (raw : List UInt8) : ofSlices? raw = some (ofBytes raw) := by
  by_cases short : raw.length < 16
  · rw [ofSlices?, ofBytes, if_pos short, dif_pos short]
  · have front : slice? raw 0 8 = some (raw.take 8) := slice?_of_le (by omega) (by omega)
    have middle : slice? raw 8 16 = some ((raw.drop 8).take 8) := slice?_of_le (by omega) (by omega)
    have eight : ((raw.drop 8).take 8).length = 8 := by
      rw [List.length_take, List.length_drop]
      omega
    have back : slice? raw 16 raw.length = some (raw.drop 16) := slice?_length (by omega)
    have salted : Salt.ofBytes? ((raw.drop 8).take 8) = some ⟨(raw.drop 8).take 8, eight⟩ :=
      dif_pos eight
    rw [ofSlices?, ofBytes, if_neg short, dif_neg short, front, middle, back]
    by_cases tagged : raw.take 8 = tag
    · simp only [Option.bind_eq_bind, Option.bind_some, tagged, if_true, salted]
      rfl
    · simp only [Option.bind_eq_bind, Option.bind_some, tagged, if_false]
      rfl

/-! ## The main result -/

/-- If containers are refused as containers only, whatever is not read is refused so. -/
theorem exists_refused_iff {read : Except Fault Container}
    (kind : ∀ fault, read = .error fault → ∃ cause, fault = .container cause) :
    (∃ cause, read = .error (.container cause)) ↔ ¬ ∃ container, read = .ok container := by
  cases read with
  | error fault =>
    obtain ⟨cause, rfl⟩ := kind fault rfl
    simp
  | ok container => simp

/-- **A container is read from its one written form.**  A text is read as a container exactly if
without the blank characters around it it is the form in which the container travels, and bytes are
exactly if they are its bytes.  Every other text and all other bytes are refused as a container.  No
slice of the bytes lies outside. -/
theorem reading_exact (written : String) (raw : List UInt8) :
    (∀ container, parse written = .ok container ↔ Text.trim written = container.wire) ∧
      (∀ container, ofBytes raw = .ok container ↔ raw = container.bytes) ∧
      ((∃ cause, parse written = .error (.container cause)) ↔
        ¬ ∃ container : Container, Text.trim written = container.wire) ∧
      ((∃ cause, ofBytes raw = .error (.container cause)) ↔
        ¬ ∃ container : Container, raw = container.bytes) ∧
      ofSlices? raw = some (ofBytes raw) := by
  refine ⟨fun container => parse_eq_ok_iff, fun container => ofBytes_eq_ok_iff, ?_, ?_,
    ofSlices?_eq_some raw⟩
  · rw [exists_refused_iff fun fault => parse_error]
    simp only [parse_eq_ok_iff]
  · rw [exists_refused_iff fun fault => ofBytes_error]
    simp only [ofBytes_eq_ok_iff]

end Container

end SealedCredentials.Envelope
