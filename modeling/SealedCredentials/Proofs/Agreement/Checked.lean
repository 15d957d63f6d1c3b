import SealedCredentials.Client.Basic
import SealedCredentials.Proofs.Agreement.Generation
import SealedCredentials.Proofs.Agreement.Secret

/-!
# Agreement never leaves the numbers

Numbers here have no sign, and a difference below zero would be the end of a program, as would be a
remainder by zero.  To say that neither comes up, everything that compares a value with the modulus
or takes a power is done once more with operations that can fail (`checked`): a difference fails
below zero, and a power fails under a modulus of zero or one.  One text serves both kinds of
arithmetic, so a check that moves in it moves in both.

With parameters that are accepted nothing fails, and what comes out is what the plain operations
give (`Checked.objection_eq`, `Checked.withExponent_eq`).  `arithmetic_never_fails` says this of all
that is done with parameters, exponents and values of the other side, and that a pair is always
drawn.
-/

set_option autoImplicit false

namespace SealedCredentials.Agreement

open Arithmetic

/-! ## Arithmetic that can fail -/

/-- What ends a computation on the spot. -/
inductive Breach where
  | belowZero (number less : Nat)
  | smallModulus (modulus : Nat)
  deriving DecidableEq, Repr

/-- The result of a computation, or what ended it. -/
abbrev Checked := Except Breach

/-- A difference must not be below zero, and a modulus not below two. -/
def checked : Operations Checked where
  difference number less :=
    if less ≤ number then .ok (number - less) else .error (.belowZero number less)
  power base exponent modulus :=
    if modulus ≤ 1 then .error (.smallModulus modulus)
    else .ok (powerMod base exponent modulus)

namespace Checked

/-! ### Everything that is done with parameters -/

/-- Whether a value lies between a bound and the modulus less two. -/
def between (low value modulus : Nat) : Checked Bool :=
  Agreement.between checked low value modulus

/-- A modulus and a generator, unless something speaks against them. -/
def make (modulus generator : Nat) : Checked (Except Fault (Nat × Nat)) := do
  match ← objection checked modulus generator with
  | some cause => return .error (.parameters cause)
  | none => return .ok (modulus, generator)

/-- The pair of an exponent. -/
def withExponent (parameters : Parameters) (exponent : Nat) : Checked KeyPair :=
  KeyPair.withExponentBy checked parameters exponent

/-- The pair of a chosen exponent. -/
def ofExponent (parameters : Parameters) (exponent : Nat) : Checked (Except Fault KeyPair) :=
  KeyPair.ofExponentBy checked parameters exponent

/-- The pair of an exponent drawn from two to the modulus less two. -/
def generate (draw : Nat → Nat → Nat) (parameters : Parameters) :
    Checked (Except Fault KeyPair) :=
  KeyPair.generateBy checked (drawFrom draw) parameters

/-- The public value of a pair, computed anew. -/
def recomputed (pair : KeyPair) : Checked Nat := KeyPair.recomputedBy checked pair

/-- The secret shared with the holder of a public value. -/
def share (pair : KeyPair) (peer : Nat) : Checked (Except Fault SharedSecret) :=
  KeyPair.shareBy checked pair peer

/-! ### Nothing fails -/

theorem difference_eq {number less : Nat} (enough : less ≤ number) :
    checked.difference number less = .ok (number - less) := if_pos enough

theorem power_eq (parameters : Parameters) (base exponent : Nat) :
    checked.power base exponent parameters.modulus =
      .ok (powerMod base exponent parameters.modulus) := by
  have large := parameters.five_le_modulus
  exact if_neg (by omega)

/-- **A modulus of two at least can be compared with.** -/
theorem between_eq {modulus : Nat} (large : 2 ≤ modulus) (low value : Nat) :
    between low value modulus = .ok (Agreement.between .plain low value modulus).run := by
  rw [between, Agreement.between, Agreement.between, difference_eq large]
  by_cases small : value < low
  · rw [if_pos small, if_pos small]
    rfl
  · rw [if_neg small, if_neg small]
    rfl

/-- Under a modulus of one there would be nothing to compare a value with. -/
example : between 2 7 1 = .error (.belowZero 1 2) := rfl

theorem between_two_eq (parameters : Parameters) (value : Nat) :
    between 2 value parameters.modulus = .ok (parameters.isPublic value) := by
  have large := parameters.five_le_modulus
  exact between_eq (by omega) 2 value

theorem between_one_eq (parameters : Parameters) (value : Nat) :
    between 1 value parameters.modulus = .ok (parameters.isExponent value) := by
  have large := parameters.five_le_modulus
  exact between_eq (by omega) 1 value

/-- **The modulus is compared with only after it was found large enough.** -/
theorem objection_eq (modulus generator : Nat) :
    objection checked modulus generator = .ok (objection .plain modulus generator).run := by
  rw [objection, objection]
  by_cases small : modulus < 5
  · rw [if_pos small, if_pos small]
    rfl
  · have inside := between_eq (by omega : 2 ≤ modulus) 2 generator
    rw [between] at inside
    rw [if_neg small, if_neg small, inside]
    rfl

theorem make_eq (modulus generator : Nat) :
    make modulus generator =
      .ok ((Parameters.make modulus generator).map fun made => (made.modulus, made.generator)) := by
  rw [make, objection_eq, Parameters.make]
  split
  · next cause opposed =>
    rw [opposed]
    rfl
  · next unopposed =>
    simp only [unopposed]
    rfl

theorem withExponent_eq (parameters : Parameters) (exponent : Nat) :
    withExponent parameters exponent = .ok (KeyPair.withExponent parameters exponent) := by
  have power := power_eq parameters parameters.generator (ofBytes (toBytes exponent))
  rw [withExponent, KeyPair.withExponentBy]
  simp only [KeyPair.recomputedBy, KeyPair.exponent, power]
  rfl

theorem ofExponent_eq (parameters : Parameters) (exponent : Nat) :
    ofExponent parameters exponent = .ok (KeyPair.ofExponent parameters exponent) := by
  have inside := between_one_eq parameters exponent
  have pair := withExponent_eq parameters exponent
  rw [between] at inside
  rw [withExponent] at pair
  rw [ofExponent, KeyPair.ofExponentBy, inside, pair, KeyPair.ofExponent_eq]
  cases parameters.isExponent exponent with
  | false => rfl
  | true => rfl

theorem recomputed_eq (pair : KeyPair) : recomputed pair = .ok pair.recomputed :=
  power_eq pair.parameters _ _

theorem share_eq (pair : KeyPair) (peer : Nat) : share pair peer = .ok (pair.share peer) := by
  have inside := between_two_eq pair.parameters peer
  rw [between] at inside
  rw [share, KeyPair.shareBy, inside, power_eq, KeyPair.share_eq]
  cases pair.parameters.isPublic peer with
  | false => rfl
  | true => rfl

/-- There always is something to draw from. -/
theorem generate_eq (draw : Nat → Nat → Nat) (parameters : Parameters) :
    generate draw parameters =
      .ok (.ok (KeyPair.withExponent parameters (draw 2 (parameters.modulus - 1)))) := by
  have large := parameters.five_le_modulus
  have room : 2 < parameters.modulus - 1 := by omega
  have pair := withExponent_eq parameters (draw 2 (parameters.modulus - 1))
  rw [withExponent] at pair
  rw [generate, KeyPair.generateBy, difference_eq (by omega)]
  simp only [bind, Except.bind, drawFrom, if_pos room, pair]
  rfl

end Checked

/-! ## The main result -/

/-- A draw gives a number from the lower bound on and below the upper one, if there is any. -/
def Draws (draw : Nat → Nat → Nat) : Prop :=
  ∀ low high, low < high → low ≤ draw low high ∧ draw low high < high

/-- A named group has parameters that are accepted. -/
theorem Group.make_parameters (group : Group) :
    Parameters.make group.modulus 2 = .ok group.parameters :=
  Parameters.make_eq_ok_iff.mpr ⟨rfl, rfl⟩

/-- **No difference falls below zero, and no power is taken under a trivial modulus.**  For any
modulus and generator that are offered, and for any parameters that are accepted, those of the named
groups among them, arithmetic that can fail does not fail and comes to the same as arithmetic
without checks, whatever the exponent and the value of the other side.  A pair is always drawn, also
for the channel of a client, and its exponent is one that may be chosen.  The stored bytes of an
exponent give the exponent back. -/
theorem arithmetic_never_fails {draw : Nat → Nat → Nat} (draws : Draws draw) :
    (∀ modulus generator, Checked.make modulus generator =
      .ok ((Parameters.make modulus generator).map fun made => (made.modulus, made.generator))) ∧
    (∀ group : Group, Parameters.make group.modulus 2 = .ok group.parameters) ∧
    (∀ parameters : Parameters,
      (∀ value, Checked.between 2 value parameters.modulus = .ok (parameters.isPublic value)) ∧
      (∀ exponent,
        Checked.ofExponent parameters exponent = .ok (KeyPair.ofExponent parameters exponent) ∧
        Checked.withExponent parameters exponent =
          .ok (KeyPair.withExponent parameters exponent) ∧
        (KeyPair.withExponent parameters exponent).exponent = exponent) ∧
      (∀ pair : KeyPair, pair.parameters = parameters →
        Checked.recomputed pair = .ok pair.recomputed ∧
        ∀ peer, Checked.share pair peer = .ok (pair.share peer)) ∧
      (∃ exponent pair, exponent = draw 2 (parameters.modulus - 1) ∧
        (2 ≤ exponent ∧ exponent ≤ parameters.modulus - 2) ∧
        Checked.generate draw parameters = .ok (.ok pair) ∧
        KeyPair.ofExponent parameters exponent = .ok pair ∧ pair.exponent = exponent) ∧
      ∀ random, ∃ exponent pair, KeyPair.generate parameters random = .ok pair ∧
        KeyPair.ofExponent parameters exponent = .ok pair ∧ pair.exponent = exponent) ∧
    ∀ settings group handshakeLimit requestLimit random resolver fault,
      Client.Config.make settings group handshakeLimit requestLimit random resolver ≠
        .error (.channel fault) := by
  have chosen (parameters : Parameters) {exponent : Nat} (low : 2 ≤ exponent)
      (high : exponent ≤ parameters.modulus - 2) :
      KeyPair.ofExponent parameters exponent = .ok (KeyPair.withExponent parameters exponent) :=
    KeyPair.ofExponent_eq_ok_iff.mpr ⟨⟨by omega, high⟩, rfl⟩
  refine ⟨Checked.make_eq, Group.make_parameters, fun parameters => ?_, ?_⟩
  · refine ⟨Checked.between_two_eq parameters, fun exponent => ?_, ?_, ?_, fun random => ?_⟩
    · exact ⟨Checked.ofExponent_eq parameters exponent, Checked.withExponent_eq parameters exponent,
        KeyPair.exponent_withExponent parameters exponent⟩
    · rintro pair rfl
      exact ⟨Checked.recomputed_eq pair, Checked.share_eq pair⟩
    · have large := parameters.five_le_modulus
      obtain ⟨low, high⟩ := draws 2 (parameters.modulus - 1) (by omega)
      have inside : draw 2 (parameters.modulus - 1) ≤ parameters.modulus - 2 := by omega
      exact ⟨_, _, rfl, ⟨low, inside⟩, Checked.generate_eq draw parameters,
        chosen parameters low inside, KeyPair.exponent_withExponent _ _⟩
    · obtain ⟨exponent, ⟨low, high⟩, same⟩ :=
        KeyPair.exists_generate_iff.mp ⟨random, KeyPair.generate_eq parameters random⟩
      refine ⟨exponent, _, KeyPair.generate_eq parameters random, ?_, ?_⟩
      · rw [same]
        exact chosen parameters low high
      · rw [same]
        exact KeyPair.exponent_withExponent _ _
  · intro settings group handshakeLimit requestLimit random resolver fault failed
    rw [Client.Config.make, Client.keyExchangeAddress, KeyPair.generate_eq] at failed
    cases found : Address.endpoint settings.serverUrl settings.keyExchangePath resolver with
    | ok address =>
      rw [found] at failed
      cases failed
    | error unusable =>
      rw [found] at failed
      cases failed

/-- The least parameters that are accepted, modulus 5 and generator 2, and a draw that always gives
the largest number: the exponent is 3.  A modulus of one is refused before two is subtracted. -/
theorem arithmetic_never_fails_modulo_5 :
    let draw : Nat → Nat → Nat := fun _ high => high - 1
    let parameters : Parameters := ⟨5, 2, by decide, by decide, by decide⟩
    Draws draw ∧ Checked.make 5 2 = .ok (.ok (5, 2)) ∧
      Checked.make 1 7 = .ok (.error (.parameters .smallModulus)) ∧
      (∃ pair, Checked.generate draw parameters = .ok (.ok pair) ∧
        KeyPair.ofExponent parameters 3 = .ok pair ∧ pair.exponent = 3) ∧
      (KeyPair.withExponent parameters 70000).exponent = 70000 := by
  intro draw parameters
  have draws : Draws draw :=
    fun low high room => ⟨Nat.le_sub_one_of_lt room, Nat.sub_one_lt_of_lt room⟩
  obtain ⟨made, -, accepted, -⟩ := arithmetic_never_fails draws
  obtain ⟨-, pairs, -, ⟨_, pair, rfl, -, drawn, chosen, same⟩, -⟩ := accepted parameters
  exact ⟨draws, made 5 2, made 1 7, ⟨pair, drawn, chosen, same⟩, (pairs 70000).2.2⟩

end SealedCredentials.Agreement
