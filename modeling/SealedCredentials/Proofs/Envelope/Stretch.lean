import SealedCredentials.Envelope.Stretch

/-!
# Stretching and the derivation of OpenSSL

OpenSSL's `EVP_BytesToKey` with MD5 and one iteration makes a key and an initial block from
password bytes and a salt: every digest absorbs the digest before it, the password bytes and the
salt, and the digests are strung together (`bytesToKey`).  Stretching strings digests together too,
but only its first one absorbs the material; every later one absorbs the digest before it and the
salt and nothing else (`stretch_eq`).

So the two begin with the same sixteen bytes and then part, unless MD5 happens to agree on different
messages.  `stretch_eq_bytesToKey_iff` says exactly when they agree; without material they always
do, and `not_stretch_eq_bytesToKey` is a material for which they do not.
-/

set_option autoImplicit false

namespace SealedCredentials.Envelope

open Digest

/-! ## The derivation of OpenSSL -/

/-- The digest of a number in the chain of OpenSSL, which counts from one: each absorbs the one
before it, the password bytes and the salt. -/
def bytesToKeyDigest (password salt : List UInt8) : Nat → List UInt8
  | 0 => []
  | number + 1 => Md5.hash (bytesToKeyDigest password salt number ++ password ++ salt)

/-- The key and the initial block that OpenSSL derives: thirty-two bytes and sixteen of the first
three digests. -/
def bytesToKey (password : List UInt8) (salt : Salt) : Keys :=
  let chain := [1, 2, 3].flatMap (bytesToKeyDigest password salt.bytes)
  ⟨chain.take 32, (chain.drop 32).take 16⟩

/-! ## Both derivations digest by digest -/

/-- There is room for three links. -/
theorem stretchTo?_three (material : List UInt8) (salt : Salt) :
    stretchTo? material salt 48 = some (links material salt.bytes 3) :=
  if_pos (by decide)

/-- Three digests strung together and cut after thirty-two bytes. -/
theorem cut_three {first second third : List UInt8} (firstSize : first.length = 16)
    (secondSize : second.length = 16) (thirdSize : third.length = 16) :
    (first ++ (second ++ third)).take 32 = first ++ second ∧
      ((first ++ (second ++ third)).drop 32).take 16 = third := by
  have size : (first ++ second).length = 32 := by
    rw [List.length_append, firstSize, secondSize]
  constructor
  · rw [← List.append_assoc, List.take_left' size]
  · rw [← List.append_assoc, List.drop_left' size, ← thirdSize, List.take_length]

/-- **Only the first digest of stretching absorbs the material.** -/
theorem stretch_eq (material : List UInt8) (salt : Salt) :
    let first := Md5.hash (material ++ salt.bytes)
    let second := Md5.hash (first ++ salt.bytes)
    stretch material salt = ⟨first ++ second, Md5.hash (second ++ salt.bytes)⟩ := by
  intro first second
  have chain : stretchTo material salt 48 =
      first ++ (second ++ Md5.hash (second ++ salt.bytes)) := by
    rw [stretchTo, stretchTo?_three, Option.getD_some]
    simp only [links, List.append_nil]
    rfl
  obtain ⟨front, back⟩ :=
    cut_three (Md5.length_hash _) (Md5.length_hash _) (Md5.length_hash (second ++ salt.bytes))
  rw [stretch, chain, front, back]

/-- Every digest of OpenSSL absorbs the password bytes. -/
theorem bytesToKey_eq (password : List UInt8) (salt : Salt) :
    let first := Md5.hash (password ++ salt.bytes)
    let second := Md5.hash (first ++ password ++ salt.bytes)
    bytesToKey password salt =
      ⟨first ++ second, Md5.hash (second ++ password ++ salt.bytes)⟩ := by
  intro first second
  have chain : [1, 2, 3].flatMap (bytesToKeyDigest password salt.bytes) =
      first ++ (second ++ Md5.hash (second ++ password ++ salt.bytes)) := by
    simp only [List.flatMap_cons, List.flatMap_nil, bytesToKeyDigest, List.nil_append,
      List.append_nil]
    rfl
  obtain ⟨front, back⟩ := cut_three (Md5.length_hash _) (Md5.length_hash _)
    (Md5.length_hash (second ++ password ++ salt.bytes))
  rw [bytesToKey, chain, front, back]

/-! ## Where they agree and where they part -/

/-- **Stretching agrees with OpenSSL exactly as far as MD5 does.**  The first sixteen bytes of the
keys are the digest of material and salt in both.  All bytes agree exactly if the second and the
third digest are the same with the material absorbed and without it.  Without material they are. -/
theorem stretch_eq_bytesToKey_iff (material : List UInt8) (salt : Salt) :
    let first := Md5.hash (material ++ salt.bytes)
    let second := Md5.hash (first ++ salt.bytes)
    let third := Md5.hash (second ++ salt.bytes)
    stretch material salt = ⟨first ++ second, third⟩ ∧
      (stretch material salt).key.take 16 = (bytesToKey material salt).key.take 16 ∧
      (stretch material salt = bytesToKey material salt ↔
        second = Md5.hash (first ++ material ++ salt.bytes) ∧
          third = Md5.hash (second ++ material ++ salt.bytes)) ∧
      stretch [] salt = bytesToKey [] salt := by
  intro first second third
  refine ⟨stretch_eq material salt, ?_, ?_, ?_⟩
  · rw [stretch_eq, bytesToKey_eq, List.take_left' (Md5.length_hash _),
      List.take_left' (Md5.length_hash _)]
  · rw [stretch_eq, bytesToKey_eq, Keys.mk.injEq, List.append_right_inj]
    constructor
    · rintro ⟨seconds, thirds⟩
      exact ⟨seconds, thirds.trans (by rw [← seconds])⟩
    · rintro ⟨seconds, thirds⟩
      exact ⟨seconds, thirds.trans (by rw [← seconds])⟩
  · rw [stretch_eq, bytesToKey_eq]
    simp only [List.nil_append, List.append_nil]

/-- The material of the secret 2: its key goes another way than OpenSSL's after sixteen bytes. -/
theorem not_stretch_eq_bytesToKey :
    ¬ ∀ (material : List UInt8) (salt : Salt),
      stretch material salt = bytesToKey material salt := by
  intro agree
  have same := agree (Digest.Sha256.hash [0x32]) ⟨[1, 2, 3, 4, 5, 6, 7, 8], rfl⟩
  exact absurd same (by decide +kernel)

end SealedCredentials.Envelope
