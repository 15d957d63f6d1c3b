import SealedCredentials.Digest.Md5
import SealedCredentials.Envelope.Material

/-!
# Stretching

The key and the initial block of an envelope are cut from a chain of digests.  The first
link is the digest of the material and the salt; every later one is the digest of the link
before it and the salt.  Room for the chain is asked for before the first link is made, and the
program ends if it cannot be had.
-/

set_option autoImplicit false

namespace SealedCredentials.Envelope

/-- The most bytes for which there can be room in one piece. -/
def roomLimit : Nat := Nat.pow 2 63 - 1

/-- A chain of `count` links, the first one made from `seed`. -/
def links (seed salt : List UInt8) : Nat → List UInt8
  | 0 => []
  | count + 1 =>
    let link := Digest.Md5.hash (seed ++ salt)
    link ++ links link salt count

/-- The shortest chain of at least `least` bytes, if there can be room for these and a link. -/
def stretchTo? (material : List UInt8) (salt : Salt) (least : Nat) : Option (List UInt8) :=
  if least + 16 ≤ roomLimit then some (links material salt.bytes ((least + 15) / 16)) else none

/-- The chain where there is one, and no bytes otherwise. -/
def stretchTo (material : List UInt8) (salt : Salt) (least : Nat) : List UInt8 :=
  (stretchTo? material salt least).getD []

/-- What an envelope is encrypted with. -/
structure Keys where
  key : List UInt8
  initial : List UInt8
  deriving DecidableEq, Repr

/-- The keys of an envelope: thirty-two bytes and sixteen. -/
def stretch (material : List UInt8) (salt : Salt) : Keys :=
  let chain := stretchTo material salt 48
  ⟨chain.take 32, (chain.drop 32).take 16⟩

end SealedCredentials.Envelope
