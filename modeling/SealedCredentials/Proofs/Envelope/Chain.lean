import SealedCredentials.Proofs.Envelope.Reading
import SealedCredentials.Proofs.Envelope.Stretch

/-!
# The chain behind the keys

The chain of digests is written down link by link; whoever makes it goes round a loop instead, with
a buffer that grows and the link that comes next to be absorbed, until the buffer holds enough
(`grown`).  The two agree because of what the loop keeps: what it still adds to its buffer is the
chain that begins with the link at hand (`grown_eq`).  Room for the buffer is asked for before the
loop (`filled?`), and is never outgrown.

Where there is room, a chain has as many whole blocks as its length asks for, each the digest of the
one before it and the salt; a longer chain goes on where a shorter one ends; and the keys lie in the
first forty-eight bytes of every chain that long (`chain_of_digests`).  The material enters the
first digest only, so materials that collide there have the same keys; `chain_of_digests_collision`
shows two that do.
-/

set_option autoImplicit false

namespace SealedCredentials.Envelope

open Digest

/-! ## The loop -/

/-- A buffer as it grows: while it holds fewer than `least` bytes, the digest of `previous` and the
salt is appended to it, and is absorbed next. -/
def grown (salt : List UInt8) (least : Nat) (buffer previous : List UInt8) : List UInt8 :=
  if buffer.length < least then
    let link := Md5.hash (previous ++ salt)
    grown salt least (buffer ++ link) link
  else buffer
  termination_by least - buffer.length
  decreasing_by
    rw [List.length_append, Md5.length_hash]
    omega

/-- **What the loop adds to its buffer is a chain that begins with the link at hand.** -/
theorem grown_eq (salt : List UInt8) (least : Nat) (buffer previous : List UInt8) :
    grown salt least buffer previous =
      buffer ++ links previous salt ((least - buffer.length + 15) / 16) := by
  fun_induction grown salt least buffer previous with
  | case1 buffer previous short link ih =>
    have fewer : (least - buffer.length + 15) / 16 =
        (least - (buffer ++ link).length + 15) / 16 + 1 := by
      rw [List.length_append, Md5.length_hash]
      omega
    rw [ih, fewer, links, List.append_assoc]
  | case2 buffer previous full =>
    have none : (least - buffer.length + 15) / 16 = 0 := by omega
    rw [none, links, List.append_nil]

/-- The loop over an empty buffer, for which there must be room. -/
def filled? (material : List UInt8) (salt : Salt) (least : Nat) : Option (List UInt8) :=
  if least + 16 ≤ roomLimit then some (grown salt.bytes least [] material) else none

/-- The loop makes the chain. -/
theorem filled?_eq (material : List UInt8) (salt : Salt) (least : Nat) :
    filled? material salt least = stretchTo? material salt least := by
  rw [filled?, stretchTo?, grown_eq]
  rfl

/-! ## Blocks -/

/-- The block of a number, counted from zero: sixteen bytes. -/
def block (chain : List UInt8) (number : Nat) : List UInt8 := (chain.drop (16 * number)).take 16

section Links

variable (seed salt : List UInt8)

theorem length_links (count : Nat) : (links seed salt count).length = 16 * count := by
  induction count generalizing seed with
  | zero => rfl
  | succ count ih =>
    rw [links, List.length_append, Md5.length_hash, ih]
    omega

/-- The first block of a chain absorbs the seed. -/
theorem block_zero_links (count : Nat) :
    block (links seed salt (count + 1)) 0 = Md5.hash (seed ++ salt) := by
  rw [block, Nat.mul_zero, List.drop_zero, links, List.take_left' (Md5.length_hash _)]

/-- After its first block a chain goes on as the chain that has this block for its seed. -/
theorem block_succ_links (count number : Nat) :
    block (links seed salt (count + 1)) (number + 1) =
      block (links (Md5.hash (seed ++ salt)) salt count) number := by
  have places : 16 * (number + 1) = 16 + 16 * number := by omega
  rw [block, block, places, ← List.drop_drop, links, List.drop_left' (Md5.length_hash _)]

/-- **A block after the first absorbs the one before it.** -/
theorem block_links {count number : Nat} (inside : number + 1 < count) :
    block (links seed salt count) (number + 1) =
      Md5.hash (block (links seed salt count) number ++ salt) := by
  induction number generalizing seed count with
  | zero =>
    obtain ⟨more, rfl⟩ : ∃ more, count = more + 1 + 1 := ⟨count - 2, by omega⟩
    rw [block_succ_links, block_zero_links, block_zero_links]
  | succ number ih =>
    obtain ⟨more, rfl⟩ : ∃ more, count = more + 1 := ⟨count - 1, by omega⟩
    rw [block_succ_links, block_succ_links, ih _ (by omega)]

/-- **A longer chain goes on where a shorter one ends.** -/
theorem prefix_links {count more : Nat} (fewer : count ≤ more) :
    links seed salt count <+: links seed salt more := by
  induction count generalizing seed more with
  | zero => exact List.nil_prefix
  | succ count ih =>
    obtain ⟨rest, rfl⟩ : ∃ rest, more = rest + 1 := ⟨more - 1, by omega⟩
    rw [links, links, List.prefix_append_right_inj]
    exact ih _ (by omega)

end Links

/-! ## Chains of some length at least -/

section Chain

variable (material : List UInt8) (salt : Salt)

variable {material salt} in
/-- Where there is room, a chain has as many links as whole blocks are needed. -/
theorem stretchTo?_eq_some_iff {least : Nat} {chain : List UInt8} :
    stretchTo? material salt least = some chain ↔
      least + 16 ≤ roomLimit ∧ chain = links material salt.bytes ((least + 15) / 16) := by
  rw [stretchTo?, Option.ite_none_right_eq_some, Option.some.injEq]
  exact and_congr_right fun _ => eq_comm

theorem stretchTo?_eq_some {least : Nat} (room : least + 16 ≤ roomLimit) :
    stretchTo? material salt least = some (stretchTo material salt least) := by
  rw [stretchTo, stretchTo?, if_pos room, Option.getD_some]

/-- If there is room for a chain, there is room for a shorter one, with which it begins. -/
theorem exists_stretchTo? {least more : Nat} {longer : List UInt8} (fewer : least ≤ more)
    (made : stretchTo? material salt more = some longer) :
    ∃ chain, stretchTo? material salt least = some chain ∧ chain <+: longer := by
  obtain ⟨room, rfl⟩ := stretchTo?_eq_some_iff.mp made
  exact ⟨_, stretchTo?_eq_some_iff.mpr ⟨by omega, rfl⟩,
    prefix_links material salt.bytes (Nat.div_le_div_right (by omega))⟩

/-- A slice that lies inside the front of a list is a slice of the list. -/
theorem slice?_of_begins {front whole : List UInt8} (begins : front <+: whole) {start stop : Nat}
    (ordered : start ≤ stop) (inside : stop ≤ front.length) :
    slice? whole start stop = slice? front start stop := by
  obtain ⟨back, rfl⟩ := begins
  have longer : stop ≤ (front ++ back).length := by
    rw [List.length_append]
    omega
  rw [slice?_of_le ordered longer, slice?_of_le ordered inside,
    List.drop_append_of_le_length (by omega),
    List.take_append_of_le_length (by rw [List.length_drop]; omega)]

/-- The keys lie in the first forty-eight bytes of every chain that has so many. -/
theorem slice?_chain {least : Nat} {chain : List UInt8}
    (made : stretchTo? material salt least = some chain) (enough : 48 ≤ least) :
    slice? chain 0 32 = some (stretch material salt).key ∧
      slice? chain 32 48 = some (stretch material salt).initial := by
  obtain ⟨first, three, begins⟩ := exists_stretchTo? material salt enough made
  have keys : stretch material salt = ⟨first.take 32, (first.drop 32).take 16⟩ := by
    rw [stretch, stretchTo, three, Option.getD_some]
  rw [stretchTo?_three] at three
  obtain rfl := Option.some.inj three
  have length : (links material salt.bytes 3).length = 48 := length_links material salt.bytes 3
  rw [keys]
  constructor
  · rw [slice?_of_begins begins (by omega) (by omega), slice?_of_le (by omega) (by omega)]
    rfl
  · rw [slice?_of_begins begins (by omega) (by omega), slice?_of_le (by omega) (by omega)]

/-! ## The main result -/

/-- **The chain of stretching.**  The loop makes a chain exactly if there can be room for the bytes
that are wanted and a link.  The chain then has the fewest whole blocks that hold enough bytes: a
sixteenth of these, rounded up, which fit the room.  Its first block is the digest of material and
salt, and every later one the digest of the block before it and the salt.  A longer chain begins
with a shorter one.  The keys are the first thirty-two bytes and the next sixteen of every chain of
at least forty-eight, and they are the same for materials whose first digests are. -/
theorem chain_of_digests (material : List UInt8) (salt : Salt) :
    (∀ least, filled? material salt least = stretchTo? material salt least ∧
        ((stretchTo? material salt least).isSome = true ↔ least + 16 ≤ roomLimit)) ∧
      (∀ least chain, stretchTo? material salt least = some chain →
        (chain.length = 16 * ((least + 15) / 16) ∧ chain.length < least + 16) ∧
          (0 < least → block chain 0 = Md5.hash (material ++ salt.bytes)) ∧
          (∀ number, number + 1 < (least + 15) / 16 →
            block chain (number + 1) = Md5.hash (block chain number ++ salt.bytes)) ∧
          (48 ≤ least → slice? chain 0 32 = some (stretch material salt).key ∧
            slice? chain 32 48 = some (stretch material salt).initial)) ∧
      (∀ least more longer, least ≤ more → stretchTo? material salt more = some longer →
        ∃ chain, stretchTo? material salt least = some chain ∧ chain <+: longer) ∧
      ∀ other, Md5.hash (material ++ salt.bytes) = Md5.hash (other ++ salt.bytes) →
        stretch material salt = stretch other salt := by
  refine ⟨fun least => ⟨filled?_eq material salt least, ?_⟩, ?_,
    fun least more longer => exists_stretchTo? material salt, ?_⟩
  · simp only [Option.isSome_iff_exists, stretchTo?_eq_some_iff, exists_and_left, exists_eq,
      and_true]
  · intro least chain made
    have keys := slice?_chain material salt made
    obtain ⟨-, rfl⟩ := stretchTo?_eq_some_iff.mp made
    refine ⟨⟨length_links .., ?_⟩, fun positive => ?_, fun number inside => ?_, keys⟩
    · rw [length_links]
      omega
    · obtain ⟨count, some⟩ : ∃ count, (least + 15) / 16 = count + 1 :=
        ⟨(least + 15) / 16 - 1, by omega⟩
      rw [some, block_zero_links]
    · rw [block_links material salt.bytes inside]
  · intro other collide
    rw [stretch_eq, stretch_eq, collide]

end Chain

/-- Two materials that differ in two bytes and collide: chains of four blocks from either of them
hold the same keys.  There is no room for as many bytes as a number of 64 bits can ask for. -/
theorem chain_of_digests_collision :
    let first : List UInt8 := [
      0x4D, 0xC9, 0x68, 0xFF, 0x0E, 0xE3, 0x5C, 0x20, 0x95, 0x72, 0xD4, 0x77,
      0x7B, 0x72, 0x15, 0x87, 0xD3, 0x6F, 0xA7, 0xB2, 0x1B, 0xDC, 0x56, 0xB7,
      0x4A, 0x3D, 0xC0, 0x78, 0x3E, 0x7B, 0x95, 0x18, 0xAF, 0xBF, 0xA2, 0x00,
      0xA8, 0x28, 0x4B, 0xF3, 0x6E, 0x8E, 0x4B, 0x55, 0xB3, 0x5F, 0x42, 0x75,
      0x93, 0xD8, 0x49, 0x67, 0x6D, 0xA0, 0xD1, 0x55, 0x5D, 0x83, 0x60, 0xFB,
      0x5F, 0x07, 0xFE, 0xA2]
    let second := (first.set 35 0x02).set 55 0xD5
    let salt : Salt := ⟨[1, 2, 3, 4, 5, 6, 7, 8], rfl⟩
    let chain := stretchTo first salt 49
    stretchTo? first salt 49 = some chain ∧
      (chain.length = 64 ∧ block chain 0 = Md5.hash (first ++ salt.bytes) ∧
        block chain 3 = Md5.hash (block chain 2 ++ salt.bytes)) ∧
      (∃ shorter, stretchTo? first salt 17 = some shorter ∧ shorter <+: chain) ∧
      slice? chain 32 48 = some (stretch first salt).initial ∧
      (stretchTo? first salt (Nat.pow 2 64 - 1)).isSome ≠ true ∧
      first ≠ second ∧ stretch first salt = stretch second salt := by
  intro first second salt chain
  obtain ⟨room, blocks, longer, collide⟩ := chain_of_digests first salt
  have made : stretchTo? first salt 49 = some chain := stretchTo?_eq_some first salt (by decide)
  obtain ⟨⟨length, -⟩, begins, absorbs, keys⟩ := blocks 49 chain made
  have shorter := longer 17 49 chain (by omega) made
  have crowded := mt (room (Nat.pow 2 64 - 1)).2.mp (by decide)
  exact ⟨made, ⟨length, begins (by omega), absorbs 2 (by omega)⟩, shorter, (keys (by omega)).2,
    crowded, by decide, collide second (by decide +kernel)⟩

end SealedCredentials.Envelope
