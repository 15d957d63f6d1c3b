import SealedCredentials.Cipher.Substitution

/-!
# The block cipher

AES with a key of 32 bytes: fourteen rounds on a block of sixteen bytes, seen as four columns
of four.  Every layer of a round has a layer that undoes it, so enciphering and deciphering
under one key are inverse to each other.
-/

set_option autoImplicit false

namespace SealedCredentials.Cipher

/-! ## Columns and blocks -/

/-- Four bytes, one above the other. -/
structure Column where
  top : UInt8
  upper : UInt8
  lower : UInt8
  bottom : UInt8
  deriving DecidableEq, Repr

/-- Sixteen bytes in four columns. -/
structure Block where
  first : Column
  second : Column
  third : Column
  fourth : Column
  deriving DecidableEq, Repr

namespace Column

/-- The bitwise sum of two columns. -/
def add (left right : Column) : Column :=
  ⟨left.top ^^^ right.top, left.upper ^^^ right.upper, left.lower ^^^ right.lower,
    left.bottom ^^^ right.bottom⟩

/-- A column with a function applied to each byte. -/
def map (f : UInt8 → UInt8) (column : Column) : Column :=
  ⟨f column.top, f column.upper, f column.lower, f column.bottom⟩

/-- The bytes of a column from top to bottom. -/
def bytes (column : Column) : List UInt8 :=
  [column.top, column.upper, column.lower, column.bottom]

end Column

namespace Block

/-- The bitwise sum of two blocks. -/
def add (left right : Block) : Block :=
  ⟨left.first.add right.first, left.second.add right.second, left.third.add right.third,
    left.fourth.add right.fourth⟩

/-- A block with a function applied to each column. -/
def mapColumns (f : Column → Column) (block : Block) : Block :=
  ⟨f block.first, f block.second, f block.third, f block.fourth⟩

/-- The sixteen bytes of a block, column by column. -/
def bytes (block : Block) : List UInt8 :=
  block.first.bytes ++ block.second.bytes ++ block.third.bytes ++ block.fourth.bytes

/-- The block of the first sixteen bytes of a list; a byte that is missing counts as zero. -/
def ofBytes (bytes : List UInt8) : Block :=
  let column (start : Nat) : Column :=
    ⟨bytes.getD start 0, bytes.getD (start + 1) 0, bytes.getD (start + 2) 0,
      bytes.getD (start + 3) 0⟩
  ⟨column 0, column 4, column 8, column 12⟩

/-- A block has sixteen bytes. -/
@[simp] theorem length_bytes (block : Block) : block.bytes.length = 16 := rfl

/-- A block is read back from its bytes. -/
@[simp] theorem ofBytes_bytes (block : Block) : ofBytes block.bytes = block := rfl

end Block

/-! ## The layers of a round -/

/-- A byte doubled in the field of 256 elements. -/
def double (byte : UInt8) : UInt8 :=
  if byte < 0x80 then byte <<< 1 else byte <<< 1 ^^^ 0x1B

/-- Row `n` of the block moved left by `n` columns. -/
def shiftRows (block : Block) : Block :=
  let ⟨a, b, c, d⟩ := block
  ⟨⟨a.top, b.upper, c.lower, d.bottom⟩, ⟨b.top, c.upper, d.lower, a.bottom⟩,
    ⟨c.top, d.upper, a.lower, b.bottom⟩, ⟨d.top, a.upper, b.lower, c.bottom⟩⟩

/-- Row `n` of the block moved right by `n` columns. -/
def unshiftRows (block : Block) : Block :=
  let ⟨a, b, c, d⟩ := block
  ⟨⟨a.top, d.upper, c.lower, b.bottom⟩, ⟨b.top, a.upper, d.lower, c.bottom⟩,
    ⟨c.top, b.upper, a.lower, d.bottom⟩, ⟨d.top, c.upper, b.lower, a.bottom⟩⟩

/-- A column mixed by the matrix whose first row is 2, 3, 1, 1. -/
def mixColumn (column : Column) : Column :=
  let ⟨a, b, c, d⟩ := column
  let triple (byte : UInt8) : UInt8 := double byte ^^^ byte
  ⟨double a ^^^ triple b ^^^ c ^^^ d, a ^^^ double b ^^^ triple c ^^^ d,
    a ^^^ b ^^^ double c ^^^ triple d, triple a ^^^ b ^^^ c ^^^ double d⟩

/-- A column mixed by the matrix whose first row is 14, 11, 13, 9. -/
def unmixColumn (column : Column) : Column :=
  let ⟨a, b, c, d⟩ := column
  let eight (byte : UInt8) : UInt8 := double (double (double byte))
  let nine (byte : UInt8) : UInt8 := eight byte ^^^ byte
  let eleven (byte : UInt8) : UInt8 := eight byte ^^^ double byte ^^^ byte
  let thirteen (byte : UInt8) : UInt8 := eight byte ^^^ double (double byte) ^^^ byte
  let fourteen (byte : UInt8) : UInt8 := eight byte ^^^ double (double byte) ^^^ double byte
  ⟨fourteen a ^^^ eleven b ^^^ thirteen c ^^^ nine d,
    nine a ^^^ fourteen b ^^^ eleven c ^^^ thirteen d,
    thirteen a ^^^ nine b ^^^ fourteen c ^^^ eleven d,
    eleven a ^^^ thirteen b ^^^ nine c ^^^ fourteen d⟩

/-- Every byte substituted, then the rows shifted. -/
def scatter (block : Block) : Block :=
  shiftRows (block.mapColumns (Column.map substitute))

/-- The rows shifted back, then every byte restored. -/
def gather (block : Block) : Block :=
  (unshiftRows block).mapColumns (Column.map restore)

/-! ## Round keys -/

/-- The four columns that follow `older`, each the sum of the one four before the start and
the one before itself; `seed` stands for the column before the first. -/
def extend (older : Block) (seed : Column) : Block :=
  let first := older.first.add seed
  let second := older.second.add first
  let third := older.third.add second
  ⟨first, second, third, older.fourth.add third⟩

/-- The bytes of a column moved up by one, substituted, and the top one changed by the
constant of the stage. -/
def turned (column : Column) (constant : UInt8) : Column :=
  ⟨substitute column.upper ^^^ constant, substitute column.lower, substitute column.bottom,
    substitute column.top⟩

/-- The round keys that follow from two neighbouring ones; each constant yields two more. -/
def schedule (even odd : Block) : List UInt8 → List Block
  | [] => [even]
  | constant :: later =>
    let nextEven := extend even (turned odd.fourth constant)
    let nextOdd := extend odd (nextEven.fourth.map substitute)
    even :: odd :: schedule nextEven nextOdd later

/-- The fifteen round keys of a key of 32 bytes. -/
def roundKeys (key : List UInt8) : List Block :=
  schedule (Block.ofBytes key) (Block.ofBytes (key.drop 16))
    [0x01, 0x02, 0x04, 0x08, 0x10, 0x20, 0x40]

/-! ## Enciphering and deciphering -/

/-- The rounds with the given keys; the last round does not mix. -/
def rounds : List Block → Block → Block
  | [], block => block
  | [last], block => (scatter block).add last
  | key :: later, block => rounds later (((scatter block).mapColumns mixColumn).add key)

/-- The rounds with the given keys undone. -/
def unrounds : List Block → Block → Block
  | [], block => block
  | [last], block => gather (block.add last)
  | key :: later, block => gather (((unrounds later block).add key).mapColumns unmixColumn)

/-- A block enciphered under a list of round keys. -/
def encipher : List Block → Block → Block
  | [], block => block
  | first :: later, block => rounds later (block.add first)

/-- A block deciphered under a list of round keys. -/
def decipher : List Block → Block → Block
  | [], block => block
  | first :: later, block => (unrounds later block).add first

end SealedCredentials.Cipher
