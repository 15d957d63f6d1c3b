import SealedCredentials.Cipher.Block

/-!
# Deciphering undoes enciphering

Every layer of a round is undone by its counterpart: the substitution by its table read
backwards, the rows by the opposite shift, a column by the inverse matrix, and a round key by
itself.  The matrix needs no arithmetic in the field of 256 elements beyond one fact: doubling
is additive (`double_add`).  The products of the two matrices then cancel term by term.

Each layer also undoes its counterpart, so the two directions are inverse to each other
(`decipher_encipher`, `encipher_decipher`): no block is out of reach of enciphering.
-/

set_option autoImplicit false

namespace SealedCredentials.Cipher

/-! ## Bitwise sums -/

theorem xor_left_comm (a b c : UInt8) : a ^^^ (b ^^^ c) = b ^^^ (a ^^^ c) := by
  rw [← UInt8.xor_assoc, UInt8.xor_comm a b, UInt8.xor_assoc]

theorem xor_cancel_left (a b : UInt8) : a ^^^ (a ^^^ b) = b := by
  rw [← UInt8.xor_assoc, UInt8.xor_self, UInt8.zero_xor]

theorem xor_cancel_right (a b : UInt8) : a ^^^ b ^^^ b = a := by
  rw [UInt8.xor_assoc, UInt8.xor_self, UInt8.xor_zero]

namespace Column

/-- A column added twice leaves nothing. -/
theorem add_add_cancel (column key : Column) : (column.add key).add key = column := by
  simp only [add, xor_cancel_right]

end Column

namespace Block

/-- A block added twice leaves nothing. -/
theorem add_add_cancel (block key : Block) : (block.add key).add key = block := by
  simp only [add, Column.add_add_cancel]

theorem mapColumns_mapColumns (f g : Column → Column) (block : Block) :
    (block.mapColumns f).mapColumns g = block.mapColumns (g ∘ f) := rfl

theorem mapColumns_id (block : Block) : block.mapColumns id = block := rfl

end Block

/-! ## The layers of a round undone -/

/-- A table undoes another one if it does so at every place. -/
theorem getD_getD_of_map {table reverse : Array UInt8}
    (undone : (table.toList.map fun byte => (reverse.toList.getD byte.toNat 0).toNat) =
      List.range 256) (byte : UInt8) :
    reverse.getD (table.getD byte.toNat 0).toNat 0 = byte := by
  have place := congrArg (·[byte.toNat]?) undone
  simp only [List.getElem?_map, List.getElem?_range byte.toNat_lt, Option.map_eq_some_iff] at place
  obtain ⟨found, read, back⟩ := place
  rw [Array.getD_eq_getD_getElem?, Array.getD_eq_getD_getElem?, ← Array.getElem?_toList,
    ← Array.getElem?_toList, read, Option.getD_some, ← List.getD_eq_getElem?_getD]
  exact UInt8.toNat_inj.mp back

/-- The origin of every substitute, place by place, is the place. -/
theorem origins_of_substitutes :
    (substitutes.toList.map fun byte => (origins.toList.getD byte.toNat 0).toNat) =
      List.range 256 := by
  decide +kernel

/-- The substitute of every origin, place by place, is the place. -/
theorem substitutes_of_origins :
    (origins.toList.map fun byte => (substitutes.toList.getD byte.toNat 0).toNat) =
      List.range 256 := by
  decide +kernel

/-- The two tables are read in opposite directions. -/
theorem restore_substitute (byte : UInt8) : restore (substitute byte) = byte :=
  getD_getD_of_map origins_of_substitutes byte

theorem substitute_restore (byte : UInt8) : substitute (restore byte) = byte :=
  getD_getD_of_map substitutes_of_origins byte

theorem unshiftRows_shiftRows (block : Block) : unshiftRows (shiftRows block) = block := rfl

theorem shiftRows_unshiftRows (block : Block) : shiftRows (unshiftRows block) = block := rfl

/-- Rows shifted back, every byte is the one before the substitution. -/
theorem gather_scatter (block : Block) : gather (scatter block) = block := by
  have columns : (Column.map restore ∘ Column.map substitute : Column → Column) = id := by
    funext column
    change (column.map substitute).map restore = column
    simp only [Column.map, restore_substitute]
  rw [gather, scatter, unshiftRows_shiftRows, Block.mapColumns_mapColumns, columns,
    Block.mapColumns_id]

/-- Rows shifted again, every byte is the one before it was restored. -/
theorem scatter_gather (block : Block) : scatter (gather block) = block := by
  have columns : (Column.map substitute ∘ Column.map restore : Column → Column) = id := by
    funext column
    change (column.map restore).map substitute = column
    simp only [Column.map, substitute_restore]
  rw [gather, scatter, Block.mapColumns_mapColumns, columns, Block.mapColumns_id,
    shiftRows_unshiftRows]

/-- The top bit decides whether doubling overflows. -/
theorem lt_top_iff (byte : UInt8) : byte < 0x80 ↔ byte.toBitVec.msb = false := by
  rw [BitVec.msb_eq_false_iff_two_mul_lt, UInt8.lt_iff_toNat_lt]
  change byte.toNat < 128 ↔ 2 * byte.toNat < 256
  omega

/-- **Doubling is additive.** -/
theorem double_add (a b : UInt8) : double (a ^^^ b) = double a ^^^ double b := by
  simp only [double, lt_top_iff, UInt8.toBitVec_xor, BitVec.msb_xor, UInt8.shiftLeft_xor]
  -- The reductions cancel when both top bits are set, and one is left when one of them is.
  cases a.toBitVec.msb with
  | false =>
    cases b.toBitVec.msb with
    | false => rfl
    | true =>
      simp only [Bool.xor_true, Bool.not_false, Bool.true_eq_false, if_true, if_false,
        UInt8.xor_assoc]
  | true =>
    cases b.toBitVec.msb with
    | false =>
      simp only [Bool.xor_false, Bool.true_eq_false, if_true, if_false, UInt8.xor_assoc]
      rw [UInt8.xor_comm 0x1B]
    | true =>
      simp only [Bool.xor_true, Bool.not_true, Bool.true_eq_false, if_true, if_false,
        UInt8.xor_assoc]
      rw [xor_left_comm 0x1B, UInt8.xor_self, UInt8.xor_zero]

theorem double_zero : double 0 = 0 := rfl

theorem mixColumn_add (left right : Column) :
    mixColumn (left.add right) = (mixColumn left).add (mixColumn right) := by
  simp only [mixColumn, Column.add, double_add, Column.mk.injEq]
  refine ⟨?_, ?_, ?_, ?_⟩ <;> ac_rfl

theorem unmixColumn_add (left right : Column) :
    unmixColumn (left.add right) = (unmixColumn left).add (unmixColumn right) := by
  simp only [unmixColumn, Column.add, double_add, Column.mk.injEq]
  refine ⟨?_, ?_, ?_, ?_⟩ <;> ac_rfl

/-- A column is the sum of its four bytes, each in its own place. -/
theorem Column.eq_add (column : Column) :
    column = ((Column.mk column.top 0 0 0).add ⟨0, column.upper, 0, 0⟩).add
      ((Column.mk 0 0 column.lower 0).add ⟨0, 0, 0, column.bottom⟩) := by
  simp only [add, UInt8.xor_zero, UInt8.zero_xor]

/-- The two matrices are inverse.  Both are additive, so one byte at a time is enough, and of
its multiples all but one cancel. -/
theorem unmixColumn_mixColumn (column : Column) : unmixColumn (mixColumn column) = column := by
  rw [column.eq_add]
  simp only [mixColumn_add, unmixColumn_add]
  congr 2 <;>
    simp only [mixColumn, unmixColumn, double_add, double_zero, UInt8.xor_zero, UInt8.zero_xor,
      UInt8.xor_assoc, UInt8.xor_comm, xor_left_comm, xor_cancel_left, UInt8.xor_self]

/-- They are inverse in the other order too. -/
theorem mixColumn_unmixColumn (column : Column) : mixColumn (unmixColumn column) = column := by
  rw [column.eq_add]
  simp only [mixColumn_add, unmixColumn_add]
  congr 2 <;>
    simp only [mixColumn, unmixColumn, double_add, double_zero, UInt8.xor_zero, UInt8.zero_xor,
      UInt8.xor_assoc, UInt8.xor_comm, xor_left_comm, xor_cancel_left, UInt8.xor_self]

/-! ## Rounds -/

/-- The rounds undone in the opposite order leave the block. -/
theorem unrounds_rounds (keys : List Block) (block : Block) :
    unrounds keys (rounds keys block) = block := by
  have columns : (unmixColumn ∘ mixColumn : Column → Column) = id := funext unmixColumn_mixColumn
  induction keys generalizing block with
  | nil => rfl
  | cons key later ih =>
    cases later with
    | nil =>
      change gather (((scatter block).add key).add key) = block
      rw [Block.add_add_cancel, gather_scatter]
    | cons next others =>
      change gather (((unrounds (next :: others) (rounds (next :: others)
        (((scatter block).mapColumns mixColumn).add key))).add key).mapColumns unmixColumn) = block
      rw [ih, Block.add_add_cancel, Block.mapColumns_mapColumns, columns, Block.mapColumns_id,
        gather_scatter]

/-- The rounds done again after they were undone leave the block. -/
theorem rounds_unrounds (keys : List Block) (block : Block) :
    rounds keys (unrounds keys block) = block := by
  have columns : (mixColumn ∘ unmixColumn : Column → Column) = id := funext mixColumn_unmixColumn
  induction keys generalizing block with
  | nil => rfl
  | cons key later ih =>
    cases later with
    | nil =>
      change (scatter (gather (block.add key))).add key = block
      rw [scatter_gather, Block.add_add_cancel]
    | cons next others =>
      change rounds (next :: others) (((scatter (gather (((unrounds (next :: others) block).add
        key).mapColumns unmixColumn))).mapColumns mixColumn).add key) = block
      rw [scatter_gather, Block.mapColumns_mapColumns, columns, Block.mapColumns_id,
        Block.add_add_cancel, ih]

/-- **Deciphering undoes enciphering under the same round keys.** -/
theorem decipher_encipher (keys : List Block) (block : Block) :
    decipher keys (encipher keys block) = block := by
  cases keys with
  | nil => rfl
  | cons first later =>
    change (unrounds later (rounds later (block.add first))).add first = block
    rw [unrounds_rounds, Block.add_add_cancel]

/-- **Enciphering undoes deciphering under the same round keys.** -/
theorem encipher_decipher (keys : List Block) (block : Block) :
    encipher keys (decipher keys block) = block := by
  cases keys with
  | nil => rfl
  | cons first later =>
    change rounds later (((unrounds later block).add first).add first) = block
    rw [Block.add_add_cancel, rounds_unrounds]

end SealedCredentials.Cipher
