/-!
# Block words

The tables describe the properties of each block by a word of 16 bits. Bits 0 to 10 hold the place
in the property map where the properties of the block begin, bits 11 to 13 their number. Bits 14 and
15 are zero.
-/

namespace GameTables

/-- The word that describes the properties of a block. -/
structure BlockWord where
  bits : UInt16
  deriving DecidableEq, Repr

namespace BlockWord

/-- Packs a word. Of the offset the lowest eleven bits are kept, of the count the lowest three. -/
def pack (offset : UInt16) (count : UInt8) : BlockWord :=
  ⟨UInt16.ofNat (offset.toNat % 2048 + 2048 * (count.toNat % 8))⟩

def offset (word : BlockWord) : UInt16 :=
  UInt16.ofNat (word.bits.toNat % 2048)

def count (word : BlockWord) : UInt8 :=
  UInt8.ofNat (word.bits.toNat / 2048 % 8)

/-- The place after the last property of the block. -/
def stop (word : BlockWord) : Nat :=
  word.offset.toNat + word.count.toNat

/-! ## What packing keeps -/

theorem toNat_pack (offset : UInt16) (count : UInt8) :
    (pack offset count).bits.toNat = offset.toNat % 2048 + 2048 * (count.toNat % 8) := by
  simp only [pack, UInt16.toNat_ofNat']
  omega

theorem toNat_offset_pack (offset : UInt16) (count : UInt8) :
    (pack offset count).offset.toNat = offset.toNat % 2048 := by
  unfold BlockWord.offset
  rw [UInt16.toNat_ofNat', toNat_pack]
  omega

theorem toNat_count_pack (offset : UInt16) (count : UInt8) :
    (pack offset count).count.toNat = count.toNat % 8 := by
  unfold BlockWord.count
  rw [UInt8.toNat_ofNat', toNat_pack]
  omega

end BlockWord

end GameTables
