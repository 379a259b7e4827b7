/-!
# Property words

The tables describe each property by a word of 16 bits. Bits 0 to 4 hold the number of values, bits
5 and 6 the kind of the values, and bits 8 to 15, of properties with named values only, the place
where the names begin. Bit 7 is zero.
-/

namespace GameTables

/-- What the values of a property are: names, truth values, or integers from 0 or from 1. -/
inductive PropertyKind where
  | named
  | boolean
  | fromZero
  | fromOne
  deriving DecidableEq, Repr

namespace PropertyKind

def tag : PropertyKind → Nat
  | .named => 0
  | .boolean => 1
  | .fromZero => 2
  | .fromOne => 3

/-- The kind with a tag, of which the lowest two bits count. -/
def ofTag (tag : Nat) : PropertyKind :=
  match tag % 4 with
  | 0 => .named
  | 1 => .boolean
  | 2 => .fromZero
  | _ => .fromOne

def isInteger : PropertyKind → Bool
  | .fromZero | .fromOne => true
  | .named | .boolean => false

@[simp] theorem ofTag_tag (kind : PropertyKind) : ofTag kind.tag = kind := by
  cases kind <;> rfl

theorem tag_lt (kind : PropertyKind) : kind.tag < 4 := by
  cases kind <;> decide

end PropertyKind

/-- The word that describes a property. -/
structure PropertyWord where
  bits : UInt16
  deriving DecidableEq, Repr

namespace PropertyWord

/-- Packs a word. Of the count the lowest five bits are kept; the offset is kept for named values. -/
def pack (kind : PropertyKind) (count offset : UInt8) : PropertyWord :=
  let place := if kind = .named then offset.toNat else 0
  ⟨UInt16.ofNat (count.toNat % 32 + 32 * kind.tag + 256 * place)⟩

/-- The number of values. -/
def count (word : PropertyWord) : UInt8 :=
  UInt8.ofNat (word.bits.toNat % 32)

def kind (word : PropertyWord) : PropertyKind :=
  .ofTag (word.bits.toNat / 32)

/-- Where the names of the values begin, for named values. -/
def offset? (word : PropertyWord) : Option UInt8 :=
  if word.kind = .named then some (UInt8.ofNat (word.bits.toNat / 256)) else none

/-- The first value, for integers. -/
def firstInteger? (word : PropertyWord) : Option UInt8 :=
  match word.kind with
  | .fromZero => some 0
  | .fromOne => some 1
  | _ => none

/-! ## What packing keeps -/

theorem toNat_pack (kind : PropertyKind) (count offset : UInt8) :
    (pack kind count offset).bits.toNat =
      count.toNat % 32 + 32 * kind.tag + 256 * (if kind = .named then offset.toNat else 0) := by
  have ht := kind.tag_lt
  have ho := offset.toNat_lt
  simp only [pack, UInt16.toNat_ofNat']
  split <;> omega

@[simp] theorem kind_pack (kind : PropertyKind) (count offset : UInt8) :
    (pack kind count offset).kind = kind := by
  have ht := kind.tag_lt
  have : (pack kind count offset).bits.toNat / 32 % 4 = kind.tag := by
    rw [toNat_pack]
    split <;> omega
  unfold PropertyWord.kind PropertyKind.ofTag
  rw [this]
  cases kind <;> rfl

theorem toNat_count_pack (kind : PropertyKind) (count offset : UInt8) :
    (pack kind count offset).count.toNat = count.toNat % 32 := by
  unfold PropertyWord.count
  rw [UInt8.toNat_ofNat', toNat_pack]
  split <;> omega

theorem offset?_pack_named (count offset : UInt8) :
    (pack .named count offset).offset? = some offset := by
  have h : (pack .named count offset).bits.toNat / 256 = offset.toNat := by
    rw [toNat_pack]
    simp only [PropertyKind.tag, if_true]
    omega
  simp [offset?, h]

end PropertyWord

end GameTables
