/-!
# Byte strings

Paths, command arguments and file contents are strings of bytes, which may or may not be UTF-8.
`Bytes.pieces` reads one as characters, with the bytes that belong to no character set apart.
-/

namespace GameTables

/-- A string of bytes. -/
abbrev Bytes := List UInt8

namespace Bytes

/-- The UTF-8 form of a text. -/
def ofString (text : String) : Bytes :=
  text.toUTF8.toList

/-- A character of a byte string, or a shortest group of bytes that no character begins with. -/
inductive Piece where
  | char (c : Char)
  | broken (bytes : List UInt8)
  deriving DecidableEq, Repr

/-- Whether a byte can follow another inside a character. -/
def isContinuation (b : UInt8) : Bool :=
  0x80 ≤ b && b ≤ 0xBF

/-- Whether `b` can be the second byte of a character of three or four bytes that begins with
`lead`: overlong forms, surrogates and numbers beyond the last code point are left out. -/
def isSecond (lead b : UInt8) : Bool :=
  if lead = 0xE0 then 0xA0 ≤ b && b ≤ 0xBF
  else if lead = 0xED then 0x80 ≤ b && b ≤ 0x9F
  else if lead = 0xF0 then 0x90 ≤ b && b ≤ 0xBF
  else if lead = 0xF4 then 0x80 ≤ b && b ≤ 0x8F
  else isContinuation b

private def low (b : UInt8) : Nat := b.toNat % 64

/-- The characters of a byte string in order. -/
def pieces : Bytes → List Piece
  | [] => []
  | a :: rest =>
    if a < 0x80 then .char (Char.ofNat a.toNat) :: pieces rest
    else if 0xC2 ≤ a && a ≤ 0xDF then
      match rest with
      | b :: rest' =>
        if isContinuation b then .char (Char.ofNat (a.toNat % 32 * 64 + low b)) :: pieces rest'
        else .broken [a] :: pieces (b :: rest')
      | [] => [.broken [a]]
    else if 0xE0 ≤ a && a ≤ 0xEF then
      match rest with
      | b :: c :: rest' =>
        if !isSecond a b then .broken [a] :: pieces (b :: c :: rest')
        else if !isContinuation c then .broken [a, b] :: pieces (c :: rest')
        else .char (Char.ofNat (a.toNat % 16 * 4096 + low b * 64 + low c)) :: pieces rest'
      | [b] => if isSecond a b then [.broken [a, b]] else .broken [a] :: pieces [b]
      | [] => [.broken [a]]
    else if 0xF0 ≤ a && a ≤ 0xF4 then
      match rest with
      | b :: c :: d :: rest' =>
        if !isSecond a b then .broken [a] :: pieces (b :: c :: d :: rest')
        else if !isContinuation c then .broken [a, b] :: pieces (c :: d :: rest')
        else if !isContinuation d then .broken [a, b, c] :: pieces (d :: rest')
        else
          .char (Char.ofNat (a.toNat % 8 * 262144 + low b * 4096 + low c * 64 + low d))
            :: pieces rest'
      | [b, c] =>
        if !isSecond a b then .broken [a] :: pieces [b, c]
        else if isContinuation c then [.broken [a, b, c]]
        else .broken [a, b] :: pieces [c]
      | [b] => if isSecond a b then [.broken [a, b]] else .broken [a] :: pieces [b]
      | [] => [.broken [a]]
    else .broken [a] :: pieces rest
  termination_by bytes => bytes.length

/-- The text a byte string is the UTF-8 form of, if there is one. -/
def toString? (bytes : Bytes) : Option String :=
  String.fromUTF8? ⟨bytes.toArray⟩

/-- The text of a byte string with a replacement character for each broken group. -/
def toStringLossy (bytes : Bytes) : String :=
  String.ofList ((pieces bytes).map fun
    | .char c => c
    | .broken _ => Char.ofNat 0xFFFD)

/-! ## Texts and their bytes -/

theorem toListLoop_eq (bytes : ByteArray) (i : Nat) (read : List UInt8) :
    ByteArray.toList.loop bytes i read = read.reverse ++ bytes.data.toList.drop i := by
  induction i, read using ByteArray.toList.loop.induct bytes with
  | case1 i read more ih =>
    have next : bytes.data.toList.drop i = bytes.get! i :: bytes.data.toList.drop (i + 1) := by
      rw [List.drop_eq_getElem_cons (by simpa using more)]
      exact congrArg (· :: _) (getElem!_pos bytes.data i more).symm
    rw [ByteArray.toList.loop, if_pos more, ih, next, List.reverse_cons, List.append_assoc,
      List.singleton_append]
  | case2 i read done =>
    rw [ByteArray.toList.loop, if_neg done, List.drop_of_length_le (by simpa using done),
      List.append_nil]

theorem ofString_eq (text : String) : ofString text = text.toByteArray.data.toList := by
  rw [ofString, ByteArray.toList, toListLoop_eq]
  rfl

/-- The form of a text is read as that text, and nothing else is. -/
theorem toString?_eq_some_iff {bytes : Bytes} {text : String} :
    toString? bytes = some text ↔ bytes = ofString text := by
  rw [ofString_eq, toString?, String.fromUTF8?]
  constructor
  · intro reads
    split at reads
    · cases reads
      rfl
    · cases reads
  · rintro rfl
    exact dif_pos text.isValidUTF8

end Bytes

end GameTables
