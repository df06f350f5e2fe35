import LiquidationBot.Library.Batches
import Mathlib.Tactic.Common
import Mathlib.Tactic.NormNum

/-!
# Static tuples as words

The standard encoding of a tuple without dynamic fields is one word of 32 bytes
for each field, in order and big-endian. A decoder reads the word at a position;
a word that its field type does not admit, or one past the end of the data, is
an error. The value at a position depends on that position only, so an encoder
and a decoder with different field lists disagree silently wherever the words
happen to be admitted.
-/

namespace LiquidationBot

namespace AbiWords

abbrev Byte := BitVec 8

abbrev Word := BitVec 256

/-- The low bytes of a number, most significant first. -/
def bigEndian : Nat → Nat → List Byte
  | 0, _ => []
  | width + 1, value => bigEndian width (value / 256) ++ [BitVec.ofNat 8 value]

/-- The number that bytes stand for. -/
def ofBigEndian (bytes : List Byte) : Nat :=
  bytes.foldl (fun value byte => value * 256 + byte.toNat) 0

@[simp] theorem length_bigEndian (width value : Nat) : (bigEndian width value).length = width := by
  induction width generalizing value with
  | zero => rfl
  | succ width inductionHypothesis => simp [bigEndian, inductionHypothesis]

/-- Reading back gives the number modulo the width. Induct on the width: the
last byte is the remainder and the others are the quotient's. -/
theorem ofBigEndian_bigEndian (width value : Nat) :
    ofBigEndian (bigEndian width value) = value % 256 ^ width := by
  induction width generalizing value with
  | zero => simp [ofBigEndian, bigEndian, Nat.mod_one]
  | succ width inductionHypothesis =>
    have quotient := inductionHypothesis (value / 256)
    simp only [ofBigEndian, bigEndian, List.foldl_append, List.foldl_cons, List.foldl_nil,
      BitVec.toNat_ofNat] at quotient ⊢
    have grown : 256 ^ (width + 1) = 256 * 256 ^ width := Nat.pow_succ'
    rw [quotient, grown, Nat.mod_mul]
    omega

/-- The 32 bytes of a word. -/
def Word.bytes (word : Word) : List Byte := bigEndian 32 word.toNat

/-- The encoding of a tuple, given as its words. -/
def encode (words : List Word) : List Byte := words.flatMap Word.bytes

/-- The word at a position, if the data reach that far. -/
def wordAt (data : List Byte) (index : Nat) : Option Word :=
  if 32 * index + 32 ≤ data.length then
    some (BitVec.ofNat 256 (ofBigEndian (Batches.slice data (32 * index) 32)))
  else none

@[simp] theorem length_bytes (word : Word) : word.bytes.length = 32 := length_bigEndian 32 _

@[simp] theorem length_encode (words : List Word) : (encode words).length = 32 * words.length := by
  induction words with
  | nil => rfl
  | cons word rest inductionHypothesis =>
    simp only [encode, List.flatMap_cons, List.length_append, length_bytes, List.length_cons]
      at inductionHypothesis ⊢
    omega

/-- The bytes of a word determine it. -/
theorem ofBigEndian_bytes (word : Word) : BitVec.ofNat 256 (ofBigEndian word.bytes) = word := by
  have bits : 256 ^ 32 = 2 ^ 256 := by norm_num
  rw [Word.bytes, ofBigEndian_bigEndian, bits, Nat.mod_eq_of_lt word.isLt, BitVec.ofNat_toNat,
    BitVec.setWidth_eq]

theorem slice_encode (words : List Word) (index : Nat) :
    Batches.slice (encode words) (32 * index) 32 = (words[index]?.map Word.bytes).getD [] := by
  induction words generalizing index with
  | nil => simp [encode, Batches.slice]
  | cons word rest inductionHypothesis =>
    cases index with
    | zero => simp [encode, Batches.slice]
    | succ index =>
      have skipped : 32 * (index + 1) = word.bytes.length + 32 * index := by
        rw [length_bytes]
        omega
      have tail := inductionHypothesis index
      simp only [encode, Batches.slice, List.flatMap_cons] at tail ⊢
      rw [skipped, List.drop_append, List.drop_eq_nil_of_le (Nat.le_add_right _ _),
        List.nil_append, Nat.add_sub_cancel_left, tail]
      rfl

/-- Decoding a position of an encoded tuple gives the word encoded there. -/
@[simp] theorem wordAt_encode (words : List Word) (index : Nat) :
    wordAt (encode words) index = words[index]? := by
  rw [wordAt, slice_encode, length_encode]
  cases found : words[index]? with
  | none =>
    have past := List.getElem?_eq_none_iff.mp found
    rw [if_neg (by omega)]
  | some word =>
    have inside := (List.getElem?_eq_some_iff.mp found).1
    rw [if_pos (by omega), Option.map_some, Option.getD_some, ofBigEndian_bytes]

/-! ## Fields -/

/-- The word of an unsigned field with fewer bits. -/
def ofUnsigned {width : Nat} (value : BitVec width) : Word := value.setWidth 256

/-- An unsigned field with fewer bits; higher bits must be clear. -/
def readUnsigned (width : Nat) (word : Word) : Option (BitVec width) :=
  if word.toNat < 2 ^ width then some (word.setWidth width) else none

def ofBool (value : Bool) : Word := if value then 1 else 0

/-- A truth value is zero or one. -/
def readBool (word : Word) : Option Bool :=
  if word = 0 then some false else if word = 1 then some true else none

theorem readUnsigned_ofUnsigned {width : Nat} (small : width ≤ 256) (value : BitVec width) :
    readUnsigned width (ofUnsigned value) = some value := by
  have fits : value.toNat < 2 ^ 256 :=
    value.isLt.trans_le (Nat.pow_le_pow_right (by decide) small)
  have kept : (ofUnsigned value).toNat = value.toNat := by
    rw [ofUnsigned, BitVec.toNat_setWidth, Nat.mod_eq_of_lt fits]
  rw [readUnsigned, if_pos (by rw [kept]; exact value.isLt)]
  apply congrArg some
  apply BitVec.eq_of_toNat_eq
  rw [BitVec.toNat_setWidth, kept, Nat.mod_eq_of_lt value.isLt]

theorem readUnsigned_eq_some_iff {width : Nat} (word : Word) (value : BitVec width) :
    readUnsigned width word = some value ↔ word.toNat = value.toNat := by
  rw [readUnsigned]
  constructor
  · intro read
    split at read
    next small =>
      cases read
      rw [BitVec.toNat_setWidth, Nat.mod_eq_of_lt small]
    next => cases read
  · intro same
    rw [if_pos (by rw [same]; exact value.isLt)]
    apply congrArg some
    apply BitVec.eq_of_toNat_eq
    rw [BitVec.toNat_setWidth, same, Nat.mod_eq_of_lt value.isLt]

@[simp] theorem readBool_ofBool (value : Bool) : readBool (ofBool value) = some value := by
  cases value with
  | false => rfl
  | true => rfl

theorem readBool_eq_some_iff (word : Word) (value : Bool) :
    readBool word = some value ↔ word = ofBool value := by
  constructor
  · intro read
    rw [readBool] at read
    split at read
    next zero =>
      cases read
      exact zero
    next =>
      split at read
      next one =>
        cases read
        exact one
      next => cases read
  · intro same
    rw [same, readBool_ofBool]

end AbiWords

end LiquidationBot
