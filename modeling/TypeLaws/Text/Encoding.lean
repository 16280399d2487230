import TypeLaws.Text.CodePoint
import TypeLaws.Text.Digits

/-!
Texts as rows of bytes, as a system has them for the names of its files and for its environment. A
character has its UTF-8 form. Of the halves 128 stand for single bytes, those that were no part of
a character where they were read; the others have no bytes.
-/

namespace TypeLaws

namespace CodePoint

/-- The half that stands for a byte. -/
def ofByte (byte : UInt8) : CodePoint :=
  .half ⟨0x400 + byte.toNat, by have := byte.toNat_lt; omega⟩

def encode? : CodePoint → Option (List UInt8)
  | .char c => some (String.utf8EncodeChar c)
  | .half offset =>
      if 0x480 ≤ offset.val && offset.val < 0x500 then some [UInt8.ofNat (offset.val - 0x400)]
      else none

end CodePoint

namespace Text

def encode? : Text → Option (List UInt8)
  | [] => some []
  | point :: rest => do return (← point.encode?) ++ (← encode? rest)

def isEncodable (text : Text) : Bool :=
  (encode? text).isSome

/-- Reads bytes, of which the first ones have been read already. One at which no character begins is
read by itself. -/
def decodeFrom : (skipped : Nat) → List UInt8 → Text
  | _, [] => []
  | skipped + 1, _ :: rest => decodeFrom skipped rest
  | 0, byte :: rest =>
      match (byte :: rest).toByteArray.utf8DecodeChar? 0 with
      | some c => .char c :: decodeFrom (c.utf8Size - 1) rest
      | none => .ofByte byte :: decodeFrom 0 rest

def decode (bytes : List UInt8) : Text :=
  decodeFrom 0 bytes

/-- A text as it is read back after it has been written; one that has no bytes is not written. -/
def stored (text : Text) : Text :=
  (encode? text).elim text decode

/-- What is wrong with a text that has no bytes: where its first half without any stands, and how
many halves follow each other from there. -/
def encodingComplaint (text : Text) : String :=
  let before := text.takeWhile fun point => point.encode?.isSome
  let halves := (text.drop before.length).takeWhile fun point => point.char?.isNone
  let start := before.length
  match halves with
  | [half] =>
      "'utf-8' codec can't encode character '\\u" ++ String.ofList (hexadecimal 4 half.number) ++
        "' in position " ++ integer start ++ ": surrogates not allowed"
  | halves =>
      "'utf-8' codec can't encode characters in position " ++ integer start ++ "-" ++
        integer (start + halves.length - 1) ++ ": surrogates not allowed"

theorem encode?_ofByte {byte : UInt8} (high : 128 ≤ byte.toNat) :
    (CodePoint.ofByte byte).encode? = some [byte] := by
  have below := byte.toNat_lt
  rw [CodePoint.ofByte, CodePoint.encode?, if_pos (by simp; omega)]
  simp

theorem utf8DecodeChar?_encoded (c : Char) (bytes : List UInt8) :
    (String.utf8EncodeChar c ++ bytes).toByteArray.utf8DecodeChar? 0 = some c := by
  rw [List.toByteArray_append]
  exact ByteArray.utf8DecodeChar?_utf8EncodeChar_append

theorem high_of_utf8DecodeChar?_eq_none {byte : UInt8} {rest : List UInt8}
    (unread : (byte :: rest).toByteArray.utf8DecodeChar? 0 = none) : 128 ≤ byte.toNat := by
  apply Decidable.byContradiction
  intro low
  have small : byte.toUInt32 ≤ 0x7f := by
    rw [UInt32.le_iff_toNat_le, UInt8.toNat_toUInt32]
    exact Nat.le_of_not_lt fun above => low above
  have isChar : byte.toUInt32.isValidChar := .inl (by
    rw [UInt8.toNat_toUInt32]
    omega)
  have size : Char.utf8Size ⟨byte.toUInt32, isChar⟩ = 1 := if_pos small
  have alone : String.utf8EncodeChar ⟨byte.toUInt32, isChar⟩ = [byte] := by
    rw [String.utf8EncodeChar_eq_singleton size]
    simp
  have read := utf8DecodeChar?_encoded ⟨byte.toUInt32, isChar⟩ rest
  rw [alone, List.singleton_append, unread] at read
  cases read

theorem eq_encoded_of_utf8DecodeChar?_eq_some {byte : UInt8} {rest : List UInt8} {c : Char}
    (read : (byte :: rest).toByteArray.utf8DecodeChar? 0 = some c) :
    byte :: rest = String.utf8EncodeChar c ++ rest.drop (c.utf8Size - 1) := by
  obtain ⟨left, whole⟩ := ByteArray.exists_of_utf8DecodeChar?_eq_some read
  have front : byte :: rest = String.utf8EncodeChar c ++ left.data.toList := by
    have bytes := congrArg (fun array => array.data.toList) whole
    simpa using bytes
  have behind : rest.drop (c.utf8Size - 1) = left.data.toList := by
    have dropped := congrArg (List.drop c.utf8Size) front
    rw [← String.length_utf8EncodeChar, List.drop_left, String.length_utf8EncodeChar,
      ← Nat.sub_add_cancel c.utf8Size_pos, List.drop_succ_cons] at dropped
    exact dropped
  rw [behind, front]

theorem encode?_decodeFrom (skipped : Nat) (bytes : List UInt8) :
    encode? (decodeFrom skipped bytes) = some (bytes.drop skipped) := by
  fun_induction decodeFrom skipped bytes with
  | case1 => rw [List.drop_nil, encode?]
  | case2 byte rest skipped ih => rw [ih, List.drop_succ_cons]
  | case3 byte rest c read ih =>
      rw [encode?, CodePoint.encode?, ih, List.drop_zero, eq_encoded_of_utf8DecodeChar?_eq_some read]
      rfl
  | case4 byte rest unread ih =>
      rw [encode?, encode?_ofByte (high_of_utf8DecodeChar?_eq_none unread), ih]
      rfl

theorem encode?_decode (bytes : List UInt8) : encode? (decode bytes) = some bytes :=
  encode?_decodeFrom 0 bytes

theorem encode?_stored (text : Text) : encode? (stored text) = encode? text := by
  cases encoded : encode? text with
  | none => rw [stored, encoded, Option.elim_none, encoded]
  | some bytes => rw [stored, encoded, Option.elim_some, encode?_decode]

end Text

end TypeLaws
