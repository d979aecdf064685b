import Overlay.Numeral

/-!
# Percent encoding

In a URL a byte may be written as a percent sign and two hexadecimal digits. Decoding leaves a
percent sign alone that is not followed by two digits, and fails if the bytes are no UTF-8.
-/

namespace Overlay.Http

/-- The bytes of a character in UTF-8. -/
def utf8Bytes (c : Char) : List UInt8 :=
  (String.singleton c).toUTF8.toList

/-- A byte as a percent sign and two digits. -/
def percentByte (b : UInt8) : List Char :=
  '%' :: (Numeral.words 16 2 b.toNat).map fun d => (Nat.digitChar d).toUpper

/-- Encodes the characters that must not stand as they are. -/
def percentEncode (reserved : Char → Bool) (cs : List Char) : List Char :=
  cs.flatMap fun c => if reserved c then (utf8Bytes c).flatMap percentByte else [c]

/-- The bytes of a text after percent decoding. -/
def percentBytes : List Char → List UInt8
  | '%' :: a :: b :: rest =>
    match Numeral.read? 16 [a, b] with
    | some n => UInt8.ofNat n :: percentBytes rest
    | none => utf8Bytes '%' ++ percentBytes (a :: b :: rest)
  | c :: rest => utf8Bytes c ++ percentBytes rest
  | [] => []

/-- The text after percent decoding, if it is one. -/
def percentDecode? (cs : List Char) : Option String :=
  String.fromUTF8? ⟨(percentBytes cs).toArray⟩

end Overlay.Http
