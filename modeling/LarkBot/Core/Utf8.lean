import Mathlib.Data.List.Basic

/-! # UTF-8 that is not well formed

`bytes.decode("utf-8", errors="replace")`. The longest start of a character that another byte does
not continue is replaced by one U+FFFD, and so is a byte that starts no character.
-/

namespace LarkBot

/-- A character whose first bytes were read: their bits, how many bytes are left, and the bounds of
the next one. -/
structure Utf8Start where
  value : Nat
  left : Nat
  low : Nat
  high : Nat
  deriving DecidableEq, Repr

def replacementCharacter : Char := Char.ofNat 0xFFFD

/-- What the first byte of a character gives: a character, or the start of one. -/
def utf8First (byte : UInt8) : List Char × Option Utf8Start :=
  let value := byte.toNat
  if value < 0x80 then ([Char.ofNat value], none)
  else if value < 0xC2 then ([replacementCharacter], none)
  else if value < 0xE0 then ([], some ⟨value - 0xC0, 1, 0x80, 0xBF⟩)
  else if value < 0xF0 then
    ([], some ⟨value - 0xE0, 2, if value = 0xE0 then 0xA0 else 0x80, if value = 0xED then 0x9F else
      0xBF⟩)
  else if value < 0xF5 then
    ([], some ⟨value - 0xF0, 3, if value = 0xF0 then 0x90 else 0x80, if value = 0xF4 then 0x8F else
      0xBF⟩)
  else ([replacementCharacter], none)

def decodeUtf8From : Option Utf8Start → List UInt8 → List Char
  | none, [] => []
  | some _, [] => [replacementCharacter]
  | none, byte :: bytes => (utf8First byte).1 ++ decodeUtf8From (utf8First byte).2 bytes
  | some start, byte :: bytes =>
      if start.low ≤ byte.toNat ∧ byte.toNat ≤ start.high then
        let value := start.value * 0x40 + (byte.toNat - 0x80)
        if start.left = 1 then Char.ofNat value :: decodeUtf8From none bytes
        else decodeUtf8From (some ⟨value, start.left - 1, 0x80, 0xBF⟩) bytes
      else
        -- The byte is read again, as the first of a character.
        replacementCharacter :: ((utf8First byte).1 ++ decodeUtf8From (utf8First byte).2 bytes)

/-- `bytes.decode("utf-8", errors="replace")`. -/
def decodeUtf8 (bytes : List UInt8) : List Char := decodeUtf8From none bytes

/-- The table of replacements in the Unicode standard. -/
example : decodeUtf8 [0x61, 0xF1, 0x80, 0x80, 0xE1, 0x80, 0xC2, 0x62, 0x80, 0x63, 0x80, 0xBF,
  0x64] =
    ['a', '\uFFFD', '\uFFFD', '\uFFFD', 'b', '\uFFFD', 'c', '\uFFFD', '\uFFFD', 'd'] := by
  decide

end LarkBot
