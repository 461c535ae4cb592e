import Mathlib.Data.List.DropRight
import LarkBot.Core.Json
import LarkBot.Core.Unicode

/-! # Texts as Python reads them

The methods of `str` that the router uses on a reply, and `int`, on the characters
of a text. `str.isdigit` accepts more than `int` reads: a superscript is a digit
and no decimal, and a number may be too long.
-/

namespace LarkBot

/-- The zeros of the decimal digits; the digits one to nine follow each of them. -/
def decimalZeros : List Nat :=
  [0x30, 0x660, 0x6F0, 0x7C0, 0x966, 0x9E6, 0xA66, 0xAE6, 0xB66, 0xBE6, 0xC66, 0xCE6, 0xD66,
    0xDE6, 0xE50, 0xED0, 0xF20, 0x1040, 0x1090, 0x17E0, 0x1810, 0x1946, 0x19D0, 0x1A80, 0x1A90,
    0x1B50, 0x1BB0, 0x1C40, 0x1C50, 0xA620, 0xA8D0, 0xA900, 0xA9D0, 0xA9F0, 0xAA50, 0xABF0,
    0xFF10, 0x104A0, 0x10D30, 0x11066, 0x110F0, 0x11136, 0x111D0, 0x112F0, 0x11450, 0x114D0,
    0x11650, 0x116C0, 0x11730, 0x118E0, 0x11950, 0x11C50, 0x11D50, 0x11DA0, 0x16A60, 0x16AC0,
    0x16B50, 0x1D7CE, 0x1D7D8, 0x1D7E2, 0x1D7EC, 0x1D7F6, 0x1E140, 0x1E2F0, 0x1E950, 0x1FBF0]

/-- Code points of the characters that `str.isdigit` accepts besides the decimal
digits, as closed ranges. -/
def otherDigitRanges : List (Nat × Nat) :=
  [(0xB2, 0xB3), (0xB9, 0xB9), (0x1369, 0x1371), (0x19DA, 0x19DA), (0x2070, 0x2070),
    (0x2074, 0x2079), (0x2080, 0x2089), (0x2460, 0x2468), (0x2474, 0x247C), (0x2488, 0x2490),
    (0x24EA, 0x24EA), (0x24F5, 0x24FD), (0x24FF, 0x24FF), (0x2776, 0x277E), (0x2780, 0x2788),
    (0x278A, 0x2792), (0x10A40, 0x10A43), (0x10E60, 0x10E68), (0x11052, 0x1105A),
    (0x1F100, 0x1F10A)]

/-- The value of a decimal digit, of the class `\d`. -/
def decimalValue (char : Char) : Option Nat :=
  (decimalZeros.find? fun first => first ≤ char.toNat && char.toNat ≤ first + 9).map
    fun first => char.toNat - first

def isDecimalChar (char : Char) : Bool := (decimalValue char).isSome

/-- `str.isdigit` on one character. -/
def isDigitChar (char : Char) : Bool :=
  isDecimalChar char ||
    otherDigitRanges.any fun range => range.1 ≤ char.toNat && char.toNat ≤ range.2

/-- `str.isdigit`. -/
def isDigit (text : List Char) : Bool := !text.isEmpty && text.all isDigitChar

/-- `sys.get_int_max_str_digits()`. -/
def intMaxStrDigits : Nat := 4300

/-- `int`, on a text of digits: the digits up to the first that is no decimal are
counted before anything is read. -/
def parseInt (text : List Char) : Except PyError Nat :=
  let digits := text.takeWhile isDecimalChar
  if intMaxStrDigits < digits.length then
    .error (valueError ("Exceeds the limit (4300 digits) for integer string conversion: " ++
      "value has " ++ toString digits.length ++
      " digits; use sys.set_int_max_str_digits() to increase the limit"))
  else
    match text.mapM decimalValue with
    | some values => .ok (values.foldl (fun number value => 10 * number + value) 0)
    | none => .error (valueError ("invalid literal for int() with base 10: " ++
        String.ofList (('\'' :: text ++ ['\'']).take 200)))

/-- What `int` reads of a text of digits. -/
def IsNumber (text : List Char) : Prop :=
  text.all isDecimalChar ∧ text.length ≤ intMaxStrDigits

instance (text : List Char) : Decidable (IsNumber text) := inferInstanceAs (Decidable (_ ∧ _))

/-- Every decimal character has a value. -/
theorem mapM_decimalValue {text : List Char} (decimal : text.all isDecimalChar) :
    ∃ values, text.mapM decimalValue = some values := by
  induction text with
  | nil => exact ⟨[], rfl⟩
  | cons char rest ih =>
      rw [List.all_cons, Bool.and_eq_true] at decimal
      obtain ⟨value, found⟩ := Option.isSome_iff_exists.mp decimal.1
      obtain ⟨values, mapped⟩ := ih decimal.2
      exact ⟨value :: values, by rw [List.mapM_cons, found, mapped]; rfl⟩

/-- `int` raises on no number. -/
theorem parseInt_ok {text : List Char} (number : IsNumber text) :
    ∃ value, parseInt text = .ok value := by
  have whole : text.takeWhile isDecimalChar = text :=
    List.takeWhile_eq_self_iff.mpr fun char member => List.all_eq_true.mp number.1 char member
  obtain ⟨values, mapped⟩ := mapM_decimalValue number.1
  refine ⟨values.foldl (fun number value => 10 * number + value) 0, ?_⟩
  unfold parseInt
  rw [whole, mapped]
  exact if_neg (Nat.not_lt.mpr number.2)

/-- `str.strip`. -/
def strip (text : List Char) : List Char := (text.dropWhile isSpaceChar).rdropWhile isSpaceChar

/-- Where `str.splitlines` ends a line. -/
def isLineBoundary (char : Char) : Bool :=
  (0xA ≤ char.toNat && char.toNat ≤ 0xD) || (0x1C ≤ char.toNat && char.toNat ≤ 0x1E) ||
    char.toNat == 0x85 || char.toNat == 0x2028 || char.toNat == 0x2029

/-- `str.splitlines`. -/
def splitLines : List Char → List (List Char)
  | [] => []
  | '\r' :: '\n' :: rest => [] :: splitLines rest
  | char :: rest =>
      if isLineBoundary char then [] :: splitLines rest
      else
        match splitLines rest with
        | [] => [[char]]
        | line :: lines => (char :: line) :: lines

/-- `line.split(":", 1)`, if the line has a colon. -/
def splitColon (line : List Char) : Option (List Char × List Char) :=
  if ':' ∈ line then
    some (line.takeWhile (· != ':'), (line.dropWhile (· != ':')).tail)
  else none

/-- `str.casefold` on one character, as far as it folds to ASCII. -/
def foldChar (char : Char) : List Char :=
  match char.toNat with
  | 0xDF | 0x1E9E => ['s', 's']
  | 0x17F => ['s']
  | 0x212A => ['k']
  | 0xFB00 => ['f', 'f']
  | 0xFB01 => ['f', 'i']
  | 0xFB02 => ['f', 'l']
  | 0xFB03 => ['f', 'f', 'i']
  | 0xFB04 => ['f', 'f', 'l']
  | 0xFB05 | 0xFB06 => ['s', 't']
  | _ => [char.toLower]

/-- Whether `text.casefold()` is this ASCII text; a character that does not fold to
ASCII alone is in no such text. -/
def foldsTo (text : List Char) (folded : String) : Bool :=
  text.flatMap foldChar == folded.toList

example : splitLines "1: yes\r\n2: no\n".toList = ["1: yes".toList, "2: no".toList] := by decide

example : isDigit "²".toList ∧ ¬ IsNumber "²".toList := by decide

end LarkBot
