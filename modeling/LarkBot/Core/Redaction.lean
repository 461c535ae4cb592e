import LarkBot.Core.Unicode

/-! # Redaction of secrets

`redact_text` replaces the value of every key-value secret and of every bearer
token by a fixed marker. Both patterns are matched by `re.sub`: from left to
right, and a character that a match consumed is not looked at again
(`LarkBot.substitute`). No pattern has two ways to match at one position, so a
match is computed without backtracking.
-/

namespace LarkBot

/-- The longest prefix inside a class, and the rest. -/
def spanClass (member : Char → Bool) (text : List Char) : List Char × List Char :=
  text.span member

/-- Match the letters of `word` in either case at the start of `text`. -/
def matchWord : (word text : List Char) → Option (List Char × List Char)
  | [], text => some ([], text)
  | _ :: _, [] => none
  | letter :: word, char :: text =>
      if matchesIgnoreCase letter char then
        (matchWord word text).map fun (matched, rest) => (char :: matched, rest)
      else none

/-- The key words of the key-value pattern; `[_-]?` is spelled out. -/
def secretKeys : List (List Char) :=
  ["password", "passwd", "pwd", "token", "secret", "api_key", "api-key", "apikey",
    "access_token", "access-token", "accesstoken"].map String.toList

/-- The class `[^\s,;]`. -/
def isSecretChar (char : Char) : Bool := !isSpaceChar char && char != ',' && char != ';'

/-- A match: the characters kept, and how many characters of text it covers. -/
structure SecretMatch where
  kept : List Char
  length : Nat

/-- The secret value at the start of `text`, after `kept` was matched before it. -/
def matchValue (kept text : List Char) : Option SecretMatch :=
  match spanClass isSecretChar text with
  | ([], _) => none
  | (value, _) => some ⟨kept, kept.length + value.length⟩

/-- `(\s*[:=]\s*)` and the value after a key. -/
def matchSeparated (key text : List Char) : Option SecretMatch :=
  let (before, rest) := spanClass isSpaceChar text
  match rest with
  | sign :: rest =>
      if sign == ':' || sign == '=' then
        let (after, rest) := spanClass isSpaceChar rest
        matchValue (key ++ before ++ [sign] ++ after) rest
      else none
  | [] => none

/-- `_KEY_VALUE_SECRET` after its word boundary. -/
def matchKeyValueSecret (text : List Char) : Option SecretMatch :=
  secretKeys.findSome? fun word =>
    (matchWord word text).bind fun (key, rest) => matchSeparated key rest

/-- `_BEARER_SECRET` after its word boundary. -/
def matchBearerSecret (text : List Char) : Option SecretMatch :=
  (matchWord "authorization".toList text).bind fun (key, rest) =>
    let (before, rest) := spanClass isSpaceChar rest
    match rest with
    | ':' :: rest =>
        let (after, rest) := spanClass isSpaceChar rest
        (matchWord "bearer".toList rest).bind fun (scheme, rest) =>
          match spanClass isSpaceChar rest with
          | ([], _) => none
          | (gap, rest) => matchValue (key ++ before ++ [':'] ++ after ++ scheme ++ gap) rest
    | _ => none

def redactedMarker : List Char := "[REDACTED]".toList

/-- `pattern.sub` for a pattern that starts at a word boundary before a word
character: `previous` is the character before the text, and the next `covered`
characters belong to the last match. -/
def substitute (pattern : List Char → Option SecretMatch) :
    (previous : Option Char) → (covered : Nat) → List Char → List Char
  | _, _, [] => []
  | _, covered + 1, char :: text => substitute pattern (some char) covered text
  | previous, 0, char :: text =>
      match if previous.any isWordChar then none else pattern (char :: text) with
      | some found =>
          found.kept ++ redactedMarker ++ substitute pattern (some char) (found.length - 1) text
      | none => char :: substitute pattern (some char) 0 text

/-- Mask every secret of `text`. -/
def redactText (text : String) : String :=
  let redacted := substitute matchKeyValueSecret none 0 text.toList
  String.ofList (substitute matchBearerSecret none 0 redacted)

def summaryLimit : Nat := 2000

/-- The redacted text, cut at the summary limit. -/
@[irreducible] def safeSummary (value : String) : String :=
  String.ofList ((redactText value).toList.take summaryLimit)

example : redactText "Token = abc, x" = "Token = [REDACTED], x" := by decide

example : redactText "Authorization: Bearer abc" = "Authorization: Bearer [REDACTED]" := by
  decide

end LarkBot
