import Mathlib.Data.List.Sort
import LarkBot.Codex.Model

/-! # Decisions and the responses they put on the wire

An answer from Lark becomes a response and a recorded decision
(`LarkBot.resolution`); a result from the terminal is already a response and is
only read as a decision (`LarkBot.terminalDecision`). Every check raises before
anything is sent. Request ids are stored in their canonical JSON text.
-/

namespace LarkBot

/-- The name that an `AttributeError` gives to the type of a value. -/
def Json.typeName : Json → String
  | .null => "NoneType"
  | .bool _ => "bool"
  | .int _ => "int"
  | .float _ => "float"
  | .str _ => "str"
  | .arr _ => "list"
  | .obj _ => "dict"

section Texts

/-- A lower-case hexadecimal digit. -/
def hexDigit (digit : Nat) : Char :=
  if digit < 10 then Char.ofNat (0x30 + digit) else Char.ofNat (0x61 + (digit - 10))

def backslash : Char := Char.ofNat 0x5C

def quotationMark : Char := Char.ofNat 0x22

def apostrophe : Char := Char.ofNat 0x27

/-- One character inside the `repr` of a text; one that is not ASCII is taken as printable. -/
def reprChar (quote char : Char) : List Char :=
  if char = quote ∨ char = backslash then [backslash, char]
  else if char.toNat = 0x0A then [backslash, 'n']
  else if char.toNat = 0x0D then [backslash, 'r']
  else if char.toNat = 0x09 then [backslash, 't']
  else if char.toNat < 0x20 ∨ char.toNat = 0x7F then
    [backslash, 'x', hexDigit (char.toNat / 16), hexDigit (char.toNat % 16)]
  else [char]

/-- `repr` of a text, between apostrophes unless it has one and no quotation mark. -/
def reprText (text : String) : String :=
  let quote := if apostrophe ∈ text.toList ∧ quotationMark ∉ text.toList then quotationMark
    else apostrophe
  String.ofList (quote :: text.toList.flatMap (reprChar quote) ++ [quote])

/-- How a set of ids is shown in an error text: sorted, as a list. -/
def showIds (ids : List String) : String :=
  "[" ++ ", ".intercalate ((ids.insertionSort (· ≤ ·)).map reprText) ++ "]"

example : showIds ["size", "it's"] = "[\"it's\", 'size']" := by decide

end Texts

mutual

/-- The nesting of a value, with one level for what contains nothing. -/
def Json.depth : Json → Nat
  | .arr items => Json.itemsDepth items + 1
  | .obj fields => Json.fieldsDepth fields + 1
  | _ => 1

def Json.itemsDepth : List Json → Nat
  | [] => 0
  | item :: items => max item.depth (Json.itemsDepth items)

def Json.fieldsDepth : List (String × Json) → Nat
  | [] => 0
  | (_, value) :: fields => max value.depth (Json.fieldsDepth fields)

end

section Responses

-- the levels that `copy.deepcopy` copies before it meets the recursion limit
variable (copyDepth : Nat)

/-- `copy.deepcopy` of a dict, which calls itself for each level. -/
def deepcopy (fields : JsonObject) : Except PyError JsonObject :=
  if (Json.obj fields).depth ≤ copyDepth then .ok fields
  else .error ⟨.other "RecursionError", "maximum recursion depth exceeded"⟩

def approvalDecision (allow : Bool) : Json :=
  .obj [("decision", .str (if allow then "accept" else "decline"))]

def commandApprovalResponse (allow : Bool) : Json := approvalDecision allow

def fileApprovalResponse (allow : Bool) : Json := approvalDecision allow

/-- The requested permissions are granted whole or not at all. -/
def permissionResponse (params : JsonObject) (allow : Bool) : Except PyError Json :=
  match (dictGet params "permissions").getD (.obj []) with
  | .obj requested => (if allow then deepcopy copyDepth requested else .ok []).map fun granted =>
      .obj [("permissions", .obj granted), ("scope", .str "turn"),
        ("strictAutoReview", .bool false)]
  | _ => .error (valueError "permissions must be an object")

/-- The ids of the questions in order; `notMapping` is raised on a question that is no object. -/
def questionIds (notMapping : Json → PyError) (seen : List String) :
    List Json → Except PyError (List String)
  | [] => .ok []
  | .obj question :: questions =>
      match dictGet question "id" with
      | some (.str id) =>
          if id == "" then .error (valueError "each question must have a non-empty string id")
          else if seen.contains id then .error (valueError ("duplicate question id: " ++ id))
          else (questionIds notMapping (seen ++ [id]) questions).map (id :: ·)
      | _ => .error (valueError "each question must have a non-empty string id")
  | question :: _ => .error (notMapping question)

def userInputResponse (questions : List Json) (answers : List (String × String)) :
    Except PyError Json := do
  let ids ← questionIds (fun question => ⟨.attributeError,
    "'" ++ question.typeName ++ "' object has no attribute 'get'"⟩) [] questions
  let missing := ids.filter fun id => !(answers.map Prod.fst).contains id
  let unknown := (answers.map Prod.fst).filter fun id => !ids.contains id
  if missing ≠ [] then
    throw (valueError ("missing answers for question ids: " ++ showIds missing))
  if unknown ≠ [] then
    throw (valueError ("unknown question ids: " ++ showIds unknown))
  return .obj [("answers", .obj (ids.filterMap fun id =>
    (answers.find? fun answer => answer.1 == id).map fun answer =>
      (id, .obj [("answers", .arr [.str answer.2])])))]

end Responses

/-- The response and the decision of an answer given through Lark. -/
def resolution (copyDepth : Nat) (kind : InteractionKind) (request : ServerRequest)
    (allow : Option Bool) (answers : Option (List (String × String))) :
    Except PyError (Json × String) :=
  match kind with
  | .userInput =>
      match answers with
      | none => .error (valueError "answers are required for user input")
      | some answers =>
          match dictGet request.params "questions" with
          | some (.arr questions) =>
              (userInputResponse questions answers).map fun response => (response, "submitted")
          | _ => .error (valueError "questions must be an array")
  | .execApproval =>
      match allow with
      | none => .error (valueError "allow is required for approvals")
      | some allow => .ok (commandApprovalResponse allow, if allow then "approved" else "denied")
  | .fileChangeApproval =>
      match allow with
      | none => .error (valueError "allow is required for approvals")
      | some allow => .ok (fileApprovalResponse allow, if allow then "accept" else "decline")
  | .permissionRequest =>
      match allow with
      | none => .error (valueError "allow is required for approvals")
      | some allow => (permissionResponse copyDepth request.params allow).map fun response =>
          (response, if allow then "granted" else "denied")

/-- One entry of a terminal's `answers` object. -/
def validateTerminalAnswer : Json → Except PyError Unit
  | .obj answer =>
      match dictGet answer "answers" with
      | some (.arr values) =>
          if values.any fun value => match value with | .str _ => false | _ => true then
            .error (valueError "terminal answer values must be strings")
          else .ok ()
      | _ => .error (valueError "each terminal answer answers must be an array")
  | _ => .error (valueError "each terminal answers entry must be an object")

def validateTerminalAnswers (request : ServerRequest) (result : JsonObject) :
    Except PyError Unit :=
  match dictGet request.params "questions" with
  | some (.arr questions) => do
      let expected ← questionIds (fun _ => valueError "each question must be an object") []
        questions
      match dictGet result "answers" with
      | some (.obj answers) =>
          let given := answers.map Prod.fst
          if given.any (fun id => !expected.contains id) ||
              expected.any (fun id => !given.contains id) then
            throw (valueError "terminal user input answers do not match questions")
          answers.forM fun answer => validateTerminalAnswer answer.2
      | _ => throw (valueError "terminal user input answers must be an object")
  | _ => .error (valueError "questions must be an array")

/-- The decision that a result sent by the terminal stands for. -/
def terminalDecision (kind : InteractionKind) (request : ServerRequest) (result : Json) :
    Except PyError String :=
  match result with
  | .obj result =>
      match kind with
      | .userInput => (validateTerminalAnswers request result).map fun _ => "submitted"
      | .permissionRequest =>
          match dictGet result "permissions" with
          | some (.obj permissions) =>
              match (dictGet result "scope").getD .null, (dictGet result "strictAutoReview").getD
                .null with
              | .null, .null | .null, .bool _ | .str _, .null | .str _, .bool _ =>
                  .ok (if permissions = [] then "denied" else "granted")
              | .null, _ | .str _, _ => .error (valueError
                  "terminal permission response strictAutoReview must be a boolean")
              | _, _ => .error (valueError
                  "terminal permission response scope must be a string")
          | _ => .error (valueError
              "terminal permission response permissions must be an object")
      | kind =>
          match dictGet result "decision" with
          | some (.str decision) =>
              if decision == "accept" || decision == "acceptForSession" then
                .ok (if kind = .execApproval then "approved" else "accept")
              else if decision == "decline" || decision == "cancel" then
                .ok (if kind = .execApproval then "denied" else "decline")
              else .error (valueError "unsupported terminal approval decision")
          | _ => .error (valueError "terminal approval response decision must be a string")
  | _ => .error (valueError "terminal response result must be an object")

/-- The response sent when an approval expires. -/
def denialResponse (copyDepth : Nat) (kind : InteractionKind) (params : JsonObject) :
    Except PyError Json :=
  match kind with
  | .execApproval => .ok (commandApprovalResponse false)
  | .fileChangeApproval => .ok (fileApprovalResponse false)
  | .permissionRequest => permissionResponse copyDepth params false
  | .userInput => .error (valueError "user input does not have a denial response")

def denialDecision : InteractionKind → Except PyError String
  | .execApproval => .ok "denied"
  | .fileChangeApproval => .ok "decline"
  | .permissionRequest => .ok "denied"
  | .userInput => .error (valueError "user input has no denial decision")

section CanonicalRequestId

/-- One character inside a JSON string written with `ensure_ascii=False`. -/
def encodeChar (char : Char) : List Char :=
  if char = quotationMark then [backslash, quotationMark]
  else if char = backslash then [backslash, backslash]
  else if char.toNat = 0x0A then [backslash, 'n']
  else if char.toNat = 0x0D then [backslash, 'r']
  else if char.toNat = 0x09 then [backslash, 't']
  else if char.toNat = 0x0C then [backslash, 'f']
  else if char.toNat = 0x08 then [backslash, 'b']
  else if char.toNat < 0x20 then
    [backslash, 'u', '0', '0', hexDigit (char.toNat / 16), hexDigit (char.toNat % 16)]
  else [char]

/-- The text under which a request id is stored. -/
def canonicalRequestId : RequestId → String
  | .int value => toString value
  | .str value =>
      String.ofList (quotationMark :: value.toList.flatMap encodeChar ++ [quotationMark])

/-- The value of a hexadecimal digit. -/
private def hexValue (digit : Char) : Nat :=
  if digit.toNat < 0x61 then digit.toNat - 0x30 else digit.toNat - 0x61 + 10

/-- Read one character back from the inside of a JSON string. -/
private def decodeChar : List Char → Option (Char × List Char)
  | [] => none
  | first :: rest =>
      if first ≠ backslash then some (first, rest)
      else
        match rest with
        | 'u' :: _ :: _ :: high :: low :: rest =>
            some (Char.ofNat (16 * hexValue high + hexValue low), rest)
        | 'n' :: rest => some (Char.ofNat 0x0A, rest)
        | 'r' :: rest => some (Char.ofNat 0x0D, rest)
        | 't' :: rest => some (Char.ofNat 0x09, rest)
        | 'f' :: rest => some (Char.ofNat 0x0C, rest)
        | 'b' :: rest => some (Char.ofNat 0x08, rest)
        | char :: rest => some (char, rest)
        | [] => none

/-- The two hexadecimal digits of a control character are read back as its code. -/
private theorem hexValue_hexDigit :
    ∀ code < 0x20, 16 * hexValue (hexDigit (code / 16)) + hexValue (hexDigit (code % 16)) =
      code := by
  decide

/-- A character is read back from its escape, whatever comes after it. -/
private theorem decodeChar_encodeChar (char : Char) (rest : List Char) :
    decodeChar (encodeChar char ++ rest) = some (char, rest) := by
  have byCode : ∀ code, char.toNat = code → Char.ofNat code = char := by
    rintro _ rfl
    exact Char.ofNat_toNat char
  unfold encodeChar
  by_cases quoted : char = quotationMark
  · subst quoted
    rfl
  by_cases escaped : char = backslash
  · subst escaped
    rfl
  simp only [quoted, escaped, ↓reduceIte]
  by_cases lineFeed : char.toNat = 0x0A
  · rw [← byCode _ lineFeed]
    rfl
  by_cases carriageReturn : char.toNat = 0x0D
  · rw [← byCode _ carriageReturn]
    rfl
  by_cases tab : char.toNat = 0x09
  · rw [← byCode _ tab]
    rfl
  by_cases formFeed : char.toNat = 0x0C
  · rw [← byCode _ formFeed]
    rfl
  by_cases backspace : char.toNat = 0x08
  · rw [← byCode _ backspace]
    rfl
  by_cases control : char.toNat < 0x20
  · simp only [lineFeed, carriageReturn, tab, formFeed, backspace, control, ↓reduceIte,
      List.cons_append, List.nil_append, decodeChar, ne_eq, not_true_eq_false]
    rw [hexValue_hexDigit _ control, Char.ofNat_toNat]
  · simp only [lineFeed, carriageReturn, tab, formFeed, backspace, control, ↓reduceIte,
      List.cons_append, List.nil_append, decodeChar, ne_eq, escaped, not_false_eq_true]

/-- Two texts with the same escape are the same, read back character by character. -/
private theorem flatMap_encodeChar_injective :
    ∀ left right : List Char, left.flatMap encodeChar = right.flatMap encodeChar → left = right
  | [], [], _ => rfl
  | [], char :: right, same => by
      have decoded := decodeChar_encodeChar char (right.flatMap encodeChar)
      rw [List.flatMap_cons, List.flatMap_nil] at same
      rw [← same] at decoded
      cases decoded
  | char :: left, [], same => by
      have decoded := decodeChar_encodeChar char (left.flatMap encodeChar)
      rw [List.flatMap_cons, List.flatMap_nil] at same
      rw [same] at decoded
      cases decoded
  | first :: left, second :: right, same => by
      have decoded := decodeChar_encodeChar first (left.flatMap encodeChar)
      rw [List.flatMap_cons, List.flatMap_cons] at same
      rw [same, decodeChar_encodeChar] at decoded
      obtain ⟨rfl, tails⟩ := Prod.mk.inj (Option.some.inj decoded)
      rw [flatMap_encodeChar_injective left right tails.symm]

/-- Two numbers with the same digits are the same. -/
private theorem natRepr_injective {left right : Nat} (same : left.repr = right.repr) :
    left = right := by
  have digits : Nat.toDigits 10 left = Nat.toDigits 10 right := by
    rw [← Nat.toList_repr, ← Nat.toList_repr, same]
  calc left = Nat.ofDigitChars 10 (Nat.toDigits 10 left) 0 := Nat.ofDigitChars_ten_toDigits.symm
    _ = Nat.ofDigitChars 10 (Nat.toDigits 10 right) 0 := by rw [digits]
    _ = right := Nat.ofDigitChars_ten_toDigits

/-- Only a negative number is written with a sign. -/
private theorem intRepr_injective {left right : Int} (same : toString left = toString right) :
    left = right := by
  have unsigned : ∀ first second : Nat, first.repr ≠ "-" ++ second.repr := by
    intro first second equal
    have sign : '-' ∈ first.repr.toList := by
      rw [equal, String.toList_append]
      exact List.mem_append_left _ (by decide)
    rw [Nat.toList_repr] at sign
    exact absurd (Nat.isDigit_of_mem_toDigits (by decide) (by decide) sign) (by decide)
  rw [Int.toString_eq_repr, Int.toString_eq_repr, Int.repr_eq_if, Int.repr_eq_if] at same
  by_cases leftSign : 0 ≤ left <;> by_cases rightSign : 0 ≤ right
  · simp only [leftSign, rightSign, ↓reduceIte] at same
    have magnitude := natRepr_injective same
    omega
  · simp only [leftSign, rightSign, ↓reduceIte] at same
    exact (unsigned _ _ same).elim
  · simp only [leftSign, rightSign, ↓reduceIte] at same
    exact (unsigned _ _ same.symm).elim
  · simp only [leftSign, rightSign, ↓reduceIte] at same
    have texts := congrArg String.toList same
    simp only [String.toList_append, List.append_cancel_left_eq] at texts
    have magnitude := natRepr_injective (String.toList_inj.mp texts)
    omega

/-- The digits of an integer have no quotation mark. -/
private theorem quotationMark_not_mem_repr (value : Int) :
    quotationMark ∉ (toString value).toList := by
  have digits : ∀ number : Nat, quotationMark ∉ number.repr.toList := by
    intro number member
    rw [Nat.toList_repr] at member
    have digit := Nat.isDigit_of_mem_toDigits (by decide) (by decide) member
    exact absurd digit (by decide)
  rw [Int.toString_eq_repr, Int.repr_eq_if]
  by_cases positive : 0 ≤ value
  · simp only [positive, ↓reduceIte]
    exact digits _
  · simp only [positive, ↓reduceIte, String.toList_append, List.mem_append, not_or]
    exact ⟨by decide, digits _⟩

/-- Numeric and textual ids never share a stored text, and neither do two
different ids of one type. -/
theorem canonicalRequestId_injective : Function.Injective canonicalRequestId := by
  have apart : ∀ (number : Int) (text : String),
      canonicalRequestId (.int number) ≠ canonicalRequestId (.str text) := by
    intro number text same
    apply quotationMark_not_mem_repr number
    change quotationMark ∈ (canonicalRequestId (.int number)).toList
    rw [same]
    simp only [canonicalRequestId, List.cons_append, String.toList_ofList, List.mem_cons,
      true_or]
  intro left right same
  cases left with
  | int left =>
      cases right with
      | int right => exact congrArg RequestId.int (intRepr_injective same)
      | str right => exact (apart left right same).elim
  | str left =>
      cases right with
      | int right => exact (apart right left same.symm).elim
      | str right =>
          have texts := congrArg String.toList same
          simp only [canonicalRequestId, List.cons_append, String.toList_ofList, List.cons.injEq,
            true_and, List.append_cancel_right_eq] at texts
          rw [String.toList_inj.mp (flatMap_encodeChar_injective _ _ texts)]

end CanonicalRequestId

end LarkBot
