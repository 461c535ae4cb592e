import Mathlib.Order.Basic

/-! # JSON values and Python errors

The values that `json.loads` returns, as far as the handlers look into them, and
the exceptions that handlers raise or receive from an awaited call. A Python
`dict` is its list of entries; `json.loads` never repeats a key.
-/

namespace LarkBot

/-- A value returned by `json.loads`. A float is kept as its text: no handler
computes with one. -/
inductive Json where
  | null
  | bool (value : Bool)
  | int (value : Int)
  | float (text : String)
  | str (value : String)
  | arr (items : List Json)
  | obj (fields : List (String × Json))
  deriving Repr, Inhabited

/-- A Python `dict[str, Any]`. -/
abbrev JsonObject := List (String × Json)

/-- `dict.get`. -/
def dictGet (object : JsonObject) (key : String) : Option Json :=
  (object.find? fun field => field.1 == key).map Prod.snd

mutual

/-- Equality of JSON values is decided field by field. -/
def Json.decideEq : (left right : Json) → Decidable (left = right)
  | .null, .null => isTrue rfl
  | .bool left, .bool right => decidable_of_iff (left = right) (by simp only [Json.bool.injEq])
  | .int left, .int right => decidable_of_iff (left = right) (by simp only [Json.int.injEq])
  | .float left, .float right => decidable_of_iff (left = right) (by simp only [Json.float.injEq])
  | .str left, .str right => decidable_of_iff (left = right) (by simp only [Json.str.injEq])
  | .arr left, .arr right =>
      have := Json.decideEqItems left right
      decidable_of_iff (left = right) (by simp only [Json.arr.injEq])
  | .obj left, .obj right =>
      have := Json.decideEqFields left right
      decidable_of_iff (left = right) (by simp only [Json.obj.injEq])
  | .null, .bool _ | .null, .int _ | .null, .float _ | .null, .str _ | .null, .arr _
  | .null, .obj _ | .bool _, .null | .bool _, .int _ | .bool _, .float _ | .bool _, .str _
  | .bool _, .arr _ | .bool _, .obj _ | .int _, .null | .int _, .bool _ | .int _, .float _
  | .int _, .str _ | .int _, .arr _ | .int _, .obj _ | .float _, .null | .float _, .bool _
  | .float _, .int _ | .float _, .str _ | .float _, .arr _ | .float _, .obj _ | .str _, .null
  | .str _, .bool _ | .str _, .int _ | .str _, .float _ | .str _, .arr _ | .str _, .obj _
  | .arr _, .null | .arr _, .bool _ | .arr _, .int _ | .arr _, .float _ | .arr _, .str _
  | .arr _, .obj _ | .obj _, .null | .obj _, .bool _ | .obj _, .int _ | .obj _, .float _
  | .obj _, .str _ | .obj _, .arr _ => isFalse (by intro same; cases same)

def Json.decideEqItems : (left right : List Json) → Decidable (left = right)
  | [], [] => isTrue rfl
  | [], _ :: _ | _ :: _, [] => isFalse (by intro same; cases same)
  | left :: leftRest, right :: rightRest =>
      have := Json.decideEq left right
      have := Json.decideEqItems leftRest rightRest
      decidable_of_iff (left = right ∧ leftRest = rightRest) (by simp only [List.cons.injEq])

def Json.decideEqFields : (left right : List (String × Json)) → Decidable (left = right)
  | [], [] => isTrue rfl
  | [], _ :: _ | _ :: _, [] => isFalse (by intro same; cases same)
  | (leftKey, left) :: leftRest, (rightKey, right) :: rightRest =>
      have := Json.decideEq left right
      have := Json.decideEqFields leftRest rightRest
      decidable_of_iff ((leftKey = rightKey ∧ left = right) ∧ leftRest = rightRest)
        (by simp only [List.cons.injEq, Prod.mk.injEq])

end

instance : DecidableEq Json := Json.decideEq

/-- The exception classes that the handlers tell apart. -/
inductive ErrorType where
  | valueError
  | typeError
  | attributeError
  | runtimeError
  | assertionError
  | integrityError
  | cancelledError
  | other (name : String)
  deriving DecidableEq, Repr

/-- `type(error).__name__`. -/
def ErrorType.name : ErrorType → String
  | .valueError => "ValueError"
  | .typeError => "TypeError"
  | .attributeError => "AttributeError"
  | .runtimeError => "RuntimeError"
  | .assertionError => "AssertionError"
  | .integrityError => "IntegrityError"
  | .cancelledError => "CancelledError"
  | .other name => name

/-- A raised exception: its class and `str(error)`. -/
structure PyError where
  errorType : ErrorType
  message : String
  deriving DecidableEq, Repr

def valueError (message : String) : PyError := ⟨.valueError, message⟩

def runtimeError (message : String) : PyError := ⟨.runtimeError, message⟩

/-- A sequence that returns passes a value on. -/
theorem bind_eq_ok {ε α β : Type} {first : Except ε α} {next : α → Except ε β} {value : β} :
    (first >>= next) = .ok value ↔ ∃ middle, first = .ok middle ∧ next middle = .ok value := by
  cases first with
  | error error =>
      refine iff_of_false nofun ?_
      rintro ⟨_, impossible, _⟩
      cases impossible
  | ok middle =>
      refine ⟨fun returned => ⟨middle, rfl, returned⟩, ?_⟩
      rintro ⟨_, ⟨⟩, returned⟩
      exact returned

/-- A mapped call returns what the call does, mapped. -/
theorem map_eq_ok {ε α β : Type} {value : Except ε α} {meaning : α → β} {result : β} :
    value.map meaning = .ok result ↔ ∃ got, value = .ok got ∧ meaning got = result := by
  cases value with
  | error error =>
      refine iff_of_false (fun impossible => by cases impossible) ?_
      rintro ⟨_, impossible, _⟩
      cases impossible
  | ok got =>
      refine ⟨fun mapped => ⟨got, rfl, Except.ok.inj mapped⟩, ?_⟩
      rintro ⟨_, ⟨⟩, rfl⟩
      rfl

end LarkBot
