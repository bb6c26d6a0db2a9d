import GraphAgent.Dictionaries
import GraphAgent.JsonValue

/-!
# JSON values under the operators of Python

Payloads are dictionaries of JSON values, and the source reads them through
`or`, `==`, `in`, `str` and `int`.  The text of a float or a container and the
reading of a number text are left to the interpreter.
-/

namespace GraphAgent

/-- A dictionary with text keys and JSON values. -/
abbrev Fields := Dictionary String Json

namespace Json

structure Interpreter where
  /-- `str(value)` of a float, a list or a dictionary. -/
  repr : Json → String
  /-- `int(text)`, or nothing where it raises `ValueError`. -/
  intText : String → Option Int

/-- `bool(value)`. -/
def truthy : Json → Bool
  | .null => false
  | .bool value => value
  | .int value => value ≠ 0
  | .float _ mantissa _ => mantissa ≠ 0
  | .str value => value ≠ ""
  | .arr items => !items.isEmpty
  | .obj fields => !fields.isEmpty

/-- `value or other`. -/
def orElse (value other : Json) : Json :=
  if value.truthy then value else other

def number : Json → Option (Int × Int)
  | .bool value => some (value.toInt, 0)
  | .int value => some (value, 0)
  | .float negative mantissa exponent =>
    some (if negative then -(mantissa : Int) else mantissa, exponent)
  | _ => none

def sameNumber (first second : Int × Int) : Bool :=
  let low := min first.2 second.2
  first.1 * 2 ^ (first.2 - low).toNat == second.1 * 2 ^ (second.2 - low).toNat

/-- `first == second` of two numbers. -/
def sameScalar (first second : Json) : Bool :=
  match first.number, second.number with
  | some first, some second => sameNumber first second
  | _, _ => false

mutual

/-- `first == second`. -/
def sameValue : Json → Json → Bool
  | .null, second =>
    match second with
    | .null => true
    | _ => false
  | .str first, second =>
    match second with
    | .str text => first == text
    | _ => false
  | .arr items, second =>
    match second with
    | .arr others => sameItems items others
    | _ => false
  | .obj fields, second =>
    match second with
    | .obj others => fields.length == others.length && sameFields fields others
    | _ => false
  | .bool value, second => sameScalar (.bool value) second
  | .int value, second => sameScalar (.int value) second
  | .float negative mantissa exponent, second =>
    sameScalar (.float negative mantissa exponent) second

def sameItems : List Json → List Json → Bool
  | [], others => others.isEmpty
  | item :: items, others =>
    match others with
    | [] => false
    | other :: rest => sameValue item other && sameItems items rest

def sameFields : List (String × Json) → List (String × Json) → Bool
  | [], _ => true
  | (key, value) :: fields, others =>
    (match Dictionary.lookupEntries key others with
    | some other => sameValue value other
    | none => false) && sameFields fields others

end

/-- `isinstance(value, str)`. -/
def text? : Json → Option String
  | .str text => some text
  | _ => none

def identifier? : Json → Option String
  | .str text => if text = "" then none else some text
  | _ => none

/-- `isinstance(value, int)` without the Booleans. -/
def int? : Json → Option Int
  | .int value => some value
  | _ => none

/-- `str(value)`. -/
def toText (interpreter : Interpreter) : Json → String
  | .null => "None"
  | .bool value => if value then "True" else "False"
  | .int value => toString value
  | .str text => text
  | value => interpreter.repr value

/-- `int(value)`, or nothing where it raises. -/
def toInt? (interpreter : Interpreter) : Json → Option Int
  | .bool value => some value.toInt
  | .int value => some value
  | .float negative mantissa exponent =>
    let magnitude : Nat :=
      if 0 ≤ exponent then mantissa * 2 ^ exponent.toNat
      else mantissa / 2 ^ (-exponent).toNat
    some (if negative then -(magnitude : Int) else magnitude)
  | .str text => interpreter.intText text
  | _ => none

/-- `value in {texts}`, or nothing where the value cannot be hashed. -/
def memberOf (texts : List String) : Json → Option Bool
  | .str text => some (texts.contains text)
  | .arr _ | .obj _ => none
  | _ => some false

def hashable : Json → Bool
  | .arr _ | .obj _ => false
  | _ => true

end Json

namespace Fields

/-- `fields.get(key)`: a missing value reads as `None`. -/
def get (fields : Fields) (key : String) : Json :=
  (fields.lookup key).getD .null

/-- `dict(value)` of a JSON object. -/
def ofJson : Json → Option Fields
  | .obj fields => some (Dictionary.ofList fields)
  | _ => none

def toJson (fields : Fields) : Json :=
  .obj fields.entries

/-- `{key: value for … if value is not None}`. -/
def withoutNone (fields : List (String × Json)) : Fields :=
  Dictionary.ofList (fields.filter fun field => !(field.2 matches .null))

variable {fields incoming : Fields} {key other : String} {value : Json}

@[simp]
theorem get_insert_self : Fields.get (fields.insert key value) key = value := by
  simp [get]

@[simp]
theorem get_insert_of_ne (different : key ≠ other) :
    Fields.get (fields.insert key value) other = fields.get other := by
  simp [get, different]

theorem lookup_of_get_str {text : String} (found : fields.get key = .str text) :
    fields.lookup key = some (.str text) := by
  rw [get] at found
  cases entry : fields.lookup key with
  | none => simp [entry] at found
  | some value => simpa [entry] using found

end Fields

end GraphAgent
