import Mathlib.Algebra.Group.Int.Defs
import Mathlib.Algebra.GroupWithZero.Nat
import Mathlib.Data.List.Basic
import Mathlib.Data.Nat.Log

/-!
# JSON values

Rollout frames, event payloads and persisted rows all carry JSON values.  This
file fixes the value type the other modules share, together with the RFC 8785
entry points of `app/domain/itemized/hashing.py`.  The canonicalisation library
itself is not part of the repository and stays a parameter `dumps`.
-/

namespace GraphAgent

abbrev Bytes := List UInt8

/-- A decoded JSON value.  Objects keep their insertion order, and a float is
the exact value `± mantissa * 2 ^ exponent`. -/
inductive Json where
  | null
  | bool (value : Bool)
  | int (value : Int)
  | float (negative : Bool) (mantissa : Nat) (exponent : Int)
  | str (value : String)
  | arr (items : List Json)
  | obj (fields : List (String × Json))

namespace Json

/-- `2 ** 53 - 1`, the largest safe integer. -/
def maxSafeInteger : Nat := 2 ^ 53 - 1

/-- `int(sys.float_info.max)`. -/
def maxFloatInteger : Nat := (2 ^ 53 - 1) * 2 ^ 971

/-- Magnitude of `float(value)`: round half to even at 53 significant bits. -/
def roundToBinary64 (magnitude : Nat) : Nat × Nat :=
  let bits := Nat.log 2 magnitude + 1
  if bits ≤ 53 then
    (magnitude, 0)
  else
    let exponent := bits - 53
    let quotient := magnitude / 2 ^ exponent
    let remainder := magnitude % 2 ^ exponent
    let half := 2 ^ (exponent - 1)
    if half < remainder ∨ (remainder = half ∧ quotient % 2 = 1) then
      (quotient + 1, exponent)
    else
      (quotient, exponent)

/-- `float(value)` for an integer inside the finite range. -/
def ofIntAsFloat (value : Int) : Json :=
  let rounded := roundToBinary64 value.natAbs
  .float (decide (value < 0)) rounded.1 rounded.2

/-- `int(float(value))`. -/
def truncatedFloat (value : Int) : Int :=
  let rounded := roundToBinary64 value.natAbs
  (if value < 0 then -1 else 1) * (rounded.1 * 2 ^ rounded.2 : Nat)

mutual

/-- `_validate_json_value`: whether an integer needs adapting before encoding.
The value type already excludes surrogates, non-finite floats and non-JSON
objects, so the raising branches of the source have no input here. -/
def needsAdaptation : Json → Bool
  | .int value => decide (maxSafeInteger < value.natAbs)
  | .arr items => listNeedsAdaptation items
  | .obj fields => fieldsNeedAdaptation fields
  | _ => false

def listNeedsAdaptation : List Json → Bool
  | [] => false
  | item :: items => needsAdaptation item || listNeedsAdaptation items

def fieldsNeedAdaptation : List (String × Json) → Bool
  | [] => false
  | (_, value) :: fields => needsAdaptation value || fieldsNeedAdaptation fields

end

/-- The ways the canonical encoder raises `ItemSchemaError`. -/
inductive EncodingError where
  | integerRange
  | integerPrecision
  | rejected

section Canonical

variable (dumps : Json → Option Bytes)

mutual

/-- `_jcs_input`: large integers become the binary64 value they denote. -/
def jcsInput : Json → Except EncodingError Json
  | .int value =>
    if maxSafeInteger < value.natAbs then
      if maxFloatInteger < value.natAbs then
        .error .integerRange
      else if truncatedFloat value ≠ value ∧
          dumps (ofIntAsFloat value) ≠ some (toString value).toUTF8.data.toList then
        .error .integerPrecision
      else
        .ok (ofIntAsFloat value)
    else
      .ok (.int value)
  | .arr items => (jcsInputList items).map .arr
  | .obj fields => (jcsInputFields fields).map .obj
  | value => .ok value

def jcsInputList : List Json → Except EncodingError (List Json)
  | [] => .ok []
  | item :: items => do
      let adapted ← jcsInput item
      let rest ← jcsInputList items
      return adapted :: rest

def jcsInputFields :
    List (String × Json) → Except EncodingError (List (String × Json))
  | [] => .ok []
  | (key, value) :: fields => do
      let adapted ← jcsInput value
      let rest ← jcsInputFields fields
      return (key, adapted) :: rest

end

/-- `canonical_json_bytes`: encode directly, and only after a refusal retry
with the integers adapted. -/
def canonicalJsonBytes (value : Json) : Except EncodingError Bytes :=
  match dumps value with
  | some bytes => .ok bytes
  | none =>
    if needsAdaptation value then
      match jcsInput dumps value with
      | .error error => .error error
      | .ok adapted =>
        match dumps adapted with
        | some bytes => .ok bytes
        | none => .error .rejected
    else
      .error .rejected

/-- An RFC 8785 object text starts with a brace, so it is never empty. -/
def EncodesObjects : Prop :=
  ∀ fields, dumps (.obj fields) ≠ some []

theorem canonicalJsonBytes_obj_ne_nil (encodes : EncodesObjects dumps)
    {fields : List (String × Json)} {bytes : Bytes}
    (encoded : canonicalJsonBytes dumps (.obj fields) = .ok bytes) :
    bytes ≠ [] := by
  unfold canonicalJsonBytes at encoded
  cases direct : dumps (.obj fields) with
  | some text =>
    simp only [direct, Except.ok.injEq] at encoded
    subst encoded
    intro empty
    exact encodes fields (empty ▸ direct)
  | none =>
    simp only [direct] at encoded
    split at encoded
    · cases adapted : jcsInputFields dumps fields with
      | error error => simp [jcsInput, adapted, Except.map] at encoded
      | ok rest =>
        simp only [jcsInput, adapted, Except.map] at encoded
        cases retried : dumps (.obj rest) with
        | none => simp [retried] at encoded
        | some text =>
          simp only [retried, Except.ok.injEq] at encoded
          subst encoded
          intro empty
          exact encodes rest (empty ▸ retried)
    · cases encoded

end Canonical

end Json

end GraphAgent
