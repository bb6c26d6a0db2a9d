import GraphAgent.JsonText

/-!
# Percent-encoded text

`quote(text, safe="")` and the strict `unquote` of ASCII text, through the UTF-8
bytes of the text.
-/

namespace GraphAgent.PercentText

open Terminal JsonText

/-- `bytes.decode("utf-8", errors="strict")`. -/
def decodeUtf8 (bytes : Bytes) : Option Text :=
  bytes.toByteArray.utf8Decode?.map Array.toList

@[simp]
theorem decodeUtf8_encodeUtf8 (text : Text) : decodeUtf8 (encodeUtf8 text) = some text := by
  have decoded : (encodeUtf8 text).toByteArray.utf8Decode? = some text.toArray :=
    List.utf8Decode?_utf8Encode
  rw [decodeUtf8, decoded]
  rfl

/-- The characters that `quote` never encodes. -/
def unreserved (char : Char) : Bool :=
  char.isAlphanum || "_.-~".toList.contains char

def hexDigits : Text := "0123456789ABCDEF".toList

def hexValue (char : Char) : Option Nat :=
  if char.isDigit then some (char.toNat - '0'.toNat)
  else if 'a' ≤ char ∧ char ≤ 'f' then some (char.toNat - 'a'.toNat + 10)
  else if 'A' ≤ char ∧ char ≤ 'F' then some (char.toNat - 'A'.toNat + 10)
  else none

def quoteByte (byte : UInt8) : Text :=
  let char := Char.ofNat byte.toNat
  if byte.toNat < 128 ∧ unreserved char then [char]
  else ['%', hexDigits.getD (byte.toNat / 16) '0', hexDigits.getD (byte.toNat % 16) '0']

/-- `quote(text, safe="", encoding="utf-8", errors="strict")`. -/
def quote (text : Text) : Text :=
  (encodeUtf8 text).flatMap quoteByte

def startsWithHexPair : Text → Bool
  | first :: second :: _ => (hexValue first).isSome && (hexValue second).isSome
  | _ => false

/-- `re.compile(r"%(?![0-9A-Fa-f]{2})").search`. -/
def invalidPercentEscape : Text → Bool
  | [] => false
  | char :: rest => (char == '%' && !startsWithHexPair rest) || invalidPercentEscape rest

/-- `unquote_to_bytes`: an escape that is no pair of digits is kept. -/
def unquoteToBytes : Text → Bytes
  | [] => []
  | [char] => encodeUtf8 [char]
  | [first, second] => encodeUtf8 [first, second]
  | first :: second :: third :: rest =>
    if first = '%' then
      match hexValue second, hexValue third with
      | some high, some low => UInt8.ofNat (16 * high + low) :: unquoteToBytes rest
      | _, _ => encodeUtf8 [first] ++ unquoteToBytes (second :: third :: rest)
    else encodeUtf8 [first] ++ unquoteToBytes (second :: third :: rest)

/-- `unquote(text, encoding="utf-8", errors="strict")` of ASCII text. -/
def unquote (text : Text) : Option Text :=
  if '%' ∈ text then decodeUtf8 (unquoteToBytes text) else some text

theorem encodeUtf8_cons (char : Char) (text : Text) :
    encodeUtf8 (char :: text) = encodeUtf8 [char] ++ encodeUtf8 text := by
  simp [encodeUtf8]

theorem unquoteToBytes_cons {char : Char} (plain : char ≠ '%') (text : Text) :
    unquoteToBytes (char :: text) = encodeUtf8 [char] ++ unquoteToBytes text := by
  match text with
  | [] => simp [unquoteToBytes]
  | [second] => simp [unquoteToBytes, encodeUtf8]
  | second :: third :: rest => rw [unquoteToBytes, if_neg plain]

theorem unquoteToBytes_plain {text : Text} (plain : '%' ∉ text) :
    unquoteToBytes text = encodeUtf8 text := by
  induction text with
  | nil => rfl
  | cons char text ih =>
    rw [unquoteToBytes_cons (fun same => plain (same ▸ List.mem_cons_self)),
      ih (fun member => plain (.tail _ member)), ← encodeUtf8_cons]

theorem quoteByte_cases (byte : UInt8) :
    (∃ char, quoteByte byte = [char] ∧ char ≠ '%' ∧ unreserved char = true ∧
      encodeUtf8 [char] = [byte]) ∨
    (∃ first second high low, quoteByte byte = ['%', first, second] ∧
      hexValue first = some high ∧ hexValue second = some low ∧
      UInt8.ofNat (16 * high + low) = byte ∧ unreserved first = true ∧
      unreserved second = true) := by
  by_cases plain : byte.toNat < 128 ∧ unreserved (Char.ofNat byte.toNat)
  · left
    have all : ∀ value < 128, unreserved (Char.ofNat value) = true →
        Char.ofNat value ≠ '%' ∧ encodeUtf8 [Char.ofNat value] = [UInt8.ofNat value] := by
      decide +kernel
    obtain ⟨notEscape, bytes⟩ := all byte.toNat plain.1 plain.2
    refine ⟨Char.ofNat byte.toNat, if_pos plain, notEscape, plain.2, ?_⟩
    rwa [UInt8.ofNat_toNat] at bytes
  · right
    have all : ∀ value < 16, hexValue (hexDigits.getD value '0') = some value ∧
        unreserved (hexDigits.getD value '0') = true := by
      decide +kernel
    have size := byte.toNat_lt
    obtain ⟨high, highPlain⟩ := all (byte.toNat / 16) (by omega)
    obtain ⟨low, lowPlain⟩ := all (byte.toNat % 16) (by omega)
    refine ⟨_, _, _, _, if_neg plain, high, low, ?_, highPlain, lowPlain⟩
    rw [Nat.div_add_mod, UInt8.ofNat_toNat]

theorem unquoteToBytes_quoteByte (byte : UInt8) (text : Text) :
    unquoteToBytes (quoteByte byte ++ text) = byte :: unquoteToBytes text := by
  rcases quoteByte_cases byte with ⟨char, quoted, plain, _, bytes⟩ |
    ⟨first, second, high, low, quoted, isHigh, isLow, value, _⟩
  · rw [quoted, List.singleton_append, unquoteToBytes_cons plain, bytes, List.singleton_append]
  · simp only [quoted, List.cons_append, List.nil_append, unquoteToBytes, isHigh, isLow, value,
      if_true]

theorem unquoteToBytes_quote (text : Text) : unquoteToBytes (quote text) = encodeUtf8 text := by
  have bytes : ∀ values : Bytes, unquoteToBytes (values.flatMap quoteByte) = values := by
    intro values
    induction values with
    | nil => rfl
    | cons value values ih => rw [List.flatMap_cons, unquoteToBytes_quoteByte, ih]
  exact bytes _

theorem unquote_quote (text : Text) : unquote (quote text) = some text := by
  rw [unquote]
  split
  next => rw [unquoteToBytes_quote, decodeUtf8_encodeUtf8]
  next plain =>
    have bytes := unquoteToBytes_plain plain
    rw [unquoteToBytes_quote] at bytes
    have decoded := decodeUtf8_encodeUtf8 text
    rwa [bytes, decodeUtf8_encodeUtf8] at decoded

theorem invalidPercentEscape_quote (text : Text) : invalidPercentEscape (quote text) = false := by
  have bytes : ∀ values : Bytes, invalidPercentEscape (values.flatMap quoteByte) = false := by
    intro values
    induction values with
    | nil => rfl
    | cons value values ih =>
      rw [List.flatMap_cons]
      rcases quoteByte_cases value with ⟨char, quoted, plain, _, _⟩ |
        ⟨first, second, high, low, quoted, isHigh, isLow, _, firstPlain, secondPlain⟩
      · simp [quoted, invalidPercentEscape, plain, ih]
      · have reserved : unreserved '%' = false := by decide
        have firstDigit : first ≠ '%' := fun same => by simp [same, reserved] at firstPlain
        have secondDigit : second ≠ '%' := fun same => by simp [same, reserved] at secondPlain
        simp [quoted, invalidPercentEscape, startsWithHexPair, isHigh, isLow, firstDigit,
          secondDigit, ih]
  exact bytes _

theorem mem_quote {char : Char} {text : Text} (member : char ∈ quote text) :
    unreserved char = true ∨ char = '%' := by
  obtain ⟨byte, _, inside⟩ := List.mem_flatMap.mp member
  rcases quoteByte_cases byte with ⟨other, quoted, _, plain, _⟩ |
    ⟨first, second, _, _, quoted, _, _, _, firstPlain, secondPlain⟩
  · rw [quoted, List.mem_singleton] at inside
    exact .inl (inside ▸ plain)
  · simp only [quoted, List.mem_cons, List.not_mem_nil, or_false] at inside
    rcases inside with rfl | rfl | rfl
    · exact .inr rfl
    · exact .inl firstPlain
    · exact .inl secondPlain

theorem quote_ne_nil {text : Text} (filled : text ≠ []) : quote text ≠ [] := by
  intro empty
  have decoded := unquote_quote text
  rw [empty] at decoded
  exact filled (Option.some.inj decoded).symm

end GraphAgent.PercentText
