import GraphAgent.Sha256
import GraphAgent.TerminalText

/-!
# The compact JSON text of Python values

`json.dumps(value, ensure_ascii=False, separators=(",", ":"))` as a function to
text, and the UTF-8 bytes of that text.  Object keys are Python keys: `str` and
the encoder name them differently, so keys that differ in the encoder may
collide under `str`.
-/

namespace GraphAgent.JsonText

open Terminal

/-- `text.encode("utf-8")`. -/
def encodeUtf8 (text : Text) : Bytes :=
  text.flatMap String.utf8EncodeChar

@[simp]
theorem length_encodeUtf8 (text : Text) : (encodeUtf8 text).length = byteLength text := by
  simp [encodeUtf8, byteLength, List.length_flatMap]

/-- `encoded[:count].decode("utf-8", errors="ignore")`: a character whose bytes
are cut is dropped. -/
def takeBytes : Nat → Text → Text
  | _, [] => []
  | count, char :: text =>
    if char.utf8Size ≤ count then char :: takeBytes (count - char.utf8Size) text else []

theorem byteLength_takeBytes_le (count : Nat) (text : Text) :
    byteLength (takeBytes count text) ≤ count := by
  induction text generalizing count with
  | nil => simp [takeBytes]
  | cons char text ih =>
    rw [takeBytes]
    split
    · rename_i fits
      have rest := ih (count - char.utf8Size)
      rw [byteLength_cons]
      omega
    · simp

theorem takeBytes_isPrefix (count : Nat) (text : Text) : takeBytes count text <+: text := by
  induction text generalizing count with
  | nil => simp [takeBytes]
  | cons char text ih =>
    rw [takeBytes]
    split
    · exact (List.prefix_cons_inj char).mpr (ih _)
    · exact List.nil_prefix

/-- A float is the text of its `repr`, or one of the three values that `repr`
and the encoder write differently. -/
inductive PythonFloat where
  | finite (repr : Text)
  | nan
  | infinity
  | negativeInfinity

def PythonFloat.str : PythonFloat → Text
  | .finite repr => repr
  | .nan => "nan".toList
  | .infinity => "inf".toList
  | .negativeInfinity => "-inf".toList

def PythonFloat.json : PythonFloat → Text
  | .finite repr => repr
  | .nan => "NaN".toList
  | .infinity => "Infinity".toList
  | .negativeInfinity => "-Infinity".toList

/-- The keys `json.dumps` accepts. -/
inductive PythonKey where
  | str (text : Text)
  | int (value : Int)
  | bool (value : Bool)
  | float (value : PythonFloat)
  | none

/-- `str(key)`. -/
def PythonKey.toStr : PythonKey → Text
  | .str text => text
  | .int value => (toString value).toList
  | .bool value => if value then "True".toList else "False".toList
  | .float value => value.str
  | .none => "None".toList

def PythonKey.json : PythonKey → Text
  | .str text => text
  | .int value => (toString value).toList
  | .bool value => if value then "true".toList else "false".toList
  | .float value => value.json
  | .none => "null".toList

inductive Value where
  | null
  | bool (value : Bool)
  | int (value : Int)
  | float (value : PythonFloat)
  | str (text : Text)
  | list (items : List Value)
  | dict (entries : List (PythonKey × Value))

/-- `ESCAPE_DCT` of the encoder, and the character itself where it has no entry. -/
def escapeChar (char : Char) : Text :=
  if char = '\\' then ['\\', '\\']
  else if char = '"' then ['\\', '"']
  else if char = Char.ofNat 8 then ['\\', 'b']
  else if char = Char.ofNat 12 then ['\\', 'f']
  else if char = '\n' then ['\\', 'n']
  else if char = '\r' then ['\\', 'r']
  else if char = '\t' then ['\\', 't']
  else if char.toNat < 32 then
    ['\\', 'u', '0', '0', Sha256.hexDigits.getD (char.toNat / 16) '0',
      Sha256.hexDigits.getD (char.toNat % 16) '0']
  else [char]

/-- A JSON string literal. -/
def quoted (text : Text) : Text :=
  '"' :: text.flatMap escapeChar ++ ['"']

def commaSeparated (parts : List Text) : Text :=
  List.intercalate [','] parts

mutual

/-- `json.dumps(value, ensure_ascii=False, separators=(",", ":"))`. -/
def dumps : Value → Text
  | .null => "null".toList
  | .bool value => if value then "true".toList else "false".toList
  | .int value => (toString value).toList
  | .float value => value.json
  | .str text => quoted text
  | .list items => '[' :: commaSeparated (dumpsItems items) ++ [']']
  | .dict entries => '\x7b' :: commaSeparated (dumpsEntries entries) ++ ['\x7d']

def dumpsItems : List Value → List Text
  | [] => []
  | item :: items => dumps item :: dumpsItems items

def dumpsEntries : List (PythonKey × Value) → List Text
  | [] => []
  | (key, child) :: entries => (quoted key.json ++ ':' :: dumps child) :: dumpsEntries entries

end

def encoded (value : Value) : Bytes :=
  encodeUtf8 (dumps value)

theorem byteLength_bracketed {opening closing : Char} (openingByte : opening.utf8Size = 1)
    (closingByte : closing.utf8Size = 1) (parts : List Text) :
    byteLength (opening :: commaSeparated parts ++ [closing]) =
      2 + (parts.map byteLength).sum + (parts.length - 1) := by
  have inside : byteLength (commaSeparated parts) =
      (parts.map byteLength).sum + (parts.length - 1) := by
    induction parts with
    | nil => simp [commaSeparated]
    | cons part parts ih =>
      cases parts with
      | nil => simp [commaSeparated]
      | cons next parts =>
        have comma : byteLength [','] = 1 := by decide
        have unfolded : commaSeparated (part :: next :: parts) =
            part ++ [','] ++ commaSeparated (next :: parts) := by
          simp [commaSeparated, List.intercalate]
        rw [unfolded, byteLength_append, byteLength_append, comma, ih]
        simp only [List.map_cons, List.sum_cons, List.length_cons]
        omega
  simp only [List.cons_append, byteLength_cons, byteLength_append, byteLength_nil, inside,
    openingByte, closingByte]
  omega

theorem length_encoded_str (text : Text) :
    (encoded (.str text)).length = byteLength (text.flatMap escapeChar) + 2 := by
  have quote : '"'.utf8Size = 1 := by decide
  rw [encoded, length_encodeUtf8, dumps, quoted, List.cons_append, byteLength_cons,
    byteLength_append, byteLength_cons, byteLength_nil, quote]
  omega

theorem dumpsItems_eq (items : List Value) : dumpsItems items = items.map dumps := by
  induction items with
  | nil => rfl
  | cons item items ih => rw [dumpsItems, ih, List.map_cons]

theorem dumpsEntries_eq (entries : List (PythonKey × Value)) :
    dumpsEntries entries =
      entries.map fun entry => quoted entry.1.json ++ ':' :: dumps entry.2 := by
  induction entries with
  | nil => rfl
  | cons entry entries ih => rw [dumpsEntries, ih, List.map_cons]

theorem length_encoded_list (items : List Value) :
    (encoded (.list items)).length =
      2 + (items.map fun item => (encoded item).length).sum + (items.length - 1) := by
  rw [encoded, length_encodeUtf8, dumps, byteLength_bracketed (by decide) (by decide),
    dumpsItems_eq, List.length_map, List.map_map]
  simp [encoded, Function.comp_def]

theorem length_encoded_dict (entries : List (PythonKey × Value)) :
    (encoded (.dict entries)).length =
      2 + (entries.map fun entry =>
        (encoded (.str entry.1.json)).length + 1 + (encoded entry.2).length).sum +
        (entries.length - 1) := by
  have colon : ':'.utf8Size = 1 := by decide
  rw [encoded, length_encodeUtf8, dumps, byteLength_bracketed (by decide) (by decide),
    dumpsEntries_eq, List.length_map, List.map_map]
  simp only [encoded, length_encodeUtf8, dumps, Function.comp_def, byteLength_append,
    byteLength_cons, colon, Nat.add_assoc]

theorem byteLength_le_escaped (text : Text) :
    byteLength text ≤ byteLength (text.flatMap escapeChar) := by
  induction text with
  | nil => simp
  | cons char text ih =>
    have one : char.utf8Size ≤ byteLength (escapeChar char) := by
      unfold escapeChar
      split_ifs <;> rename_i which <;> try (subst which; decide)
      · have ascii : char.utf8Size = 1 := by
          rw [Char.utf8Size, if_pos]
          exact UInt32.le_iff_toNat_le.mpr (by show char.toNat ≤ 127; omega)
        rw [ascii, byteLength_cons]
        have backslash : '\\'.utf8Size = 1 := by decide
        omega
      · simp
    rw [List.flatMap_cons, byteLength_append, byteLength_cons]
    omega

def Plain (char : Char) : Prop :=
  escapeChar char = [char]

instance (char : Char) : Decidable (Plain char) :=
  inferInstanceAs (Decidable (escapeChar char = [char]))

theorem plain_of_all {text : Text} (all : text.all (fun char => decide (Plain char)) = true) :
    ∀ char ∈ text, Plain char := by
  simpa using all

theorem escaped_of_plain {text : Text} (plain : ∀ char ∈ text, Plain char) :
    text.flatMap escapeChar = text := by
  induction text with
  | nil => rfl
  | cons char text ih =>
    have head : escapeChar char = [char] := plain char List.mem_cons_self
    rw [List.flatMap_cons, head, ih fun other member => plain other (List.mem_cons_of_mem _ member)]
    rfl

theorem Plain.of_isDigit {char : Char} (digit : char.isDigit = true) : Plain char := by
  have bounds : 48 ≤ char.toNat ∧ char.toNat ≤ 57 := by
    simpa [Char.isDigit, UInt32.le_iff_toNat_le] using digit
  have differs : ∀ other : Char, other.toNat < 48 ∨ 57 < other.toNat → char ≠ other := by
    rintro other far rfl
    omega
  rw [Plain, escapeChar, if_neg (differs _ (by decide)), if_neg (differs _ (by decide)),
    if_neg (differs _ (by decide)), if_neg (differs _ (by decide)), if_neg (differs _ (by decide)),
    if_neg (differs _ (by decide)), if_neg (differs _ (by decide)), if_neg (by omega)]

theorem plain_toString (value : Nat) : ∀ char ∈ (toString value).toList, Plain char := by
  intro char member
  have digits : char ∈ Nat.toDigits 10 value := by
    simpa [toString, Nat.repr] using member
  exact .of_isDigit (Nat.isDigit_of_mem_toDigits (by decide) (by decide) digits)

theorem plain_hexdigest (message : Bytes) : ∀ char ∈ Sha256.hexdigest message, Plain char := by
  intro char member
  have allPlain : ∀ digit ∈ Sha256.hexDigits, Plain digit :=
    plain_of_all (by decide +kernel)
  exact allPlain char (Sha256.mem_hexDigits_of_mem_hexdigest member)

end GraphAgent.JsonText
