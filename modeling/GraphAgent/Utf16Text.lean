import GraphAgent.JsonText

/-!
# UTF-16 code units and UTF-8 bytes

A JavaScript string is a list of 16-bit code units, of which two form one
character above the basic plane.  This file relates code units, characters and
bytes: what cutting a string between two units, or its bytes between two bytes,
leaves of the characters.
-/

namespace GraphAgent.Utf16

open Terminal JsonText

abbrev CodeUnit := UInt16

def isHigh (unit : CodeUnit) : Prop :=
  0xD800 ≤ unit.toNat ∧ unit.toNat < 0xDC00

def isLow (unit : CodeUnit) : Prop :=
  0xDC00 ≤ unit.toNat ∧ unit.toNat < 0xE000

instance (unit : CodeUnit) : Decidable (isHigh unit) :=
  inferInstanceAs (Decidable (_ ∧ _))

instance (unit : CodeUnit) : Decidable (isLow unit) :=
  inferInstanceAs (Decidable (_ ∧ _))

def charUnits (char : Char) : List CodeUnit :=
  if char.toNat < 0x10000 then [UInt16.ofNat char.toNat]
  else [UInt16.ofNat (0xD800 + (char.toNat - 0x10000) / 1024),
    UInt16.ofNat (0xDC00 + (char.toNat - 0x10000) % 1024)]

def utf16 (text : Text) : List CodeUnit :=
  text.flatMap charUnits

@[simp]
theorem utf16_nil : utf16 [] = [] := rfl

@[simp]
theorem utf16_cons (char : Char) (text : Text) :
    utf16 (char :: text) = charUnits char ++ utf16 text := rfl

@[simp]
theorem utf16_append (first second : Text) : utf16 (first ++ second) = utf16 first ++ utf16 second :=
  List.flatMap_append

def pairValue (high low : CodeUnit) : Nat :=
  0x10000 + (high.toNat - 0xD800) * 1024 + (low.toNat - 0xDC00)

def loneChar (unit : CodeUnit) : Char :=
  if 0xD800 ≤ unit.toNat ∧ unit.toNat < 0xE000 then Char.ofNat 0xFFFD else Char.ofNat unit.toNat

def scalars : List CodeUnit → Text
  | [] => []
  | [unit] => [loneChar unit]
  | first :: second :: rest =>
    if isHigh first ∧ isLow second then Char.ofNat (pairValue first second) :: scalars rest
    else loneChar first :: scalars (second :: rest)

theorem charUnits_cases (char : Char) :
    (∃ unit, charUnits char = [unit] ∧ unit.toNat = char.toNat ∧ ¬ isHigh unit ∧ ¬ isLow unit ∧
      char.toNat < 0x10000) ∨
    ∃ high low, charUnits char = [high, low] ∧ isHigh high ∧ isLow low ∧
      pairValue high low = char.toNat ∧ 0x10000 ≤ char.toNat := by
  have valid : char.toNat < 0xD800 ∨ 0xDFFF < char.toNat ∧ char.toNat < 0x110000 := char.valid
  by_cases basic : char.toNat < 0x10000
  · have value : (UInt16.ofNat char.toNat).toNat = char.toNat := by
      rw [UInt16.toNat_ofNat']
      exact Nat.mod_eq_of_lt basic
    refine .inl ⟨_, if_pos basic, value, ?_, ?_, basic⟩
    · rw [isHigh, value]
      omega
    · rw [isLow, value]
      omega
  · have high : (UInt16.ofNat (0xD800 + (char.toNat - 0x10000) / 1024)).toNat =
        0xD800 + (char.toNat - 0x10000) / 1024 := by
      rw [UInt16.toNat_ofNat']
      omega
    have low : (UInt16.ofNat (0xDC00 + (char.toNat - 0x10000) % 1024)).toNat =
        0xDC00 + (char.toNat - 0x10000) % 1024 := by
      rw [UInt16.toNat_ofNat']
      omega
    refine .inr ⟨_, _, if_neg basic, ?_, ?_, ?_, by omega⟩
    · rw [isHigh, high]
      omega
    · rw [isLow, low]
      omega
    · unfold pairValue
      omega

theorem loneChar_of_not_surrogate {unit : CodeUnit} {char : Char}
    (value : unit.toNat = char.toNat) (notHigh : ¬ isHigh unit) (notLow : ¬ isLow unit) :
    loneChar unit = char := by
  unfold isHigh at notHigh
  unfold isLow at notLow
  rw [loneChar, if_neg (by omega), value, Char.ofNat_toNat]

theorem scalars_cons_lone {unit : CodeUnit} (notHigh : ¬ isHigh unit) (rest : List CodeUnit) :
    scalars (unit :: rest) = loneChar unit :: scalars rest := by
  cases rest with
  | nil => rfl
  | cons next rest => rw [scalars, if_neg (fun pair => notHigh pair.1)]

theorem scalars_charUnits (char : Char) (rest : List CodeUnit) :
    scalars (charUnits char ++ rest) = char :: scalars rest := by
  rcases charUnits_cases char with ⟨unit, units, value, notHigh, notLow, _⟩ |
    ⟨high, low, units, isHighUnit, isLowUnit, value, _⟩
  · rw [units, List.singleton_append, scalars_cons_lone notHigh,
      loneChar_of_not_surrogate value notHigh notLow]
  · rw [units, List.cons_append, List.singleton_append, scalars,
      if_pos ⟨isHighUnit, isLowUnit⟩, value, Char.ofNat_toNat]

@[simp]
theorem scalars_utf16 (text : Text) : scalars (utf16 text) = text := by
  induction text with
  | nil => rfl
  | cons char text ih => rw [utf16_cons, scalars_charUnits, ih]

theorem scalars_low {low : CodeUnit} (isLowUnit : isLow low) (text : Text) :
    scalars (low :: utf16 text) = Char.ofNat 0xFFFD :: text := by
  have notHigh : ¬ isHigh low := by
    unfold isHigh isLow at *
    omega
  have replaced : loneChar low = Char.ofNat 0xFFFD := by
    unfold isLow at isLowUnit
    rw [loneChar, if_pos (by omega)]
  rw [scalars_cons_lone notHigh, scalars_utf16, replaced]

theorem utf8Size_of_pair {char : Char} (above : 0x10000 ≤ char.toNat) : char.utf8Size = 4 := by
  have big (bound : Nat) (small : bound < 0x10000) (value : UInt32) (same : value.toNat = bound) :
      ¬ char.val ≤ value := by
    rw [UInt32.le_iff_toNat_le]
    show ¬ char.toNat ≤ _
    omega
  unfold Char.utf8Size
  rw [if_neg (big 0x7F (by decide) _ rfl), if_neg (big 0x7FF (by decide) _ rfl),
    if_neg (big 0xFFFF (by decide) _ rfl)]

theorem drop_utf16 (count : Nat) (text : Text) :
    (∃ before after, text = before ++ after ∧ (utf16 text).drop count = utf16 after) ∨
    ∃ (before : Text) (char : Char) (after : Text) (low : CodeUnit), text = before ++ char :: after ∧
      char.utf8Size = 4 ∧ isLow low ∧ (utf16 text).drop count = low :: utf16 after := by
  induction text generalizing count with
  | nil => exact .inl ⟨[], [], rfl, by simp⟩
  | cons char text ih =>
    have extend {count rest : Nat} (cut : (utf16 (char :: text)).drop count =
        (utf16 text).drop rest) : (∃ before after, char :: text = before ++ after ∧
          (utf16 (char :: text)).drop count = utf16 after) ∨
        ∃ (before : Text) (other : Char) (after : Text) (low : CodeUnit),
          char :: text = before ++ other :: after ∧ other.utf8Size = 4 ∧ isLow low ∧
          (utf16 (char :: text)).drop count = low :: utf16 after := by
      rcases ih rest with ⟨before, after, split, left⟩ |
        ⟨before, other, after, low, split, size, isLowUnit, left⟩
      · exact .inl ⟨char :: before, after, by rw [split, List.cons_append], cut.trans left⟩
      · exact .inr ⟨char :: before, other, after, low, by rw [split, List.cons_append], size,
          isLowUnit, cut.trans left⟩
    rcases charUnits_cases char with ⟨unit, units, _⟩ |
      ⟨high, low, units, _, isLowUnit, _, above⟩
    · cases count with
      | zero => exact .inl ⟨[], char :: text, rfl, rfl⟩
      | succ count => exact @extend (count + 1) count (by rw [utf16_cons, units]; rfl)
    · match count with
      | 0 => exact .inl ⟨[], char :: text, rfl, rfl⟩
      | 1 =>
        exact .inr ⟨[], char, text, low, rfl, utf8Size_of_pair above, isLowUnit, by
          rw [utf16_cons, units]; rfl⟩
      | count + 2 => exact @extend (count + 2) count (by rw [utf16_cons, units]; rfl)

theorem length_charUnits_le (char : Char) : (charUnits char).length ≤ char.utf8Size := by
  rcases charUnits_cases char with ⟨unit, units, _⟩ | ⟨high, low, units, _, _, _, above⟩
  · rw [units]
    exact char.utf8Size_pos
  · rw [units, utf8Size_of_pair above]
    exact Nat.le_of_lt (by simp)

theorem length_utf16_le (text : Text) : (utf16 text).length ≤ byteLength text := by
  induction text with
  | nil => simp
  | cons char text ih =>
    have units := length_charUnits_le char
    rw [utf16_cons, List.length_append, byteLength_cons]
    omega

/-- `(byte & 0xc0) === 0x80`. -/
def isContinuation (byte : UInt8) : Bool :=
  byte &&& 0xc0 == 0x80

theorem isContinuation_iff (byte : UInt8) : isContinuation byte = true ↔ byte.toNat / 64 = 2 := by
  have all : ∀ value < 256, (isContinuation (UInt8.ofNat value) = true ↔ value / 64 = 2) := by
    decide +kernel
  have this := all byte.toNat byte.toNat_lt
  rwa [UInt8.ofNat_toNat] at this

theorem utf8EncodeChar_cases (char : Char) : ∃ leading continuations,
    String.utf8EncodeChar char = leading :: continuations ∧ isContinuation leading = false ∧
      ∀ byte ∈ continuations, isContinuation byte = true := by
  have bound : char.val.toNat < 0x110000 := by
    have valid : char.toNat < 0xD800 ∨ 0xDFFF < char.toNat ∧ char.toNat < 0x110000 := char.valid
    show char.toNat < _
    omega
  have leads {value : Nat} (small : value % 256 / 64 ≠ 2) :
      isContinuation (UInt8.ofNat value) = false := by
    rw [Bool.eq_false_iff, Ne, isContinuation_iff, UInt8.toNat_ofNat']
    exact small
  have continues (value : Nat) : isContinuation (UInt8.ofNat (value % 64 + 0x80)) = true := by
    rw [isContinuation_iff, UInt8.toNat_ofNat']
    omega
  unfold String.utf8EncodeChar
  dsimp only
  split_ifs with one two three
  · refine ⟨_, [], rfl, leads (by omega), nofun⟩
  · refine ⟨_, _, rfl, leads (by omega), ?_⟩
    simp only [List.mem_cons, List.not_mem_nil, or_false, forall_eq]
    exact continues _
  · refine ⟨_, _, rfl, leads (by omega), ?_⟩
    simp only [List.mem_cons, List.not_mem_nil, or_false, forall_eq_or_imp, forall_eq]
    exact ⟨continues _, continues _⟩
  · refine ⟨_, _, rfl, leads (by omega), ?_⟩
    simp only [List.mem_cons, List.not_mem_nil, or_false, forall_eq_or_imp, forall_eq]
    exact ⟨continues _, continues _, continues _⟩

theorem align_encodeUtf8 (count : Nat) (text : Text) :
    ((encodeUtf8 text).drop count).dropWhile isContinuation = encodeUtf8 (dropBytes count text) := by
  induction text generalizing count with
  | nil => cases count <;> simp [encodeUtf8, dropBytes]
  | cons char text ih =>
    obtain ⟨leading, continuations, bytes, leads, continues⟩ := utf8EncodeChar_cases char
    have size : continuations.length + 1 = char.utf8Size := by
      rw [← String.length_utf8EncodeChar, bytes, List.length_cons]
    have unfolded : encodeUtf8 (char :: text) =
        leading :: (continuations ++ encodeUtf8 text) := by
      rw [encodeUtf8, List.flatMap_cons, bytes]
      rfl
    cases count with
    | zero =>
      rw [dropBytes, unfolded, List.drop_zero, List.dropWhile_cons, leads]
      rfl
    | succ count =>
      rw [dropBytes, unfolded, List.drop_succ_cons, List.drop_append]
      have inside : ∀ byte ∈ continuations.drop count, isContinuation byte = true :=
        fun byte member => continues byte (List.mem_of_mem_drop member)
      rw [List.dropWhile_append_of_pos inside, ih]
      congr 2
      omega

end GraphAgent.Utf16
