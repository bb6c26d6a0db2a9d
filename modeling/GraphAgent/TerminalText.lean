import Mathlib.Algebra.GroupWithZero.Nat
import Mathlib.Algebra.Order.BigOperators.Group.List

/-!
# Terminal text and its UTF-8 boundaries

The terminal keeps the tail of its output within a byte limit and splits each
packet of the process into bounded events, both on character boundaries
(`output/terminalUtf8Output.js`).  Text is a list of characters and a character
counts its UTF-8 bytes.
-/

namespace GraphAgent.Terminal

abbrev Text := List Char

/-- `Buffer.byteLength(value, "utf8")`. -/
def byteLength (text : Text) : Nat :=
  (text.map (·.utf8Size)).sum

@[simp]
theorem byteLength_nil : byteLength [] = 0 := rfl

@[simp]
theorem byteLength_cons (char : Char) (text : Text) :
    byteLength (char :: text) = char.utf8Size + byteLength text := by
  simp [byteLength]

@[simp]
theorem byteLength_append (left right : Text) :
    byteLength (left ++ right) = byteLength left + byteLength right := by
  simp [byteLength]

/-- Start decoding at byte `count`, moved on to the next character boundary. -/
def dropBytes : Nat → Text → Text
  | 0, text => text
  | _ + 1, [] => []
  | count + 1, char :: text => dropBytes (count + 1 - char.utf8Size) text

/-- `trimTerminalBuffer` with the byte limit as an argument.  The slice of the
last UTF-16 units in the source only bounds the work of the encoder. -/
def trimTerminalBuffer (limit : Nat) (text : Text) : Text :=
  if byteLength text ≤ limit then text
  else dropBytes (byteLength text - limit) text

theorem trimTerminalBuffer_of_le {limit : Nat} {text : Text}
    (fits : byteLength text ≤ limit) : trimTerminalBuffer limit text = text :=
  if_pos fits

theorem trimTerminalBuffer_cons_of_lt {limit : Nat} {char : Char} {text : Text}
    (tooLong : limit < byteLength (char :: text)) :
    trimTerminalBuffer limit (char :: text) = trimTerminalBuffer limit text := by
  obtain ⟨excess, excessEq⟩ : ∃ excess, byteLength (char :: text) - limit = excess + 1 :=
    ⟨byteLength (char :: text) - limit - 1, by omega⟩
  rw [trimTerminalBuffer, if_neg (by omega), excessEq, dropBytes, ← excessEq]
  rw [byteLength_cons] at tooLong ⊢
  by_cases fits : byteLength text ≤ limit
  · have nothing : char.utf8Size + byteLength text - limit - char.utf8Size = 0 := by omega
    rw [nothing, trimTerminalBuffer_of_le fits, dropBytes]
  · rw [trimTerminalBuffer, if_neg fits]
    congr 1
    omega

theorem byteLength_trimTerminalBuffer_le (limit : Nat) (text : Text) :
    byteLength (trimTerminalBuffer limit text) ≤ limit := by
  induction text with
  | nil => simp [trimTerminalBuffer]
  | cons char text ih =>
    by_cases fits : byteLength (char :: text) ≤ limit
    · rwa [trimTerminalBuffer_of_le fits]
    · rwa [trimTerminalBuffer_cons_of_lt (by omega)]

@[simp]
theorem trimTerminalBuffer_trim (limit : Nat) (text : Text) :
    trimTerminalBuffer limit (trimTerminalBuffer limit text) =
      trimTerminalBuffer limit text :=
  trimTerminalBuffer_of_le (byteLength_trimTerminalBuffer_le limit text)

theorem trimTerminalBuffer_append (limit : Nat) (left right : Text) :
    trimTerminalBuffer limit (trimTerminalBuffer limit left ++ right) =
      trimTerminalBuffer limit (left ++ right) := by
  induction left with
  | nil => simp [trimTerminalBuffer]
  | cons char left ih =>
    by_cases fits : byteLength (char :: left) ≤ limit
    · rw [trimTerminalBuffer_of_le fits]
    · have tooLong : limit < byteLength (char :: (left ++ right)) := by
        simp only [byteLength_cons, byteLength_append] at fits ⊢
        omega
      rw [trimTerminalBuffer_cons_of_lt (by omega), ih, List.cons_append,
        trimTerminalBuffer_cons_of_lt tooLong]

theorem trimTerminalBuffer_append_congr {limit : Nat} {left other : Text}
    (same : trimTerminalBuffer limit left = trimTerminalBuffer limit other) (right : Text) :
    trimTerminalBuffer limit (left ++ right) = trimTerminalBuffer limit (other ++ right) := by
  rw [← trimTerminalBuffer_append, same, trimTerminalBuffer_append]

/-- The chunk loop of `splitTerminalOutputChunks`. -/
def splitFrom (limit : Nat) : Text → Nat → Text → List Text
  | chunk, _, [] => [chunk]
  | chunk, chunkBytes, char :: text =>
    if limit < chunkBytes + char.utf8Size then
      chunk :: splitFrom limit [char] char.utf8Size text
    else
      splitFrom limit (chunk ++ [char]) (chunkBytes + char.utf8Size) text

/-- `splitTerminalOutputChunks` with the event limit as an argument. -/
def splitTerminalOutputChunks (limit : Nat) (text : Text) : List Text :=
  if text = [] then []
  else if byteLength text ≤ limit then [text]
  else splitFrom limit [] 0 text

theorem splitFrom_flatten (limit : Nat) (chunk : Text) (chunkBytes : Nat) (text : Text) :
    (splitFrom limit chunk chunkBytes text).flatten = chunk ++ text := by
  induction text generalizing chunk chunkBytes with
  | nil => simp [splitFrom]
  | cons char text ih =>
    rw [splitFrom]
    split
    · simp [ih]
    · simp [ih]

theorem splitFrom_bounded {limit : Nat} (charFits : 4 ≤ limit) {chunk text : Text}
    {chunkBytes : Nat} (bytes : chunkBytes = byteLength chunk)
    (fits : byteLength chunk ≤ limit) :
    ∀ part ∈ splitFrom limit chunk chunkBytes text, byteLength part ≤ limit := by
  induction text generalizing chunk chunkBytes with
  | nil => simpa [splitFrom] using fits
  | cons char text ih =>
    have charBound := char.utf8Size_le_four
    rw [splitFrom]
    split
    · intro part member
      rcases List.mem_cons.mp member with rfl | later
      · exact fits
      · have single : byteLength [char] = char.utf8Size := by simp
        exact ih single.symm (by omega) part later
    · rename_i inside
      have extended : byteLength (chunk ++ [char]) = chunkBytes + char.utf8Size := by
        simp [bytes]
      exact ih extended.symm (by omega)

theorem splitTerminalOutputChunks_flatten (limit : Nat) (text : Text) :
    (splitTerminalOutputChunks limit text).flatten = text := by
  rw [splitTerminalOutputChunks]
  split
  · simp_all
  · split
    · simp
    · simpa using splitFrom_flatten limit [] 0 text

theorem splitTerminalOutputChunks_bounded {limit : Nat} (charFits : 4 ≤ limit) (text : Text) :
    ∀ part ∈ splitTerminalOutputChunks limit text, byteLength part ≤ limit := by
  rw [splitTerminalOutputChunks]
  split
  · simp
  · split
    · rename_i fits
      simpa using fits
    · exact splitFrom_bounded charFits rfl (by simp)

end GraphAgent.Terminal
