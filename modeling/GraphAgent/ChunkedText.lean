import GraphAgent.StreamProjection
import GraphAgent.Utf16Text

/-!
# Bounded text, chunk by chunk

The stream projection keeps the head and the tail of a block around a marker,
and the terminal server keeps the tail of its output.  Both feed the shortened
text into the next truncation; this file proves that the chunks leave no trace
(`app/domain/message_stream/projection.py`, `output/terminalUtf8Output.js`).
-/

namespace GraphAgent

namespace BoundedText

variable {Symbol : Type*}

/-- `value[:stop]`. -/
def sliceTo (value : List Symbol) (stop : Int) : List Symbol :=
  if 0 ≤ stop then value.take stop.toNat else value.take (value.length - (-stop).toNat)

/-- `value[start:]`. -/
def sliceFrom (value : List Symbol) (start : Int) : List Symbol :=
  if 0 ≤ start then value.drop start.toNat else value.drop (value.length - (-start).toNat)

variable (marker : List Symbol)

/-- `_bounded_stream_text` over the characters of its value. -/
def boundedText (value : List Symbol) (maxChars : Nat) : List Symbol :=
  if value.length ≤ maxChars then value
  else
    let retainedChars : Int := maxChars - marker.length
    let headChars := retainedChars / 2
    let tailChars := retainedChars - headChars
    sliceTo value headChars ++ marker ++ sliceFrom value (-tailChars)

def headChars (maxChars : Nat) : Nat :=
  (maxChars - marker.length) / 2

def tailChars (maxChars : Nat) : Nat :=
  maxChars - marker.length - headChars marker maxChars

variable {marker} {value chunk : List Symbol} {maxChars : Nat}

theorem boundedText_of_le (fits : value.length ≤ maxChars) :
    boundedText marker value maxChars = value :=
  if_pos fits

theorem boundedText_of_lt (room : marker.length < maxChars) (tooLong : maxChars < value.length) :
    boundedText marker value maxChars =
      value.take (headChars marker maxChars) ++ marker ++
        value.drop (value.length - tailChars marker maxChars) := by
  have head : ((maxChars : Int) - marker.length) / 2 = headChars marker maxChars := by
    unfold headChars
    omega
  have tail : (maxChars : Int) - marker.length - headChars marker maxChars =
      tailChars marker maxChars := by
    unfold tailChars headChars
    omega
  have some : 0 < tailChars marker maxChars := by
    unfold tailChars headChars
    omega
  rw [boundedText, if_neg (by omega)]
  simp only [head, tail, sliceTo, sliceFrom]
  rw [if_pos (by omega), if_neg (by omega), Int.toNat_natCast, neg_neg, Int.toNat_natCast]

theorem lengths (room : marker.length < maxChars) :
    headChars marker maxChars + marker.length + tailChars marker maxChars = maxChars := by
  unfold tailChars headChars
  omega

theorem length_boundedText_le (room : marker.length < maxChars) (value : List Symbol) :
    (boundedText marker value maxChars).length ≤ maxChars := by
  have sum := lengths room
  by_cases fits : value.length ≤ maxChars
  · rwa [boundedText_of_le fits]
  · rw [boundedText_of_lt room (by omega)]
    simp only [List.length_append, List.length_take, List.length_drop]
    omega

theorem tail_append {count : Nat} (kept : count ≤ value.length) (chunk : List Symbol) :
    (value ++ chunk).drop ((value ++ chunk).length - count) =
      (value.drop (value.length - count) ++ chunk).drop chunk.length := by
  have split : value ++ chunk = value.take (value.length - count) ++
      (value.drop (value.length - count) ++ chunk) := by
    rw [← List.append_assoc, List.take_append_drop]
  have position : (value ++ chunk).length - count =
      (value.take (value.length - count)).length + chunk.length := by
    rw [List.length_append, List.length_take]
    omega
  rw [position, split, List.drop_append, List.drop_eq_nil_of_le (by omega), List.nil_append]
  congr 1
  omega

theorem boundedText_append (room : marker.length < maxChars) (value chunk : List Symbol) :
    boundedText marker (boundedText marker value maxChars ++ chunk) maxChars =
      boundedText marker (value ++ chunk) maxChars := by
  have sum := lengths room
  by_cases fits : value.length ≤ maxChars
  · rw [boundedText_of_le fits]
  · have tooLong : maxChars < value.length := by omega
    have shortened := boundedText_of_lt room tooLong
    have exact : (boundedText marker value maxChars).length = maxChars := by
      rw [shortened]
      simp only [List.length_append, List.length_take, List.length_drop]
      omega
    cases chunk with
    | nil => rw [List.append_nil, List.append_nil, boundedText_of_le exact.le]
    | cons symbol rest =>
      have longer : maxChars < (boundedText marker value maxChars ++ symbol :: rest).length := by
        rw [List.length_append, exact, List.length_cons]
        omega
      have whole : maxChars < (value ++ symbol :: rest).length := by
        rw [List.length_append]
        omega
      rw [boundedText_of_lt room longer, boundedText_of_lt room whole]
      have head : (boundedText marker value maxChars ++ symbol :: rest).take
          (headChars marker maxChars) = (value ++ symbol :: rest).take
            (headChars marker maxChars) := by
        rw [List.take_append_of_le_length (by omega), List.take_append_of_le_length (by omega),
          shortened, List.append_assoc, List.take_append_of_le_length (by
            rw [List.length_take]; omega), List.take_take, Nat.min_self]
      -- The tail that was kept is the tail of the text, so the next tail is one of both.
      have tail : (boundedText marker value maxChars ++ symbol :: rest).drop
          ((boundedText marker value maxChars ++ symbol :: rest).length -
            tailChars marker maxChars) =
          (value ++ symbol :: rest).drop ((value ++ symbol :: rest).length -
            tailChars marker maxChars) := by
        have same : (boundedText marker value maxChars).drop
            ((boundedText marker value maxChars).length - tailChars marker maxChars) =
            value.drop (value.length - tailChars marker maxChars) := by
          have position : maxChars - tailChars marker maxChars =
              (value.take (headChars marker maxChars) ++ marker).length := by
            rw [List.length_append, List.length_take]
            omega
          rw [exact, shortened, position, List.drop_left]
        rw [tail_append (by omega), tail_append (by omega), same]
      rw [head, tail]

theorem foldl_boundedText (room : marker.length < maxChars) (chunks : List (List Symbol)) :
    chunks.foldl (fun current chunk => boundedText marker (current ++ chunk) maxChars) [] =
      boundedText marker chunks.flatten maxChars := by
  have general : ∀ start : List Symbol,
      chunks.foldl (fun current chunk => boundedText marker (current ++ chunk) maxChars)
        (boundedText marker start maxChars) =
      boundedText marker (start ++ chunks.flatten) maxChars := by
    induction chunks with
    | nil => simp
    | cons chunk chunks ih =>
      intro start
      rw [List.foldl_cons, boundedText_append room, ih, List.append_assoc, List.flatten_cons]
  have empty : boundedText marker [] maxChars = [] := boundedText_of_le (Nat.zero_le _)
  simpa [empty] using general []

end BoundedText

namespace MessageStream

open BoundedText Json

theorem toList_boundedStreamText {maxChars : Nat} (room : textTruncationMarker.length < maxChars)
    (value : String) : (boundedStreamText value maxChars).toList =
      boundedText textTruncationMarker.toList value.toList maxChars := by
  have length : value.toList.length = value.length := String.length_toList
  have markerLength : textTruncationMarker.toList.length = textTruncationMarker.length :=
    String.length_toList
  rw [boundedStreamText]
  split
  · rw [boundedText_of_le (by omega)]
  · rw [boundedText_of_lt (by omega) (by omega), String.toList_append, String.toList_append,
      String.toList_ofList, String.toList_ofList, headChars, tailChars, headChars, markerLength,
      length]

def textDelta (chunk : String) : Fields :=
  Dictionary.ofList [("text", .str chunk)]

theorem applyBlockDelta_text (interpreter : Interpreter) (chunk : String) {block : Fields}
    {current : String} (text : block.get "text" = .str current) :
    applyBlockDelta interpreter (textDelta chunk) block =
      .ok (block.insert "text" (.str (boundedStreamText (current ++ chunk) blockTextMaxChars))) := by
  have brought : (textDelta chunk).get "text" = .str chunk := by
    simp [textDelta, Fields.get, Dictionary.ofList, Dictionary.insertAll]
  have operation : textOr interpreter ((textDelta chunk).get "operation") "append" = "append" := by
    simp [textDelta, Fields.get, Dictionary.ofList, Dictionary.insertAll, textOr, Json.orElse,
      Json.truthy, Json.toText]
  have redacted : ((textDelta chunk).get "redacted").truthy = false := by
    simp [textDelta, Fields.get, Dictionary.ofList, Dictionary.insertAll, Json.truthy]
  have held : textOr interpreter (block.get "text") "" = current := by
    rw [text, textOr, Json.orElse]
    split
    · rfl
    · rename_i empty
      have none : current = "" := by simpa [Json.truthy] using empty
      rw [none]
      rfl
  rw [applyBlockDelta, operation, appendBlockText, brought]
  simp [applyBlockItem, held, redacted, Except.map]

theorem foldlM_applyBlockDelta (interpreter : Interpreter) (chunks : List String) {block : Fields}
    (text : block.get "text" = .str "") :
    ∃ final kept, chunks.foldlM (fun block chunk =>
        applyBlockDelta interpreter (textDelta chunk) block) block = .ok final ∧
      final.get "text" = .str kept ∧
      kept.toList = boundedText textTruncationMarker.toList
        (chunks.map String.toList).flatten blockTextMaxChars := by
  have room : textTruncationMarker.toList.length < blockTextMaxChars := by decide
  suffices general : ∀ block current, block.get "text" = .str current →
      ∃ final kept, chunks.foldlM (fun block chunk =>
          applyBlockDelta interpreter (textDelta chunk) block) block = .ok final ∧
        final.get "text" = .str kept ∧
        kept.toList = (chunks.map String.toList).foldl (fun current chunk =>
          boundedText textTruncationMarker.toList (current ++ chunk) blockTextMaxChars)
          current.toList by
    obtain ⟨final, kept, runs, texts, same⟩ := general block "" text
    exact ⟨final, kept, runs, texts, same.trans (foldl_boundedText room _)⟩
  clear text block
  induction chunks with
  | nil => exact fun block current text => ⟨block, current, rfl, text, rfl⟩
  | cons chunk chunks ih =>
    intro block current text
    obtain ⟨final, kept, runs, texts, same⟩ := ih
      (block.insert "text" (.str (boundedStreamText (current ++ chunk) blockTextMaxChars))) _
      Fields.get_insert_self
    refine ⟨final, kept, ?_, texts, ?_⟩
    · rw [List.foldlM_cons, applyBlockDelta_text interpreter chunk text]
      exact runs
    · rw [same, toList_boundedStreamText (by decide), String.toList_append, List.map_cons,
        List.foldl_cons]

end MessageStream

namespace TerminalUnits

open Terminal JsonText Utf16

def maxTerminalBufferBytes : Nat := 256 * 1024

def maxTerminalOutputEventBytes : Nat := 64 * 1024

/-- `Buffer.from(value, "utf8")`. -/
def bufferFrom (value : List CodeUnit) : Bytes :=
  encodeUtf8 (scalars value)

/-- `buffer.toString("utf8")`; bytes that are no UTF-8 are not decoded here. -/
def decodeBuffer (bytes : Bytes) : Option (List CodeUnit) :=
  bytes.toByteArray.utf8Decode?.map fun text => utf16 text.toList

/-- `value.slice(-limit)`. -/
def sliceLast (limit : Nat) (value : List CodeUnit) : List CodeUnit :=
  value.drop (value.length - limit)

def trimTerminalBuffer (value : List CodeUnit) : Option (List CodeUnit) :=
  if value.length ≤ maxTerminalBufferBytes ∧
      (bufferFrom value).length ≤ maxTerminalBufferBytes then some value
  else
    let buffer := bufferFrom (sliceLast maxTerminalBufferBytes value)
    let start := buffer.length - maxTerminalBufferBytes
    decodeBuffer ((buffer.drop start).dropWhile isContinuation)

def characterBytes (codePoint : Nat) : Nat :=
  if codePoint < 0x80 then 1
  else if codePoint < 0x800 then 2
  else if codePoint < 0x10000 then 3
  else 4

/-- The loop of `splitTerminalOutputChunks` from an offset; the chunk is
`value.slice(chunkStart, offset)`. -/
def splitFrom : List CodeUnit → Nat → List CodeUnit → List (List CodeUnit)
  | chunk, _, [] => [chunk]
  | chunk, chunkBytes, [unit] =>
    let bytes := characterBytes unit.toNat
    if maxTerminalOutputEventBytes < chunkBytes + bytes then chunk :: splitFrom [unit] bytes []
    else splitFrom (chunk ++ [unit]) (chunkBytes + bytes) []
  | chunk, chunkBytes, first :: second :: rest =>
    if isHigh first ∧ isLow second then
      let bytes := characterBytes (pairValue first second)
      if maxTerminalOutputEventBytes < chunkBytes + bytes then
        chunk :: splitFrom [first, second] bytes rest
      else splitFrom (chunk ++ [first, second]) (chunkBytes + bytes) rest
    else
      let bytes := characterBytes first.toNat
      if maxTerminalOutputEventBytes < chunkBytes + bytes then
        chunk :: splitFrom [first] bytes (second :: rest)
      else splitFrom (chunk ++ [first]) (chunkBytes + bytes) (second :: rest)

def splitTerminalOutputChunks (value : List CodeUnit) : List (List CodeUnit) :=
  if value.length = 0 then []
  else if value.length ≤ maxTerminalOutputEventBytes ∧
      (bufferFrom value).length ≤ maxTerminalOutputEventBytes then [value]
  else splitFrom [] 0 value

theorem length_bufferFrom_utf16 (text : Text) : (bufferFrom (utf16 text)).length = byteLength text := by
  rw [bufferFrom, scalars_utf16, length_encodeUtf8]

theorem decodeBuffer_encodeUtf8 (text : Text) :
    decodeBuffer (encodeUtf8 text) = some (utf16 text) := by
  have decoded : (encodeUtf8 text).toByteArray.utf8Decode? = some text.toArray :=
    List.utf8Decode?_utf8Encode
  rw [decodeBuffer, decoded]
  rfl

theorem trim_of_full {limit : Nat} {before after : Text} (full : limit ≤ byteLength after) :
    Terminal.trimTerminalBuffer limit (before ++ after) =
      dropBytes (byteLength after - limit) after := by
  induction before with
  | nil =>
    rw [List.nil_append, Terminal.trimTerminalBuffer]
    split
    · have exact : byteLength after - limit = 0 := by omega
      rw [exact, dropBytes]
    · rfl
  | cons char before ih =>
    have tooLong : limit < byteLength (char :: (before ++ after)) := by
      have positive := char.utf8Size_pos
      rw [byteLength_cons, byteLength_append]
      omega
    rw [List.cons_append, trimTerminalBuffer_cons_of_lt tooLong, ih]

theorem trimTerminalBuffer_utf16 (text : Text) :
    trimTerminalBuffer (utf16 text) =
      some (utf16 (Terminal.trimTerminalBuffer maxTerminalBufferBytes text)) := by
  have units := length_utf16_le text
  rw [trimTerminalBuffer, length_bufferFrom_utf16]
  generalize maxTerminalBufferBytes = limit at *
  split
  · rename_i fits
    rw [trimTerminalBuffer_of_le fits.2]
  · rename_i outside
    have tooLong : limit < byteLength text := by omega
    dsimp only
    rw [bufferFrom, align_encodeUtf8, length_encodeUtf8, decodeBuffer_encodeUtf8, sliceLast]
    congr 2
    by_cases short : (utf16 text).length ≤ limit
    · rw [Nat.sub_eq_zero_of_le short, List.drop_zero, scalars_utf16, Terminal.trimTerminalBuffer,
        if_neg (by omega)]
    have sliced : ((utf16 text).drop ((utf16 text).length - limit)).length = limit := by
      rw [List.length_drop]
      omega
    rcases drop_utf16 ((utf16 text).length - limit) text with ⟨before, after, whole, left⟩ |
      ⟨before, char, after, low, whole, size, isLowUnit, left⟩
    · have afterUnits := length_utf16_le after
      rw [left] at sliced
      rw [left, scalars_utf16, whole, trim_of_full (by omega)]
    · -- Half a pair is replaced by three bytes, which are above the limit as well.
      have replacement : (Char.ofNat 0xFFFD).utf8Size = 3 := by decide
      have afterUnits := length_utf16_le after
      rw [left, List.length_cons] at sliced
      have full : limit ≤ byteLength (char :: after) := by
        rw [byteLength_cons, size]
        omega
      rw [left, scalars_low isLowUnit, byteLength_cons, replacement, whole, trim_of_full full,
        byteLength_cons, size]
      obtain ⟨first, firstEq⟩ : ∃ first, 3 + byteLength after - limit = first + 1 :=
        ⟨3 + byteLength after - limit - 1, by omega⟩
      obtain ⟨second, secondEq⟩ : ∃ second, 4 + byteLength after - limit = second + 1 :=
        ⟨4 + byteLength after - limit - 1, by omega⟩
      rw [firstEq, secondEq, dropBytes, dropBytes, replacement, size]
      congr 1
      omega

theorem characterBytes_eq (char : Char) : characterBytes char.toNat = char.utf8Size := by
  have le (value : UInt32) (bound : Nat) (next : value.toNat + 1 = bound) :
      char.val ≤ value ↔ char.toNat < bound := by
    rw [UInt32.le_iff_toNat_le, ← next, Nat.lt_succ_iff]
    rfl
  have oneBound := le (UInt32.ofNatLT 0x7F (by decide)) 0x80 rfl
  have twoBound := le (UInt32.ofNatLT 0x7FF (by decide)) 0x800 rfl
  have threeBound := le (UInt32.ofNatLT 0xFFFF (by decide)) 0x10000 rfl
  unfold characterBytes Char.utf8Size
  by_cases one : char.toNat < 0x80
  · rw [if_pos one, if_pos (oneBound.mpr one)]
  · rw [if_neg one, if_neg (fun below => one (oneBound.mp below))]
    by_cases two : char.toNat < 0x800
    · rw [if_pos two, if_pos (twoBound.mpr two)]
    · rw [if_neg two, if_neg (fun below => two (twoBound.mp below))]
      by_cases three : char.toNat < 0x10000
      · rw [if_pos three, if_pos (threeBound.mpr three)]
      · rw [if_neg three, if_neg (fun below => three (threeBound.mp below))]

theorem splitFrom_cons_lone {unit : CodeUnit} (notHigh : ¬ isHigh unit) (chunk : List CodeUnit)
    (chunkBytes : Nat) (rest : List CodeUnit) :
    splitFrom chunk chunkBytes (unit :: rest) =
      if maxTerminalOutputEventBytes < chunkBytes + characterBytes unit.toNat then
        chunk :: splitFrom [unit] (characterBytes unit.toNat) rest
      else splitFrom (chunk ++ [unit]) (chunkBytes + characterBytes unit.toNat) rest := by
  cases rest with
  | nil => simp only [splitFrom]
  | cons next rest => rw [splitFrom, if_neg (fun pair => notHigh pair.1)]

theorem splitFrom_utf16 (chunk : Text) (chunkBytes : Nat) (text : Text) :
    splitFrom (utf16 chunk) chunkBytes (utf16 text) =
      (Terminal.splitFrom maxTerminalOutputEventBytes chunk chunkBytes text).map utf16 := by
  induction text generalizing chunk chunkBytes with
  | nil => rfl
  | cons char text ih =>
    have single : utf16 [char] = charUnits char := List.append_nil _
    have extended : utf16 chunk ++ charUnits char = utf16 (chunk ++ [char]) := by
      rw [utf16_append, single]
    have charged := characterBytes_eq char
    rw [Terminal.splitFrom, utf16_cons]
    rcases charUnits_cases char with ⟨unit, units, value, notHigh, _⟩ |
      ⟨high, low, units, isHighUnit, isLowUnit, value, _⟩
    · rw [units, List.singleton_append, splitFrom_cons_lone notHigh, value, charged]
      split
      · rw [List.map_cons, ← ih, single, units]
      · rw [← ih, ← extended, units]
    · rw [units, List.cons_append, List.singleton_append, splitFrom,
        if_pos ⟨isHighUnit, isLowUnit⟩, value, charged]
      dsimp only
      split
      · rw [List.map_cons, ← ih, single, units]
      · rw [← ih, ← extended, units]

theorem splitTerminalOutputChunks_utf16 (text : Text) :
    splitTerminalOutputChunks (utf16 text) =
      (Terminal.splitTerminalOutputChunks maxTerminalOutputEventBytes text).map utf16 := by
  have units := length_utf16_le text
  have empty : (utf16 text).length = 0 ↔ text = [] := by
    cases text with
    | nil => simp
    | cons char text =>
      rcases charUnits_cases char with ⟨unit, units, _⟩ | ⟨high, low, units, _⟩ <;>
        simp [units]
  have fits : ((utf16 text).length ≤ maxTerminalOutputEventBytes ∧
      byteLength text ≤ maxTerminalOutputEventBytes) ↔
        byteLength text ≤ maxTerminalOutputEventBytes :=
    ⟨fun both => both.2, fun bytes => ⟨units.trans bytes, bytes⟩⟩
  rw [splitTerminalOutputChunks, Terminal.splitTerminalOutputChunks, length_bufferFrom_utf16]
  simp only [empty, fits]
  split
  · rfl
  · split
    · rfl
    · exact splitFrom_utf16 [] 0 text

/-- `onData` over the packets of a process. -/
def onDataAll (packets : List (List CodeUnit)) : Option (List CodeUnit) :=
  packets.foldlM (fun buffer data => trimTerminalBuffer (buffer ++ data)) []

theorem onDataAll_utf16 (packets : List Text) :
    onDataAll (packets.map utf16) = trimTerminalBuffer (utf16 packets.flatten) := by
  have general : ∀ start : Text,
      (packets.map utf16).foldlM (fun buffer data => trimTerminalBuffer (buffer ++ data))
        (utf16 (Terminal.trimTerminalBuffer maxTerminalBufferBytes start)) =
      trimTerminalBuffer (utf16 (start ++ packets.flatten)) := by
    induction packets with
    | nil => intro start; simp [trimTerminalBuffer_utf16]
    | cons packet packets ih =>
      intro start
      rw [List.map_cons, List.foldlM_cons, ← utf16_append, trimTerminalBuffer_utf16,
        trimTerminalBuffer_append]
      simpa using ih (start ++ packet)
  exact general []

theorem trimTerminalBuffer_suffix (limit : Nat) (text : Text) :
    Terminal.trimTerminalBuffer limit text <:+ text := by
  induction text with
  | nil => simp [Terminal.trimTerminalBuffer]
  | cons char text ih =>
    by_cases fits : byteLength (char :: text) ≤ limit
    · exact ⟨[], by simp [trimTerminalBuffer_of_le fits]⟩
    · rw [trimTerminalBuffer_cons_of_lt (by omega)]
      exact ih.trans (List.suffix_cons _ _)

end TerminalUnits

open Terminal BoundedText MessageStream TerminalUnits Utf16 in
/-- Bounded text is independent of chunking: for the text of a stream block under every
limit with room for the marker, for the buffer of a terminal, and for the events a packet
of terminal output is split into. -/
theorem bounded_text_independent_of_chunking :
    (∀ (maxChars : Nat) (chunks : List Text), textTruncationMarker.toList.length < maxChars →
      chunks.foldl (fun current chunk =>
          boundedText textTruncationMarker.toList (current ++ chunk) maxChars) [] =
        boundedText textTruncationMarker.toList chunks.flatten maxChars ∧
      (boundedText textTruncationMarker.toList chunks.flatten maxChars).length ≤ maxChars ∧
      (maxChars < chunks.flatten.length →
        boundedText textTruncationMarker.toList chunks.flatten maxChars =
          chunks.flatten.take (headChars textTruncationMarker.toList maxChars) ++
            textTruncationMarker.toList ++
            chunks.flatten.drop (chunks.flatten.length -
              tailChars textTruncationMarker.toList maxChars))) ∧
    (∀ (interpreter : Json.Interpreter) (block : Fields) (chunks : List String),
      block.get "text" = .str "" →
      ∃ final kept, chunks.foldlM (fun block chunk =>
          applyBlockDelta interpreter (textDelta chunk) block) block = .ok final ∧
        final.get "text" = .str kept ∧ kept.toList = boundedText textTruncationMarker.toList
          (chunks.map String.toList).flatten blockTextMaxChars) ∧
    (∀ packets : List Text,
      onDataAll (packets.map utf16) = TerminalUnits.trimTerminalBuffer (utf16 packets.flatten) ∧
      ∃ kept, TerminalUnits.trimTerminalBuffer (utf16 packets.flatten) = some (utf16 kept) ∧
        kept <:+ packets.flatten ∧ (bufferFrom (utf16 kept)).length ≤ 256 * 1024) ∧
    ∀ text : Text, ∃ parts : List Text,
      TerminalUnits.splitTerminalOutputChunks (utf16 text) = parts.map utf16 ∧
      parts.flatten = text ∧ ∀ part ∈ parts, (bufferFrom (utf16 part)).length ≤ 64 * 1024 := by
  refine ⟨fun maxChars chunks room => ⟨foldl_boundedText room chunks,
    length_boundedText_le room _, boundedText_of_lt room⟩,
    fun interpreter block chunks text => foldlM_applyBlockDelta interpreter chunks text,
    fun packets => ⟨onDataAll_utf16 packets, _, trimTerminalBuffer_utf16 _,
      trimTerminalBuffer_suffix _ _, ?_⟩, fun text => ⟨_, splitTerminalOutputChunks_utf16 text,
      splitTerminalOutputChunks_flatten _ _, fun part member => ?_⟩⟩
  · rw [length_bufferFrom_utf16]
    exact byteLength_trimTerminalBuffer_le _ _
  · rw [length_bufferFrom_utf16]
    exact splitTerminalOutputChunks_bounded (by decide) text part member

open Terminal BoundedText MessageStream in
theorem bounded_text_independent_of_chunking_sample :
    ["ab".toList, "c".toList].foldl (fun current chunk =>
        boundedText textTruncationMarker.toList (current ++ chunk) blockTextMaxChars) [] =
      boundedText textTruncationMarker.toList "abc".toList blockTextMaxChars ∧
    ∃ final kept, ["ab", "c"].foldlM (fun block chunk =>
        applyBlockDelta ⟨fun _ => "", fun _ => none⟩ (textDelta chunk) block)
          (Dictionary.ofList [("text", .str "")]) = .ok final ∧
      final.get "text" = .str kept ∧ kept.toList = boundedText textTruncationMarker.toList
        (["ab", "c"].map String.toList).flatten blockTextMaxChars :=
  ⟨(bounded_text_independent_of_chunking.1 blockTextMaxChars ["ab".toList, "c".toList]
      (by decide)).1,
    bounded_text_independent_of_chunking.2.1 _ _ ["ab", "c"]
      (by simp [Fields.get, Dictionary.ofList, Dictionary.insertAll])⟩

end GraphAgent
