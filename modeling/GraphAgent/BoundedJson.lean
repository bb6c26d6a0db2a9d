import GraphAgent.JsonText

/-!
# Bounded JSON values

`app/core/bounded_json.py` shortens a value until its compact encoding fits a
budget.  The sizes are kept by addition while members collide, are popped and
are marked; this file proves the sums exact and the budget respected.
-/

namespace GraphAgent.BoundedJson

open Terminal JsonText

def truncatedText (value : Text) (maxBytes : Nat) : Text :=
  let encodedValue := encodeUtf8 value
  let digest := Sha256.hexdigest encodedValue
  let marker := "...[BoxTeam 已截断，原始字节数=".toList ++ (toString encodedValue.length).toList ++
    "，sha256=".toList ++ digest ++ [']']
  let textBudget := maxBytes - 2
  let markerBytes := (encodeUtf8 marker).length
  if textBudget ≤ markerBytes then takeBytes textBudget marker
  else takeBytes (textBudget - markerBytes) value ++ marker

/-- The structured marker of `_truncation_fallback`. -/
def truncationMarker (serializedSource : Bytes) : Value :=
  .dict [(.str "__boxteam_truncated__".toList, .bool true),
    (.str "__boxteam_original_bytes__".toList, .int serializedSource.length),
    (.str "__boxteam_sha256__".toList, .str (Sha256.hexdigest serializedSource))]

/-- The text marker of `_truncation_fallback`, before it is truncated. -/
def truncationText (serializedSource : Bytes) : Text :=
  "...[BoxTeam JSON payload 已截断，原始字节数=".toList ++
    (toString serializedSource.length).toList ++ "，sha256=".toList ++
    Sha256.hexdigest serializedSource ++ [']']

def truncationFallback (serializedSource : Bytes) (maxBytes : Nat) : Value :=
  if (encoded (truncationMarker serializedSource)).length ≤ maxBytes then
    truncationMarker serializedSource
  else
    .str (truncatedText (truncationText serializedSource) maxBytes)

def counted (value : Value) : Value × Nat :=
  (value, (encoded value).length)

/-- `_compact_text`.  The serialized source its callers hand over is always the
encoding of the text. -/
def compactText (value : Text) (maxBytes : Nat) : Value × Nat :=
  let compacted := Value.str (truncatedText value maxBytes)
  if (encoded compacted).length ≤ maxBytes then counted compacted
  else counted (truncationFallback (encoded (.str value)) maxBytes)

/-- An entry of `result` and of `member_json_bytes`, which hold the same keys. -/
structure Member where
  key : Text
  child : Value
  keyJsonBytes : Nat
  childJsonBytes : Nat

/-- `result[result_key] = …` and `member_json_bytes[result_key] = …`. -/
def putMember (member : Member) : List Member → List Member
  | [] => [member]
  | found :: rest => if found.key = member.key then member :: rest else found :: putMember member rest

/-- The members of the result so far and `result_json_bytes`. -/
structure Members where
  members : List Member
  jsonBytes : Nat

/-- The separator counted when something precedes. -/
def separator {Entry : Type*} (before : List Entry) : Nat :=
  if before.isEmpty then 0 else 1

def Members.put (result : Members) (member : Member) : Members :=
  match result.members.find? fun found => found.key = member.key with
  | none =>
    { members := putMember member result.members
      jsonBytes := result.jsonBytes + separator result.members +
        (member.keyJsonBytes + 1 + member.childJsonBytes) }
  | some previous =>
    { members := putMember member result.members
      jsonBytes := result.jsonBytes + member.childJsonBytes - previous.childJsonBytes }

def popMembers (maxBytes : Nat) : List Member → Nat → List Member × Nat
  | [], jsonBytes => ([], jsonBytes)
  | last :: before, jsonBytes =>
    if maxBytes < jsonBytes then
      popMembers maxBytes before
        (jsonBytes - (last.keyJsonBytes + 1 + last.childJsonBytes) - separator before)
    else (last :: before, jsonBytes)

def Members.pop (result : Members) (maxBytes : Nat) : Members :=
  let kept := popMembers maxBytes result.members.reverse result.jsonBytes
  ⟨kept.1.reverse, kept.2⟩

def memberOf (key : Text) (child : Value) (childJsonBytes : Nat) : Member :=
  ⟨key, child, (encoded (.str key)).length, childJsonBytes⟩

def markerMember : Member :=
  memberOf "__boxteam_truncated__".toList (.bool true) (encoded (.bool true)).length

def Members.value (result : Members) : Value :=
  .dict (result.members.map fun member => (.str member.key, member.child))

/-- The mapping branch of `_compact` after its loop over the members. -/
def compactDict (entries : List (PythonKey × Value)) (maxBytes : Nat) (all : Members) :
    Value × Nat :=
  let kept := all.pop maxBytes
  let result := if kept.members.length < entries.length then kept.put markerMember else kept
  if result.jsonBytes ≤ maxBytes then (result.value, result.jsonBytes)
  else counted (truncationFallback (encoded (.dict entries)) maxBytes)

def listMarker : Value :=
  .str "...[BoxTeam list items 已截断]".toList

/-- The list branch of `_compact` after its loop over the items. -/
def compactList (items : List Value) (maxBytes : Nat) (kept : List Value × Nat) : Value × Nat :=
  let result :=
    if kept.1.length < items.length then
      (kept.1 ++ [listMarker], kept.2 + separator kept.1 + (encoded listMarker).length)
    else kept
  if result.2 ≤ maxBytes then (.list result.1, result.2)
  else counted (truncationFallback (encoded (.list items)) maxBytes)

def childBudget (maxBytes sourceItemCount : Nat) : Nat :=
  max 64 (maxBytes / max sourceItemCount 1)

/-- What remains of a value without any budget. -/
def payloadMarker : Value :=
  .str "...[BoxTeam JSON payload 已截断]".toList

mutual

def compact : Value → Nat → Value × Nat
  | .str text, maxBytes =>
    if maxBytes < 64 then counted payloadMarker
    else if maxBytes < text.length + 2 then compactText text maxBytes
    else if (encoded (.str text)).length ≤ maxBytes then counted (.str text)
    else compactText text maxBytes
  | .dict entries, maxBytes =>
    if maxBytes < 64 then counted payloadMarker
    else if (encoded (.dict entries)).length ≤ maxBytes then counted (.dict entries)
    else
      compactDict entries maxBytes
        (compactEntries (childBudget maxBytes entries.length) entries ⟨[], 2⟩)
  | .list items, maxBytes =>
    if maxBytes < 64 then counted payloadMarker
    else if (encoded (.list items)).length ≤ maxBytes then counted (.list items)
    else
      compactList items maxBytes
        (compactItems (childBudget maxBytes items.length) maxBytes items [] 2)
  | .null, maxBytes => if maxBytes < 64 then counted payloadMarker else counted .null
  | .bool value, maxBytes =>
    if maxBytes < 64 then counted payloadMarker else counted (.bool value)
  | .int value, maxBytes => if maxBytes < 64 then counted payloadMarker else counted (.int value)
  | .float value, maxBytes =>
    if maxBytes < 64 then counted payloadMarker else counted (.float value)

def compactEntries (budget : Nat) : List (PythonKey × Value) → Members → Members
  | [], result => result
  | (key, child) :: entries, result =>
    let compacted := compact child budget
    compactEntries budget entries (result.put (memberOf key.toStr compacted.1 compacted.2))

def compactItems (budget maxBytes : Nat) : List Value → List Value → Nat → List Value × Nat
  | [], result, jsonBytes => (result, jsonBytes)
  | item :: items, result, jsonBytes =>
    let compacted := compact item budget
    let grown := jsonBytes + separator result + compacted.2
    if maxBytes < grown then (result, grown - compacted.2 - separator result)
    else compactItems budget maxBytes items (result ++ [compacted.1]) grown

end

/-- `bound_json_value`; the one error is the budget below 128 bytes. -/
def boundJsonValue (value : Value) (maxBytes : Nat) : Except String Value :=
  if maxBytes < 128 then .error "JSON payload 上限至少需要 128 字节"
  else
    let reduced (compacted : Value × Nat) : Value :=
      if compacted.2 ≤ maxBytes then compacted.1
      else truncationFallback (encoded value) maxBytes
    match value with
    | .str text =>
      if maxBytes < text.length + 2 then .ok (reduced (compactText text maxBytes))
      else if (encoded value).length ≤ maxBytes then .ok value
      else .ok (reduced (compact value maxBytes))
    | _ =>
      if (encoded value).length ≤ maxBytes then .ok value
      else .ok (reduced (compact value maxBytes))

def Exact (compacted : Value × Nat) : Prop :=
  compacted.2 = (encoded compacted.1).length

theorem counted_exact (value : Value) : Exact (counted value) := rfl

def memberBytes (members : List Member) : Nat :=
  (members.map fun member => member.keyJsonBytes + 1 + member.childJsonBytes).sum

structure Members.Exact (result : Members) : Prop where
  keys : ∀ member ∈ result.members, member.keyJsonBytes = (encoded (.str member.key)).length
  children : ∀ member ∈ result.members, member.childJsonBytes = (encoded member.child).length
  total : result.jsonBytes = 2 + memberBytes result.members + (result.members.length - 1)

theorem Members.Exact.value {result : Members} (exact : result.Exact) :
    result.jsonBytes = (encoded result.value).length := by
  have same : result.members.map (fun member => member.keyJsonBytes + 1 + member.childJsonBytes) =
      result.members.map fun member =>
        (encoded (.str member.key)).length + 1 + (encoded member.child).length := by
    refine List.map_congr_left fun member present => ?_
    rw [exact.keys member present, exact.children member present]
  rw [exact.total, memberBytes, same, Members.value, length_encoded_dict, List.map_map,
    List.length_map]
  rfl

theorem mem_putMember {member other : Member} {members : List Member}
    (present : other ∈ putMember member members) : other = member ∨ other ∈ members := by
  induction members with
  | nil => exact .inl (List.mem_singleton.mp present)
  | cons found rest ih =>
    rw [putMember] at present
    split at present
    · rcases List.mem_cons.mp present with same | later
      · exact .inl same
      · exact .inr (List.mem_cons_of_mem _ later)
    · rcases List.mem_cons.mp present with same | later
      · exact .inr (same ▸ List.mem_cons_self)
      · exact (ih later).imp_right (List.mem_cons_of_mem _)

theorem putMember_of_absent {member : Member} {members : List Member}
    (absent : members.find? (fun found => found.key = member.key) = none) :
    putMember member members = members ++ [member] := by
  induction members with
  | nil => rfl
  | cons found rest ih =>
    rw [List.find?_cons] at absent
    split at absent
    · simp at absent
    · rename_i differs
      rw [putMember, if_neg (by simpa using differs), ih absent, List.cons_append]

theorem memberBytes_putMember {member previous : Member} {members : List Member}
    (taken : members.find? (fun found => found.key = member.key) = some previous) :
    memberBytes (putMember member members) + previous.keyJsonBytes + previous.childJsonBytes =
        memberBytes members + member.keyJsonBytes + member.childJsonBytes ∧
      (putMember member members).length = members.length := by
  induction members with
  | nil => simp at taken
  | cons found rest ih =>
    rw [List.find?_cons] at taken
    split at taken
    · rename_i same
      cases taken
      rw [putMember, if_pos (by simpa using same)]
      refine ⟨?_, rfl⟩
      simp only [memberBytes, List.map_cons, List.sum_cons]
      omega
    · rename_i differs
      obtain ⟨sums, lengths⟩ := ih taken
      rw [putMember, if_neg (by simpa using differs)]
      refine ⟨?_, by rw [List.length_cons, lengths, List.length_cons]⟩
      simp only [memberBytes, List.map_cons, List.sum_cons] at sums ⊢
      omega

theorem memberBytes_append (first second : List Member) :
    memberBytes (first ++ second) = memberBytes first + memberBytes second := by
  simp [memberBytes]

theorem separator_eq {Entry : Type*} (before : List Entry) :
    separator before + (before.length - 1) = before.length := by
  cases before with
  | nil => rfl
  | cons entry before => simp [separator, Nat.add_comm]

theorem Members.Exact.put {result : Members} (exact : result.Exact) {member : Member}
    (key : member.keyJsonBytes = (encoded (.str member.key)).length)
    (child : member.childJsonBytes = (encoded member.child).length) :
    (result.put member).Exact := by
  have keys : ∀ other ∈ putMember member result.members,
      other.keyJsonBytes = (encoded (.str other.key)).length := by
    intro other present
    rcases mem_putMember present with rfl | old
    · exact key
    · exact exact.keys other old
  have children : ∀ other ∈ putMember member result.members,
      other.childJsonBytes = (encoded other.child).length := by
    intro other present
    rcases mem_putMember present with rfl | old
    · exact child
    · exact exact.children other old
  have total := exact.total
  unfold Members.put
  split
  · rename_i absent
    refine ⟨keys, children, ?_⟩
    have commas := separator_eq result.members
    simp only [putMember_of_absent absent, memberBytes_append, List.length_append,
      List.length_singleton, total]
    simp only [memberBytes, List.map_cons, List.map_nil, List.sum_cons, List.sum_nil]
    omega
  · rename_i previous taken
    refine ⟨keys, children, ?_⟩
    obtain ⟨sums, lengths⟩ := memberBytes_putMember taken
    have sameKey : previous.key = member.key := by simpa using List.find?_some taken
    have sameKeyBytes : previous.keyJsonBytes = member.keyJsonBytes := by
      rw [exact.keys previous (List.mem_of_find?_eq_some taken), key, sameKey]
    simp only [lengths, total]
    omega

theorem popMembers_exact {maxBytes jsonBytes : Nat} {reversed : List Member}
    (total : jsonBytes = 2 + memberBytes reversed + (reversed.length - 1)) :
    let kept := popMembers maxBytes reversed jsonBytes
    kept.2 = 2 + memberBytes kept.1 + (kept.1.length - 1) ∧ kept.1 <:+ reversed := by
  induction reversed generalizing jsonBytes with
  | nil => exact ⟨total, List.suffix_refl _⟩
  | cons last before ih =>
    rw [popMembers]
    split
    · have shorter : jsonBytes - (last.keyJsonBytes + 1 + last.childJsonBytes) -
          separator before = 2 + memberBytes before + (before.length - 1) := by
        have commas := separator_eq before
        simp only [memberBytes, List.map_cons, List.sum_cons, List.length_cons] at total ⊢
        omega
      obtain ⟨exact, suffix⟩ := ih shorter
      exact ⟨exact, suffix.trans (List.suffix_cons _ _)⟩
    · exact ⟨total, List.suffix_refl _⟩

theorem memberBytes_reverse (members : List Member) :
    memberBytes members.reverse = memberBytes members := by
  simp [memberBytes, List.sum_reverse]

theorem Members.Exact.pop {result : Members} (exact : result.Exact) (maxBytes : Nat) :
    (result.pop maxBytes).Exact := by
  have total : result.jsonBytes =
      2 + memberBytes result.members.reverse + (result.members.reverse.length - 1) := by
    rw [memberBytes_reverse, List.length_reverse, exact.total]
  obtain ⟨sum, suffix⟩ := @popMembers_exact maxBytes _ _ total
  have inside : ∀ member ∈ (result.pop maxBytes).members, member ∈ result.members :=
    fun member present => List.mem_reverse.mp (suffix.subset (List.mem_reverse.mp present))
  refine ⟨fun member present => exact.keys member (inside member present),
    fun member present => exact.children member (inside member present), ?_⟩
  simp only [Members.pop, memberBytes_reverse, List.length_reverse, sum]

theorem Members.empty_exact : Members.Exact ⟨[], 2⟩ :=
  ⟨fun _ absent => (nomatch absent), fun _ absent => (nomatch absent), rfl⟩

theorem compactText_exact (value : Text) (maxBytes : Nat) : Exact (compactText value maxBytes) := by
  unfold compactText
  dsimp only
  split <;> exact counted_exact _

theorem finished_exact {value : Value} {jsonBytes : Nat}
    (exact : jsonBytes = (encoded value).length) (maxBytes : Nat) (source : Bytes) :
    Exact (if jsonBytes ≤ maxBytes then (value, jsonBytes)
      else counted (truncationFallback source maxBytes)) := by
  split
  · exact exact
  · exact counted_exact _

theorem compactDict_exact {entries : List (PythonKey × Value)} {maxBytes : Nat} {all : Members}
    (exact : all.Exact) : Exact (compactDict entries maxBytes all) := by
  have marked : (if (all.pop maxBytes).members.length < entries.length then
      (all.pop maxBytes).put markerMember else all.pop maxBytes).Exact := by
    split
    · exact (exact.pop maxBytes).put rfl rfl
    · exact exact.pop maxBytes
  exact finished_exact marked.value maxBytes _

theorem list_sum_append {items : List Value} {jsonBytes : Nat}
    (exact : jsonBytes = (encoded (.list items)).length) (item : Value) :
    jsonBytes + separator items + (encoded item).length =
      (encoded (.list (items ++ [item]))).length := by
  have commas := separator_eq items
  rw [exact, length_encoded_list, length_encoded_list, List.map_append, List.sum_append,
    List.length_append]
  simp only [List.map_cons, List.map_nil, List.sum_cons, List.sum_nil, List.length_singleton]
  omega

theorem compactList_exact {items : List Value} {maxBytes : Nat} {kept : List Value × Nat}
    (exact : kept.2 = (encoded (.list kept.1)).length) :
    Exact (compactList items maxBytes kept) := by
  have marked : ∀ result, result = (if kept.1.length < items.length then
      (kept.1 ++ [listMarker], kept.2 + separator kept.1 + (encoded listMarker).length)
      else kept) → result.2 = (encoded (.list result.1)).length := by
    rintro result rfl
    split
    · exact list_sum_append exact listMarker
    · exact exact
  exact finished_exact (marked _ rfl) maxBytes _

mutual

theorem compact_exact (value : Value) (maxBytes : Nat) : Exact (compact value maxBytes) := by
  cases value with
  | str text =>
    unfold compact
    split_ifs
    · exact counted_exact _
    · exact compactText_exact text maxBytes
    · exact counted_exact _
    · exact compactText_exact text maxBytes
  | dict entries =>
    unfold compact
    split_ifs
    · exact counted_exact _
    · exact counted_exact _
    · exact compactDict_exact (compactEntries_exact _ entries Members.empty_exact)
  | list items =>
    unfold compact
    split_ifs
    · exact counted_exact _
    · exact counted_exact _
    · exact compactList_exact (compactItems_exact _ maxBytes items (by decide))
  | null => unfold compact; split <;> exact counted_exact _
  | bool value => unfold compact; split <;> exact counted_exact _
  | int value => unfold compact; split <;> exact counted_exact _
  | float value => unfold compact; split <;> exact counted_exact _

theorem compactEntries_exact (budget : Nat) (entries : List (PythonKey × Value))
    {result : Members} (exact : result.Exact) : (compactEntries budget entries result).Exact := by
  match entries with
  | [] => simpa only [compactEntries] using exact
  | (key, child) :: rest =>
    have childExact := compact_exact child budget
    rw [compactEntries]
    exact compactEntries_exact budget rest (exact.put rfl childExact)

theorem compactItems_exact (budget maxBytes : Nat) (items : List Value) {result : List Value}
    {jsonBytes : Nat} (exact : jsonBytes = (encoded (.list result)).length) :
    (compactItems budget maxBytes items result jsonBytes).2 =
      (encoded (.list (compactItems budget maxBytes items result jsonBytes).1)).length := by
  match items with
  | [] => simpa only [compactItems] using exact
  | item :: rest =>
    have itemExact : Exact (compact item budget) := compact_exact item budget
    have grown := list_sum_append exact (compact item budget).1
    rw [compactItems]
    split
    · show jsonBytes + separator result + (compact item budget).2 - (compact item budget).2 -
        separator result = (encoded (.list result)).length
      omega
    · exact compactItems_exact budget maxBytes rest (by rw [itemExact, grown])

end

theorem length_encoded_plain {text : Text} (plain : ∀ char ∈ text, Plain char) :
    (encoded (.str text)).length = byteLength text + 2 := by
  rw [length_encoded_str, escaped_of_plain plain]

theorem byteLength_truncatedText_le (value : Text) (maxBytes : Nat) :
    byteLength (truncatedText value maxBytes) ≤ maxBytes - 2 := by
  unfold truncatedText
  dsimp only
  split
  · exact byteLength_takeBytes_le _ _
  · rename_i room
    rw [byteLength_append]
    rw [length_encodeUtf8] at room ⊢
    refine Nat.le_trans (Nat.add_le_add_right (byteLength_takeBytes_le _ _) _) ?_
    omega

theorem plain_marker (head digest : Text) (count : Nat) (headPlain : ∀ char ∈ head, Plain char)
    (digestPlain : ∀ char ∈ digest, Plain char) :
    ∀ char ∈ head ++ (toString count).toList ++ "，sha256=".toList ++ digest ++ [']'],
      Plain char := by
  have between : ∀ char ∈ "，sha256=".toList, Plain char := plain_of_all (by decide +kernel)
  have closing : ∀ char ∈ [']'], Plain char := plain_of_all (by decide +kernel)
  intro char member
  simp only [List.mem_append] at member
  rcases member with (((member | member) | member) | member) | member
  · exact headPlain char member
  · exact plain_toString count char member
  · exact between char member
  · exact digestPlain char member
  · exact closing char member

theorem plain_truncatedText {value : Text} (plain : ∀ char ∈ value, Plain char) (maxBytes : Nat) :
    ∀ char ∈ truncatedText value maxBytes, Plain char := by
  have marker := plain_marker "...[BoxTeam 已截断，原始字节数=".toList
    (Sha256.hexdigest (encodeUtf8 value)) (encodeUtf8 value).length
    (plain_of_all (by decide +kernel))
    (plain_hexdigest _)
  unfold truncatedText
  dsimp only
  split
  · exact fun char member => marker char ((takeBytes_isPrefix _ _).subset member)
  · intro char member
    rcases List.mem_append.mp member with member | member
    · exact plain char ((takeBytes_isPrefix _ _).subset member)
    · exact marker char member

theorem plain_truncationText (serializedSource : Bytes) :
    ∀ char ∈ truncationText serializedSource, Plain char :=
  plain_marker _ _ _ (plain_of_all (by decide +kernel)) (plain_hexdigest _)

theorem truncationFallback_bounded (serializedSource : Bytes) {maxBytes : Nat}
    (quotesFit : 2 ≤ maxBytes) :
    (encoded (truncationFallback serializedSource maxBytes)).length ≤ maxBytes := by
  unfold truncationFallback
  split
  · assumption
  · have plain := plain_truncatedText (plain_truncationText serializedSource) maxBytes
    have bounded := byteLength_truncatedText_le (truncationText serializedSource) maxBytes
    rw [length_encoded_plain plain]
    omega

theorem length_add_two_le (text : Text) : text.length + 2 ≤ (encoded (.str text)).length := by
  have bytes : text.length ≤ byteLength text := by
    induction text with
    | nil => simp
    | cons char text ih =>
      have positive := char.utf8Size_pos
      rw [List.length_cons, byteLength_cons]
      omega
  have escaped := byteLength_le_escaped text
  rw [length_encoded_str]
  omega

theorem reduced_bounded {compacted : Value × Nat} (exact : Exact compacted) (source : Bytes)
    {maxBytes : Nat} (quotesFit : 2 ≤ maxBytes) :
    (encoded (if compacted.2 ≤ maxBytes then compacted.1
      else truncationFallback source maxBytes)).length ≤ maxBytes := by
  split
  · rename_i fits
    rw [← exact]
    exact fits
  · exact truncationFallback_bounded source quotesFit

/-- `bound_json_value` respects its budget, keeps what fits, and every count of
`_compact` is exact. -/
theorem bound_json_value_respects_budget :
    (∀ (value : Value) (maxBytes : Nat), 128 ≤ maxBytes →
      ∃ result, boundJsonValue value maxBytes = .ok result ∧
        (encoded result).length ≤ maxBytes ∧
        ((encoded value).length ≤ maxBytes → result = value)) ∧
    ∀ (value : Value) (maxBytes : Nat),
      (compact value maxBytes).2 = (encoded (compact value maxBytes).1).length := by
  refine ⟨fun value maxBytes enough => ?_, compact_exact⟩
  have quotesFit : 2 ≤ maxBytes := by omega
  have general : ∃ result, (if (encoded value).length ≤ maxBytes then Except.ok value
      else .ok (if (compact value maxBytes).2 ≤ maxBytes then (compact value maxBytes).1
        else truncationFallback (encoded value) maxBytes) : Except String Value) = .ok result ∧
      (encoded result).length ≤ maxBytes ∧
      ((encoded value).length ≤ maxBytes → result = value) := by
    split
    · rename_i fits
      exact ⟨value, rfl, fits, fun _ => rfl⟩
    · rename_i tooLong
      exact ⟨_, rfl, reduced_bounded (compact_exact value maxBytes) _ quotesFit,
        fun fits => absurd fits tooLong⟩
  unfold boundJsonValue
  rw [if_neg (by omega)]
  cases value with
  | str text =>
    dsimp only
    split
    · rename_i many
      have tooLong := length_add_two_le text
      exact ⟨_, rfl, reduced_bounded (compactText_exact text maxBytes) _ quotesFit,
        fun fits => by omega⟩
    · exact general
  | null => exact general
  | bool flag => exact general
  | int number => exact general
  | float number => exact general
  | list items => exact general
  | dict entries => exact general

/-- Two keys that collide under `str`, the later with too much text. -/
def collidingValue : Value :=
  .dict [(.int 1, .str "short".toList), (.str "1".toList, .str (List.replicate 200 '"'))]

theorem bound_json_value_respects_budget_sample :
    ∃ result, boundJsonValue collidingValue 128 = .ok result ∧ (encoded result).length ≤ 128 ∧
      ((encoded collidingValue).length ≤ 128 → result = collidingValue) :=
  bound_json_value_respects_budget.1 collidingValue 128 (by decide)

end GraphAgent.BoundedJson
