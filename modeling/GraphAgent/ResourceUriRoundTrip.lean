import GraphAgent.ResourceUri

/-!
# Display URIs are normal forms

The segments of an accepted URI, the address they spell, and the display URI of
that address, which parses to the address again.
-/

namespace GraphAgent.ResourceUri

open Terminal PercentText Transaction

@[simp]
theorem rejectIf_ok (bad : Prop) [Decidable bad] (reasonCode : ReasonCode) (message : String)
    (done : Unit) : rejectIf bad reasonCode message = .ok done ↔ ¬bad := by
  rw [rejectIf]
  split <;> simp_all

@[simp]
theorem rejectIf_bind {Result : Type} (bad : Prop) [Decidable bad] (reasonCode : ReasonCode)
    (message : String) (rest : Unit → Except GrammarError Result) (result : Result) :
    (rejectIf bad reasonCode message >>= rest) = .ok result ↔ ¬bad ∧ rest () = .ok result := by
  rw [rejectIf]
  split
  next holds => exact ⟨nofun, fun both => absurd holds both.1⟩
  next fails => exact ⟨fun rest => ⟨fails, rest⟩, fun both => both.2⟩

theorem bind_of_ok {Value Result : Type} {program : Except GrammarError Value} {value : Value}
    (succeeded : program = .ok value) (rest : Value → Except GrammarError Result) :
    (program >>= rest) = rest value := by
  rw [succeeded]
  rfl

structure UriChar (char : Char) : Prop where
  ascii : char.toNat < 128
  printable : 0x20 < char.toNat ∧ char.toNat ≠ 0x7F
  notBackslash : char ≠ '\\'
  notQuery : char ≠ '?'
  notFragment : char ≠ '#'

/-- The segments of an accepted URI. -/
structure Segments (segments : List Text) : Prop where
  filled : segments ≠ []
  nonempty : [] ∉ segments
  chars : ∀ segment ∈ segments, ∀ char ∈ segment, UriChar char
  slashFree : ∀ segment ∈ segments, '/' ∉ segment
  userinfoFree : '@' ∉ segments.headD []

theorem mem_joinSegments {char : Char} {segments : List Text}
    (member : char ∈ joinSegments segments) :
    char = '/' ∨ ∃ segment ∈ segments, char ∈ segment := by
  induction segments with
  | nil => simp [joinSegments] at member
  | cons first rest ih =>
    cases rest with
    | nil => exact .inr ⟨first, List.mem_cons_self, by simpa [joinSegments] using member⟩
    | cons second rest =>
      simp only [joinSegments, List.intercalate_cons_cons, List.mem_append,
        List.mem_singleton] at member ih
      rcases member with (inside | slash) | later
      · exact .inr ⟨first, List.mem_cons_self, inside⟩
      · exact .inl slash
      · rcases ih later with slash | ⟨segment, isSegment, inside⟩
        · exact .inl slash
        · exact .inr ⟨segment, .tail _ isSegment, inside⟩

theorem mem_joinSegments_of_mem {char : Char} {segments : List Text} {segment : Text}
    (member : segment ∈ segments) (inside : char ∈ segment) : char ∈ joinSegments segments := by
  induction segments with
  | nil => exact absurd member List.not_mem_nil
  | cons first rest ih =>
    cases rest with
    | nil =>
      rw [List.mem_singleton] at member
      simpa [joinSegments, member] using inside
    | cons second rest =>
      simp only [joinSegments, List.intercalate_cons_cons, List.mem_append,
        List.mem_singleton] at ih ⊢
      rcases List.mem_cons.mp member with rfl | later
      · exact .inl (.inl inside)
      · exact .inr (ih later)

theorem checkText_ok {uri : Text} :
    checkText uri = .ok () ↔ scheme <+: uri ∧ ∀ char ∈ uri, UriChar char := by
  simp only [checkText, rejectIf_bind]
  constructor
  · rintro ⟨_, notBackslash, notQuery, notFragment, noControl, ascii, noSpace, rest⟩
    split at rest
    next starts =>
      refine ⟨starts, fun char member => ?_⟩
      have isAscii : char.toNat < 128 := by
        have all := List.all_eq_true.mp (not_not.mp ascii) char member
        simpa using all
      have notControl : ¬(char.toNat < 0x20 ∨ 0x7F ≤ char.toNat ∧ char.toNat ≤ 0x9F) := by
        intro control
        exact noControl (List.any_eq_true.mpr ⟨char, member, by simpa using control⟩)
      have notSpace : char.toNat ≠ 0x20 := by
        intro same
        have isSpace : char = ' ' := Char.toNat_inj.mp same
        exact noSpace (isSpace ▸ member)
      exact
        { ascii := isAscii
          printable := by omega
          notBackslash := fun same => notBackslash (same ▸ member)
          notQuery := fun same => notQuery (same ▸ member)
          notFragment := fun same => notFragment (same ▸ member) }
    next => simp [rejectIf_bind, reject] at rest
  · rintro ⟨starts, chars⟩
    refine ⟨?_, fun member => (chars _ member).notBackslash rfl,
      fun member => (chars _ member).notQuery rfl,
      fun member => (chars _ member).notFragment rfl, ?_, ?_,
      fun member => absurd (chars _ member).printable.1 (by decide), ?_⟩
    · rintro rfl
      exact absurd starts (by decide)
    · intro control
      obtain ⟨char, member, isControl⟩ := List.any_eq_true.mp control
      have isUri := chars char member
      have printable := isUri.printable
      have ascii := isUri.ascii
      simp only [Bool.or_eq_true, decide_eq_true_eq, Bool.and_eq_true] at isControl
      omega
    · rw [not_not, List.all_eq_true]
      exact fun char member => by simpa using (chars char member).ascii
    · rw [if_pos starts]
      rfl

theorem uriChar_scheme : ∀ char ∈ scheme, UriChar char := by
  intro char member
  have all : scheme.all (fun char => decide (char.toNat < 128 ∧
      (0x20 < char.toNat ∧ char.toNat ≠ 0x7F) ∧ char ≠ '\\' ∧ char ≠ '?' ∧ char ≠ '#')) =
        true := by
    decide +kernel
  obtain ⟨ascii, printable, notBackslash, notQuery, notFragment⟩ :=
    of_decide_eq_true (List.all_eq_true.mp all char member)
  exact ⟨ascii, printable, notBackslash, notQuery, notFragment⟩

theorem not_mem_of_mem_splitOn {separator : Char} {text segment : Text}
    (member : segment ∈ text.splitOn separator) : separator ∉ segment := by
  induction text generalizing segment with
  | nil =>
    rw [List.splitOn_nil, List.mem_singleton] at member
    simp [member]
  | cons char text ih =>
    rw [List.splitOn_cons_eq_if_modifyHead] at member
    split at member
    next =>
      rcases List.mem_cons.mp member with rfl | later
      · exact List.not_mem_nil
      · exact ih later
    next other =>
      obtain ⟨first, rest, parts⟩ := List.exists_cons_of_ne_nil (List.splitOn_ne_nil separator text)
      rw [parts] at member ih
      rcases List.mem_cons.mp member with rfl | later
      · intro inside
        rcases List.mem_cons.mp inside with rfl | inside
        · simp at other
        · exact ih List.mem_cons_self inside
      · exact ih (.tail _ later)

theorem splitUri_ok {uri : Text} {segments : List Text} :
    splitUri uri = .ok segments ↔ Segments segments ∧ uri = scheme ++ joinSegments segments := by
  constructor
  · intro split
    obtain ⟨_, checked, rest⟩ := bind_ok split
    simp only [rejectIf_bind] at rest
    obtain ⟨userinfoFree, nonempty, result⟩ := rest
    cases result
    obtain ⟨⟨tail, rfl⟩, chars⟩ := checkText_ok.mp checked
    simp only [List.drop_left] at *
    have joined : joinSegments (tail.splitOn '/') = tail := List.intercalate_splitOn '/'
    refine ⟨?_, by rw [joined]⟩
    exact
      { filled := List.splitOn_ne_nil _ _
        nonempty := nonempty
        chars := by
          intro segment member char inside
          apply chars char
          rw [List.mem_append, ← joined]
          exact .inr (mem_joinSegments_of_mem member inside)
        slashFree := fun segment member => not_mem_of_mem_splitOn member
        userinfoFree := userinfoFree }
  · rintro ⟨isSegments, rfl⟩
    have chars : ∀ char ∈ scheme ++ joinSegments segments, UriChar char := by
      intro char member
      rcases List.mem_append.mp member with inScheme | inSegments
      · exact uriChar_scheme char inScheme
      · rcases mem_joinSegments inSegments with rfl | ⟨segment, isSegment, inside⟩
        · exact uriChar_scheme '/' (by decide)
        · exact isSegments.chars segment isSegment char inside
    have checked : checkText (scheme ++ joinSegments segments) = .ok () :=
      checkText_ok.mpr ⟨List.prefix_append _ _, chars⟩
    have parts : (joinSegments segments).splitOn '/' = segments :=
      List.splitOn_intercalate '/' isSegments.slashFree isSegments.filled
    rw [splitUri, checked]
    change (rejectIf _ _ _ >>= _) = _
    rw [List.drop_left, parts, rejectIf_bind, rejectIf_bind]
    exact ⟨isSegments.userinfoFree, isSegments.nonempty, rfl⟩

/-- `_validate_dynamic_segment` accepts names in its character set. -/
structure DynamicSegment (segment : Text) : Prop where
  filled : segment ≠ []
  noDots : ¬isDotSegment segment
  charset : ∀ char ∈ segment, inNameCharset char = true

theorem unreserved_uri {char : Char} (plain : unreserved char = true) :
    UriChar char ∧ char ≠ '/' ∧ char ≠ '%' ∧ char ≠ '@' := by
  have ascii : char.toNat < 128 := by
    unfold unreserved Char.isAlphanum Char.isAlpha Char.isUpper Char.isLower at plain
    simp only [Bool.or_eq_true, Char.isDigit, Bool.and_eq_true, decide_eq_true_eq,
      UInt32.le_iff_toNat_le, ge_iff_le, List.contains_iff_mem] at plain
    show char.val.toNat < 128
    rcases plain with ((⟨_, upper⟩ | ⟨_, upper⟩) | ⟨_, upper⟩) | listed
    · exact Nat.lt_of_le_of_lt upper (by decide)
    · exact Nat.lt_of_le_of_lt upper (by decide)
    · exact Nat.lt_of_le_of_lt upper (by decide)
    · have all : ∀ char ∈ "_.-~".toList, char.val.toNat < 128 := by simp
      exact all char listed
  have all : ∀ value < 128, unreserved (Char.ofNat value) = true →
      (0x20 < value ∧ value ≠ 0x7F) ∧ Char.ofNat value ≠ '\\' ∧ Char.ofNat value ≠ '?' ∧
        Char.ofNat value ≠ '#' ∧ Char.ofNat value ≠ '/' ∧ Char.ofNat value ≠ '%' ∧
        Char.ofNat value ≠ '@' := by
    decide +kernel
  have listed := all char.toNat ascii
  rw [Char.ofNat_toNat] at listed
  obtain ⟨printable, notBackslash, notQuery, notFragment, others⟩ := listed plain
  exact ⟨⟨ascii, printable, notBackslash, notQuery, notFragment⟩, others⟩

theorem inNameCharset_uri {char : Char} (named : inNameCharset char = true) :
    UriChar char ∧ char ≠ '/' ∧ char ≠ '%' ∧ char ≠ '@' := by
  apply unreserved_uri
  simp only [inNameCharset, Bool.or_eq_true, beq_iff_eq] at named
  rcases named with (alphanumeric | rfl) | rfl
  · simp [unreserved, alphanumeric]
  · decide
  · decide

theorem validateDynamicSegment_ok {segment : Text} {field : String} :
    validateDynamicSegment segment field = .ok () ↔ DynamicSegment segment := by
  simp only [validateDynamicSegment, rejectIdentityEscape, rejectIf_bind, rejectIf_ok,
    not_not, List.all_eq_true]
  constructor
  · rintro ⟨_, filled, noDots, charset⟩
    exact ⟨filled, noDots, charset⟩
  · rintro ⟨filled, noDots, charset⟩
    exact ⟨fun escape => (inNameCharset_uri (charset _ escape)).2.2.1 rfl, filled, noDots, charset⟩

theorem scopeKeyword_plain {scope : Text} (keyword : scope ∈ scopeKeywords) :
    '%' ∉ scope ∧ '@' ∉ scope ∧ lower scope ∈ scopeKeywords := by
  have all : ∀ scope ∈ scopeKeywords,
      '%' ∉ scope ∧ '@' ∉ scope ∧ lower scope ∈ scopeKeywords := by
    decide +kernel
  exact all scope keyword

theorem parseScope_ok {segment scope : Text} :
    parseScope segment = .ok scope ↔ segment ∈ scopeKeywords ∧ segment = scope := by
  simp only [parseScope, rejectIdentityEscape, rejectIf_bind]
  constructor
  · rintro ⟨_, rest⟩
    split at rest
    next keyword => exact ⟨keyword, Except.ok.inj rest⟩
    next => simp [rejectIf_bind, reject] at rest
  · rintro ⟨keyword, rfl⟩
    exact ⟨(scopeKeyword_plain keyword).1, if_pos keyword⟩

structure Address (authority : Option Text) (scope : Text) (body : List Text) : Prop where
  named : ∀ name ∈ authority, DynamicSegment name ∧ lower name ∉ scopeKeywords
  keyword : scope ∈ scopeKeywords
  segments : Segments (authority.toList ++ scope :: body)

def spelled (authority : Option Text) (scope : Text) (body : List Text) : Text :=
  scheme ++ joinSegments (authority.toList ++ scope :: body)

theorem parse_address {uri : Text} {localGatewayId : Option Text} {parsed : ParsedResourceUri}
    (accepted : parseResourceUri uri localGatewayId = .ok parsed) :
    ∃ authority scope body, Address authority scope body ∧
      (localGatewayId = none → uri = spelled authority scope body) ∧
      (∀ name ∈ authority, localGatewayId ≠ some name) ∧
      parseBody (spelled authority scope body) authority scope body = .ok parsed := by
  obtain ⟨segments, split, rest⟩ := bind_ok accepted
  obtain ⟨⟨text, authority, left⟩, taken, rest⟩ := bind_ok rest
  obtain ⟨scope, isScope, parsedBody⟩ := bind_ok rest
  obtain ⟨isSegments, rfl⟩ := splitUri_ok.mp split
  have unnamed : takeAuthority (scheme ++ joinSegments segments) segments localGatewayId =
      .ok (scheme ++ joinSegments segments, none, segments) → ∃ authority scope body,
        Address authority scope body ∧
        (localGatewayId = none → scheme ++ joinSegments segments = spelled authority scope body) ∧
        (∀ name ∈ authority, localGatewayId ≠ some name) ∧
        parseBody (spelled authority scope body) authority scope body = .ok parsed := by
    intro same
    rw [same] at taken
    cases taken
    obtain ⟨keyword, rfl⟩ := parseScope_ok.mp isScope
    have parts : segments.headD [] :: segments.tail = segments := by
      cases segments with
      | nil => exact absurd rfl isSegments.filled
      | cons first rest => rfl
    refine ⟨none, segments.headD [], segments.tail, ⟨nofun, keyword, ?_⟩, ?_, nofun, ?_⟩
    · rwa [Option.toList_none, List.nil_append, parts]
    · intro _
      rw [spelled, Option.toList_none, List.nil_append, parts]
    · rw [spelled, Option.toList_none, List.nil_append, parts]
      exact parsedBody
  match segments, unnamed with
  | [], _ => exact absurd rfl isSegments.filled
  | [_], unnamed => exact unnamed rfl
  | first :: second :: others, unnamed =>
    by_cases named : lower first ∉ scopeKeywords ∧ second ∈ scopeKeywords
    · rw [takeAuthority, if_pos named] at taken
      obtain ⟨_, validated, taken⟩ := bind_ok taken
      have dynamic := validateDynamicSegment_ok.mp validated
      split at taken
      next isLocal =>
        cases taken
        obtain ⟨keyword, rfl⟩ := parseScope_ok.mp isScope
        refine ⟨none, second, others, ⟨nofun, named.2, ?_⟩, ?_, nofun, parsedBody⟩
        · exact
            { filled := List.cons_ne_nil _ _
              nonempty := fun member => isSegments.nonempty (.tail _ member)
              chars := fun segment member => isSegments.chars segment (.tail _ member)
              slashFree := fun segment member => isSegments.slashFree segment (.tail _ member)
              userinfoFree := (scopeKeyword_plain named.2).2.1 }
        · intro absent
          rw [absent] at isLocal
          cases isLocal
      next isRemote =>
        cases taken
        obtain ⟨keyword, rfl⟩ := parseScope_ok.mp isScope
        refine ⟨some first, second, others, ⟨?_, named.2, isSegments⟩, fun _ => rfl, ?_,
          parsedBody⟩
        · rintro _ ⟨⟩
          exact ⟨dynamic, named.1⟩
        · rintro _ ⟨⟩
          exact fun same => isRemote same.symm
    · exact unnamed (by rw [takeAuthority, if_neg named]; rfl)

theorem parse_spelled {authority localGatewayId : Option Text} {scope : Text}
    {body : List Text} (address : Address authority scope body)
    (remote : ∀ name ∈ authority, localGatewayId ≠ some name) :
    parseResourceUri (spelled authority scope body) localGatewayId =
      parseBody (spelled authority scope body) authority scope body := by
  have split : splitUri (spelled authority scope body) =
      .ok (authority.toList ++ scope :: body) := splitUri_ok.mpr ⟨address.segments, rfl⟩
  have isScope : parseScope scope = .ok scope := parseScope_ok.mpr ⟨address.keyword, rfl⟩
  have taken : takeAuthority (spelled authority scope body) (authority.toList ++ scope :: body)
      localGatewayId = .ok (spelled authority scope body, authority, scope :: body) := by
    cases authority with
    | none =>
      have isKeyword := (scopeKeyword_plain address.keyword).2.2
      rw [Option.toList_none, List.nil_append]
      cases body with
      | nil => rfl
      | cons second rest =>
        rw [takeAuthority, if_neg fun both => both.1 isKeyword]
        rfl
    | some name =>
      obtain ⟨dynamic, unlisted⟩ := address.named name rfl
      have isRemote : some name ≠ localGatewayId := (remote name rfl).symm
      have validated : validateDynamicSegment name "gateway authority" = .ok () :=
        validateDynamicSegment_ok.mpr dynamic
      rw [Option.toList_some, List.singleton_append, takeAuthority,
        if_pos ⟨unlisted, address.keyword⟩, validated]
      exact if_neg isRemote
  rw [parseResourceUri, split]
  change (takeAuthority _ _ _ >>= _) = _
  rw [taken]
  change (parseScope scope >>= _) = _
  rw [isScope]
  rfl

/-- `_encode_file_segment` accepts file names. -/
structure FileSegment (segment : Text) : Prop where
  filled : segment ≠ []
  noDots : ¬isDotSegment segment
  slashFree : '/' ∉ segment
  notBackslash : '\\' ∉ segment
  noControl : hasControlChar segment = false

theorem encodeFileSegment_ok {segment written : Text} :
    encodeFileSegment segment = .ok written ↔ FileSegment segment ∧ written = quote segment := by
  simp only [encodeFileSegment, rejectIf_bind]
  constructor
  · rintro ⟨filled, noDots, slashFree, notBackslash, noControl, result⟩
    exact ⟨⟨filled, noDots, slashFree, notBackslash, by simpa using noControl⟩,
      (Except.ok.inj result).symm⟩
  · rintro ⟨⟨filled, noDots, slashFree, notBackslash, noControl⟩, rfl⟩
    exact ⟨filled, noDots, slashFree, notBackslash, by simp [noControl], rfl⟩

theorem decodeFileSegment_quote (segment : Text) :
    decodeFileSegment (quote segment) = .ok segment := by
  rw [decodeFileSegment, rejectIf_bind, unquote_quote, invalidPercentEscape_quote]
  exact ⟨Bool.false_ne_true, rfl⟩

theorem encodeFileSegments_ok {segments written : List Text} :
    segments.mapM encodeFileSegment = .ok written ↔
      (∀ segment ∈ segments, FileSegment segment) ∧ written = segments.map quote := by
  induction segments generalizing written with
  | nil => simp [pure, Except.pure, eq_comm]
  | cons first rest ih =>
    rw [List.mapM_cons]
    constructor
    · intro encoded
      obtain ⟨head, headEncoded, encoded⟩ := bind_ok encoded
      obtain ⟨tail, tailEncoded, result⟩ := bind_ok encoded
      cases result
      obtain ⟨isFile, rfl⟩ := encodeFileSegment_ok.mp headEncoded
      obtain ⟨areFiles, rfl⟩ := ih.mp tailEncoded
      exact ⟨List.forall_mem_cons.mpr ⟨isFile, areFiles⟩, rfl⟩
    · rintro ⟨areFiles, rfl⟩
      obtain ⟨isFile, others⟩ := List.forall_mem_cons.mp areFiles
      rw [encodeFileSegment_ok.mpr ⟨isFile, rfl⟩]
      change (rest.mapM encodeFileSegment >>= _) = _
      rw [ih.mpr ⟨others, rfl⟩]
      rfl

theorem decodeFileSegments_quote (segments : List Text) :
    (segments.map quote).mapM decodeFileSegment = .ok segments := by
  induction segments with
  | nil => rfl
  | cons first rest ih =>
    rw [List.map_cons, List.mapM_cons, decodeFileSegment_quote]
    change ((rest.map quote).mapM decodeFileSegment >>= _) = _
    rw [ih]
    rfl

theorem quote_uri {segment : Text} (isFile : FileSegment segment) :
    quote segment ≠ [] ∧ ∀ char ∈ quote segment, UriChar char ∧ char ≠ '/' := by
  refine ⟨quote_ne_nil isFile.filled, fun char member => ?_⟩
  rcases mem_quote member with plain | rfl
  · exact ⟨(unreserved_uri plain).1, (unreserved_uri plain).2.1⟩
  · exact ⟨⟨by decide, by decide, by decide, by decide, by decide⟩, by decide⟩

def writtenTail (kind : Text) : List Text → List Text
  | [] => []
  | root :: children => if kind ∈ fileKinds then root :: children.map quote else root :: children

theorem writtenTail_of_plain {kind : Text} (plain : kind ∉ fileKinds) (tails : List Text) :
    writtenTail kind tails = tails := by
  cases tails with
  | nil => rfl
  | cons root children => rw [writtenTail, if_neg plain]

structure TailParsed (scope scopeId kind : Text) (tails : List Text) (tail : ParsedTail) :
    Prop where
  notContainer : kind ≠ "workspace".toList
  written : tail.written = writtenTail kind tail.tailSegments
  again : parseTail scope scopeId kind tail.written = .ok tail
  segments : ∀ segment ∈ tail.written, segment ∈ tails ∨ ∃ file, FileSegment file ∧
    segment = quote file
  slashFree : (∀ segment ∈ tails, '/' ∉ segment) → ∀ segment ∈ tail.tailSegments, '/' ∉ segment
  encoded : encodeTail scope scopeId kind tail.tailSegments = .ok tail.written

theorem parseDirectoryTail_ok {scope scopeId kind : Text} {tails : List Text} {tail : ParsedTail}
    (parsed : parseDirectoryTail scope scopeId kind tails = .ok tail) :
    ∃ root segments children, tails = root :: segments ∧
      validateDirectoryRoot scope scopeId kind root = .ok () ∧
      segments.mapM decodeFileSegment = .ok children ∧
      (∀ child ∈ children, FileSegment child) ∧
      tail = ⟨root :: children, root, none, root :: children.map quote⟩ := by
  simp only [parseDirectoryTail, rejectIf_bind] at parsed
  obtain ⟨filled, rest⟩ := parsed
  cases tails with
  | nil => exact absurd rfl filled
  | cons root segments =>
    obtain ⟨_, validated, rest⟩ := bind_ok rest
    obtain ⟨children, decoded, rest⟩ := bind_ok rest
    obtain ⟨written, encoded, result⟩ := bind_ok rest
    cases result
    obtain ⟨areFiles, rfl⟩ := encodeFileSegments_ok.mp encoded
    exact ⟨root, segments, children, rfl, validated, decoded, areFiles, rfl⟩

theorem parseDirectoryTail_quote {scope scopeId kind root : Text} {children : List Text}
    (validated : validateDirectoryRoot scope scopeId kind root = .ok ())
    (areFiles : ∀ child ∈ children, FileSegment child) :
    parseDirectoryTail scope scopeId kind (root :: children.map quote) =
      .ok ⟨root :: children, root, none, root :: children.map quote⟩ := by
  simp only [parseDirectoryTail, rejectIf_bind, List.headD_cons, List.tail_cons]
  refine ⟨List.cons_ne_nil _ _, ?_⟩
  rw [validated]
  change ((children.map quote).mapM decodeFileSegment >>= _) = _
  rw [decodeFileSegments_quote]
  change (children.mapM encodeFileSegment >>= _) = _
  rw [encodeFileSegments_ok.mpr ⟨areFiles, rfl⟩]
  rfl

def Plain (tails : List Text) (tail : ParsedTail) : Prop :=
  tail.tailSegments = tails ∧ tail.written = tails

theorem parseFolderTail_plain {scope : Text} {tails : List Text} {tail : ParsedTail}
    (parsed : parseFolderTail scope tails = .ok tail) : Plain tails tail := by
  simp only [parseFolderTail, rejectIf_bind] at parsed
  obtain ⟨_, rest⟩ := parsed
  obtain ⟨_, _, result⟩ := bind_ok rest
  cases result
  exact ⟨rfl, rfl⟩

theorem parseAgentSpecTail_plain {scope : Text} {tails : List Text} {tail : ParsedTail}
    (parsed : parseAgentSpecTail scope tails = .ok tail) : Plain tails tail := by
  simp only [parseAgentSpecTail, rejectIf_bind] at parsed
  obtain ⟨_, rest⟩ := parsed
  obtain ⟨_, _, rest⟩ := bind_ok rest
  obtain ⟨_, _, result⟩ := bind_ok rest
  cases result
  exact ⟨rfl, rfl⟩

theorem parseArtifactTail_plain {scope : Text} {artifactKind : ArtifactKind} {tails : List Text}
    {tail : ParsedTail} (parsed : parseArtifactTail scope artifactKind tails = .ok tail) :
    Plain tails tail := by
  rw [parseArtifactTail] at parsed
  obtain ⟨_, _, rest⟩ := bind_ok parsed
  rw [rejectIf_bind] at rest
  obtain ⟨_, _, rest⟩ := bind_ok rest.2
  obtain ⟨_, _, rest⟩ := bind_ok rest
  simp only [rejectIf_bind] at rest
  obtain ⟨_, _, _, result⟩ := rest
  cases result
  exact ⟨rfl, rfl⟩

theorem parsePathTail_plain {scope kind : Text} {tails : List Text} {tail : ParsedTail}
    (parsed : parsePathTail scope kind tails = .ok tail) : Plain tails tail := by
  simp only [parsePathTail, rejectIf_bind] at parsed
  obtain ⟨_, rest⟩ := parsed
  obtain ⟨_, _, result⟩ := bind_ok rest
  cases result
  exact ⟨rfl, rfl⟩

theorem parseTail_plain {scope scopeId kind : Text} {tails : List Text} {tail : ParsedTail}
    (plain : kind ∉ fileKinds) (parsed : parseTail scope scopeId kind tails = .ok tail) :
    Plain tails tail := by
  rw [parseTail] at parsed
  split at parsed
  next => cases parsed
  next =>
    split at parsed
    next => exact parseFolderTail_plain parsed
    next =>
      split at parsed
      next => exact parseAgentSpecTail_plain parsed
      next =>
        split at parsed
        next => exact parseArtifactTail_plain parsed
        next => exact parsePathTail_plain parsed

theorem parseTail_file {kind : Text} (isFile : kind ∈ fileKinds) (scope scopeId : Text)
    (tails : List Text) :
    parseTail scope scopeId kind tails = parseDirectoryTail scope scopeId kind tails := by
  have kinds : ∀ kind ∈ fileKinds, kind ≠ "workspace".toList ∧ kind ≠ "folder".toList := by
    decide +kernel
  obtain ⟨notContainer, notFolder⟩ := kinds kind isFile
  rw [parseTail, if_neg notContainer, if_neg notFolder, if_pos isFile]

theorem encodeTail_plain {kind : Text} (plain : kind ∉ fileKinds) (scope scopeId : Text)
    (tails : List Text) : encodeTail scope scopeId kind tails = .ok tails := by
  cases tails with
  | nil => rfl
  | cons root children => exact if_neg plain

theorem encodeTail_file {scope scopeId kind root : Text} {children : List Text}
    (isFile : kind ∈ fileKinds) {written : List Text} :
    encodeTail scope scopeId kind (root :: children) = .ok written ↔
      validateDirectoryRoot scope scopeId kind root = .ok () ∧
        (∀ child ∈ children, FileSegment child) ∧ written = root :: children.map quote := by
  rw [encodeTail, if_pos isFile]
  constructor
  · intro encoded
    obtain ⟨_, validated, rest⟩ := bind_ok encoded
    obtain ⟨quoted, isQuoted, result⟩ := bind_ok rest
    cases result
    obtain ⟨areFiles, rfl⟩ := encodeFileSegments_ok.mp isQuoted
    exact ⟨validated, areFiles, rfl⟩
  · rintro ⟨validated, areFiles, rfl⟩
    rw [validated]
    change (children.mapM encodeFileSegment >>= _) = _
    rw [encodeFileSegments_ok.mpr ⟨areFiles, rfl⟩]
    rfl

theorem parseTail_ok {scope scopeId kind : Text} {tails : List Text} {tail : ParsedTail}
    (parsed : parseTail scope scopeId kind tails = .ok tail) :
    TailParsed scope scopeId kind tails tail := by
  have notContainer : kind ≠ "workspace".toList := by
    rintro rfl
    rw [parseTail, if_pos rfl] at parsed
    cases parsed
  by_cases isFile : kind ∈ fileKinds
  · have directory := parsed
    rw [parseTail_file isFile] at directory
    obtain ⟨root, segments, children, rfl, validated, _, areFiles, rfl⟩ :=
      parseDirectoryTail_ok directory
    exact
      { notContainer := notContainer
        written := by rw [writtenTail, if_pos isFile]
        again := by
          rw [parseTail_file isFile]
          exact parseDirectoryTail_quote validated areFiles
        segments := by
          intro segment member
          rcases List.mem_cons.mp member with rfl | quoted
          · exact .inl List.mem_cons_self
          · obtain ⟨child, isChild, rfl⟩ := List.mem_map.mp quoted
            exact .inr ⟨child, areFiles child isChild, rfl⟩
        slashFree := by
          intro slashFree segment member
          rcases List.mem_cons.mp member with rfl | child
          · exact slashFree _ List.mem_cons_self
          · exact (areFiles segment child).slashFree
        encoded := (encodeTail_file isFile).mpr ⟨validated, areFiles, rfl⟩ }
  · obtain ⟨same, written⟩ := parseTail_plain isFile parsed
    exact
      { notContainer := notContainer
        written := by rw [writtenTail_of_plain isFile, same, written]
        again := by rwa [written]
        segments := fun segment member => .inl (written ▸ member)
        slashFree := fun slashFree segment member => slashFree segment (same ▸ member)
        encoded := by rw [encodeTail_plain isFile, same, written] }

theorem parseTail_encodeTail {scope scopeId kind : Text} {tails written : List Text}
    {tail : ParsedTail} (encoded : encodeTail scope scopeId kind tails = .ok written)
    (parsed : parseTail scope scopeId kind written = .ok tail) : tail.tailSegments = tails := by
  by_cases isFile : kind ∈ fileKinds
  · rw [parseTail_file isFile] at parsed
    cases tails with
    | nil =>
      cases encoded
      obtain ⟨_, _, _, absurdTail, _⟩ := parseDirectoryTail_ok parsed
      cases absurdTail
    | cons root children =>
      obtain ⟨validated, areFiles, rfl⟩ := (encodeTail_file isFile).mp encoded
      rw [parseDirectoryTail_quote validated areFiles] at parsed
      cases parsed
      rfl
  · rw [encodeTail_plain isFile] at encoded
    cases encoded
    exact (parseTail_plain isFile parsed).1

theorem parseKind_ok {segment kind : Text} :
    parseKind segment = .ok kind ↔ segment ∈ resourceKinds ∧ segment = kind := by
  have plain : ∀ kind ∈ resourceKinds, '%' ∉ kind := by decide +kernel
  simp only [parseKind, rejectIdentityEscape, rejectIf_bind]
  constructor
  · rintro ⟨_, rest⟩
    split at rest
    next listed => exact ⟨listed, Except.ok.inj rest⟩
    next => simp [rejectIf_bind, reject] at rest
  · rintro ⟨listed, rfl⟩
    exact ⟨plain _ listed, if_pos listed⟩

theorem expectFixedSegment_ok {segment : Text} {expected : String}
    (matched : expectFixedSegment segment expected = .ok ()) : segment = expected.toList := by
  simp only [expectFixedSegment, rejectIdentityEscape, rejectIf_bind] at matched
  obtain ⟨_, rest⟩ := matched
  split at rest
  next same => exact same
  next => simp [rejectIf_bind, reject] at rest

/-- The body of the display URI of an address. -/
def writtenBody (scopeId kind : Text) (tails : List Text) : List Text :=
  if kind = "workspace".toList then [scopeId]
  else scopeId :: "resources".toList :: kind :: writtenTail kind tails

structure Written (parsed : ParsedResourceUri) : Prop where
  address : Address parsed.gatewayAuthority parsed.scope
    (writtenBody parsed.scopeId parsed.kind parsed.tailSegments)
  display : parsed.displayUri = spelled parsed.gatewayAuthority parsed.scope
    (writtenBody parsed.scopeId parsed.kind parsed.tailSegments)
  again : parseBody parsed.displayUri parsed.gatewayAuthority parsed.scope
    (writtenBody parsed.scopeId parsed.kind parsed.tailSegments) = .ok parsed
  listed : parsed.kind ∈ resourceKinds
  scopeId : DynamicSegment parsed.scopeId
  slashFree : ∀ segment ∈ parsed.tailSegments, '/' ∉ segment
  encoded : encodeTail parsed.scope parsed.scopeId parsed.kind parsed.tailSegments =
    .ok (writtenTail parsed.kind parsed.tailSegments)
  container : parsed.kind = "workspace".toList →
    parsed.scope = "workspace".toList ∧ parsed.tailSegments = []

theorem Segments.rewrite {leading tails written : List Text} (filled : leading ≠ [])
    (segments : Segments (leading ++ tails))
    (rewritten : ∀ segment ∈ written, segment ∈ tails ∨ ∃ file, FileSegment file ∧
      segment = quote file) : Segments (leading ++ written) := by
  have kept : ∀ segment ∈ leading ++ written, segment ∈ leading ++ tails ∨
      ∃ file, FileSegment file ∧ segment = quote file := by
    intro segment member
    rcases List.mem_append.mp member with inLeading | inWritten
    · exact .inl (List.mem_append_left _ inLeading)
    · exact (rewritten segment inWritten).imp_left (List.mem_append_right _)
  refine ⟨List.append_ne_nil_of_left_ne_nil filled _, ?_, ?_, ?_, ?_⟩
  · intro member
    rcases kept [] member with old | ⟨file, isFile, quoted⟩
    · exact segments.nonempty old
    · exact (quote_uri isFile).1 quoted.symm
  · intro segment member char inside
    rcases kept segment member with old | ⟨file, isFile, rfl⟩
    · exact segments.chars segment old char inside
    · exact ((quote_uri isFile).2 char inside).1
  · intro segment member slash
    rcases kept segment member with old | ⟨file, isFile, rfl⟩
    · exact segments.slashFree segment old slash
    · exact ((quote_uri isFile).2 '/' slash).2 rfl
  · cases leading with
    | nil => exact absurd rfl filled
    | cons first rest => exact segments.userinfoFree

theorem parseBody_resource {uri scope scopeId fixed kindSegment kind : Text}
    {authority : Option Text} {tails : List Text} {tail : ParsedTail} {done other : Unit}
    (validated : validateDynamicSegment scopeId "scope id" = .ok done)
    (matched : expectFixedSegment fixed "resources" = .ok other)
    (isKind : parseKind kindSegment = .ok kind)
    (isTail : parseTail scope scopeId kind tails = .ok tail) :
    parseBody uri authority scope (scopeId :: fixed :: kindSegment :: tails) =
      .ok ⟨scope, scopeId, kind, tail.logicalName,
        if kind ∈ fileKinds then
          scheme ++ joinSegments
            (authority.toList ++ scope :: scopeId :: fixed :: kind :: tail.written)
        else uri, authority, tail.tailSegments, tail.sessionArtifactKind⟩ := by
  have long : ¬(scope = "workspace".toList ∧
      (scopeId :: fixed :: kindSegment :: tails).length = 1) := by
    simp
  unfold parseBody
  simp only [if_neg long, validated, matched, isKind, isTail, bind, Except.bind, pure,
    Except.pure]

theorem parseBody_written {authority : Option Text} {scope : Text} {body : List Text}
    {parsed : ParsedResourceUri} (address : Address authority scope body)
    (accepted : parseBody (spelled authority scope body) authority scope body = .ok parsed) :
    Written parsed ∧ parsed.gatewayAuthority = authority := by
  unfold parseBody at accepted
  split at accepted
  next container =>
    obtain ⟨isWorkspace, single⟩ := container
    obtain ⟨scopeId, rfl⟩ := List.length_eq_one_iff.mp single
    obtain ⟨_, validated, result⟩ := bind_ok accepted
    cases result
    have body : writtenBody scopeId "workspace".toList [] = [scopeId] := if_pos rfl
    refine ⟨?_, rfl⟩
    exact
      { address := by
          show Address authority scope (writtenBody scopeId "workspace".toList [])
          rwa [body]
        display := by
          show spelled authority scope [scopeId] =
            spelled authority scope (writtenBody scopeId "workspace".toList [])
          rw [body]
        again := by
          show parseBody (spelled authority scope [scopeId]) authority scope
            (writtenBody scopeId "workspace".toList []) = _
          rw [body]
          unfold parseBody
          rw [if_pos ⟨isWorkspace, rfl⟩, validated]
          rfl
        listed := by
          show "workspace".toList ∈ resourceKinds
          decide +kernel
        scopeId := validateDynamicSegment_ok.mp validated
        slashFree := nofun
        encoded := rfl
        container := fun _ => ⟨isWorkspace, rfl⟩ }
  next notContainer =>
    split at accepted
    next scopeId fixed kindSegment tails =>
      obtain ⟨_, validated, rest⟩ := bind_ok accepted
      obtain ⟨_, matched, rest⟩ := bind_ok rest
      obtain ⟨kind, isKind, rest⟩ := bind_ok rest
      obtain ⟨tail, isTail, result⟩ := bind_ok rest
      obtain ⟨listed, rfl⟩ := parseKind_ok.mp isKind
      have fixedText := expectFixedSegment_ok matched
      subst fixedText
      have tailParsed := parseTail_ok isTail
      have body : writtenBody scopeId kindSegment tail.tailSegments =
          scopeId :: "resources".toList :: kindSegment :: tail.written := by
        rw [writtenBody, if_neg tailParsed.notContainer, tailParsed.written]
      have display : (if kindSegment ∈ fileKinds then
            scheme ++ joinSegments (authority.toList ++
              scope :: scopeId :: "resources".toList :: kindSegment :: tail.written)
          else spelled authority scope
            (scopeId :: "resources".toList :: kindSegment :: tails)) =
          spelled authority scope
            (scopeId :: "resources".toList :: kindSegment :: tail.written) := by
        split
        next => rfl
        next plain => rw [(parseTail_plain plain isTail).2]
      have segments : Segments (authority.toList ++
          scope :: scopeId :: "resources".toList :: kindSegment :: tail.written) := by
        have old := address.segments
        have regroup : ∀ rest : List Text, authority.toList ++
            scope :: scopeId :: "resources".toList :: kindSegment :: rest =
            (authority.toList ++ [scope, scopeId, "resources".toList, kindSegment]) ++ rest := by
          simp
        rw [regroup] at old ⊢
        exact old.rewrite (by simp) tailParsed.segments
      cases result
      refine ⟨?_, rfl⟩
      exact
        { address := ⟨address.named, address.keyword, by rw [body]; exact segments⟩
          display := by
            rw [body]
            exact display
          again := by
            rw [body]
            refine (parseBody_resource validated matched isKind tailParsed.again).trans ?_
            congr 2
            split <;> rfl
          listed := listed
          scopeId := validateDynamicSegment_ok.mp validated
          slashFree := tailParsed.slashFree fun segment member =>
            address.segments.slashFree segment (by simp [member])
          encoded := by rw [tailParsed.encoded, tailParsed.written]
          container := fun same => absurd same tailParsed.notContainer }
    next => cases accepted

end GraphAgent.ResourceUri
