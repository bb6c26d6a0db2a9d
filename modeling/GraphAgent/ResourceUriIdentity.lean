import GraphAgent.ResourceUriRoundTrip

/-!
# Resource URIs name their components

Building and parsing are inverse on display URIs, so that two accepted URIs name
the same components exactly when their display URIs are equal.
-/

namespace GraphAgent.ResourceUri

open Terminal Transaction

/-- What a resource URI names. -/
structure Components where
  scope : Text
  scopeId : Text
  kind : Text
  gatewayAuthority : Option Text
  tailSegments : List Text

def ParsedResourceUri.components (parsed : ParsedResourceUri) : Components where
  scope := parsed.scope
  scopeId := parsed.scopeId
  kind := parsed.kind
  gatewayAuthority := parsed.gatewayAuthority
  tailSegments := parsed.tailSegments

/-- The display URI of an accepted URI parses to the same address, with the same
display URI, wherever its authority is not the local gateway. -/
theorem parse_display {uri : Text} {localGatewayId : Option Text} {parsed : ParsedResourceUri}
    (accepted : parseResourceUri uri localGatewayId = .ok parsed) :
    Written parsed ∧ parseResourceUri parsed.displayUri none = .ok parsed ∧
      parseResourceUri parsed.displayUri localGatewayId = .ok parsed := by
  obtain ⟨authority, scope, body, address, _, remote, parsedBody⟩ := parse_address accepted
  obtain ⟨written, rfl⟩ := parseBody_written address parsedBody
  have again := written.again
  refine ⟨written, ?_, ?_⟩
  · rw [written.display] at again ⊢
    have absent : ∀ name ∈ parsed.gatewayAuthority, none ≠ some name := by simp
    rw [parse_spelled written.address absent]
    exact again
  · rw [written.display] at again ⊢
    rw [parse_spelled written.address remote]
    exact again

theorem Written.rebuild {parsed : ParsedResourceUri} (written : Written parsed)
    (again : parseResourceUri parsed.displayUri none = .ok parsed) :
    resourceDisplayUri parsed.scope parsed.scopeId parsed.kind parsed.tailSegments
      parsed.gatewayAuthority = .ok parsed.displayUri := by
  have scopeChecked : validateDynamicSegment parsed.scopeId "scope id" = .ok () :=
    validateDynamicSegment_ok.mpr written.scopeId
  have authorityChecked : (parsed.gatewayAuthority.toList.forM fun authority =>
      validateDynamicSegment authority "gateway authority") = .ok () := by
    refine forM_iff.mpr fun authority member => ?_
    exact validateDynamicSegment_ok.mpr
      (written.address.named authority (Option.mem_toList.mp member)).1
  have slashFree : ¬∃ segment ∈ parsed.tailSegments, '/' ∈ segment := by
    rintro ⟨segment, member, slash⟩
    exact written.slashFree segment member slash
  have contained : ¬(parsed.kind = "workspace".toList ∧
      (parsed.scope ≠ "workspace".toList ∨
        writtenTail parsed.kind parsed.tailSegments ≠ [])) := by
    rintro ⟨isContainer, wrong⟩
    obtain ⟨isWorkspace, empty⟩ := written.container isContainer
    rcases wrong with other | filled
    · exact other isWorkspace
    · exact filled (by rw [empty]; rfl)
  have segments : (if parsed.kind = "workspace".toList then [parsed.scope, parsed.scopeId]
      else parsed.scope :: parsed.scopeId :: "resources".toList :: parsed.kind ::
        writtenTail parsed.kind parsed.tailSegments) =
      parsed.scope :: writtenBody parsed.scopeId parsed.kind parsed.tailSegments := by
    rw [writtenBody]
    split <;> rfl
  have built : parseResourceUri (scheme ++ joinSegments (parsed.gatewayAuthority.toList ++
      parsed.scope :: writtenBody parsed.scopeId parsed.kind parsed.tailSegments)) none =
      .ok parsed := by
    rw [written.display] at again
    exact again
  rw [resourceDisplayUri, rejectIf_bind, rejectIf_bind]
  refine ⟨not_not.mpr written.address.keyword, not_not.mpr written.listed, ?_⟩
  refine (bind_of_ok scopeChecked _).trans ((bind_of_ok authorityChecked _).trans ?_)
  rw [rejectIf_bind]
  refine ⟨slashFree, (bind_of_ok written.encoded _).trans ?_⟩
  rw [rejectIf_bind]
  refine ⟨contained, ?_⟩
  simp only [segments]
  exact bind_of_ok built _

theorem joinSegments_injective {first second : List Text} (firstFilled : first ≠ [])
    (secondFilled : second ≠ []) (firstFree : ∀ segment ∈ first, '/' ∉ segment)
    (secondFree : ∀ segment ∈ second, '/' ∉ segment)
    (same : joinSegments first = joinSegments second) : first = second := by
  calc first = (joinSegments first).splitOn '/' :=
        (List.splitOn_intercalate '/' firstFree firstFilled).symm
    _ = (joinSegments second).splitOn '/' := by rw [same]
    _ = second := List.splitOn_intercalate '/' secondFree secondFilled

theorem encodeTail_slashFree {scope scopeId kind : Text} {tails written : List Text}
    (encoded : encodeTail scope scopeId kind tails = .ok written)
    (slashFree : ∀ segment ∈ tails, '/' ∉ segment) : ∀ segment ∈ written, '/' ∉ segment := by
  by_cases isFile : kind ∈ fileKinds
  · cases tails with
    | nil =>
      cases encoded
      exact nofun
    | cons root children =>
      obtain ⟨_, areFiles, rfl⟩ := (encodeTail_file isFile).mp encoded
      intro segment member slash
      rcases List.mem_cons.mp member with rfl | quoted
      · exact slashFree _ List.mem_cons_self slash
      · obtain ⟨child, isChild, rfl⟩ := List.mem_map.mp quoted
        exact ((quote_uri (areFiles child isChild)).2 '/' slash).2 rfl
  · rw [encodeTail_plain isFile] at encoded
    cases encoded
    exact slashFree

theorem DynamicSegment.slashFree {segment : Text} (dynamic : DynamicSegment segment) :
    '/' ∉ segment :=
  fun member => (inNameCharset_uri (dynamic.charset _ member)).2.1 rfl

theorem resourceDisplayUri_ok {scope scopeId kind uri : Text} {tails : List Text}
    {authority : Option Text}
    (built : resourceDisplayUri scope scopeId kind tails authority = .ok uri) :
    ∃ written parsed, scope ∈ scopeKeywords ∧ kind ∈ resourceKinds ∧ DynamicSegment scopeId ∧
      (∀ name ∈ authority, DynamicSegment name) ∧ (∀ segment ∈ tails, '/' ∉ segment) ∧
      encodeTail scope scopeId kind tails = .ok written ∧
      (kind = "workspace".toList → scope = "workspace".toList ∧ written = []) ∧
      parseResourceUri (scheme ++ joinSegments (authority.toList ++
        if kind = "workspace".toList then [scope, scopeId]
        else scope :: scopeId :: "resources".toList :: kind :: written)) none = .ok parsed ∧
      parsed.displayUri = uri := by
  rw [resourceDisplayUri, rejectIf_bind, rejectIf_bind] at built
  obtain ⟨keyword, listed, rest⟩ := built
  obtain ⟨_, scopeChecked, rest⟩ := bind_ok rest
  obtain ⟨_, authorityChecked, rest⟩ := bind_ok rest
  rw [rejectIf_bind] at rest
  obtain ⟨slashFree, rest⟩ := rest
  obtain ⟨written, encoded, rest⟩ := bind_ok rest
  rw [rejectIf_bind] at rest
  obtain ⟨contained, rest⟩ := rest
  obtain ⟨parsed, accepted, result⟩ := bind_ok rest
  refine ⟨written, parsed, not_not.mp keyword, not_not.mp listed,
    validateDynamicSegment_ok.mp scopeChecked, ?_, ?_, encoded, ?_, accepted,
    Except.ok.inj result⟩
  · intro name member
    exact validateDynamicSegment_ok.mp
      (forM_ok authorityChecked name (Option.mem_toList.mpr member))
  · exact fun segment member slash => slashFree ⟨segment, member, slash⟩
  · intro isContainer
    by_contra wrong
    rw [not_and_or] at wrong
    exact contained ⟨isContainer, wrong⟩

theorem parseBody_shifted {uri scope scopeId kind : Text} {authority : Option Text} {name : Text}
    {written : List Text} {parsed : ParsedResourceUri} :
    parseBody uri authority name
      (if kind = "workspace".toList then [scope, scopeId]
        else scope :: scopeId :: "resources".toList :: kind :: written) ≠ .ok parsed := by
  intro accepted
  unfold parseBody at accepted
  by_cases isContainer : kind = "workspace".toList
  · rw [if_pos isContainer] at accepted
    split at accepted
    next single => exact absurd single.2 (by simp)
    next => cases accepted
  · rw [if_neg isContainer] at accepted
    split at accepted
    next single => exact absurd single.2 (by simp)
    next =>
      obtain ⟨_, _, rest⟩ := bind_ok accepted
      obtain ⟨_, _, rest⟩ := bind_ok rest
      obtain ⟨_, isKind, _⟩ := bind_ok rest
      have notListed : "resources".toList ∉ resourceKinds := by decide +kernel
      exact notListed (parseKind_ok.mp isKind).1

theorem parse_built {scope scopeId kind uri : Text} {tails : List Text} {authority : Option Text}
    (built : resourceDisplayUri scope scopeId kind tails authority = .ok uri) :
    ∃ parsed, parseResourceUri uri none = .ok parsed ∧
      parsed.components = ⟨scope, scopeId, kind, authority, tails⟩ := by
  obtain ⟨written, parsed, keyword, listed, isScopeId, named, slashFree, encoded, contained,
    accepted, rfl⟩ := resourceDisplayUri_ok built
  refine ⟨parsed, (parse_display accepted).2.1, ?_⟩
  obtain ⟨otherAuthority, otherScope, body, address, spelling, _, parsedBody⟩ :=
    parse_address accepted
  have segmentsFree : ∀ segment ∈ authority.toList ++
      (if kind = "workspace".toList then [scope, scopeId]
        else scope :: scopeId :: "resources".toList :: kind :: written), '/' ∉ segment := by
    have keywordsFree : ∀ scope ∈ scopeKeywords, '/' ∉ scope := by decide +kernel
    have kindsFree : ∀ kind ∈ resourceKinds, '/' ∉ kind := by decide +kernel
    intro segment member
    rcases List.mem_append.mp member with inAuthority | inRest
    · exact (named segment (Option.mem_toList.mp inAuthority)).slashFree
    · split at inRest
      next =>
        simp only [List.mem_cons, List.not_mem_nil, or_false] at inRest
        rcases inRest with rfl | rfl
        · exact keywordsFree _ keyword
        · exact isScopeId.slashFree
      next =>
        simp only [List.mem_cons] at inRest
        rcases inRest with rfl | rfl | rfl | rfl | inTail
        · exact keywordsFree _ keyword
        · exact isScopeId.slashFree
        · decide
        · exact kindsFree _ listed
        · exact encodeTail_slashFree encoded slashFree segment inTail
  have same : authority.toList ++
      (if kind = "workspace".toList then [scope, scopeId]
        else scope :: scopeId :: "resources".toList :: kind :: written) =
      otherAuthority.toList ++ otherScope :: body := by
    refine joinSegments_injective ?_ ?_ segmentsFree address.segments.slashFree
      (List.append_cancel_left (spelling rfl))
    · split <;> simp
    · simp
  have rest : ∃ tail, (if kind = "workspace".toList then [scope, scopeId]
      else scope :: scopeId :: "resources".toList :: kind :: written) = scope :: tail ∧
        tail = if kind = "workspace".toList then [scopeId]
          else scopeId :: "resources".toList :: kind :: written := by
    refine ⟨_, ?_, rfl⟩
    split <;> rfl
  obtain ⟨tail, isTail, tailEq⟩ := rest
  have parts : authority = otherAuthority ∧ scope = otherScope ∧ tail = body := by
    cases authority with
    | none =>
      cases otherAuthority with
      | none =>
        rw [isTail] at same
        simpa using same
      | some other =>
        -- The scope would have been an authority.
        rw [isTail] at same
        simp only [Option.toList_none, List.nil_append, Option.toList_some,
          List.singleton_append, List.cons.injEq] at same
        have unlisted := (address.named other rfl).2
        rw [← same.1] at unlisted
        exact absurd (scopeKeyword_plain keyword).2.2 unlisted
    | some name =>
      cases otherAuthority with
      | none =>
        -- The authority would have been the scope.
        simp only [Option.toList_none, List.nil_append, Option.toList_some,
          List.singleton_append, List.cons.injEq] at same
        rw [← same.1, ← same.2] at parsedBody
        exact absurd parsedBody parseBody_shifted
      | some other =>
        rw [isTail] at same
        simp only [Option.toList_some, List.singleton_append, List.cons.injEq] at same
        exact ⟨congrArg some same.1, same.2⟩
  obtain ⟨rfl, rfl, rfl⟩ := parts
  rw [tailEq] at parsedBody address
  unfold parseBody at parsedBody
  by_cases isContainer : kind = "workspace".toList
  · obtain ⟨isWorkspace, empty⟩ := contained isContainer
    subst empty
    have noTails : tails = [] := by
      rw [encodeTail_plain (by rw [isContainer]; decide +kernel)] at encoded
      exact Except.ok.inj encoded
    rw [if_pos isContainer, if_pos ⟨isWorkspace, rfl⟩] at parsedBody
    obtain ⟨_, _, result⟩ := bind_ok parsedBody
    cases result
    simp [ParsedResourceUri.components, isContainer, noTails]
  · rw [if_neg isContainer] at parsedBody
    rw [if_neg (by simp)] at parsedBody
    obtain ⟨_, _, rest⟩ := bind_ok parsedBody
    obtain ⟨_, _, rest⟩ := bind_ok rest
    obtain ⟨_, isKind, rest⟩ := bind_ok rest
    obtain ⟨parsedTail, isParsed, result⟩ := bind_ok rest
    obtain ⟨_, rfl⟩ := parseKind_ok.mp isKind
    cases result
    simp [ParsedResourceUri.components, parseTail_encodeTail encoded isParsed]

/-- Building and parsing are inverse, display URIs are fixed points, and they tell
accepted URIs apart by what they name. -/
theorem resource_uris_round_trip :
    (∀ scope scopeId kind tails authority uri,
      resourceDisplayUri scope scopeId kind tails authority = .ok uri →
        ∃ parsed, parseResourceUri uri none = .ok parsed ∧
          parsed.components = ⟨scope, scopeId, kind, authority, tails⟩) ∧
    (∀ uri localGatewayId parsed, parseResourceUri uri localGatewayId = .ok parsed →
      parseResourceUri parsed.displayUri none = .ok parsed ∧
        parseResourceUri parsed.displayUri localGatewayId = .ok parsed ∧
        resourceDisplayUri parsed.scope parsed.scopeId parsed.kind parsed.tailSegments
          parsed.gatewayAuthority = .ok parsed.displayUri) ∧
    (∀ firstUri secondUri firstLocal secondLocal first second,
      parseResourceUri firstUri firstLocal = .ok first →
        parseResourceUri secondUri secondLocal = .ok second →
          (first.components = second.components ↔ first.displayUri = second.displayUri)) := by
  refine ⟨?_, ?_, ?_⟩
  · intro scope scopeId kind tails authority uri built
    exact parse_built built
  · intro uri localGatewayId parsed accepted
    obtain ⟨written, again, localAgain⟩ := parse_display accepted
    exact ⟨again, localAgain, written.rebuild again⟩
  · intro firstUri secondUri firstLocal secondLocal first second firstAccepted secondAccepted
    obtain ⟨firstWritten, firstAgain, _⟩ := parse_display firstAccepted
    obtain ⟨secondWritten, secondAgain, _⟩ := parse_display secondAccepted
    constructor
    · intro same
      simp only [ParsedResourceUri.components, Components.mk.injEq] at same
      obtain ⟨scope, scopeId, kind, authority, tails⟩ := same
      have firstBuilt := firstWritten.rebuild firstAgain
      rw [scope, scopeId, kind, authority, tails] at firstBuilt
      exact Except.ok.inj (firstBuilt.symm.trans (secondWritten.rebuild secondAgain))
    · intro same
      rw [same] at firstAgain
      rw [Except.ok.inj (firstAgain.symm.trans secondAgain)]

def remoteFile : Text :=
  "boxteam://gw1/workspace/ws1/resources/files/root/a@b".toList

theorem resource_uris_round_trip_remote :
    ∃ parsed, parseResourceUri remoteFile none = .ok parsed ∧
      parsed.displayUri = "boxteam://gw1/workspace/ws1/resources/files/root/a%40b".toList ∧
      parseResourceUri parsed.displayUri none = .ok parsed := by
  obtain ⟨parsed, accepted, display⟩ : ∃ parsed, parseResourceUri remoteFile none = .ok parsed ∧
      parsed.displayUri = "boxteam://gw1/workspace/ws1/resources/files/root/a%40b".toList :=
    ⟨_, rfl, by decide +kernel⟩
  exact ⟨parsed, accepted, display,
    (resource_uris_round_trip.2.1 remoteFile none parsed accepted).1⟩

end GraphAgent.ResourceUri
