import GraphAgent.JsonSameness
import GraphAgent.ToolCallChunks

/-!
# Chunks and their calls

A provider splits its calls into fragments.  The history of a run pairs each
fragment with the delta that the assembler made of it.
-/

namespace GraphAgent.ToolCallChunks

structure Fragment (Call : Type) where
  call : Call
  modelCallId : Option String
  id : Option String
  index : Option Nat
  name : Option String
  args : Option String

namespace Fragment

variable {Call : Type}

def chunk (fragment : Fragment Call) : ToolCallChunk where
  id := (fragment.id.map Json.str).getD .null
  index := (fragment.index.map fun index => Json.int index).getD .null
  name := (fragment.name.map Json.str).getD .null
  args := (fragment.args.map Json.str).getD .null

def text (fragment : Fragment Call) : String :=
  fragment.args.getD ""

@[simp]
theorem chunkIndex_chunk (fragment : Fragment Call) :
    chunkIndex fragment.chunk = .ok fragment.index := by
  cases found : fragment.index with
  | none => simp [chunkIndex, chunk, found]
  | some index => simp [chunkIndex, chunk, found]

theorem identifier_chunk {fragment : Fragment Call} (named : fragment.id ≠ some "") :
    fragment.chunk.id.identifier? = fragment.id := by
  cases found : fragment.id with
  | none => simp [chunk, found, Json.identifier?]
  | some id =>
    rw [found, ne_eq, Option.some.injEq] at named
    simp [chunk, found, Json.identifier?, named]

end Fragment

structure Arrival (Call : Type) where
  fragment : Fragment Call
  scope : Option String
  delta : ToolCallDelta

section Runs

variable {Call : Type} (loads : String → Option Json)

structure Splits (history : List (Arrival Call)) (scope : Option String)
    (fragment : Fragment Call) : Prop where
  named : fragment.id ≠ some ""
  sameScope : ∀ arrival ∈ history,
    arrival.fragment.call = fragment.call → arrival.scope = scope
  sameId : ∀ arrival ∈ history, arrival.scope = scope → ∀ first second,
    arrival.fragment.id = some first → fragment.id = some second →
      (arrival.fragment.call = fragment.call ↔ first = second)

def IsFirst (history : List (Arrival Call)) (call : Call) : Prop :=
  ∀ arrival ∈ history, arrival.fragment.call ≠ call

structure Meets (registry : Registry) (history : List (Arrival Call)) (scope : Option String)
    (fragment : Fragment Call) : Prop where
  late : ∀ id, fragment.id = some id →
    registry.idsByProviderKey.lookup (scope, id) = none → IsFirst history fragment.call
  unindexed : fragment.id = none →
    registry.idsByIndex.lookup (scope, fragment.index.getD 0) = none →
      IsFirst history fragment.call
  indexed : fragment.id = none → ∀ toolCallId,
    registry.idsByIndex.lookup (scope, fragment.index.getD 0) = some toolCallId →
      ∃ arrival ∈ history, arrival.fragment.call = fragment.call ∧
        arrival.delta.toolCallId = toolCallId
  provided : ∀ current index, fragment.id ≠ some (fallbackBlockId current "tool_call" index)
  /-- The scoped name of a new call is new. -/
  fresh : IsFirst history fragment.call → ∀ arrival ∈ history,
    arrival.delta.toolCallId ≠ scopedToolCallId scope (fragment.id.getD
      (fallbackBlockId registry.currentModelCallId "tool_call" (fragment.index.getD 0)))

inductive Reached : Registry → List (Arrival Call) → Prop
  | start : Reached .empty []
  | startModel {registry : Registry} {history : List (Arrival Call)} (modelCallId : String) :
      Reached registry history →
      Reached { registry with currentModelCallId := some modelCallId } history
  | fragment {registry after : Registry} {history : List (Arrival Call)}
      {fragment : Fragment Call} {delta : ToolCallDelta} :
      Reached registry history →
      Splits history (registry.effective fragment.modelCallId) fragment →
      Meets registry history (registry.effective fragment.modelCallId) fragment →
      acceptToolCallChunk loads registry fragment.chunk fragment.modelCallId =
        .ok (after, delta) →
      Reached after
        (history ++ [⟨fragment, registry.effective fragment.modelCallId, delta⟩])

def textOf (history : List (Arrival Call)) (toolCallId : String) : String :=
  String.join ((history.filter fun arrival => arrival.delta.toolCallId = toolCallId).map
    fun arrival => arrival.fragment.text)

structure Invariant (registry : Registry) (history : List (Arrival Call)) : Prop where
  routed : ∀ first ∈ history, ∀ second ∈ history,
    first.fragment.call = second.fragment.call ↔
      first.delta.toolCallId = second.delta.toolCallId
  keys : ∀ scope id toolCallId, registry.idsByProviderKey.lookup (scope, id) = some toolCallId →
    (∃ arrival ∈ history, arrival.scope = scope ∧ arrival.fragment.id = some id ∧
      arrival.delta.toolCallId = toolCallId) ∨
    ∃ current index, id = fallbackBlockId current "tool_call" index
  keyIndexes : ∀ key toolCallId, registry.idsByProviderKey.lookup key = some toolCallId →
    (registry.indexesById.lookup toolCallId).isSome = true
  indexes : ∀ key toolCallId, registry.idsByIndex.lookup key = some toolCallId →
    (registry.indexesById.lookup toolCallId).isSome = true
  texts : ∀ toolCallId,
    (registry.arguments.lookup toolCallId).getD "" = textOf history toolCallId
  parsed : ∀ arrival ∈ history,
    registry.argumentsById.lookup arrival.delta.toolCallId =
        some (parseArguments loads (textOf history arrival.delta.toolCallId) .null).1 ∧
      registry.argumentsComplete.lookup arrival.delta.toolCallId =
        some (parseArguments loads (textOf history arrival.delta.toolCallId) .null).2
  invocations : ∀ arrival ∈ history,
    registry.invocationIds.lookup arrival.delta.toolCallId = some arrival.delta.toolInvocationId

end Runs

theorem Except.map_eq_ok {Error Value Result : Type} {apply : Value → Result}
    {program : Except Error Value} {result : Result}
    (mapped : program.map apply = .ok result) :
    ∃ value, program = .ok value ∧ apply value = result := by
  cases program with
  | error error => cases mapped
  | ok value => exact ⟨value, rfl, Except.ok.inj mapped⟩

section Step

variable {Call : Type} {loads : String → Option Json} {registry after : Registry}
variable {history : List (Arrival Call)} {fragment : Fragment Call} {delta : ToolCallDelta}

structure Accepted (loads : String → Option Json) (registry after : Registry)
    (scope : Option String) (chunk : ToolCallChunk) (resolution : Resolution)
    (delta : ToolCallDelta) : Prop where
  toolCallId : delta.toolCallId = resolution.toolCallId
  current : after.currentModelCallId = registry.currentModelCallId
  idsByIndex : after.idsByIndex =
    registry.idsByIndex.insert (scope, resolution.toolIndex) resolution.toolCallId
  indexesById : after.indexesById =
    registry.indexesById.insert resolution.toolCallId resolution.toolIndex
  idsByProviderKey : after.idsByProviderKey = match resolution.providerToolCallId with
    | none => registry.idsByProviderKey
    | some provider => registry.idsByProviderKey.insert (scope, provider) resolution.toolCallId
  arguments : after.arguments = match chunk.args with
    | .str text => registry.arguments.insert resolution.toolCallId
        ((registry.arguments.lookup resolution.toolCallId).getD "" ++ text)
    | _ => registry.arguments
  argumentsById : after.argumentsById = registry.argumentsById.insert resolution.toolCallId
    (parseArguments loads ((after.arguments.lookup resolution.toolCallId).getD "") chunk.args).1
  argumentsComplete : after.argumentsComplete =
    registry.argumentsComplete.insert resolution.toolCallId
      (parseArguments loads ((after.arguments.lookup resolution.toolCallId).getD "") chunk.args).2
  invocationIds : after.invocationIds =
    registry.invocationIds.insert resolution.toolCallId delta.toolInvocationId
  kept : ∀ existing, registry.invocationIds.lookup resolution.toolCallId = some existing →
    delta.toolInvocationId = existing
  shown : delta.arguments =
    (parseArguments loads ((after.arguments.lookup resolution.toolCallId).getD "") chunk.args).1 ∧
      delta.argumentsComplete = (parseArguments loads
        ((after.arguments.lookup resolution.toolCallId).getD "") chunk.args).2

theorem registerCall_maps (scope modelCallId : Option String) (resolution : Resolution) :
    (registerCall registry scope modelCallId resolution).arguments = registry.arguments ∧
    (registerCall registry scope modelCallId resolution).argumentsById = registry.argumentsById ∧
    (registerCall registry scope modelCallId resolution).argumentsComplete =
      registry.argumentsComplete ∧
    (registerCall registry scope modelCallId resolution).invocationIds =
      registry.invocationIds := by
  unfold registerCall
  cases resolution.providerToolCallId <;> exact ⟨rfl, rfl, rfl, rfl⟩

theorem accepted_of_ok {chunk : ToolCallChunk} {modelCallId : Option String}
    (accepts : acceptToolCallChunk loads registry chunk modelCallId = .ok (after, delta)) :
    ∃ index resolution, chunkIndex chunk = .ok index ∧
      resolve registry (registry.effective modelCallId) chunk.id.identifier? index =
        .ok resolution ∧
      Accepted loads registry after (registry.effective modelCallId) chunk resolution delta := by
  unfold acceptToolCallChunk at accepts
  cases indexRead : chunkIndex chunk with
  | error error => simp [indexRead, Except.bind] at accepts
  | ok index =>
    cases resolved : resolve registry (registry.effective modelCallId) chunk.id.identifier?
        index with
    | error error => simp [indexRead, resolved, Except.bind, Except.map] at accepts
    | ok resolution =>
      simp only [indexRead, resolved, Except.bind, Except.map, Except.ok.injEq,
        Prod.mk.injEq] at accepts
      obtain ⟨rfl, rfl⟩ := accepts
      refine ⟨index, resolution, rfl, resolved, ?_⟩
      obtain ⟨arguments, argumentsById, argumentsComplete, invocationIds⟩ :=
        @registerCall_maps registry (registry.effective modelCallId) modelCallId resolution
      constructor
      case toolCallId => rfl
      case current =>
        simp only [addArguments, registerCall]
        cases resolution.providerToolCallId <;> rfl
      case idsByIndex =>
        simp only [addArguments, registerCall]
        cases resolution.providerToolCallId <;> rfl
      case indexesById =>
        simp only [addArguments, registerCall]
        cases resolution.providerToolCallId <;> rfl
      case idsByProviderKey =>
        simp only [addArguments, registerCall]
        cases resolution.providerToolCallId <;> rfl
      case arguments =>
        cases args : chunk.args <;> simp only [addArguments, arguments, args]
      case argumentsById => simp only [addArguments, argumentsById]
      case argumentsComplete => simp only [addArguments, argumentsComplete]
      case invocationIds => simp only [addArguments, invocationIds]
      case kept =>
        intro existing found
        simp only [invocationIdFor, addArguments, invocationIds, found]
      case shown =>
        simp only [addArguments, Dictionary.lookup_insert_self, Option.getD_some, and_self]

def Belongs (history : List (Arrival Call)) (call : Call) (toolCallId : String) : Prop :=
  (∃ arrival ∈ history,
    arrival.fragment.call = call ∧ arrival.delta.toolCallId = toolCallId) ∨
    (IsFirst history call ∧ ∀ arrival ∈ history, arrival.delta.toolCallId ≠ toolCallId)

theorem resolve_belongs {scope : Option String} {resolution : Resolution}
    (invariant : Invariant loads registry history) (splits : Splits history scope fragment)
    (meets : Meets registry history scope fragment)
    (resolved : resolve registry scope fragment.id fragment.index = .ok resolution) :
    Belongs history fragment.call resolution.toolCallId ∧
      ∀ provider, resolution.providerToolCallId = some provider →
        fragment.id = some provider ∨ ∃ current index,
          provider = fallbackBlockId current "tool_call" index := by
  unfold resolve at resolved
  cases named : fragment.id with
  | none =>
    simp only [named, Option.bind_none] at resolved
    cases held : registry.idsByIndex.lookup (scope, fragment.index.getD 0) with
    | none =>
      simp only [held, Except.ok.injEq] at resolved
      subst resolved
      have first := meets.unindexed named held
      refine ⟨.inr ⟨first, fun arrival member => ?_⟩, ?_⟩
      · have fresh := meets.fresh first arrival member
        simpa [named, newCall] using fresh
      · intro provider equal
        exact .inr ⟨_, _, (Option.some.inj equal).symm⟩
    | some existing =>
      simp only [held] at resolved
      obtain ⟨index, -, rfl⟩ := Except.map_eq_ok resolved
      exact ⟨.inl (meets.indexed named existing held), fun provider equal => by cases equal⟩
  | some id =>
    simp only [named, Option.bind_some] at resolved
    cases known : registry.idsByProviderKey.lookup (scope, id) with
    | some existing =>
      simp only [known] at resolved
      obtain ⟨index, -, rfl⟩ := Except.map_eq_ok resolved
      refine ⟨.inl ?_, fun provider equal => .inl equal⟩
      rcases invariant.keys scope id existing known with
        ⟨arrival, member, sameScope, sameId, canonical⟩ | ⟨current, index, equal⟩
      · have sameCall :=
          (splits.sameId arrival member sameScope id id sameId named).mpr rfl
        exact ⟨arrival, member, sameCall, canonical⟩
      · exact absurd (named.trans (congrArg some equal)) (meets.provided current index)
    | none =>
      simp only [known] at resolved
      have first := meets.late id named known
      have fresh : ∀ arrival ∈ history,
          arrival.delta.toolCallId ≠ scopedToolCallId scope id := by
        intro arrival member
        simpa [named] using meets.fresh first arrival member
      cases held : registry.idsByIndex.lookup (scope, fragment.index.getD 0) with
      | none =>
        simp only [held, Except.ok.injEq] at resolved
        subst resolved
        exact ⟨.inr ⟨first, fresh⟩, fun provider equal => .inl equal⟩
      | some existing =>
        simp only [held, Except.ok.injEq] at resolved
        subst resolved
        exact ⟨.inr ⟨first, fresh⟩, fun provider equal => .inl equal⟩

theorem resolve_total {scope : Option String} {provider : Option String} {index : Option Nat}
    (invariant : @Invariant Call loads registry history) :
    ∃ resolution, resolve registry scope provider index = .ok resolution := by
  have registered {toolCallId : String}
      (found : (registry.indexesById.lookup toolCallId).isSome = true) :
      ∃ toolIndex, registeredIndex registry toolCallId = .ok toolIndex := by
    obtain ⟨toolIndex, present⟩ := Option.isSome_iff_exists.mp found
    exact ⟨toolIndex, by rw [registeredIndex, present]⟩
  unfold resolve
  split
  · rename_i existing found
    obtain ⟨id, -, known⟩ := Option.bind_eq_some_iff.mp found
    obtain ⟨toolIndex, read⟩ := registered (invariant.keyIndexes _ existing known)
    exact ⟨_, by rw [read]; rfl⟩
  · split
    · exact ⟨_, rfl⟩
    · exact ⟨_, rfl⟩
    · rename_i existing held _
      obtain ⟨toolIndex, read⟩ := registered (invariant.indexes _ existing held)
      exact ⟨_, by rw [read]; rfl⟩

theorem textOf_append (arrival : Arrival Call) (toolCallId : String) :
    textOf (history ++ [arrival]) toolCallId = textOf history toolCallId ++
      if arrival.delta.toolCallId = toolCallId then arrival.fragment.text else "" := by
  rw [textOf, textOf, List.filter_append, List.map_append]
  by_cases same : arrival.delta.toolCallId = toolCallId
  · simp [same, String.join_append]
  · simp [same]

theorem Belongs.same_iff {call : Call} {toolCallId : String}
    (belongs : Belongs history call toolCallId)
    (routed : ∀ first ∈ history, ∀ second ∈ history,
      first.fragment.call = second.fragment.call ↔
        first.delta.toolCallId = second.delta.toolCallId)
    {arrival : Arrival Call} (member : arrival ∈ history) :
    arrival.fragment.call = call ↔ arrival.delta.toolCallId = toolCallId := by
  rcases belongs with ⟨earlier, earlierMember, rfl, rfl⟩ | ⟨first, fresh⟩
  · exact routed arrival member earlier earlierMember
  · exact iff_of_false (first arrival member) (fresh arrival member)

theorem parseArguments_chunk (text : String) (fragment : Fragment Call) :
    parseArguments loads text fragment.chunk.args = parseArguments loads text .null := by
  unfold parseArguments
  cases found : fragment.args with
  | none => simp [Fragment.chunk, found]
  | some args => simp [Fragment.chunk, found]

theorem Invariant.startModel (invariant : Invariant loads registry history)
    (modelCallId : String) :
    Invariant loads { registry with currentModelCallId := some modelCallId } history where
  routed := invariant.routed
  keys := invariant.keys
  keyIndexes := invariant.keyIndexes
  indexes := invariant.indexes
  texts := invariant.texts
  parsed := invariant.parsed
  invocations := invariant.invocations

theorem Invariant.arrived {scope : Option String} {resolution : Resolution}
    (invariant : Invariant loads registry history)
    (belongs : Belongs history fragment.call resolution.toolCallId)
    (providers : ∀ provider, resolution.providerToolCallId = some provider →
      fragment.id = some provider ∨ ∃ current index,
        provider = fallbackBlockId current "tool_call" index)
    (accepted : Accepted loads registry after scope fragment.chunk resolution delta) :
    Invariant loads after (history ++ [⟨fragment, scope, delta⟩]) := by
  have newest : delta.toolCallId = resolution.toolCallId := accepted.toolCallId
  have indexed {toolCallId : String}
      (held : (registry.indexesById.lookup toolCallId).isSome = true) :
      (after.indexesById.lookup toolCallId).isSome = true := by
    rw [accepted.indexesById, Dictionary.lookup_insert]
    split
    · rfl
    · exact held
  have indexedNew : (after.indexesById.lookup resolution.toolCallId).isSome = true := by
    rw [accepted.indexesById, Dictionary.lookup_insert_self]
    rfl
  have texts : ∀ toolCallId, (after.arguments.lookup toolCallId).getD "" =
      textOf (history ++ [⟨fragment, scope, delta⟩]) toolCallId := by
    intro toolCallId
    rw [textOf_append, accepted.arguments, ← invariant.texts, newest]
    cases found : fragment.args with
    | none =>
      have silent : fragment.text = "" := by simp [Fragment.text, found]
      simp [Fragment.chunk, found, silent]
    | some text =>
      have spoken : fragment.text = text := by simp [Fragment.text, found]
      simp only [Fragment.chunk, found, Option.map_some, Option.getD_some, spoken,
        Dictionary.lookup_insert]
      by_cases same : resolution.toolCallId = toolCallId
      · simp [same]
      · simp [same]
  constructor
  case routed =>
    have newestIff {arrival : Arrival Call} (member : arrival ∈ history) :=
      belongs.same_iff invariant.routed member
    intro first firstMember second secondMember
    rw [List.mem_append, List.mem_singleton] at firstMember secondMember
    rcases firstMember with firstOld | rfl <;> rcases secondMember with secondOld | rfl
    · exact invariant.routed first firstOld second secondOld
    · rw [newest]
      exact newestIff firstOld
    · rw [newest, eq_comm, newestIff secondOld, eq_comm]
    · simp
  case keys =>
    intro found id toolCallId known
    rw [accepted.idsByProviderKey] at known
    have old (held : registry.idsByProviderKey.lookup (found, id) = some toolCallId) :
        (∃ arrival ∈ history ++ [⟨fragment, scope, delta⟩], arrival.scope = found ∧
          arrival.fragment.id = some id ∧ arrival.delta.toolCallId = toolCallId) ∨
        ∃ current index, id = fallbackBlockId current "tool_call" index := by
      rcases invariant.keys found id toolCallId held with ⟨arrival, member, facts⟩ | fallback
      · exact .inl ⟨arrival, List.mem_append_left _ member, facts⟩
      · exact .inr fallback
    cases provided : resolution.providerToolCallId with
    | none =>
      simp only [provided] at known
      exact old known
    | some provider =>
      simp only [provided, Dictionary.lookup_insert] at known
      split at known
      · rename_i same
        cases same
        cases known
        rcases providers _ provided with named | fallback
        · exact .inl ⟨_, List.mem_append_right _ (List.mem_singleton_self _), rfl, named,
            newest⟩
        · exact .inr fallback
      · exact old known
  case keyIndexes =>
    intro key toolCallId known
    rw [accepted.idsByProviderKey] at known
    cases provided : resolution.providerToolCallId with
    | none =>
      simp only [provided] at known
      exact indexed (invariant.keyIndexes key toolCallId known)
    | some provider =>
      simp only [provided, Dictionary.lookup_insert] at known
      split at known
      · cases known
        exact indexedNew
      · exact indexed (invariant.keyIndexes key toolCallId known)
  case indexes =>
    intro key toolCallId known
    rw [accepted.idsByIndex, Dictionary.lookup_insert] at known
    split at known
    · cases known
      exact indexedNew
    · exact indexed (invariant.indexes key toolCallId known)
  case texts => exact texts
  case parsed =>
    intro arrival member
    rw [accepted.argumentsById, accepted.argumentsComplete, Dictionary.lookup_insert,
      Dictionary.lookup_insert, parseArguments_chunk, texts]
    by_cases same : resolution.toolCallId = arrival.delta.toolCallId
    · simp [same]
    · have old : arrival ∈ history := by
        rw [List.mem_append, List.mem_singleton] at member
        rcases member with old | rfl
        · exact old
        · exact absurd newest.symm same
      have unchanged : textOf (history ++ [⟨fragment, scope, delta⟩]) arrival.delta.toolCallId =
          textOf history arrival.delta.toolCallId := by
        rw [textOf_append, newest, if_neg same]
        simp
      rw [if_neg same, if_neg same, unchanged]
      exact invariant.parsed arrival old
  case invocations =>
    intro arrival member
    rw [accepted.invocationIds, Dictionary.lookup_insert]
    rw [List.mem_append, List.mem_singleton] at member
    rcases member with old | rfl
    · split
      · rename_i same
        have held := invariant.invocations arrival old
        rw [← same] at held
        rw [accepted.kept _ held]
      · exact invariant.invocations arrival old
    · rw [if_pos newest.symm]

theorem Reached.invariant (reached : Reached loads registry history) :
    Invariant loads registry history := by
  induction reached with
  | start =>
    constructor <;> simp [Registry.empty, textOf]
  | startModel modelCallId _ ih => exact ih.startModel modelCallId
  | fragment _ splits meets accepts ih =>
    obtain ⟨index, resolution, indexRead, resolved, accepted⟩ := accepted_of_ok accepts
    rw [Fragment.chunkIndex_chunk, Except.ok.injEq] at indexRead
    subst indexRead
    rw [Fragment.identifier_chunk splits.named] at resolved
    obtain ⟨belongs, providers⟩ := resolve_belongs ih splits meets resolved
    exact ih.arrived belongs providers accepted

theorem Reached.accepts (reached : Reached loads registry history)
    (splits : Splits history (registry.effective fragment.modelCallId) fragment) :
    ∃ after delta, acceptToolCallChunk loads registry fragment.chunk fragment.modelCallId =
      .ok (after, delta) := by
  obtain ⟨resolution, resolved⟩ := @resolve_total Call loads registry history
    (registry.effective fragment.modelCallId) fragment.id fragment.index reached.invariant
  unfold acceptToolCallChunk
  rw [Fragment.chunkIndex_chunk, Fragment.identifier_chunk splits.named]
  simp only [Except.bind, resolved, Except.map]
  exact ⟨_, _, rfl⟩

def textOfCall [DecidableEq Call] (history : List (Arrival Call)) (call : Call) : String :=
  String.join ((history.filter fun arrival => arrival.fragment.call = call).map
    fun arrival => arrival.fragment.text)

theorem textOfCall_eq [DecidableEq Call] (invariant : Invariant loads registry history)
    {arrival : Arrival Call} (member : arrival ∈ history) :
    textOfCall history arrival.fragment.call = textOf history arrival.delta.toolCallId := by
  rw [textOfCall, textOf]
  congr 2
  apply List.filter_congr
  intro other otherMember
  simpa using invariant.routed other otherMember arrival member

theorem parseArguments_complete (text : String) :
    (parseArguments loads text .null).2 = true ↔
      text ≠ "" ∧ ∃ fields, loads text = some (.obj fields) := by
  unfold parseArguments
  by_cases empty : text = ""
  · simp [empty]
  · simp only [ne_eq, empty, not_false_eq_true, if_true, true_and]
    cases loads text with
    | none => simp
    | some value => cases value <;> simp

/-- While every fragment leads to its call, two fragments have one canonical call
exactly if they are of one provider call.  The arguments of a call are those of
its fragments in order, complete exactly if their text is an object, its
invocation stays, and no fragment is refused. -/
theorem fragments_reach_their_calls [DecidableEq Call]
    (reached : Reached loads registry history) :
    (∀ first ∈ history, ∀ second ∈ history,
      first.fragment.call = second.fragment.call ↔
        first.delta.toolCallId = second.delta.toolCallId) ∧
    (∀ arrival ∈ history,
      registry.argumentsById.lookup arrival.delta.toolCallId =
        some (parseArguments loads (textOfCall history arrival.fragment.call) .null).1 ∧
      ∃ complete, registry.argumentsComplete.lookup arrival.delta.toolCallId = some complete ∧
        (complete = true ↔ textOfCall history arrival.fragment.call ≠ "" ∧
          ∃ fields, loads (textOfCall history arrival.fragment.call) = some (.obj fields))) ∧
    (∀ first ∈ history, ∀ second ∈ history, first.fragment.call = second.fragment.call →
      first.delta.toolInvocationId = second.delta.toolInvocationId) ∧
    ∀ next : Fragment Call, Splits history (registry.effective next.modelCallId) next →
      ∃ after delta, acceptToolCallChunk loads registry next.chunk next.modelCallId =
        .ok (after, delta) := by
  have invariant := reached.invariant
  refine ⟨invariant.routed, fun arrival member => ?_, fun first firstMember second secondMember
    sameCall => ?_, fun next splits => reached.accepts splits⟩
  · obtain ⟨arguments, complete⟩ := invariant.parsed arrival member
    rw [textOfCall_eq invariant member]
    exact ⟨arguments, _, complete, parseArguments_complete _⟩
  · have sameId := (invariant.routed first firstMember second secondMember).mp sameCall
    have firstHeld := invariant.invocations first firstMember
    rw [sameId, invariant.invocations second secondMember] at firstHeld
    exact (Option.some.inj firstHeld).symm

end Step

namespace Sample

/-- A fragment of the model call `m`. -/
def fragment (call : String) (id : Option String) (index : Nat) (args : String) :
    Fragment String :=
  ⟨call, some "m", id, some index, none, some args⟩

/-- The registry while `m` is the current model call. -/
def started : Registry :=
  { Registry.empty with currentModelCallId := some "m" }

def calls (registry : Registry) : List (Fragment String) → List String
  | [] => []
  | fragment :: fragments =>
    match acceptToolCallChunk (fun _ => none) registry fragment.chunk fragment.modelCallId with
    | .ok (after, delta) => delta.toolCallId :: calls after fragments
    | .error _ => []

end Sample

open Sample in
/-- A call whose second fragment has an index only. -/
theorem fragments_reach_their_calls_indexed :
    ∃ (registry : Registry) (history : List (Arrival String)),
      ((∀ first ∈ history, ∀ second ∈ history,
        first.fragment.call = second.fragment.call ↔
          first.delta.toolCallId = second.delta.toolCallId) ∧
      ∀ arrival ∈ history, registry.argumentsById.lookup arrival.delta.toolCallId =
        some (parseArguments (fun _ => none)
          (textOfCall history arrival.fragment.call) .null).1) ∧
      history.map Arrival.fragment = [fragment "a" (some "a") 0 "[", fragment "a" none 0 "]"] := by
  have opened : Reached (fun _ => none) started ([] : List (Arrival String)) :=
    .startModel "m" .start
  have splits : Splits [] (started.effective (some "m")) (fragment "a" (some "a") 0 "[") :=
    ⟨by decide, by simp, by simp⟩
  have meets : Meets started [] (started.effective (some "m")) (fragment "a" (some "a") 0 "[") :=
    ⟨by simp [IsFirst], by simp [IsFirst], by simp [fragment],
      fun current index equal => by
        have lengths := congrArg String.length (Option.some.inj equal)
        simp only [fallbackBlockId, String.length_append] at lengths
        have separator : ":".length = 1 := by decide
        have carrier : "tool_call".length = 9 := by decide
        have id : "a".length = 1 := by decide
        omega,
      by simp⟩
  have once := @Reached.fragment _ _ _ _ _ (fragment "a" (some "a") 0 "[") _ opened splits meets rfl
  have again := @Reached.fragment _ _ _ _ _ (fragment "a" none 0 "]") _ once
    ⟨by decide,
      fun arrival member _ => by
        obtain rfl := List.mem_singleton.mp member
        rfl,
      fun _ _ _ _ _ _ named => (by cases named)⟩
    ⟨fun id named => (by cases named), fun _ absent => (by cases absent),
      fun _ toolCallId held => ⟨_, List.mem_singleton_self _, rfl, Option.some.inj held⟩,
      fun _ _ equal => (by cases equal),
      fun first => absurd rfl (first _ (List.mem_singleton_self _))⟩
    rfl
  have facts := fragments_reach_their_calls again
  exact ⟨_, _, ⟨facts.1, fun arrival member => (facts.2.1 arrival member).1⟩, rfl⟩

open Sample in
/-- The last fragment of `c` has an index that only `c` uses, and goes to `b`,
which repeated the index of `a`.  The id of `d` comes with its second fragment,
and makes a second call. -/
theorem fragments_reach_others :
    calls started [fragment "a" (some "a") 0 "", fragment "b" (some "b") 0 "",
        fragment "c" (some "c") 1 "\x7b", fragment "c" none 1 "\x7d"] =
      ["m:tool-call:a", "m:tool-call:b", "m:tool-call:c", "m:tool-call:b"] ∧
    calls started [fragment "d" none 0 "\x7b", fragment "d" (some "d") 0 "\x7d"] =
      ["m:tool-call:m:tool_call:0", "m:tool-call:d"] := by
  decide +kernel

end GraphAgent.ToolCallChunks
