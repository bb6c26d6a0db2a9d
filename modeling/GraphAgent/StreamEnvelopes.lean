import GraphAgent.StreamHistory

/-!
# The identity fields of a commit

A commit takes each identity from its caller or from the payload, fills the
payload with it and writes it into the envelope.  What it writes passes the
check that a reader of the log makes of the record.
-/

namespace GraphAgent.MessageStream

open Transaction

structure Agrees (payload : Fields) (name : String) (envelope : Json) : Prop where
  outer : validIdentity envelope = true
  inner : validIdentity (payload.get name) = true
  same : ∀ outer inner, envelope.text? = some outer →
    (payload.get name).text? = some inner → outer = inner

variable {config : StoreConfig} {request : CommitRequest} {payload filled : Fields}
  {identity fields : List (String × Json)} {name : String} {value : Json}

theorem validateEventIdentityFields_ok :
    validateEventIdentityFields payload fields = .ok () ↔
      ∀ field ∈ fields, Agrees payload field.1 field.2 := by
  induction fields with
  | nil => simp [validateEventIdentityFields]
  | cons field fields ih =>
    obtain ⟨name, envelope⟩ := field
    rw [List.forall_mem_cons, ← ih, validateEventIdentityFields]
    cases outer : validIdentity envelope with
    | false =>
      simp only [Bool.not_false, if_true, reduceCtorEq, false_iff]
      rintro ⟨agrees, _⟩
      rw [agrees.outer] at outer
      cases outer
    | true =>
      cases inner : validIdentity (payload.get name) with
      | false =>
        simp only [Bool.not_true, Bool.not_false, if_true, Bool.false_eq_true, if_false,
          reduceCtorEq, false_iff]
        rintro ⟨agrees, _⟩
        rw [agrees.inner] at inner
        cases inner
      | true =>
        simp only [Bool.not_true, Bool.false_eq_true, if_false]
        split
        · rename_i outerText innerText outerIs innerIs
          split
          · rename_i equal
            constructor
            · intro rest
              refine ⟨⟨outer, inner, ?_⟩, rest⟩
              intro left right leftIs rightIs
              rw [outerIs] at leftIs
              rw [innerIs] at rightIs
              rw [← Option.some.inj leftIs, ← Option.some.inj rightIs, equal]
            · exact fun both => both.2
          · rename_i different
            simp only [reduceCtorEq, false_iff]
            rintro ⟨agrees, _⟩
            exact different (agrees.same _ _ outerIs innerIs)
        · rename_i notBoth
          constructor
          · intro rest
            refine ⟨⟨outer, inner, ?_⟩, rest⟩
            intro left right leftIs rightIs
            exact absurd rightIs (notBoth left right leftIs)
          · exact fun both => both.2

theorem get_setDefault {key : String} :
    Fields.get (payload.setDefault name value) key = payload.get key ∨
      (key = name ∧ Fields.get (payload.setDefault name value) key = value) := by
  rw [Fields.get, Dictionary.lookup_setDefault]
  by_cases same : name = key
  · subst same
    cases found : payload.lookup name with
    | none => exact .inr ⟨rfl, by simp⟩
    | some old => exact .inl (by simp [Fields.get, found])
  · exact .inl (by simp [Fields.get, same])

theorem defaultIdentity_cons {first : String} {given : Json} :
    defaultIdentity payload ((first, given) :: identity) = defaultIdentity payload identity ∨
      (first ≠ "workspace_id" ∧ defaultIdentity payload ((first, given) :: identity) =
        defaultIdentity (payload.setDefault first given) identity) := by
  unfold defaultIdentity
  rw [List.foldl_cons]
  by_cases isWorkspace : first = "workspace_id"
  · rw [if_pos (.inr isWorkspace)]
    exact .inl rfl
  · cases given with
    | null => exact .inl rfl
    | _ =>
      rw [if_neg (by simp [isWorkspace])]
      exact .inr ⟨isWorkspace, rfl⟩

theorem get_defaultIdentity (name : String) :
    (defaultIdentity payload identity).get name = payload.get name ∨
      (name ≠ "workspace_id" ∧
        (name, (defaultIdentity payload identity).get name) ∈ identity) := by
  induction identity generalizing payload with
  | nil => exact .inl rfl
  | cons field identity ih =>
    obtain ⟨first, given⟩ := field
    rcases @defaultIdentity_cons payload identity first given with skipped | ⟨other, step⟩
    · rw [skipped]
      exact ih.imp_right fun later => ⟨later.1, List.mem_cons_of_mem _ later.2⟩
    · rw [step]
      rcases @ih (payload.setDefault first given) with own | ⟨named, member⟩
      · rw [own]
        rcases @get_setDefault payload first given name with kept | ⟨rfl, filled⟩
        · exact .inl kept
        · rw [filled]
          exact .inr ⟨other, List.mem_cons_self ..⟩
      · exact .inr ⟨named, List.mem_cons_of_mem _ member⟩

theorem get_withoutNone (name : String) :
    (Fields.withoutNone identity).get name = .null ∨
      (name, (Fields.withoutNone identity).get name) ∈ identity := by
  rw [Fields.get]
  cases found : (Fields.withoutNone identity).lookup name with
  | none => exact .inl rfl
  | some value =>
    rcases Dictionary.lookup_insertAll_some found with none | member
    · cases none
    · exact .inr (List.mem_filter.mp member).1

theorem mem_identityFields {config : StoreConfig} {request : CommitRequest}
    (first : (name, value) ∈ identityFields config request)
    {other : Json} (second : (name, other) ∈ identityFields config request) : value = other := by
  obtain ⟨left, _, leftEq⟩ := List.mem_map.mp first
  obtain ⟨right, _, rightEq⟩ := List.mem_map.mp second
  rw [Prod.mk.injEq] at leftEq rightEq
  obtain ⟨rfl, rfl⟩ := leftEq
  obtain ⟨rfl, rfl⟩ := rightEq
  rfl

theorem agrees_envelopeFields {workspaceId : Option String}
    (checked : ∀ field ∈ identityFields config request, Agrees payload field.1 field.2)
    (sameNames : ∀ name ∈ identityNames, Fields.get filled name =
      (defaultIdentity payload (identityFields config request)).get name)
    (workspace : ∀ text, workspaceId = some text → text ≠ "" ∧
      ∀ inner, (payload.get "workspace_id").text? = some inner → inner = text)
    (known : name ∈ identityNames) :
    Agrees filled name
      ((envelopeFields (identityFields config request) workspaceId).get name) := by
  obtain ⟨given, listed⟩ : ∃ given, (name, given) ∈ identityFields config request :=
    ⟨_, List.mem_map_of_mem known⟩
  have original : Agrees payload name given := checked _ listed
  have inner : Fields.get filled name = payload.get name ∨
      (name ≠ "workspace_id" ∧ Fields.get filled name = given) := by
    rw [sameNames name known]
    rcases @get_defaultIdentity payload (identityFields config request) name with
      own | ⟨other, member⟩
    · exact .inl own
    · exact .inr ⟨other, mem_identityFields member listed⟩
  have innerValid : validIdentity (Fields.get filled name) = true := by
    rcases inner with own | ⟨_, taken⟩
    · rw [own]
      exact original.inner
    · rw [taken]
      exact original.outer
  have ofEnvelope {envelope : Json} (outer : envelope = .null ∨ envelope = given) :
      Agrees filled name envelope := by
    rcases outer with rfl | rfl
    · exact ⟨rfl, innerValid, by simp [Json.text?]⟩
    · refine ⟨original.outer, innerValid, ?_⟩
      intro outerText innerText outerIs innerIs
      rcases inner with own | ⟨_, taken⟩
      · rw [own] at innerIs
        exact original.same _ _ outerIs innerIs
      · rw [taken, outerIs] at innerIs
        exact Option.some.inj innerIs
  have withoutWorkspace : Agrees filled name
      ((Fields.withoutNone (identityFields config request)).get name) := by
    apply ofEnvelope
    rcases @get_withoutNone (identityFields config request) name with none | member
    · exact .inl none
    · exact .inr (mem_identityFields member listed)
  cases workspaceId with
  | none => exact withoutWorkspace
  | some text =>
    by_cases isWorkspace : name = "workspace_id"
    · subst isWorkspace
      obtain ⟨named, agree⟩ := workspace text rfl
      rw [envelopeFields, Fields.get, Dictionary.lookup_insert_self]
      refine ⟨by simp [validIdentity, Json.identifier?, named], innerValid, ?_⟩
      intro outerText innerText outerIs innerIs
      rcases inner with own | ⟨other, _⟩
      · rw [own] at innerIs
        rw [agree innerText innerIs]
        exact (Option.some.inj outerIs).symm
      · exact absurd rfl other
    · rw [envelopeFields, Fields.get,
        Dictionary.lookup_insert_of_ne (Ne.symm isWorkspace), ← Fields.get]
      exact withoutWorkspace

def Checked (config : StoreConfig) (commit : CheckedCommit) : Prop :=
  ∃ request : CommitRequest, commit.identity = identityFields config request ∧
    (∀ field ∈ identityFields config request, Agrees request.payload field.1 field.2) ∧
    ∀ name ∈ identityNames, commit.payload.get name =
      (defaultIdentity request.payload (identityFields config request)).get name

def Adopts (config : StoreConfig) (commit : CheckedCommit) (state : StreamState) : Prop :=
  state.workspaceId = config.workspaceId ∨
    (config.workspaceId = none ∧ state.workspaceId = incomingWorkspace commit.identity)

def requestedWorkspace (config : StoreConfig) (request : CommitRequest) : Json :=
  match config.workspaceId with
  | some text => .str text
  | none => request.payload.get "workspace_id"

theorem lookupEntries_identityFields :
    Dictionary.lookupEntries "workspace_id" (identityFields config request) =
      some (requestedWorkspace config request) := by
  cases stored : config.workspaceId <;>
    simp [identityFields, identityNames, Dictionary.lookupEntries, requestedWorkspace, stored]

theorem mem_identityFields_workspace :
    ("workspace_id", requestedWorkspace config request) ∈ identityFields config request := by
  cases stored : config.workspaceId <;>
    simp [identityFields, identityNames, requestedWorkspace, stored]

theorem Checked.valid {commit : CheckedCommit} {state : StreamState} (moment : Moment)
    (checked : Checked config commit) (adopts : Adopts config commit state) :
    ValidRecord (buildEvent commit state moment) := by
  obtain ⟨request, identity, agrees, names⟩ := checked
  rw [ValidRecord, validateEventIdentityFields_ok]
  intro field member
  obtain ⟨name, known, rfl⟩ := List.mem_map.mp member
  simp only [buildEvent, identity]
  apply agrees_envelopeFields agrees names _ known
  intro text stored
  have listed := agrees _ (@mem_identityFields_workspace config request)
  rcases adopts with own | ⟨unset, brought⟩
  · rw [own] at stored
    simp only [requestedWorkspace, stored] at listed
    refine ⟨?_, ?_⟩
    · rintro rfl
      exact config.workspaceId_ne_empty stored
    · intro inner innerIs
      exact (listed.same _ _ rfl innerIs).symm
  · rw [brought, identity, incomingWorkspace, lookupEntries_identityFields] at stored
    simp only [Option.bind_some, requestedWorkspace, unset] at stored
    obtain ⟨isText, named⟩ := identifier?_eq_some.mp stored
    refine ⟨named, ?_⟩
    intro inner innerIs
    rw [isText] at innerIs
    exact (Option.some.inj innerIs).symm

theorem gateEvent_ok {status : StreamStatus} {turnStreamId : String} {type gated : EventType}
    {payload filled : Fields}
    (ok : gateEvent status turnStreamId type payload = .ok (gated, filled)) :
    (status.isTerminal = true → gated = .interruptRejected) ∧
      (type ≠ .interruptRequested → gated = type) ∧
      ∀ name, name ≠ "reason" → filled.get name = payload.get name := by
  have reason {text : String} (name : String) (other : name ≠ "reason") :
      Fields.get (payload.insert "reason" (.str text)) name = payload.get name := by
    rw [Fields.get, Dictionary.lookup_insert_of_ne (Ne.symm other), Fields.get]
  unfold gateEvent at ok
  split at ok
  · rename_i interrupting
    have open_ : status.isTerminal = false := by rw [interrupting]; rfl
    rw [open_]
    split at ok
    · rename_i requested
      cases ok
      exact ⟨(fun other => by cases other), fun other => absurd requested other, reason⟩
    · split at ok
      · cases ok
        exact ⟨(fun other => by cases other), fun _ => rfl, fun _ _ => rfl⟩
      · cases ok
  · split at ok
    · split at ok
      · rename_i requested
        cases ok
        exact ⟨fun _ => rfl, fun other => absurd requested other, reason⟩
      · cases ok
    · rename_i passes
      cases ok
      refine ⟨?_, fun _ => rfl, fun _ _ => rfl⟩
      intro terminal
      by_contra other
      exact passes ⟨terminal, other⟩

theorem adoptWorkspace_ok {state adopted : StreamState}
    (ok : adoptWorkspace state identity = .ok adopted) :
    adopted = state ∨ (state.workspaceId = none ∧
      ∃ text, incomingWorkspace identity = some text ∧
        adopted = { state with workspaceId := some text }) := by
  unfold adoptWorkspace at ok
  split at ok
  · split at ok
    · cases ok
      exact .inl rfl
    · cases ok
  · rename_i incoming brought unset
    cases ok
    exact .inr ⟨unset, incoming, brought, rfl⟩
  · cases ok
    exact .inl rfl

structure AdmittedOn (config : StoreConfig) (state : StreamState) (request : CommitRequest)
    (commit : CheckedCommit) : Prop where
  checked : Checked config commit
  adopted : adoptWorkspace state commit.identity = .ok commit.state
  closed : state.streamStatus.isTerminal = true → commit.type = .interruptRejected
  type : ∀ type, EventType.ofName request.eventType = some type →
    type ≠ .interruptRequested → commit.type = type
  jobId : commit.jobId = request.jobId

theorem Admitted.on {system : StreamSystem} {checked commit : CheckedCommit}
    {state : StreamState} (admitted : Admitted config system request checked commit)
    (cached : system.cached = some state) : AdmittedOn config state request commit := by
  obtain ⟨⟨type, payload, identity⟩, payloadOk, rest⟩ := bind_ok admitted.checks
  simp only [cached] at rest
  obtain ⟨adopted, adoptOk, built⟩ := bind_ok rest
  cases Except.ok.inj built
  obtain ⟨closed, sameType, sameFields⟩ := gateEvent_ok admitted.gate
  unfold checkPayload at payloadOk
  cases named : EventType.ofName request.eventType with
  | none => simp [named] at payloadOk
  | some found =>
    simp only [named] at payloadOk
    obtain ⟨_, _, validating⟩ := bind_ok payloadOk
    obtain ⟨_, validated, made⟩ := bind_ok validating
    cases Except.ok.inj made
    have status : adopted.streamStatus = state.streamStatus := by
      rcases adoptWorkspace_ok adoptOk with rfl | ⟨_, text, _, rfl⟩ <;> rfl
    rw [status] at closed
    rw [admitted.rest]
    refine ⟨⟨request, rfl, validateEventIdentityFields_ok.mp validated, ?_⟩, adoptOk, closed,
      ?_, rfl⟩
    · intro name known
      apply sameFields
      rintro rfl
      revert known
      decide
    · intro type isType other
      cases named.symm.trans isType
      exact sameType other

end GraphAgent.MessageStream
