import GraphAgent.CatalogOutboxBatches
import GraphAgent.NavigationReceipts

/-!
# Receipts in any order

The receipts that one run of the server produces merge into the outbox whatever
their order, repetition and omission: no merge throws, no state goes back, and
what an operation shows is its receipt of the highest revision.
-/

namespace GraphAgent.Outbox

open Navigation NavigationSystem KeyedRows

deriving instance DecidableEq for Receipt

variable {outbox next final : CatalogOutbox} {operation old new : CatalogOutboxOperation}
  {receipt other : Receipt} {applied receipts : List Receipt}

structure Newer (older newer : Receipt) : Prop where
  revision : older.receiptRevision < newer.receiptRevision
  terminal : older.state.isTerminal = true → newer.state = older.state
  created : newer.createdNodeId = none → older.createdNodeId = none

def OneHistory (produced : Receipt → Prop) : Prop :=
  ∀ first second, produced first → produced second → first.operationId = second.operationId →
    first = second ∨ Newer first second ∨ Newer second first

def ServerProduces {Nodes : Type} (store : NodeStore Nodes)
    (choice : AnyRow NavigationMutationRecord) (nodes : Nodes)
    (commands : List (NavigationCommand Nodes × String)) (gatewayId workspaceId actor : String)
    (receipt : Receipt) : Prop :=
  Produces store choice nodes commands ⟨gatewayId, workspaceId, actor, receipt.operationId⟩ receipt

theorem newer_of_reports {row later : NavigationMutationRecord}
    (reports : NavigationQueue.Reports row later) :
    later.toReceipt = row.toReceipt ∨ Newer row.toReceipt later.toReceipt := by
  refine reports.imp id fun ⟨revision, terminal, created⟩ => ⟨?_, terminal, created⟩
  exact Int.ofNat_lt.mpr revision

theorem serverProduces_oneHistory {Nodes : Type} (store : NodeStore Nodes)
    (choice : AnyRow NavigationMutationRecord) (nodes : Nodes)
    (commands : List (NavigationCommand Nodes × String))
    (gatewayId workspaceId actor : String) :
    OneHistory (ServerProduces store choice nodes commands gatewayId workspaceId actor) := by
  intro first second early late same
  rw [ServerProduces, ← same] at late
  obtain ⟨row, later, reports, sides⟩ := produces_reports early late
  rcases sides with ⟨rfl, rfl⟩ | ⟨rfl, rfl⟩
  · exact (newer_of_reports reports).imp Eq.symm .inl
  · exact (newer_of_reports reports).imp id .inr

structure Unreported (operation : CatalogOutboxOperation) : Prop where
  isLocal : ∀ state, operation.state ≠ .reported state
  receiptRevision : operation.receiptRevision = none
  createdNodeId : operation.createdNodeId = none

def reportedState (receipt : Receipt) : OperationState :=
  if receipt.state.isTerminal then .reported receipt.state else .accepted

structure Shows (receipt : Receipt) (operation : CatalogOutboxOperation) : Prop where
  state : operation.state = reportedState receipt
  serverState : operation.serverState = some receipt.state
  queueSeq : operation.queueSeq = some receipt.queueSeq
  receiptRevision : operation.receiptRevision = some receipt.receiptRevision
  settlement : operation.settlement = receipt.settlement
  createdNodeId : operation.createdNodeId = receipt.createdNodeId
  committedCatalogRevision : operation.committedCatalogRevision = receipt.committedCatalogRevision
  errorCode : operation.errorCode = receipt.errorCode
  errorDetail : operation.errorDetail = receipt.errorDetail

def Merged (applied : List Receipt) (operation : CatalogOutboxOperation) : Prop :=
  applied = [] ∧ Unreported operation ∨
    ∃ receipt ∈ applied, (∀ other ∈ applied, other.receiptRevision ≤ receipt.receiptRevision) ∧
      Shows receipt operation

def Forward (before after : OperationState) : Prop :=
  (∀ state, before = .reported state → state.isTerminal = true → after = before) ∧
    (before = .accepted → after = .accepted ∨
      ∃ state, state.isTerminal = true ∧ after = .reported state)

theorem Forward.refl (state : OperationState) : Forward state state :=
  ⟨fun _ _ _ => rfl, fun accepted => .inl accepted⟩

theorem Forward.trans {first second third : OperationState} (early : Forward first second)
    (late : Forward second third) : Forward first third := by
  refine ⟨fun state reported terminal => ?_, fun accepted => ?_⟩
  · have same := early.1 state reported terminal
    exact (late.1 state (same.trans reported) terminal).trans same
  · rcases early.2 accepted with still | ⟨state, terminal, ended⟩
    · exact late.2 still
    · exact .inr ⟨state, terminal, (late.1 state ended terminal).trans ended⟩

theorem Unreported.isTerminal (unreported : Unreported operation) :
    operation.isTerminal = false := by
  rw [CatalogOutboxOperation.isTerminal]
  split
  · rename_i state reported
    exact absurd reported (unreported.isLocal state)
  · rfl

theorem Shows.isTerminal (shows : Shows receipt operation) :
    operation.isTerminal = receipt.state.isTerminal := by
  rw [CatalogOutboxOperation.isTerminal, shows.state, reportedState]
  cases terminal : receipt.state.isTerminal
  · rfl
  · exact terminal

theorem nextState_unreported (unreported : Unreported operation) :
    nextCatalogOutboxState operation.state receipt.state = reportedState receipt := by
  unfold nextCatalogOutboxState reportedState
  split
  · rfl
  · cases state : operation.state with
    | reported reported => exact absurd state (unreported.isLocal reported)
    | _ => rfl

theorem forward_unreported (unreported : Unreported operation) :
    Forward operation.state (reportedState receipt) := by
  refine ⟨fun state reported => absurd reported (unreported.isLocal state), fun _ => ?_⟩
  unfold reportedState
  split
  · rename_i terminal
    exact .inr ⟨receipt.state, terminal, rfl⟩
  · exact .inl rfl

theorem nextState_shows (shows : Shows other operation) (newer : Newer other receipt) :
    nextCatalogOutboxState operation.state receipt.state = reportedState receipt := by
  unfold nextCatalogOutboxState
  rw [shows.state]
  cases terminal : receipt.state.isTerminal with
  | true => simp [reportedState, terminal]
  | false =>
    have wasLive : other.state.isTerminal = false := by
      by_contra ended
      have kept := newer.terminal (Bool.not_eq_false _ ▸ ended)
      rw [← kept, terminal] at ended
      exact ended rfl
    simp [reportedState, terminal, wasLive]

theorem forward_newer (newer : Newer other receipt) :
    Forward (reportedState other) (reportedState receipt) := by
  unfold reportedState
  cases ended : other.state.isTerminal with
  | true =>
    rw [newer.terminal ended, ended]
    exact .refl _
  | false =>
    refine ⟨fun state reported => by simp at reported, fun _ => ?_⟩
    split
    · rename_i terminal
      exact .inr ⟨receipt.state, terminal, rfl⟩
    · exact .inl rfl

theorem Merged.apply (merged : Merged applied operation)
    (agree : ∀ other ∈ applied, other = receipt ∨ Newer other receipt ∨ Newer receipt other) :
    ∃ new, applyCatalogOutboxOperationReceipt receipt operation = .ok new ∧
      Merged (applied ++ [receipt]) new ∧ Forward operation.state new.state := by
  have last : receipt ∈ applied ++ [receipt] := List.mem_append_right _ List.mem_cons_self
  unfold applyCatalogOutboxOperationReceipt
  rcases merged with ⟨rfl, unreported⟩ | ⟨shown, member, newest, shows⟩
  · have live := unreported.isTerminal
    rw [unreported.receiptRevision, if_neg (by simp), if_neg (by simp [live])]
    refine ⟨_, rfl, .inr ⟨receipt, last, fun other member => ?_, ?_⟩, ?_⟩
    · rw [List.nil_append, List.mem_singleton] at member
      rw [member]
    · exact ⟨nextState_unreported unreported, rfl, rfl, rfl, rfl,
        by rw [unreported.createdNodeId, Option.or_none], rfl, rfl, rfl⟩
    · change Forward operation.state (nextCatalogOutboxState operation.state receipt.state)
      rw [nextState_unreported unreported]
      exact forward_unreported unreported
  · rw [shows.receiptRevision]
    by_cases late : receipt.receiptRevision ≤ shown.receiptRevision
    · rw [if_pos (by simpa using late)]
      refine ⟨operation, rfl, .inr ⟨shown, List.mem_append_left _ member, ?_, shows⟩, .refl _⟩
      intro other otherMember
      rcases List.mem_append.mp otherMember with old | new
      · exact newest other old
      · rw [List.mem_singleton.mp new]
        exact late
    · have newer : Newer shown receipt := by
        rcases agree shown member with rfl | newer | older
        · exact absurd le_rfl late
        · exact newer
        · exact absurd (Int.le_of_lt older.revision) late
      have noConflict : ¬ (operation.isTerminal = true ∧
          operation.state ≠ .reported receipt.state) := by
        rintro ⟨terminal, conflict⟩
        rw [shows.isTerminal] at terminal
        refine conflict ?_
        rw [shows.state, reportedState, if_pos terminal, newer.terminal terminal]
      rw [if_neg (by simpa using Int.not_le.mp late), if_neg noConflict]
      refine ⟨_, rfl, .inr ⟨receipt, last, fun other otherMember => ?_, ?_⟩, ?_⟩
      · rcases List.mem_append.mp otherMember with old | new
        · exact (newest other old).trans (Int.le_of_lt newer.revision)
        · rw [List.mem_singleton.mp new]
      · refine ⟨nextState_shows shows newer, rfl, rfl, rfl, rfl, ?_, rfl, rfl, rfl⟩
        change receipt.createdNodeId.or operation.createdNodeId = receipt.createdNodeId
        cases created : receipt.createdNodeId with
        | some nodeId => rfl
        | none => rw [shows.createdNodeId, newer.created created, Option.or_none]
      · change Forward operation.state (nextCatalogOutboxState operation.state receipt.state)
        rw [nextState_shows shows newer, shows.state]
        exact forward_newer newer

theorem Merged.markUnknown (merged : Merged applied operation) :
    ∃ new, asUnknown operation = .ok new ∧ Merged applied new ∧
      Forward operation.state new.state := by
  unfold asUnknown
  by_cases persisted : operation.state = .persisted
  · rw [if_pos persisted]
    refine ⟨_, rfl, ?_, ?_⟩
    · rcases merged with ⟨rfl, unreported⟩ | ⟨shown, member, newest, shows⟩
      · refine .inl ⟨rfl, ⟨fun state => ?_, unreported.receiptRevision,
          unreported.createdNodeId⟩⟩
        simp
      · have state := shows.state
        rw [persisted, reportedState] at state
        split at state <;> cases state
    · rw [persisted]
      exact ⟨fun state reported => absurd reported (by simp),
        fun accepted => absurd accepted (by simp)⟩
  · rw [if_neg persisted]
    exact ⟨operation, rfl, merged, .refl _⟩

structure Moves (before after : CatalogOutboxOperation) : Prop where
  clientOperationId : after.clientOperationId = before.clientOperationId
  state : Forward before.state after.state

theorem Moves.refl (operation : CatalogOutboxOperation) : Moves operation operation :=
  ⟨rfl, .refl _⟩

theorem Moves.trans {first second third : CatalogOutboxOperation} (early : Moves first second)
    (late : Moves second third) : Moves first third :=
  ⟨late.clientOperationId.trans early.clientOperationId, early.state.trans late.state⟩

theorem moves_refl (outbox : CatalogOutbox) : List.Forall₂ Moves outbox outbox :=
  List.forall₂_same.mpr fun operation _ => .refl operation

theorem moves_trans {first second third : CatalogOutbox}
    (early : List.Forall₂ Moves first second) (late : List.Forall₂ Moves second third) :
    List.Forall₂ Moves first third := by
  induction early generalizing third with
  | nil => exact late
  | cons move _ ih =>
    cases late with
    | cons next rest => exact .cons (move.trans next) (ih rest)

theorem moves_ids (moves : List.Forall₂ Moves outbox next) :
    next.map (·.clientOperationId) = outbox.map (·.clientOperationId) := by
  induction moves with
  | nil => rfl
  | cons move _ ih => rw [List.map_cons, List.map_cons, ih, move.clientOperationId]

def AllMerged (applied : List Receipt) (outbox : CatalogOutbox) : Prop :=
  ∀ operation ∈ outbox,
    Merged (applied.filter (·.operationId = operation.clientOperationId)) operation

theorem update_spec {missing : OutboxError} {operationId : String}
    {update : CatalogOutboxOperation → Except OutboxError CatalogOutboxOperation}
    (unique : (outbox.map (·.clientOperationId)).Nodup)
    (present : operationId ∈ outbox.map (·.clientOperationId))
    (succeeds : ∀ operation ∈ outbox, operation.clientOperationId = operationId →
      ∃ new, update operation = .ok new ∧ Moves operation new) :
    ∃ next, updateCatalogOutboxOperation missing operationId update outbox = .ok next ∧
      List.Forall₂ Moves outbox next ∧
      ∀ new ∈ next, new ∈ outbox ∧ new.clientOperationId ≠ operationId ∨
        ∃ old ∈ outbox, old.clientOperationId = operationId ∧ update old = .ok new := by
  induction outbox with
  | nil => cases present
  | cons first rest ih =>
    rw [List.map_cons, List.nodup_cons] at unique
    rw [updateCatalogOutboxOperation]
    by_cases found : first.clientOperationId = operationId
    · obtain ⟨new, changed, moves⟩ := succeeds first List.mem_cons_self found
      rw [if_pos found, changed]
      refine ⟨new :: rest, rfl, .cons moves (moves_refl rest), fun other member => ?_⟩
      rcases List.mem_cons.mp member with rfl | later
      · exact .inr ⟨first, List.mem_cons_self, found, changed⟩
      · refine .inl ⟨List.mem_cons_of_mem _ later, fun same => unique.1 ?_⟩
        exact found.trans same.symm ▸ List.mem_map_of_mem later
    · have later : operationId ∈ rest.map (·.clientOperationId) :=
        (List.mem_cons.mp present).resolve_left fun same => found same.symm
      obtain ⟨next, did, moves, origin⟩ := ih unique.2 later fun operation member =>
        succeeds operation (List.mem_cons_of_mem _ member)
      rw [if_neg found, did]
      refine ⟨first :: next, rfl, .cons (.refl first) moves, fun other member => ?_⟩
      rcases List.mem_cons.mp member with rfl | inNext
      · exact .inl ⟨List.mem_cons_self, found⟩
      · rcases origin other inNext with ⟨old, differs⟩ | ⟨old, inRest, same, changed⟩
        · exact .inl ⟨List.mem_cons_of_mem _ old, differs⟩
        · exact .inr ⟨old, List.mem_cons_of_mem _ inRest, same, changed⟩

theorem applyReceipt_id (ok : applyCatalogOutboxOperationReceipt receipt old = .ok new) :
    new.clientOperationId = old.clientOperationId :=
  congrArg (·.1.1) (applyReceipt_keeps receipt old new ok)

theorem asUnknown_id (ok : asUnknown old = .ok new) :
    new.clientOperationId = old.clientOperationId :=
  congrArg (·.1.1) (asUnknown_keeps old new ok)

theorem AllMerged.mergeReceipt {produced : Receipt → Prop} (history : OneHistory produced)
    (unique : (outbox.map (·.clientOperationId)).Nodup) (merged : AllMerged applied outbox)
    (old : ∀ other ∈ applied, produced other) (isProduced : produced receipt)
    (registered : receipt.operationId ∈ outbox.map (·.clientOperationId)) :
    ∃ next, updateCatalogOutboxOperation (.receiptUnregistered receipt.operationId)
        receipt.operationId (applyCatalogOutboxOperationReceipt receipt) outbox = .ok next ∧
      AllMerged (applied ++ [receipt]) next ∧ List.Forall₂ Moves outbox next := by
  have apply : ∀ operation ∈ outbox, operation.clientOperationId = receipt.operationId →
      ∃ new, applyCatalogOutboxOperationReceipt receipt operation = .ok new ∧
        Merged (applied.filter (·.operationId = operation.clientOperationId) ++ [receipt]) new ∧
        Forward operation.state new.state := by
    intro operation member same
    refine (merged operation member).apply fun other otherMember => ?_
    obtain ⟨inApplied, own⟩ := List.mem_filter.mp otherMember
    exact history other receipt (old other inApplied) isProduced
      ((of_decide_eq_true own).trans same)
  obtain ⟨next, did, moves, origin⟩ := update_spec unique registered fun operation member same => by
    obtain ⟨new, changed, _, forward⟩ := apply operation member same
    exact ⟨new, changed, applyReceipt_id changed, forward⟩
  refine ⟨next, did, fun new member => ?_, moves⟩
  rw [List.filter_append]
  rcases origin new member with ⟨inOutbox, differs⟩ | ⟨before, inOutbox, same, changed⟩
  · have none : [receipt].filter (·.operationId = new.clientOperationId) = [] := by
      simp [Ne.symm differs]
    rw [none, List.append_nil]
    exact merged new inOutbox
  · have id := applyReceipt_id changed
    have one : [receipt].filter (·.operationId = new.clientOperationId) = [receipt] := by
      simp [id, same]
    obtain ⟨other, otherChanged, otherMerged, _⟩ := apply before inOutbox same
    rw [one, id]
    exact Except.ok.inj (otherChanged.symm.trans changed) ▸ otherMerged

inductive MergeCall where
  | receipts (receipts : List Receipt)
  | markUnknown (operationIds : List String)

namespace MergeCall

def call (outbox : CatalogOutbox) : MergeCall → Except OutboxError CatalogOutbox
  | .receipts receipts => applyCatalogOutboxReceipts outbox receipts
  | .markUnknown operationIds => markCatalogOutboxOperationsUnknown outbox operationIds

def merged : MergeCall → List Receipt
  | .receipts receipts => receipts
  | .markUnknown _ => []

def operationIds : MergeCall → List String
  | .receipts receipts => receipts.map (·.operationId)
  | .markUnknown operationIds => operationIds

end MergeCall

/-- One call after another, up to the first that throws. -/
def mergeAll (outbox : CatalogOutbox) (calls : List MergeCall) :
    Except OutboxError CatalogOutbox :=
  calls.foldlM MergeCall.call outbox

structure MergeCall.Valid (produced : Receipt → Prop) (outbox : CatalogOutbox)
    (call : MergeCall) : Prop where
  produced : ∀ receipt ∈ call.merged, produced receipt
  registered : ∀ operationId ∈ call.operationIds,
    operationId ∈ outbox.map (·.clientOperationId)

variable {produced : Receipt → Prop}

theorem AllMerged.mergeReceipts (history : OneHistory produced)
    (unique : (outbox.map (·.clientOperationId)).Nodup) (merged : AllMerged applied outbox)
    (old : ∀ other ∈ applied, produced other)
    (valid : MergeCall.Valid produced outbox (.receipts receipts)) :
    ∃ next, applyCatalogOutboxReceipts outbox receipts = .ok next ∧
      AllMerged (applied ++ receipts) next ∧ List.Forall₂ Moves outbox next := by
  induction receipts generalizing outbox applied with
  | nil => exact ⟨outbox, rfl, by rwa [List.append_nil], moves_refl outbox⟩
  | cons receipt rest ih =>
    have isProduced := valid.produced receipt List.mem_cons_self
    obtain ⟨middle, did, middleMerged, moves⟩ := merged.mergeReceipt history unique old isProduced
      (valid.registered receipt.operationId List.mem_cons_self)
    have ids := moves_ids moves
    have rest : MergeCall.Valid produced middle (.receipts rest) :=
      ⟨fun other member => valid.produced other (List.mem_cons_of_mem _ member),
        fun operationId member => ids ▸ valid.registered operationId
          (List.mem_cons_of_mem _ member)⟩
    obtain ⟨next, others, nextMerged, later⟩ := ih (ids ▸ unique) middleMerged
      (fun other member => (List.mem_append.mp member).elim (old other)
        fun new => List.mem_singleton.mp new ▸ isProduced) rest
    refine ⟨next, ?_, ?_, moves_trans moves later⟩
    · rw [applyCatalogOutboxReceipts, List.foldlM_cons, did]
      exact others
    · rwa [List.append_assoc, List.singleton_append] at nextMerged

theorem AllMerged.unknown {operationIds : List String}
    (unique : (outbox.map (·.clientOperationId)).Nodup) (merged : AllMerged applied outbox)
    (registered : ∀ operationId ∈ operationIds,
      operationId ∈ outbox.map (·.clientOperationId)) :
    ∃ next, markCatalogOutboxOperationsUnknown outbox operationIds = .ok next ∧
      AllMerged applied next ∧ List.Forall₂ Moves outbox next := by
  induction operationIds generalizing outbox with
  | nil => exact ⟨outbox, rfl, merged, moves_refl outbox⟩
  | cons operationId rest ih =>
    obtain ⟨middle, did, moves, origin⟩ :=
      @update_spec outbox (.operationMissing operationId) operationId asUnknown unique
        (registered operationId List.mem_cons_self) fun operation member _ => by
          obtain ⟨new, changed, _, forward⟩ := (merged operation member).markUnknown
          exact ⟨new, changed, asUnknown_id changed, forward⟩
    have middleMerged : AllMerged applied middle := by
      intro new member
      rcases origin new member with ⟨inOutbox, _⟩ | ⟨before, inOutbox, _, changed⟩
      · exact merged new inOutbox
      · obtain ⟨other, otherChanged, otherMerged, _⟩ := (merged before inOutbox).markUnknown
        rw [asUnknown_id changed]
        exact Except.ok.inj (otherChanged.symm.trans changed) ▸ otherMerged
    have ids := moves_ids moves
    obtain ⟨next, others, nextMerged, later⟩ := ih (ids ▸ unique) middleMerged
      fun id member => ids ▸ registered id (List.mem_cons_of_mem _ member)
    refine ⟨next, ?_, nextMerged, moves_trans moves later⟩
    rw [markCatalogOutboxOperationsUnknown, List.foldlM_cons, did]
    exact others

theorem AllMerged.call (history : OneHistory produced)
    (unique : (outbox.map (·.clientOperationId)).Nodup) (merged : AllMerged applied outbox)
    (old : ∀ other ∈ applied, produced other) {call : MergeCall}
    (valid : call.Valid produced outbox) :
    ∃ next, call.call outbox = .ok next ∧ AllMerged (applied ++ call.merged) next ∧
      List.Forall₂ Moves outbox next := by
  cases call with
  | receipts receipts => exact merged.mergeReceipts history unique old valid
  | markUnknown operationIds =>
    obtain ⟨next, did, nextMerged, moves⟩ := merged.unknown unique valid.registered
    exact ⟨next, did, by rwa [MergeCall.merged, List.append_nil], moves⟩

theorem AllMerged.calls (history : OneHistory produced)
    (unique : (outbox.map (·.clientOperationId)).Nodup) (merged : AllMerged applied outbox)
    (old : ∀ other ∈ applied, produced other) {calls : List MergeCall}
    (valid : ∀ call ∈ calls, call.Valid produced outbox) :
    ∃ next, mergeAll outbox calls = .ok next ∧
      AllMerged (applied ++ calls.flatMap MergeCall.merged) next ∧
      List.Forall₂ Moves outbox next := by
  induction calls generalizing outbox applied with
  | nil => exact ⟨outbox, rfl, by rwa [List.flatMap_nil, List.append_nil], moves_refl outbox⟩
  | cons call rest ih =>
    have own := valid call List.mem_cons_self
    obtain ⟨middle, did, middleMerged, moves⟩ := merged.call history unique old own
    have ids := moves_ids moves
    obtain ⟨next, others, nextMerged, later⟩ := ih (ids ▸ unique) middleMerged
      (fun other member => (List.mem_append.mp member).elim (old other) (own.produced other))
      fun other member => by
        have isValid := valid other (List.mem_cons_of_mem _ member)
        exact ⟨isValid.produced, fun id names => ids ▸ isValid.registered id names⟩
    refine ⟨next, ?_, ?_, moves_trans moves later⟩
    · rw [mergeAll, List.foldlM_cons, did]
      exact others
    · rwa [List.append_assoc, ← List.flatMap_cons] at nextMerged

theorem Merged.shows (history : OneHistory produced) (merged : Merged applied operation)
    (old : ∀ other ∈ applied, produced other ∧ other.operationId = operation.clientOperationId)
    (member : receipt ∈ applied)
    (newest : ∀ other ∈ applied, other.receiptRevision ≤ receipt.receiptRevision) :
    Shows receipt operation := by
  rcases merged with ⟨rfl, _⟩ | ⟨shown, shownMember, highest, shows⟩
  · cases member
  · have below := newest shown shownMember
    have above := highest receipt member
    have ids := (old receipt member).2.trans (old shown shownMember).2.symm
    rcases history receipt shown (old receipt member).1 (old shown shownMember).1 ids with
      rfl | newer | older
    · exact shows
    · exact absurd newer.revision (Int.not_lt.mpr below)
    · exact absurd older.revision (Int.not_lt.mpr above)

/-- Receipts of one server run, for operations that no receipt has reached: in any order,
number and grouping, with unknown marks in between, every call succeeds, no later call moves
a state back, and each operation shows its receipt of the highest revision. -/
theorem receipts_merge_in_any_order {Nodes : Type} (store : NodeStore Nodes)
    (choice : AnyRow NavigationMutationRecord) (nodes : Nodes)
    (commands : List (NavigationCommand Nodes × String)) (gatewayId workspaceId actor : String)
    (outbox : CatalogOutbox) (unique : (outbox.map (·.clientOperationId)).Nodup)
    (unreported : ∀ operation ∈ outbox, Unreported operation) (calls more : List MergeCall)
    (valid : ∀ call ∈ calls ++ more, call.Valid
      (ServerProduces store choice nodes commands gatewayId workspaceId actor) outbox) :
    ∃ merged final, mergeAll outbox calls = .ok merged ∧ mergeAll merged more = .ok final ∧
      List.Forall₂ Moves outbox merged ∧ List.Forall₂ Moves merged final ∧
      ∀ operation ∈ final, ∀ receipt ∈ (calls ++ more).flatMap MergeCall.merged,
        receipt.operationId = operation.clientOperationId →
        (∀ other ∈ (calls ++ more).flatMap MergeCall.merged,
          other.operationId = operation.clientOperationId →
          other.receiptRevision ≤ receipt.receiptRevision) → Shows receipt operation := by
  have history :=
    serverProduces_oneHistory store choice nodes commands gatewayId workspaceId actor
  have start : AllMerged [] outbox :=
    fun operation member => .inl ⟨rfl, unreported operation member⟩
  obtain ⟨merged, did, isMerged, early⟩ := start.calls history unique
    (fun _ absent => absurd absent List.not_mem_nil)
    fun call member => valid call (List.mem_append_left _ member)
  rw [List.nil_append] at isMerged
  have ids := moves_ids early
  have produced : ∀ receipt ∈ (calls ++ more).flatMap MergeCall.merged,
      ServerProduces store choice nodes commands gatewayId workspaceId actor receipt := by
    intro receipt member
    obtain ⟨call, inCalls, inCall⟩ := List.mem_flatMap.mp member
    exact (valid call inCalls).produced receipt inCall
  obtain ⟨final, others, finalMerged, late⟩ := isMerged.calls history (ids ▸ unique)
    (fun receipt member => produced receipt (by
      rw [List.flatMap_append]
      exact List.mem_append_left _ member))
    fun call member => by
      have isValid := valid call (List.mem_append_right _ member)
      exact ⟨isValid.produced, fun id names => ids ▸ isValid.registered id names⟩
  refine ⟨merged, final, did, others, early, late, fun operation member receipt applied own
    newest => ?_⟩
  rw [← List.flatMap_append] at finalMerged
  refine (finalMerged operation member).shows history (fun other inFilter => ?_)
    (List.mem_filter.mpr ⟨applied, decide_eq_true own⟩) fun other inFilter => ?_
  · obtain ⟨inApplied, same⟩ := List.mem_filter.mp inFilter
    exact ⟨produced other inApplied, of_decide_eq_true same⟩
  · obtain ⟨inApplied, same⟩ := List.mem_filter.mp inFilter
    exact newest other inApplied (of_decide_eq_true same)

def createdOperation : CatalogOutboxOperation :=
  { pendingOperation "op_00000000000000000000000000000001" folderIntent ⟨0, none, []⟩ with
    clientSequence := some 1
    state := .persisted }

def createdReceipt (state : NavigationMutationState) (committedCatalogRevision : Option Int)
    (receiptRevision : Int) : Receipt where
  operationId := "op_00000000000000000000000000000001"
  queueSeq := 1
  state := state
  createdNodeId := some "ses_1"
  committedCatalogRevision := committedCatalogRevision
  errorCode := none
  errorDetail := none
  settlement := none
  receiptRevision := receiptRevision

/-- The commit arrives first, the acceptance late and the commit again. -/
theorem receipts_merge_in_any_order_late :
    ∃ merged final,
      mergeAll [createdOperation] [.receipts [createdReceipt .committed (some 1) 3]] =
        .ok merged ∧
      mergeAll merged [.markUnknown ["op_00000000000000000000000000000001"],
        .receipts [createdReceipt .queued none 1, createdReceipt .committed (some 1) 3]] =
        .ok final ∧
      List.Forall₂ Moves [createdOperation] merged ∧ List.Forall₂ Moves merged final ∧
      ∀ operation ∈ final, ∀ receipt ∈ [createdReceipt .committed (some 1) 3,
          createdReceipt .queued none 1, createdReceipt .committed (some 1) 3],
        receipt.operationId = operation.clientOperationId →
        (∀ other ∈ [createdReceipt .committed (some 1) 3,
            createdReceipt .queued none 1, createdReceipt .committed (some 1) 3],
          other.operationId = operation.clientOperationId →
          other.receiptRevision ≤ receipt.receiptRevision) → Shows receipt operation := by
  have committed : ServerProduces sampleStore .first [] takeoverCommands "gw" "ws" "alice"
      (createdReceipt .committed (some 1) 3) :=
    ⟨takeoverCommands.take 4, takeoverCommands.drop 4, rfl, by decide +kernel⟩
  have queued : ServerProduces sampleStore .first [] takeoverCommands "gw" "ws" "alice"
      (createdReceipt .queued none 1) :=
    ⟨takeoverCommands.take 1, takeoverCommands.drop 1, rfl, by decide +kernel⟩
  refine receipts_merge_in_any_order sampleStore .first [] takeoverCommands "gw" "ws" "alice"
    [createdOperation] (by decide) ?_ _ _ ?_
  · intro operation member
    rw [List.mem_singleton.mp member]
    exact ⟨fun state => by simp [createdOperation], rfl, rfl⟩
  · intro call member
    have either : call = .receipts [createdReceipt .committed (some 1) 3] ∨
        call = .markUnknown ["op_00000000000000000000000000000001"] ∨
        call = .receipts [createdReceipt .queued none 1,
          createdReceipt .committed (some 1) 3] := by
      simpa using member
    rcases either with rfl | rfl | rfl
    · refine ⟨fun receipt merged => ?_, by decide⟩
      rw [List.mem_singleton.mp merged]
      exact committed
    · exact ⟨fun receipt merged => absurd merged List.not_mem_nil, by decide⟩
    · refine ⟨fun receipt merged => ?_, by decide⟩
      have which : receipt = createdReceipt .queued none 1 ∨
          receipt = createdReceipt .committed (some 1) 3 := by
        simpa [MergeCall.merged] using merged
      rcases which with rfl | rfl
      · exact queued
      · exact committed

end GraphAgent.Outbox
