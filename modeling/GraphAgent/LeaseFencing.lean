import GraphAgent.OperationLeases

/-!
# Fencing of operation leases

What one call can do to the lease table, the invariant every call keeps, and
the order in which a row succeeds its earlier versions: identities never change,
the token and the holder move up together, and a terminal row stays.
-/

namespace GraphAgent.SessionControl

open KeyedRows Transaction

structure Succeeds (later earlier : SessionOperationLease) : Prop where
  leaseId : later.leaseId = earlier.leaseId
  operationKind : later.operationKind = earlier.operationKind
  operationIdentity : later.operationIdentity = earlier.operationIdentity
  preimageHash : later.preimageHash = earlier.preimageHash
  capturedLifecycleGeneration :
    later.capturedLifecycleGeneration = earlier.capturedLifecycleGeneration
  fencingToken : earlier.fencingToken ≤ later.fencingToken
  generations :
    later.holderGeneration + earlier.fencingToken = earlier.holderGeneration + later.fencingToken
  final : earlier.state.isTerminal = true → later = earlier

namespace Succeeds

@[refl]
theorem refl (lease : SessionOperationLease) : Succeeds lease lease :=
  ⟨rfl, rfl, rfl, rfl, rfl, le_rfl, rfl, fun _ => rfl⟩

theorem trans {first second third : SessionOperationLease} (next : Succeeds third second)
    (start : Succeeds second first) : Succeeds third first where
  leaseId := next.leaseId.trans start.leaseId
  operationKind := next.operationKind.trans start.operationKind
  operationIdentity := next.operationIdentity.trans start.operationIdentity
  preimageHash := next.preimageHash.trans start.preimageHash
  capturedLifecycleGeneration :=
    next.capturedLifecycleGeneration.trans start.capturedLifecycleGeneration
  fencingToken := start.fencingToken.trans next.fencingToken
  generations := by
    have early := start.generations
    have late := next.generations
    omega
  final := by
    intro terminal
    have same := start.final terminal
    rw [next.final (by rw [same]; exact terminal), same]

end Succeeds

namespace ControlDatabase

variable {database next : ControlDatabase} {leaseId nowText : String}
  {lease : SessionOperationLease} {token : Nat}

structure Consistent (database : ControlDatabase) : Prop where
  leaseIds : (database.leases.map SessionOperationLease.leaseId).Nodup
  operations : (database.leases.map fun lease =>
    (lease.capturedLifecycleGeneration, lease.operationIdentity)).Nodup
  admitted : ∀ lease ∈ database.leases,
    database.fence = some ⟨.active, lease.capturedLifecycleGeneration⟩ ∨
      database.fence = some ⟨.deleting, lease.capturedLifecycleGeneration + 1⟩
  holders : ∀ lease ∈ database.leases, lease.holderGeneration = lease.fencingToken

/-- Everything a committed call can do to the database. -/
inductive LeaseStep (database : ControlDatabase) : ControlDatabase → Prop where
  | unchanged : LeaseStep database database
  | fenced (fence : LifecycleFence) (absent : database.fence = none) :
      LeaseStep database { database with fence := some fence }
  | deleting (generation : Nat) (active : database.fence = some ⟨.active, generation⟩) :
      LeaseStep database { database with fence := some ⟨.deleting, generation + 1⟩ }
  | admitted (lease : SessionOperationLease)
      (active : database.fence = some ⟨.active, lease.capturedLifecycleGeneration⟩)
      (newId : database.leaseRow lease.leaseId = none)
      (newOperation : database.leaseOfOperation lease.capturedLifecycleGeneration
        lease.operationIdentity = none)
      (holder : lease.holderGeneration = lease.fencingToken) :
      LeaseStep database { database with leases := database.leases ++ [lease] }
  | changed (matching : SessionOperationLease → Bool)
      (change : SessionOperationLease → SessionOperationLease)
      (succeeds : ∀ lease, matching lease = true → Succeeds (change lease) lease) :
      LeaseStep database (database.rewriteLeases matching change)

theorem leaseRowOrRaise_ok (found : database.leaseRow leaseId = some lease) :
    database.leaseRowOrRaise leaseId = .ok lease := by
  rw [leaseRowOrRaise, found]

theorem leaseRowOrRaise_none (absent : database.leaseRow leaseId = none) :
    ∃ error, database.leaseRowOrRaise leaseId = .error error := by
  rw [leaseRowOrRaise, absent]
  exact ⟨_, rfl⟩

theorem leaseRow_of_ok (succeeded : database.leaseRowOrRaise leaseId = .ok lease) :
    database.leaseRow leaseId = some lease := by
  unfold leaseRowOrRaise at succeeded
  split at succeeded
  · cases succeeded
  · rename_i row found
    cases succeeded
    exact found

section CompareAndSet

variable {allowed : SessionOperationLease → Bool}
  {change : SessionOperationLease → SessionOperationLease}
  {conflict : SessionOperationLease → String}

theorem filter_named (distinct : (database.leases.map SessionOperationLease.leaseId).Nodup)
    (found : database.leaseRow leaseId = some lease) (permitted : allowed lease = true) :
    (database.leases.filter (named leaseId allowed)).length = 1 := by
  have member := fetch_mem found
  have key := fetch_key found
  have single : database.leases.filter (named leaseId allowed) = [lease] := by
    refine List.perm_singleton.mp ((List.perm_ext_iff_of_nodup
      (distinct.of_map.filter _) (List.nodup_singleton lease)).mpr ?_)
    intro row
    constructor
    · intro kept
      have rowMember := List.mem_of_mem_filter kept
      have rowNamed := List.of_mem_filter kept
      simp only [named, Bool.and_eq_true, decide_eq_true_eq] at rowNamed
      rw [List.mem_singleton]
      exact eq_of_key_eq distinct rowMember member (rowNamed.1.trans key.symm)
    · intro same
      rw [List.mem_singleton.mp same]
      exact List.mem_filter.mpr ⟨member, by simp [named, key, permitted]⟩
  rw [single]
  rfl

theorem filter_named_empty (distinct : (database.leases.map SessionOperationLease.leaseId).Nodup)
    (refused : ∀ lease, database.leaseRow leaseId = some lease → allowed lease = false) :
    (database.leases.filter (named leaseId allowed)).length = 0 := by
  rw [List.length_eq_zero_iff, List.filter_eq_nil_iff]
  intro row member rowNamed
  simp only [named, Bool.and_eq_true, decide_eq_true_eq] at rowNamed
  have found : database.leaseRow leaseId = some row := by
    rw [← rowNamed.1]
    exact fetch_of_mem distinct member
  rw [refused row found] at rowNamed
  exact absurd rowNamed.2 (by decide)

theorem compareAndSet_allowed
    (distinct : (database.leases.map SessionOperationLease.leaseId).Nodup)
    (keeps : ∀ row, (change row).leaseId = row.leaseId)
    (found : database.leaseRow leaseId = some lease) (permitted : allowed lease = true) :
    database.compareAndSet leaseId allowed change conflict =
      .ok (change lease, database.rewriteLeases (named leaseId allowed) change) := by
  have one := filter_named distinct found permitted
  have matched : named leaseId allowed lease = true := by
    simp [named, fetch_key found, permitted]
  have changed := fetch_updateWhere_self keeps found matched
  unfold compareAndSet
  rw [if_pos one]
  rw [leaseRowOrRaise_ok (show (database.rewriteLeases _ change).leaseRow leaseId = _ from changed)]
  rfl

theorem compareAndSet_refused
    (distinct : (database.leases.map SessionOperationLease.leaseId).Nodup)
    (refused : ∀ lease, database.leaseRow leaseId = some lease → allowed lease = false) :
    ∃ error, database.compareAndSet leaseId allowed change conflict = .error error := by
  have none := filter_named_empty distinct refused
  have different : (database.leases.filter (named leaseId allowed)).length ≠ 1 := by omega
  unfold compareAndSet
  rw [if_neg different]
  cases row : database.leaseRow leaseId with
  | none =>
    obtain ⟨error, raised⟩ := leaseRowOrRaise_none row
    rw [raised]
    exact ⟨error, rfl⟩
  | some lease =>
    rw [leaseRowOrRaise_ok row]
    exact ⟨_, rfl⟩

theorem compareAndSet_ok (distinct : (database.leases.map SessionOperationLease.leaseId).Nodup)
    (keeps : ∀ row, (change row).leaseId = row.leaseId)
    (succeeded : database.compareAndSet leaseId allowed change conflict = .ok (lease, next)) :
    ∃ earlier, database.leaseRow leaseId = some earlier ∧ allowed earlier = true ∧
      lease = change earlier ∧ next = database.rewriteLeases (named leaseId allowed) change := by
  by_cases permitted : ∃ earlier, database.leaseRow leaseId = some earlier ∧
      allowed earlier = true
  · obtain ⟨earlier, found, allow⟩ := permitted
    rw [compareAndSet_allowed distinct keeps found allow] at succeeded
    cases succeeded
    exact ⟨earlier, found, allow, rfl, rfl⟩
  · have refused : ∀ lease, database.leaseRow leaseId = some lease → allowed lease = false := by
      intro row found
      rw [← Bool.not_eq_true]
      intro allow
      exact permitted ⟨row, found, allow⟩
    obtain ⟨error, raised⟩ := compareAndSet_refused distinct refused
    rw [raised] at succeeded
    cases succeeded

theorem compareAndSet_step (consistent : database.Consistent)
    (succeeds : ∀ row, allowed row = true → Succeeds (change row) row)
    (keeps : ∀ row, (change row).leaseId = row.leaseId) :
    LeaseStep database
      (database.committed (database.compareAndSet leaseId allowed change conflict)) := by
  cases outcome : database.compareAndSet leaseId allowed change conflict with
  | error error => exact .unchanged
  | ok result =>
    obtain ⟨-, -, -, -, changed⟩ := compareAndSet_ok consistent.leaseIds keeps
      (show _ = Except.ok (result.1, result.2) from outcome)
    rw [show result = (result.1, result.2) from rfl, committed_ok, changed]
    refine .changed _ _ ?_
    intro row matched
    simp only [named, Bool.and_eq_true] at matched
    exact succeeds row matched.2

end CompareAndSet

theorem settling_succeeds (allowed : lease.state = .active) :
    Succeeds { lease with
      state := .settling, revision := lease.revision + 1, updatedAt := nowText } lease where
  leaseId := rfl
  operationKind := rfl
  operationIdentity := rfl
  preimageHash := rfl
  capturedLifecycleGeneration := rfl
  fencingToken := le_rfl
  generations := rfl
  final := by
    intro terminal
    rw [allowed] at terminal
    cases terminal

theorem settled_succeeds {final : LeaseState} (allowed : lease.state = .settling) :
    Succeeds { lease with
      state := final, revision := lease.revision + 1, updatedAt := nowText } lease where
  leaseId := rfl
  operationKind := rfl
  operationIdentity := rfl
  preimageHash := rfl
  capturedLifecycleGeneration := rfl
  fencingToken := le_rfl
  generations := rfl
  final := by
    intro terminal
    rw [allowed] at terminal
    cases terminal

theorem takeover_succeeds (allowed : lease.state.isTerminal = false) :
    Succeeds { lease with
      state := .active, fencingToken := lease.fencingToken + 1,
      holderGeneration := lease.holderGeneration + 1, revision := lease.revision + 1,
      updatedAt := nowText } lease where
  leaseId := rfl
  operationKind := rfl
  operationIdentity := rfl
  preimageHash := rfl
  capturedLifecycleGeneration := rfl
  fencingToken := Nat.le_succ _
  generations := by
    dsimp only
    omega
  final := by
    intro terminal
    rw [allowed] at terminal
    cases terminal

theorem createOrGetLease_step {request : LeaseRequest} :
    LeaseStep database (database.committed
      (database.createOrGetLease request leaseId nowText)) := by
  cases outcome : database.createOrGetLease request leaseId nowText with
  | error error => exact .unchanged
  | ok result =>
    obtain ⟨kind, -, fenceRead⟩ := bind_ok outcome
    obtain ⟨fence, read, admitted⟩ := bind_ok fenceRead
    unfold readFenceRow at read
    split at read
    · cases read
    · rename_i current present
      cases read
      unfold admitLease at admitted
      split at admitted
      · cases admitted
      rename_i active
      have active : fence.state = .active := not_not.mp active
      have present : database.fence = some ⟨.active, fence.generation⟩ := by
        rw [present, ← active]
      split at admitted
      · cases admitted
      split at admitted
      · split at admitted
        · cases admitted
        · cases admitted
          exact .unchanged
      · rename_i newOperation
        unfold insertLease at admitted
        split at admitted
        · cases admitted
        · rename_i newId
          cases admitted
          exact .admitted _ present newId newOperation rfl

theorem initializeFence_step {state : String} {generation : Nat} :
    LeaseStep database (database.committed
      ((database.initializeFence state generation).map fun next => ((), next))) := by
  unfold initializeFence
  split
  · exact .unchanged
  · split
    · rename_i absent
      exact .fenced _ absent
    · split
      · exact .unchanged
      · exact .unchanged

theorem casFenceTransition_step {expectedGeneration : Nat} {newState : String} :
    LeaseStep database (database.committed
      (database.casFenceTransition expectedGeneration newState)) := by
  cases outcome : database.casFenceTransition expectedGeneration newState with
  | error error => exact .unchanged
  | ok result =>
    unfold casFenceTransition at outcome
    split at outcome
    · cases outcome
    · obtain ⟨fence, read, moved⟩ := bind_ok outcome
      unfold readFenceRow at read
      split at read
      · cases read
      · rename_i current present
        cases read
        split at moved
        · rename_i proceed
          obtain ⟨active, deleting, -⟩ := proceed
          cases moved
          rw [deleting]
          exact .deleting _ (by rw [present, ← active])
        · cases moved
          exact .unchanged

theorem step_leaseStep (consistent : database.Consistent) (command : LeaseCommand) :
    LeaseStep database (database.step command) := by
  cases command with
  | initializeFence state generation => exact initializeFence_step
  | casFence expectedGeneration newState => exact casFenceTransition_step
  | createOrGet request leaseId nowText => exact createOrGetLease_step
  | markSettling leaseId expectedFencingToken nowText =>
    refine compareAndSet_step consistent ?_ fun _ => rfl
    intro row allowed
    simp only [Bool.and_eq_true, decide_eq_true_eq] at allowed
    exact settling_succeeds allowed.1
  | settle leaseId expectedFencingToken outcome nowText =>
    change LeaseStep database (database.committed (database.settleLease _ _ _ _))
    unfold settleLease
    split
    · exact .unchanged
    · refine compareAndSet_step consistent ?_ fun _ => rfl
      intro row allowed
      simp only [Bool.and_eq_true, decide_eq_true_eq] at allowed
      exact settled_succeeds allowed.1
  | takeover leaseId expectedFencingToken nowText =>
    refine compareAndSet_step consistent ?_ fun _ => rfl
    intro row allowed
    simp only [Bool.and_eq_true, decide_eq_true_eq, Bool.not_eq_true'] at allowed
    exact takeover_succeeds allowed.2
  | verify leaseId fencingToken => exact .unchanged
  | assertCurrent lease => exact .unchanged

/-- What any run of calls leaves true of the rows that were there. -/
structure Evolves (database next : ControlDatabase) : Prop where
  rows : ∀ leaseId lease, database.leaseRow leaseId = some lease →
    ∃ later, next.leaseRow leaseId = some later ∧ Succeeds later lease
  closed : ∀ generation, database.fence = some ⟨.deleting, generation⟩ →
    next.fence = database.fence ∧
      next.leases.map SessionOperationLease.leaseId =
        database.leases.map SessionOperationLease.leaseId

namespace Evolves

theorem refl (database : ControlDatabase) : Evolves database database :=
  ⟨fun _ lease found => ⟨lease, found, Succeeds.refl lease⟩, fun _ _ => ⟨rfl, rfl⟩⟩

theorem trans {first second third : ControlDatabase} (start : Evolves first second)
    (later : Evolves second third) : Evolves first third := by
  constructor
  · intro leaseId lease found
    obtain ⟨middle, middleFound, middleSucceeds⟩ := start.rows leaseId lease found
    obtain ⟨last, lastFound, lastSucceeds⟩ := later.rows leaseId middle middleFound
    exact ⟨last, lastFound, lastSucceeds.trans middleSucceeds⟩
  · intro generation deleting
    obtain ⟨sameFence, sameIds⟩ := start.closed generation deleting
    obtain ⟨laterFence, laterIds⟩ := later.closed generation (sameFence.trans deleting)
    exact ⟨laterFence.trans sameFence, laterIds.trans sameIds⟩

end Evolves

theorem rewritten {matching : SessionOperationLease → Bool}
    {change : SessionOperationLease → SessionOperationLease}
    (succeeds : ∀ lease, matching lease = true → Succeeds (change lease) lease)
    (lease : SessionOperationLease) :
    Succeeds (if matching lease then change lease else lease) lease := by
  split
  · rename_i matched
    exact succeeds lease matched
  · exact Succeeds.refl lease

theorem LeaseStep.evolves (moved : LeaseStep database next) : Evolves database next := by
  cases moved with
  | unchanged => exact Evolves.refl database
  | fenced fence absent =>
    refine ⟨fun _ lease found => ⟨lease, found, Succeeds.refl lease⟩, ?_⟩
    intro generation deleting
    rw [absent] at deleting
    cases deleting
  | deleting generation active =>
    refine ⟨fun _ lease found => ⟨lease, found, Succeeds.refl lease⟩, ?_⟩
    intro later deleting
    rw [active] at deleting
    cases deleting
  | admitted lease active newId newOperation holder =>
    constructor
    · intro leaseId row found
      refine ⟨row, ?_, Succeeds.refl row⟩
      have kept : fetch SessionOperationLease.leaseId database.leases leaseId = some row := found
      rw [leaseRow, fetch_append, kept, Option.some_or]
    · intro generation deleting
      rw [active] at deleting
      cases deleting
  | changed matching change succeeds =>
    have kept := rewritten succeeds
    constructor
    · intro leaseId row found
      refine ⟨_, ?_, kept row⟩
      have fetched : fetch SessionOperationLease.leaseId database.leases leaseId = some row :=
        found
      change fetch _ (database.leases.map _) leaseId = _
      rw [fetch_map fun lease => (kept lease).leaseId, fetched]
      rfl
    · intro generation deleting
      refine ⟨rfl, ?_⟩
      change (database.leases.map _).map _ = _
      rw [List.map_map]
      exact List.map_congr_left fun lease _ => (kept lease).leaseId

theorem LeaseStep.consistent (moved : LeaseStep database next)
    (consistent : database.Consistent) : next.Consistent := by
  cases moved with
  | unchanged => exact consistent
  | fenced fence absent =>
    refine ⟨consistent.leaseIds, consistent.operations, ?_, consistent.holders⟩
    intro lease member
    have admitted := consistent.admitted lease member
    rw [absent] at admitted
    simp at admitted
  | deleting generation active =>
    refine ⟨consistent.leaseIds, consistent.operations, ?_, consistent.holders⟩
    intro lease member
    have admitted := consistent.admitted lease member
    rw [active] at admitted
    simp only [Option.some.injEq, LifecycleFence.mk.injEq, true_and, reduceCtorEq, false_and,
      or_false] at admitted
    right
    rw [admitted]
  | admitted lease active newId newOperation holder =>
    refine ⟨?_, ?_, ?_, ?_⟩
    · rw [List.map_append, List.map_singleton, List.nodup_append]
      refine ⟨consistent.leaseIds, List.nodup_singleton _, ?_⟩
      intro leaseId member other single
      obtain ⟨row, rowMember, rfl⟩ := List.mem_map.mp member
      rw [List.mem_singleton.mp single]
      exact fetch_eq_none.mp newId row rowMember
    · rw [List.map_append, List.map_singleton, List.nodup_append]
      refine ⟨consistent.operations, List.nodup_singleton _, ?_⟩
      intro operation member other single
      obtain ⟨row, rowMember, rfl⟩ := List.mem_map.mp member
      rw [List.mem_singleton.mp single]
      intro same
      have absent := List.find?_eq_none.mp newOperation row rowMember
      simp only [Prod.mk.injEq] at same
      simp [same.1, same.2] at absent
    · intro row member
      rcases List.mem_append.mp member with before | single
      · exact consistent.admitted row before
      · rw [List.mem_singleton.mp single]
        exact .inl active
    · intro row member
      rcases List.mem_append.mp member with before | single
      · exact consistent.holders row before
      · rw [List.mem_singleton.mp single]
        exact holder
  | changed matching change succeeds =>
    have kept := rewritten succeeds
    refine ⟨?_, ?_, ?_, ?_⟩
    · have sameIds : (database.rewriteLeases matching change).leases.map
          SessionOperationLease.leaseId = database.leases.map SessionOperationLease.leaseId := by
        change (database.leases.map _).map _ = _
        rw [List.map_map]
        exact List.map_congr_left fun lease _ => (kept lease).leaseId
      rw [sameIds]
      exact consistent.leaseIds
    · have sameOperations : ((database.rewriteLeases matching change).leases.map fun lease =>
          (lease.capturedLifecycleGeneration, lease.operationIdentity)) =
            database.leases.map fun lease =>
              (lease.capturedLifecycleGeneration, lease.operationIdentity) := by
        change (database.leases.map _).map _ = _
        rw [List.map_map]
        exact List.map_congr_left fun lease _ => Prod.ext
          (kept lease).capturedLifecycleGeneration (kept lease).operationIdentity
      rw [sameOperations]
      exact consistent.operations
    · intro row member
      obtain ⟨earlier, earlierMember, rfl⟩ := List.mem_map.mp member
      rw [(kept earlier).capturedLifecycleGeneration]
      exact consistent.admitted earlier earlierMember
    · intro row member
      obtain ⟨earlier, earlierMember, rfl⟩ := List.mem_map.mp member
      have before := consistent.holders earlier earlierMember
      have counted := (kept earlier).generations
      omega

theorem fresh_consistent (databasePath : String) : (fresh databasePath).Consistent := by
  constructor <;> simp [fresh]

theorem run_consistent (consistent : database.Consistent) (commands : List LeaseCommand) :
    (database.run commands).Consistent := by
  induction commands generalizing database with
  | nil => exact consistent
  | cons command commands ih =>
    exact ih ((step_leaseStep consistent command).consistent consistent)

theorem leases_agree_with_fence (databasePath : String) (commands : List LeaseCommand) :
    ((fresh databasePath).run commands).Consistent :=
  run_consistent (fresh_consistent databasePath) commands

theorem run_evolves (consistent : database.Consistent) (commands : List LeaseCommand) :
    Evolves database (database.run commands) := by
  induction commands generalizing database with
  | nil => exact Evolves.refl database
  | cons command commands ih =>
    have moved := step_leaseStep consistent command
    exact moved.evolves.trans (ih (moved.consistent consistent))

theorem Consistent.leaseRow_of_mem (consistent : database.Consistent)
    (member : lease ∈ database.leases) : database.leaseRow lease.leaseId = some lease :=
  fetch_of_mem consistent.leaseIds member

theorem Consistent.eq_of_identity (consistent : database.Consistent)
    {first second : SessionOperationLease} (firstMember : first ∈ database.leases)
    (secondMember : second ∈ database.leases)
    (same : first.operationIdentity = second.operationIdentity) : first = second := by
  have generations :
      first.capturedLifecycleGeneration = second.capturedLifecycleGeneration := by
    have firstAdmitted := consistent.admitted first firstMember
    have secondAdmitted := consistent.admitted second secondMember
    rcases firstAdmitted with active | deleting
    · rw [active] at secondAdmitted
      simpa using secondAdmitted
    · rw [deleting] at secondAdmitted
      simpa using secondAdmitted
  exact List.inj_on_of_nodup_map consistent.operations firstMember secondMember
    (Prod.ext generations same)

theorem Consistent.leaseOfOperation_of_mem (consistent : database.Consistent)
    (member : lease ∈ database.leases) :
    database.leaseOfOperation lease.capturedLifecycleGeneration lease.operationIdentity =
      some lease := by
  have present : (database.leaseOfOperation lease.capturedLifecycleGeneration
      lease.operationIdentity).isSome := by
    rw [leaseOfOperation, List.find?_isSome]
    exact ⟨lease, member, by simp⟩
  obtain ⟨row, found⟩ := Option.isSome_iff_exists.mp present
  have matched := List.find?_some found
  simp only [Bool.and_eq_true, decide_eq_true_eq] at matched
  rw [found, consistent.eq_of_identity (List.mem_of_find?_eq_some found) member matched.2]

theorem createOrGetLease_of_mem (consistent : database.Consistent)
    (member : lease ∈ database.leases) {fence : LifecycleFence}
    (current : database.fence = some fence)
    (captured : fence.generation = lease.capturedLifecycleGeneration)
    {request : LeaseRequest} {kind : LeaseKind} (valid : request.validate = .ok kind)
    (identity : request.operationIdentity = lease.operationIdentity)
    (expected : ∀ generation ∈ request.expectedGeneration, generation = fence.generation) :
    (request.preimageHash = lease.preimageHash →
      database.createOrGetLease request leaseId nowText = .ok (lease, database)) ∧
    (request.preimageHash ≠ lease.preimageHash →
      ∃ message, database.createOrGetLease request leaseId nowText =
        .error (.runtimeError message)) := by
  have active : fence.state = .active := by
    rcases consistent.admitted lease member with active | deleting
    · rw [active] at current
      cases current
      rfl
    · rw [deleting] at current
      cases current
      dsimp only at captured
      omega
  have found := consistent.leaseOfOperation_of_mem member
  have unmatched : request.expectedGeneration.any
      (fun expected => expected ≠ fence.generation) = false := by
    cases given : request.expectedGeneration with
    | none => rfl
    | some generation => simp [expected generation (by simp [given])]
  have admission : database.createOrGetLease request leaseId nowText =
      if lease.preimageHash ≠ request.preimageHash then
        .error (.runtimeError ("同 operation identity 的 preimage 冲突（fail closed）: " ++
          s!"lease_id={lease.leaseId}, " ++
          s!"operation_identity={Epoch.pyRepr request.operationIdentity}"))
      else
        .ok (lease, database) := by
    rw [createOrGetLease, valid, readFenceRow, current]
    change admitLease _ _ _ _ _ _ = _
    rw [admitLease, if_neg (by simp [active]), unmatched, if_neg (by decide), captured, identity,
      found]
  rw [admission]
  constructor
  · intro same
    rw [if_neg (by simp [same])]
  · intro different
    rw [if_pos (Ne.symm different)]
    exact ⟨_, rfl⟩

theorem createOrGetLease_deleting {generation : Nat}
    (deleting : database.fence = some ⟨.deleting, generation⟩) (request : LeaseRequest)
    (leaseId nowText : String) :
    ∃ error, database.createOrGetLease request leaseId nowText = .error error := by
  rw [createOrGetLease, readFenceRow, deleting]
  cases request.validate with
  | error error => exact ⟨error, rfl⟩
  | ok kind => exact ⟨_, rfl⟩

theorem takeoverLease_ok (consistent : database.Consistent)
    (taken : database.takeoverLease leaseId token nowText = .ok (lease, next)) :
    (∃ earlier, database.leaseRow leaseId = some earlier ∧ earlier.fencingToken = token) ∧
      lease.fencingToken = token + 1 ∧ lease.leaseId = leaseId ∧
        next.leaseRow leaseId = some lease ∧
          next = database.step (.takeover leaseId token nowText) := by
  have update := taken
  unfold takeoverLease at update
  obtain ⟨earlier, found, allowed, changed, after⟩ :=
    compareAndSet_ok consistent.leaseIds (by intro row; rfl) update
  have permitted := allowed
  simp only [Bool.and_eq_true, decide_eq_true_eq] at permitted
  refine ⟨⟨earlier, found, permitted.1⟩, ?_, ?_, ?_, ?_⟩
  · rw [changed, ← permitted.1]
  · have key : earlier.leaseId = leaseId := fetch_key found
    rw [changed]
    exact key
  · have matched : named leaseId (fun lease =>
        lease.fencingToken = token && !lease.state.isTerminal) earlier = true := by
      simp [named, fetch_key found, permitted.1, permitted.2]
    rw [after, changed]
    refine fetch_updateWhere_self ?_ found matched
    intro row
    rfl
  · rw [step, taken, committed_ok]

theorem outdated_refused (consistent : database.Consistent)
    (found : database.leaseRow leaseId = some lease) (outdated : token < lease.fencingToken) :
    (∀ nowText, ∃ error, database.markLeaseSettling leaseId token nowText = .error error) ∧
      (∀ outcome nowText, ∃ error,
        database.settleLease leaseId token outcome nowText = .error error) ∧
        (∀ nowText, ∃ error, database.takeoverLease leaseId token nowText = .error error) ∧
          database.verifyLeaseToken leaseId token = false ∧
            ∀ proof : SessionOperationLease, proof.leaseId = leaseId → proof.fencingToken = token →
              ∃ error, database.assertLeaseCurrent proof = .error error := by
  have different : lease.fencingToken ≠ token := by omega
  refine ⟨?_, ?_, ?_, ?_, ?_⟩
  · intro nowText
    refine compareAndSet_refused consistent.leaseIds ?_
    intro row rowFound
    rw [found] at rowFound
    cases rowFound
    simp [different]
  · intro outcome nowText
    unfold settleLease
    split
    · exact ⟨_, rfl⟩
    · refine compareAndSet_refused consistent.leaseIds ?_
      intro row rowFound
      rw [found] at rowFound
      cases rowFound
      simp [different]
  · intro nowText
    refine compareAndSet_refused consistent.leaseIds ?_
    intro row rowFound
    rw [found] at rowFound
    cases rowFound
    simp [different]
  · rw [verifyLeaseToken, found]
    simp [different]
  · intro proof sameId sameToken
    have proofDifferent : lease.settlementProof ≠ proof.settlementProof := by
      intro same
      exact different ((congrArg SettlementProof.fencingToken same).trans sameToken)
    rw [assertLeaseCurrent, sameId, leaseRowOrRaise_ok found]
    exact ⟨_, if_pos (.inl proofDifferent)⟩

theorem assertLeaseCurrent_ok {proof : SessionOperationLease}
    (accepted : database.assertLeaseCurrent proof = .ok lease) :
    database.leaseRow proof.leaseId = some lease ∧
      lease.settlementProof = proof.settlementProof := by
  obtain ⟨current, found, checked⟩ := bind_ok accepted
  split at checked
  · cases checked
  · rename_i valid
    cases checked
    refine ⟨leaseRow_of_ok found, ?_⟩
    by_contra different
    exact valid (.inl different)

theorem nonTerminal_shrinks (nextConsistent : next.Consistent) (evolved : Evolves database next)
    {generation : Nat} (deleting : database.fence = some ⟨.deleting, generation⟩) :
    next.listNonTerminalLeases.map SessionOperationLease.leaseId ⊆
      database.listNonTerminalLeases.map SessionOperationLease.leaseId := by
  intro leaseId member
  obtain ⟨row, rowMember, rfl⟩ := List.mem_map.mp member
  obtain ⟨rowPresent, open_⟩ := List.mem_filter.mp rowMember
  have earlierId : row.leaseId ∈ database.leases.map SessionOperationLease.leaseId := by
    rw [← (evolved.closed generation deleting).2]
    exact List.mem_map_of_mem rowPresent
  cases found : database.leaseRow row.leaseId with
  | none =>
    obtain ⟨earlier, earlierMember, same⟩ := List.mem_map.mp earlierId
    exact absurd same (fetch_eq_none.mp found earlier earlierMember)
  | some earlier =>
    obtain ⟨later, laterFound, succeeds⟩ := evolved.rows row.leaseId earlier found
    rw [nextConsistent.leaseRow_of_mem rowPresent] at laterFound
    cases laterFound
    refine List.mem_map.mpr ⟨earlier, ?_, fetch_key found⟩
    refine List.mem_filter.mpr ⟨fetch_mem found, ?_⟩
    rw [Bool.not_eq_true']
    rw [← Bool.not_eq_true]
    intro terminal
    rw [succeeds.final terminal, terminal] at open_
    exact absurd open_ (by decide)

/-- Leases are fenced in every history of calls. -/
theorem operationLeases_fenced (databasePath : String) (commands : List LeaseCommand) :
    let database := (fresh databasePath).run commands
    -- one row for each operation, which the same preimage gets and another is refused
    (∀ first ∈ database.leases, ∀ second ∈ database.leases,
      first.capturedLifecycleGeneration = second.capturedLifecycleGeneration →
        first.operationIdentity = second.operationIdentity → first = second) ∧
    (∀ lease ∈ database.leases, ∀ fence, database.fence = some fence →
      fence.generation = lease.capturedLifecycleGeneration →
        ∀ (request : LeaseRequest) kind leaseId nowText, request.validate = .ok kind →
          request.operationIdentity = lease.operationIdentity →
          (∀ generation ∈ request.expectedGeneration, generation = fence.generation) →
            (request.preimageHash = lease.preimageHash →
              database.createOrGetLease request leaseId nowText = .ok (lease, database)) ∧
            (request.preimageHash ≠ lease.preimageHash →
              ∃ message, database.createOrGetLease request leaseId nowText =
                .error (.runtimeError message))) ∧
    -- tokens
    (∀ lease ∈ database.leases, ∀ later, ∃ row ∈ (database.run later).leases,
      row.leaseId = lease.leaseId ∧ lease.fencingToken ≤ row.fencingToken) ∧
    (∀ leaseId token nowText lease next,
      database.takeoverLease leaseId token nowText = .ok (lease, next) →
        (∃ earlier, database.leaseRow leaseId = some earlier ∧
          earlier.fencingToken < lease.fencingToken) ∧ next.leaseRow leaseId = some lease) ∧
    -- older tokens after a takeover
    (∀ leaseId token nowText lease next,
      database.takeoverLease leaseId token nowText = .ok (lease, next) →
        ∀ later older, older ≤ token →
          (∀ now, ∃ error, (next.run later).markLeaseSettling leaseId older now = .error error) ∧
          (∀ outcome now, ∃ error,
            (next.run later).settleLease leaseId older outcome now = .error error) ∧
          (∀ now, ∃ error, (next.run later).takeoverLease leaseId older now = .error error) ∧
          (next.run later).verifyLeaseToken leaseId older = false ∧
          ∀ proof : SessionOperationLease, proof.leaseId = leaseId → proof.fencingToken = older →
            ∃ error, (next.run later).assertLeaseCurrent proof = .error error) ∧
    -- terminal rows
    (∀ lease ∈ database.leases, lease.state.isTerminal = true →
      ∀ later, lease ∈ (database.run later).leases) ∧
    -- a deleting fence
    (∀ generation, database.fence = some ⟨.deleting, generation⟩ →
      (∀ request leaseId nowText, ∃ error,
        database.createOrGetLease request leaseId nowText = .error error) ∧
      ∀ later,
        (database.run later).leases.map SessionOperationLease.leaseId =
          database.leases.map SessionOperationLease.leaseId ∧
        (database.run later).listNonTerminalLeases.map SessionOperationLease.leaseId ⊆
          database.listNonTerminalLeases.map SessionOperationLease.leaseId) ∧
    -- settlement proofs
    (∀ first second firstRow secondRow,
      database.assertLeaseCurrent first = .ok firstRow →
        database.assertLeaseCurrent second = .ok secondRow →
          first.operationIdentity = second.operationIdentity →
            first.holderGeneration = second.holderGeneration) ∧
    (∀ leaseId token nowText lease next earlier,
      database.leaseRow leaseId = some earlier →
        database.takeoverLease leaseId token nowText = .ok (lease, next) →
          ∀ later proof row, (next.run later).assertLeaseCurrent proof = .ok row →
            proof.operationIdentity = earlier.operationIdentity →
              earlier.holderGeneration < proof.holderGeneration) := by
  intro database
  have consistent : database.Consistent := run_consistent (fresh_consistent databasePath) commands
  have afterTakeover : ∀ {leaseId token nowText lease next},
      database.takeoverLease leaseId token nowText = .ok (lease, next) →
        ∀ later, (next.run later).Consistent ∧ ∃ row,
          (next.run later).leaseRow leaseId = some row ∧ Succeeds row lease := by
    intro leaseId token nowText lease next taken later
    obtain ⟨-, -, -, found, stepped⟩ := takeoverLease_ok consistent taken
    have nextConsistent : next.Consistent := by
      rw [stepped]
      exact (step_leaseStep consistent _).consistent consistent
    exact ⟨run_consistent nextConsistent later,
      (run_evolves nextConsistent later).rows leaseId lease found⟩
  refine ⟨?_, ?_, ?_, ?_, ?_, ?_, ?_, ?_, ?_⟩
  · intro first firstMember second secondMember _ same
    exact consistent.eq_of_identity firstMember secondMember same
  · intro lease member fence current captured request kind leaseId nowText valid identity expected
    exact createOrGetLease_of_mem consistent member current captured valid identity expected
  · intro lease member later
    obtain ⟨row, found, succeeds⟩ :=
      (run_evolves consistent later).rows _ _ (consistent.leaseRow_of_mem member)
    exact ⟨row, fetch_mem found, succeeds.leaseId, succeeds.fencingToken⟩
  · intro leaseId token nowText lease next taken
    obtain ⟨⟨earlier, earlierFound, earlierToken⟩, moved, -, found, -⟩ :=
      takeoverLease_ok consistent taken
    exact ⟨⟨earlier, earlierFound, by omega⟩, found⟩
  · intro leaseId token nowText lease next taken later older outdated
    obtain ⟨-, moved, -, -, -⟩ := takeoverLease_ok consistent taken
    obtain ⟨laterConsistent, row, found, succeeds⟩ := afterTakeover taken later
    have ahead := succeeds.fencingToken
    exact outdated_refused laterConsistent found (by omega)
  · intro lease member terminal later
    obtain ⟨row, found, succeeds⟩ :=
      (run_evolves consistent later).rows _ _ (consistent.leaseRow_of_mem member)
    rw [← succeeds.final terminal]
    exact fetch_mem found
  · intro generation deleting
    refine ⟨createOrGetLease_deleting deleting, ?_⟩
    intro later
    have evolved := run_evolves consistent later
    exact ⟨(evolved.closed generation deleting).2,
      nonTerminal_shrinks (run_consistent consistent later) evolved deleting⟩
  · intro first second firstRow secondRow firstAccepted secondAccepted same
    obtain ⟨firstFound, firstProof⟩ := assertLeaseCurrent_ok firstAccepted
    obtain ⟨secondFound, secondProof⟩ := assertLeaseCurrent_ok secondAccepted
    have identities : firstRow.operationIdentity = secondRow.operationIdentity :=
      calc
        firstRow.operationIdentity = first.operationIdentity :=
          congrArg SettlementProof.operationIdentity firstProof
        _ = second.operationIdentity := same
        _ = secondRow.operationIdentity :=
          (congrArg SettlementProof.operationIdentity secondProof).symm
    have sameRow :=
      consistent.eq_of_identity (fetch_mem firstFound) (fetch_mem secondFound) identities
    calc
      first.holderGeneration = firstRow.holderGeneration :=
        (congrArg SettlementProof.holderGeneration firstProof).symm
      _ = secondRow.holderGeneration := congrArg _ sameRow
      _ = second.holderGeneration := congrArg SettlementProof.holderGeneration secondProof
  · intro leaseId token nowText lease next earlier earlierFound taken later proof row accepted same
    obtain ⟨⟨held, heldFound, heldToken⟩, moved, -, found, stepped⟩ :=
      takeoverLease_ok consistent taken
    rw [earlierFound] at heldFound
    cases heldFound
    obtain ⟨laterConsistent, current, currentFound, succeeds⟩ := afterTakeover taken later
    obtain ⟨rowFound, rowProof⟩ := assertLeaseCurrent_ok accepted
    have stepEvolved := (step_leaseStep consistent (.takeover leaseId token nowText)).evolves
    obtain ⟨taking, takingFound, takingSucceeds⟩ := stepEvolved.rows leaseId earlier earlierFound
    rw [← stepped, found] at takingFound
    cases takingFound
    have identities : row.operationIdentity = current.operationIdentity :=
      calc
        row.operationIdentity = proof.operationIdentity :=
          congrArg SettlementProof.operationIdentity rowProof
        _ = earlier.operationIdentity := same
        _ = current.operationIdentity :=
          (succeeds.operationIdentity.trans takingSucceeds.operationIdentity).symm
    have sameRow :=
      laterConsistent.eq_of_identity (fetch_mem rowFound) (fetch_mem currentFound) identities
    have holder : proof.holderGeneration = current.holderGeneration := by
      rw [← sameRow]
      exact (congrArg SettlementProof.holderGeneration rowProof).symm
    have earlierHolder := consistent.holders earlier (fetch_mem earlierFound)
    have currentHolder := laterConsistent.holders current (fetch_mem currentFound)
    have ahead := succeeds.fencingToken
    omega

end ControlDatabase

end GraphAgent.SessionControl
