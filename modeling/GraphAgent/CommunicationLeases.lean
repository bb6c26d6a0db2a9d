import GraphAgent.CommunicationTransactions
import GraphAgent.CommunicationDelivery

/-!
# The leases under a communication

What the lease calls of the delivery blocks commit, and when the lease of an
operation is held: it is settling or completed and the fence still has the
generation it captured.
-/

namespace GraphAgent.SessionControl

open KeyedRows Transaction

namespace ControlDatabase

variable {database next : ControlDatabase} {leaseId nowText : String}
  {lease : SessionOperationLease} {token : Nat}

theorem readFenceRow_ok {fence : LifecycleFence} (read : database.readFenceRow = .ok fence) :
    database.fence = some fence := by
  unfold readFenceRow at read
  split at read
  · cases read
  · rename_i current present
    cases read
    exact present

theorem createOrGetLease_ok {request : LeaseRequest}
    (succeeded : database.createOrGetLease request leaseId nowText = .ok (lease, next)) :
    database.fence = some ⟨.active, lease.capturedLifecycleGeneration⟩ ∧
      lease.operationIdentity = request.operationIdentity ∧
      lease.preimageHash = request.preimageHash ∧
      lease ∈ next.leases ∧ next.fence = database.fence ∧
      ∀ row ∈ database.leases, row ∈ next.leases := by
  obtain ⟨kind, -, fenceRead⟩ := bind_ok succeeded
  obtain ⟨fence, read, admitted⟩ := bind_ok fenceRead
  have present := readFenceRow_ok read
  unfold admitLease at admitted
  split at admitted
  · cases admitted
  rename_i active
  have active : fence.state = .active := not_not.mp active
  have present : database.fence = some ⟨.active, fence.generation⟩ := by
    rw [present, ← active]
  split at admitted
  · cases admitted
  split at admitted
  · rename_i existing found
    have matched := List.find?_some found
    simp only [Bool.and_eq_true, decide_eq_true_eq] at matched
    split at admitted
    · cases admitted
    · rename_i same
      cases admitted
      exact ⟨matched.1.symm ▸ present, matched.2, not_not.mp same,
        List.mem_of_find?_eq_some found, rfl, fun _ member => member⟩
  · unfold insertLease at admitted
    split at admitted
    · cases admitted
    · cases admitted
      exact ⟨present, rfl, rfl, List.mem_append_right _ (List.mem_singleton_self _), rfl,
        fun _ member => List.mem_append_left _ member⟩

theorem createOrGetLease_moves {request : LeaseRequest}
    (succeeded : database.createOrGetLease request leaseId nowText = .ok (lease, next)) :
    LeaseStep database next := by
  have moved := @createOrGetLease_step database leaseId nowText request
  rw [succeeded] at moved
  exact moved

theorem mem_rewriteLeases {matching : SessionOperationLease → Bool}
    {change : SessionOperationLease → SessionOperationLease} (member : lease ∈ database.leases) :
    (if matching lease then change lease else lease) ∈
      (database.rewriteLeases matching change).leases :=
  List.mem_map_of_mem member

theorem markLeaseSettling_ok (consistent : database.Consistent)
    (succeeded : database.markLeaseSettling leaseId token nowText = .ok (lease, next)) :
    ∃ earlier ∈ database.leases, earlier.leaseId = leaseId ∧ earlier.state = .active ∧
      lease = { earlier with
        state := .settling, revision := earlier.revision + 1, updatedAt := nowText } ∧
      next = database.rewriteLeases
        (named leaseId fun row => row.state = .active && row.fencingToken = token)
        fun row => { row with
          state := .settling, revision := row.revision + 1, updatedAt := nowText } := by
  unfold markLeaseSettling at succeeded
  obtain ⟨earlier, found, allowed, same, changed⟩ :=
    compareAndSet_ok consistent.leaseIds (by intro row; rfl) succeeded
  simp only [Bool.and_eq_true, decide_eq_true_eq] at allowed
  exact ⟨earlier, fetch_mem found, fetch_key found, allowed.1, same, changed⟩

theorem markLeaseSettling_moves (consistent : database.Consistent)
    (succeeded : database.markLeaseSettling leaseId token nowText = .ok (lease, next)) :
    LeaseStep database next := by
  obtain ⟨-, -, -, -, -, rfl⟩ := markLeaseSettling_ok consistent succeeded
  refine .changed _ _ ?_
  intro row matched
  simp only [named, Bool.and_eq_true, decide_eq_true_eq] at matched
  exact settling_succeeds matched.2.1

theorem settleLease_ok (consistent : database.Consistent) {outcome : String}
    (succeeded : database.settleLease leaseId token outcome nowText = .ok (lease, next)) :
    ∃ final, LeaseState.terminal? outcome = some final ∧
      ∃ earlier ∈ database.leases, earlier.leaseId = leaseId ∧ earlier.state = .settling ∧
      lease = { earlier with
        state := final, revision := earlier.revision + 1, updatedAt := nowText } ∧
      next = database.rewriteLeases
        (named leaseId fun row => row.state = .settling && row.fencingToken = token)
        fun row => { row with
          state := final, revision := row.revision + 1, updatedAt := nowText } := by
  unfold settleLease at succeeded
  split at succeeded
  · cases succeeded
  · rename_i final known
    obtain ⟨earlier, found, allowed, same, changed⟩ :=
      compareAndSet_ok consistent.leaseIds (by intro row; rfl) succeeded
    simp only [Bool.and_eq_true, decide_eq_true_eq] at allowed
    exact ⟨final, known, earlier, fetch_mem found, fetch_key found, allowed.1, same, changed⟩

theorem settleLease_moves (consistent : database.Consistent) {outcome : String}
    (succeeded : database.settleLease leaseId token outcome nowText = .ok (lease, next)) :
    LeaseStep database next := by
  obtain ⟨final, -, -, -, -, -, -, rfl⟩ := settleLease_ok consistent succeeded
  refine .changed _ _ ?_
  intro row matched
  simp only [named, Bool.and_eq_true, decide_eq_true_eq] at matched
  exact settled_succeeds matched.2.1

theorem casFenceTransition_moves {expectedGeneration : Nat} {newState : String} {moved : Bool}
    (succeeded : database.casFenceTransition expectedGeneration newState = .ok (moved, next)) :
    LeaseStep database next := by
  have step := @casFenceTransition_step database expectedGeneration newState
  rw [succeeded] at step
  exact step

theorem casFenceTransition_fence {expectedGeneration : Nat} {newState : String} {moved : Bool}
    (succeeded : database.casFenceTransition expectedGeneration newState = .ok (moved, next)) :
    next.fence = database.fence ∨ ∃ generation, next.fence = some ⟨.deleting, generation⟩ := by
  unfold casFenceTransition at succeeded
  split at succeeded
  · cases succeeded
  · obtain ⟨fence, -, rest⟩ := bind_ok succeeded
    split at rest
    · rename_i proceed
      cases rest
      rw [proceed.2.1]
      exact .inr ⟨_, rfl⟩
    · cases rest
      exact .inl rfl

theorem assertLeaseCurrent_of_mem (consistent : database.Consistent)
    (member : lease ∈ database.leases)
    (held : lease.state = .settling ∨ lease.state = .completed) :
    database.assertLeaseCurrent lease = .ok lease := by
  have valid : ¬(lease.settlementProof ≠ lease.settlementProof ∨
      (lease.state ≠ .settling ∧ lease.state ≠ .completed)) := by
    rintro (different | neither)
    · exact different rfl
    · rcases held with settling | completed
      · exact neither.1 settling
      · exact neither.2 completed
  rw [assertLeaseCurrent, leaseRowOrRaise_ok (consistent.leaseRow_of_mem member)]
  exact if_neg valid

def LeaseHeld (database : ControlDatabase) (identity preimageHash : String) : Prop :=
  ∃ lease ∈ database.leases, lease.operationIdentity = identity ∧
    lease.preimageHash = preimageHash ∧
    (lease.state = .settling ∨ lease.state = .completed) ∧
    database.fence = some ⟨.active, lease.capturedLifecycleGeneration⟩

namespace LeaseHeld

variable {identity preimageHash : String}

theorem extend (held : database.LeaseHeld identity preimageHash)
    (fence : next.fence = database.fence) (rows : ∀ row ∈ database.leases, row ∈ next.leases) :
    next.LeaseHeld identity preimageHash := by
  obtain ⟨lease, member, same, hash, state, open_⟩ := held
  exact ⟨lease, rows lease member, same, hash, state, fence.trans open_⟩

theorem marked (held : database.LeaseHeld identity preimageHash) :
    (database.rewriteLeases
      (named leaseId fun row => row.state = .active && row.fencingToken = token)
      fun row => { row with
        state := .settling, revision := row.revision + 1, updatedAt := nowText }).LeaseHeld
      identity preimageHash := by
  obtain ⟨lease, member, same, hash, state, open_⟩ := held
  have kept : named leaseId (fun row => row.state = .active && row.fencingToken = token) lease =
      false := by
    rcases state with settling | completed
    · simp [named, settling]
    · simp [named, completed]
  have member := @mem_rewriteLeases database lease
    (named leaseId fun row => row.state = .active && row.fencingToken = token)
    (fun row => { row with
      state := .settling, revision := row.revision + 1, updatedAt := nowText }) member
  rw [kept] at member
  exact ⟨lease, member, same, hash, state, open_⟩

theorem settled (held : database.LeaseHeld identity preimageHash) {final : LeaseState}
    (keeps : final = .completed ∨
      ∀ row ∈ database.leases, row.leaseId = leaseId → row.operationIdentity ≠ identity) :
    (database.rewriteLeases
      (named leaseId fun row => row.state = .settling && row.fencingToken = token)
      fun row => { row with
        state := final, revision := row.revision + 1, updatedAt := nowText }).LeaseHeld
      identity preimageHash := by
  obtain ⟨lease, member, same, hash, state, open_⟩ := held
  have rewritten := @mem_rewriteLeases database lease
    (named leaseId fun row => row.state = .settling && row.fencingToken = token)
    (fun row => { row with
      state := final, revision := row.revision + 1, updatedAt := nowText }) member
  cases matched : named leaseId
      (fun row => row.state = .settling && row.fencingToken = token) lease with
  | false =>
    rw [matched] at rewritten
    exact ⟨lease, rewritten, same, hash, state, open_⟩
  | true =>
    rw [matched, if_pos rfl] at rewritten
    rcases keeps with rfl | different
    · exact ⟨_, rewritten, same, hash, .inr rfl, open_⟩
    · simp only [named, Bool.and_eq_true, decide_eq_true_eq] at matched
      exact absurd same (different lease member matched.1)

end LeaseHeld

end ControlDatabase

end GraphAgent.SessionControl
