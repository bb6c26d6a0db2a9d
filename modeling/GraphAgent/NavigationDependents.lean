import GraphAgent.NavigationRefinement

/-!
# Failing the successors of a rejected operation

The poison sweeps reach the queued rows that refer, through any number of
queued rows, to the rejected operation id.  The sweeps know an operation by its
id alone, so the rows they reach are the dependents of the operation only while
the ids of its scope are not taken by a row of another scope.
-/

namespace GraphAgent.Navigation

inductive RefersThrough (eligible : NavigationMutationRecord → Prop) (operationId : String) :
    NavigationMutationRecord → Prop
  | direct {row : NavigationMutationRecord} (rowEligible : eligible row)
      (refers : operationId ∈ row.dependencyIds) : RefersThrough eligible operationId row
  | through {earlier row : NavigationMutationRecord}
      (reached : RefersThrough eligible operationId earlier) (rowEligible : eligible row)
      (refers : earlier.key.operationId ∈ row.dependencyIds) :
      RefersThrough eligible operationId row

theorem RefersThrough.eligible {eligible : NavigationMutationRecord → Prop}
    {operationId : String} {row : NavigationMutationRecord}
    (reached : RefersThrough eligible operationId row) : eligible row := by
  cases reached with
  | direct rowEligible _ => exact rowEligible
  | through _ rowEligible _ => exact rowEligible

namespace NavigationQueue

theorem mem_queuedByOperationId {rows : List NavigationMutationRecord}
    (sorted : rows.Pairwise fun left right => left.queueSeq < right.queueSeq)
    {entries : List (String × NavigationMutationRecord)}
    {entry : String × NavigationMutationRecord} :
    entry ∈ queuedByOperationId rows entries ↔
      (entry ∈ entries ∧ ∀ row ∈ rows, row.key.operationId ≠ entry.1) ∨
        (entry.2 ∈ rows ∧ entry.2.key.operationId = entry.1 ∧
          ∀ row ∈ rows, row.key.operationId = entry.1 → row.queueSeq ≤ entry.2.queueSeq) := by
  induction rows generalizing entries with
  | nil => simp [queuedByOperationId]
  | cons first rest ih =>
    obtain ⟨firstEarliest, restSorted⟩ := List.pairwise_cons.mp sorted
    have inserted : entry ∈ (if (entries.map (·.1)).contains first.key.operationId then
          entries.map fun entry =>
            if entry.1 = first.key.operationId then (entry.1, first) else entry
        else
          entries ++ [(first.key.operationId, first)]) ↔
        (entry ∈ entries ∧ first.key.operationId ≠ entry.1) ∨
          entry = (first.key.operationId, first) := by
      split
      · next known =>
          rw [List.contains_iff_mem] at known
          obtain ⟨held, heldMember, heldId⟩ := List.mem_map.mp known
          rw [List.mem_map]
          constructor
          · rintro ⟨earlier, earlierMember, rfl⟩
            by_cases same : earlier.1 = first.key.operationId
            · right
              simp [same]
            · left
              simp [same, earlierMember, Ne.symm same]
          · rintro (⟨member, other⟩ | rfl)
            · exact ⟨entry, member, by simp [Ne.symm other]⟩
            · exact ⟨held, heldMember, by simp [heldId]⟩
      · next fresh =>
          rw [List.contains_iff_mem] at fresh
          rw [List.mem_append, List.mem_singleton]
          constructor
          · rintro (member | new)
            · left
              refine ⟨member, ?_⟩
              intro same
              exact fresh (List.mem_map.mpr ⟨entry, member, same.symm⟩)
            · exact Or.inr new
          · rintro (⟨member, _⟩ | new)
            · exact Or.inl member
            · exact Or.inr new
    rw [queuedByOperationId, ih restSorted, inserted]
    constructor
    · rintro (⟨⟨member, other⟩ | rfl, absent⟩ | ⟨member, sameId, latest⟩)
      · left
        refine ⟨member, ?_⟩
        intro row rowMember
        rcases List.mem_cons.mp rowMember with rfl | later
        · exact other
        · exact absent row later
      · right
        refine ⟨by simp, rfl, ?_⟩
        intro row rowMember same
        rcases List.mem_cons.mp rowMember with rfl | later
        · exact Nat.le_refl _
        · exact absurd same (absent row later)
      · right
        refine ⟨by simp [member], sameId, ?_⟩
        intro row rowMember same
        rcases List.mem_cons.mp rowMember with rfl | later
        · exact Nat.le_of_lt (firstEarliest _ member)
        · exact latest row later same
    · rintro (⟨member, absent⟩ | ⟨member, sameId, latest⟩)
      · left
        exact ⟨Or.inl ⟨member, absent first (by simp)⟩,
          fun row rowMember => absent row (by simp [rowMember])⟩
      · rcases List.mem_cons.mp member with isFirst | later
        · left
          constructor
          · right
            ext1
            · rw [← sameId, isFirst]
            · exact isFirst
          · intro row rowMember same
            have notLater := latest row (by simp [rowMember]) same
            have isLater := firstEarliest row rowMember
            rw [isFirst] at notLater
            omega
        · right
          exact ⟨later, sameId, fun row rowMember => latest row (by simp [rowMember])⟩

section Sweeps

variable {queued : List (String × NavigationMutationRecord)} {operationId : String}

def Poison.Stable (queued : List (String × NavigationMutationRecord)) (poison : Poison) : Prop :=
  ∀ entry ∈ queued, entry.1 ∉ poison.poisoned →
    ∀ dependencyId ∈ entry.2.dependencyIds, dependencyId ∉ poison.poisoned

theorem poisonSweep_extends
    (named : ∀ entry ∈ queued, entry.2.key.operationId = entry.1) (poison : Poison) :
    ∃ more, (poisonSweep queued poison).failed = poison.failed ++ more ∧
      (poisonSweep queued poison).poisoned =
        poison.poisoned ++ more.map (·.key.operationId) ∧
      (more = [] → poison.Stable queued) := by
  unfold poisonSweep
  induction queued generalizing poison with
  | nil => exact ⟨[], by simp, by simp, by simp [Poison.Stable]⟩
  | cons entry rest ih =>
    have restNamed : ∀ other ∈ rest, other.2.key.operationId = other.1 :=
      fun other member => named other (by simp [member])
    rw [List.foldl_cons]
    split
    · next known =>
        rw [List.contains_iff_mem] at known
        obtain ⟨more, failed, poisoned, stable⟩ := ih restNamed poison
        refine ⟨more, failed, poisoned, ?_⟩
        intro none other member fresh
        rcases List.mem_cons.mp member with rfl | later
        · exact absurd known fresh
        · exact stable none other later fresh
    · split
      · obtain ⟨more, failed, poisoned, stable⟩ := ih restNamed
          ⟨poison.poisoned ++ [entry.1], poison.failed ++ [entry.2]⟩
        refine ⟨entry.2 :: more, ?_, ?_, by simp⟩
        · rw [failed, List.append_assoc, List.singleton_append]
        · rw [poisoned, List.map_cons, named entry (by simp), List.append_assoc,
            List.singleton_append]
      · next untouched =>
          obtain ⟨more, failed, poisoned, stable⟩ := ih restNamed poison
          refine ⟨more, failed, poisoned, ?_⟩
          intro none other member fresh
          rcases List.mem_cons.mp member with rfl | later
          · intro dependencyId refers hit
            apply untouched
            rw [List.any_eq_true]
            exact ⟨dependencyId, refers, by simpa using hit⟩
          · exact stable none other later fresh

structure Poison.Traced (queued : List (String × NavigationMutationRecord))
    (operationId : String) (poison : Poison) : Prop where
  poisoned : poison.poisoned = operationId :: poison.failed.map (·.key.operationId)
  reached : ∀ row ∈ poison.failed, RefersThrough
    (fun row => (row.key.operationId, row) ∈ queued ∧ row.key.operationId ≠ operationId)
    operationId row

theorem poisonSweep_traced
    (named : ∀ entry ∈ queued, entry.2.key.operationId = entry.1) {poison : Poison}
    (traced : poison.Traced queued operationId) :
    (poisonSweep queued poison).Traced queued operationId := by
  have visited : ∀ entries : List (String × NavigationMutationRecord),
      (∀ entry ∈ entries, entry ∈ queued) → ∀ poison : Poison,
        poison.Traced queued operationId →
          (poisonSweep entries poison).Traced queued operationId := by
    intro entries
    unfold poisonSweep
    induction entries with
    | nil => exact fun _ _ traced => traced
    | cons entry rest ih =>
      intro listed poison traced
      have restListed : ∀ other ∈ rest, other ∈ queued :=
        fun other member => listed other (by simp [member])
      have entryListed := listed entry (by simp)
      have sameId := named entry entryListed
      rw [List.foldl_cons]
      apply ih restListed
      split
      · exact traced
      · next fresh =>
          rw [List.contains_iff_mem, traced.poisoned] at fresh
          split
          · next hit =>
              obtain ⟨dependencyId, refers, hit⟩ := List.any_eq_true.mp hit
              rw [List.contains_iff_mem, traced.poisoned] at hit
              have eligible : (entry.2.key.operationId, entry.2) ∈ queued ∧
                  entry.2.key.operationId ≠ operationId := by
                rw [sameId]
                refine ⟨entryListed, ?_⟩
                rintro rfl
                simp at fresh
              constructor
              · simp [traced.poisoned, sameId]
              · intro row member
                rcases List.mem_append.mp member with old | new
                · exact traced.reached row old
                · rw [List.mem_singleton.mp new]
                  rcases List.mem_cons.mp hit with rfl | later
                  · exact .direct eligible refers
                  · obtain ⟨earlier, earlierMember, rfl⟩ := List.mem_map.mp later
                    exact .through (traced.reached earlier earlierMember) eligible refers
          · exact traced
  exact visited queued (fun _ member => member) poison traced

theorem poisonLoop_stable
    (named : ∀ entry ∈ queued, entry.2.key.operationId = entry.1) (sweeps : Nat)
    {poison : Poison} (traced : poison.Traced queued operationId)
    (sound : poison.Sound fun row => (row.key.operationId, row) ∈ queued)
    (enough : queued.length < poison.failed.length + sweeps) :
    (poisonLoop queued sweeps poison).Traced queued operationId ∧
      (poisonLoop queued sweeps poison).Stable queued := by
  induction sweeps generalizing poison with
  | zero =>
    have bounded : poison.failed.length ≤ queued.length := by
      have listed : poison.failed.map (·.key.operationId) ⊆ queued.map (·.1) := by
        intro listedId member
        obtain ⟨row, rowMember, rfl⟩ := List.mem_map.mp member
        exact List.mem_map.mpr ⟨_, sound.allowed row rowMember, rfl⟩
      have shorter := (List.subperm_of_subset sound.distinct listed).length_le
      simpa using shorter
    omega
  | succ sweeps ih =>
    obtain ⟨more, failed, poisoned, stable⟩ := poisonSweep_extends named poison
    have swept := poisonSweep_traced named traced
    have sweptSound := poisonSweep_sound
      (fun row => (row.key.operationId, row) ∈ queued)
      (fun entry member => ⟨by rw [named entry member]; exact member, named entry member⟩) sound
    rw [poisonLoop]
    split
    · next unchanged =>
        have none : more = [] := by
          rw [failed, List.length_append] at unchanged
          exact List.eq_nil_of_length_eq_zero (by omega)
        refine ⟨swept, ?_⟩
        intro entry member
        rw [poisoned, none, List.map_nil, List.append_nil]
        exact stable none entry member
    · next grown =>
        rw [failed, List.length_append] at grown
        apply ih swept sweptSound
        rw [failed, List.length_append]
        omega

theorem Poison.Stable.complete {poison : Poison} (stable : poison.Stable queued)
    (traced : poison.Traced queued operationId)
    (unique : ∀ left ∈ queued, ∀ right ∈ queued, left.1 = right.1 → left = right)
    {row : NavigationMutationRecord}
    (reached : RefersThrough
      (fun row => (row.key.operationId, row) ∈ queued ∧ row.key.operationId ≠ operationId)
      operationId row) :
    row ∈ poison.failed := by
  have poisonedFailed : ∀ row : NavigationMutationRecord,
      (row.key.operationId, row) ∈ queued → row.key.operationId ≠ operationId →
        row.key.operationId ∈ poison.poisoned → row ∈ poison.failed := by
    intro row listed other hit
    rw [traced.poisoned] at hit
    rcases List.mem_cons.mp hit with same | later
    · exact absurd same other
    · obtain ⟨failed, failedMember, sameId⟩ := List.mem_map.mp later
      have failedListed := (traced.reached failed failedMember).eligible.1
      have same := unique _ failedListed _ listed sameId
      rw [← (Prod.mk.inj same).2]
      exact failedMember
  induction reached with
  | direct rowEligible refers =>
    apply poisonedFailed _ rowEligible.1 rowEligible.2
    by_contra fresh
    apply stable _ rowEligible.1 fresh _ refers
    rw [traced.poisoned]
    simp
  | through earlierReached rowEligible refers ih =>
    apply poisonedFailed _ rowEligible.1 rowEligible.2
    by_contra fresh
    apply stable _ rowEligible.1 fresh _ refers
    rw [traced.poisoned]
    exact List.mem_cons_of_mem _ (List.mem_map_of_mem ih)

end Sweeps

/-- The table's constraints: its primary key and the unique index on
`(workspace_id, queue_seq)`. -/
structure UniqueRows (queue : NavigationQueue) : Prop where
  keys : (queue.records.map (·.key)).Nodup
  sequences : ∀ left ∈ queue.records, ∀ right ∈ queue.records,
    left.key.workspaceId = right.key.workspaceId → left.queueSeq = right.queueSeq → left = right

structure LatestQueued (queue : NavigationQueue) (workspaceId : String)
    (row : NavigationMutationRecord) : Prop where
  stored : row ∈ queue.records
  workspace : row.key.workspaceId = workspaceId
  queued : row.state = .queued
  latest : ∀ other ∈ queue.records, other.key.workspaceId = workspaceId →
    other.state = .queued → other.key.operationId = row.key.operationId →
      other.queueSeq ≤ row.queueSeq

variable {queue : NavigationQueue}

def queuedRows (queue : NavigationQueue) (workspaceId : String) :
    List NavigationMutationRecord :=
  (queue.records.filter fun row =>
    row.key.workspaceId = workspaceId && row.state = .queued).insertionSort
      fun left right => left.queueSeq ≤ right.queueSeq

@[simp]
theorem mem_queuedRows {workspaceId : String} {row : NavigationMutationRecord} :
    row ∈ queue.queuedRows workspaceId ↔
      row ∈ queue.records ∧ row.key.workspaceId = workspaceId ∧ row.state = .queued := by
  simp [queuedRows, List.mem_insertionSort]

theorem queuedRows_sorted (unique : queue.UniqueRows) (workspaceId : String) :
    (queue.queuedRows workspaceId).Pairwise fun left right =>
      left.queueSeq < right.queueSeq := by
  have ordered : (queue.queuedRows workspaceId).Pairwise fun left right =>
      left.queueSeq ≤ right.queueSeq := by
    have total : Std.Total fun left right : NavigationMutationRecord =>
        left.queueSeq ≤ right.queueSeq := ⟨fun left right => Nat.le_total _ _⟩
    have transitive : IsTrans NavigationMutationRecord fun left right =>
        left.queueSeq ≤ right.queueSeq := ⟨fun _ _ _ first second => Nat.le_trans first second⟩
    exact List.pairwise_insertionSort _ _
  have distinct : (queue.queuedRows workspaceId).Nodup := by
    apply (List.perm_insertionSort _ _).nodup_iff.mpr
    exact (List.Nodup.of_map _ unique.keys).filter _
  apply (ordered.and distinct).imp_of_mem
  intro left right leftMember rightMember related
  rw [mem_queuedRows] at leftMember rightMember
  apply Nat.lt_of_le_of_ne related.1
  intro same
  exact related.2 (unique.sequences left leftMember.1 right rightMember.1
    (leftMember.2.1.trans rightMember.2.1.symm) same)

theorem mem_dictionary (unique : queue.UniqueRows) {workspaceId : String}
    {entry : String × NavigationMutationRecord} :
    entry ∈ queuedByOperationId (queue.queuedRows workspaceId) [] ↔
      queue.LatestQueued workspaceId entry.2 ∧ entry.2.key.operationId = entry.1 := by
  rw [mem_queuedByOperationId (queuedRows_sorted unique workspaceId)]
  simp only [List.not_mem_nil, false_and, false_or, mem_queuedRows]
  constructor
  · rintro ⟨⟨stored, workspace, queued⟩, sameId, latest⟩
    refine ⟨⟨stored, workspace, queued, ?_⟩, sameId⟩
    intro other otherStored otherWorkspace otherQueued otherId
    exact latest other ⟨otherStored, otherWorkspace, otherQueued⟩ (otherId.trans sameId)
  · rintro ⟨latest, sameId⟩
    refine ⟨⟨latest.stored, latest.workspace, latest.queued⟩, sameId, ?_⟩
    rintro other ⟨otherStored, otherWorkspace, otherQueued⟩ otherId
    exact latest.latest other otherStored otherWorkspace otherQueued (otherId.trans sameId.symm)

theorem mem_dependencyFailedSuccessors (unique : queue.UniqueRows)
    {workspaceId failedOperationId : String} {row : NavigationMutationRecord} :
    row ∈ queue.dependencyFailedSuccessors workspaceId failedOperationId ↔
      RefersThrough (fun row => queue.LatestQueued workspaceId row ∧
        row.key.operationId ≠ failedOperationId) failedOperationId row := by
  have eligible : (fun row : NavigationMutationRecord =>
      (row.key.operationId, row) ∈ queuedByOperationId (queue.queuedRows workspaceId) [] ∧
        row.key.operationId ≠ failedOperationId) =
      fun row => queue.LatestQueued workspaceId row ∧
        row.key.operationId ≠ failedOperationId := by
    ext row
    simp [mem_dictionary unique]
  have named : ∀ entry ∈ queuedByOperationId (queue.queuedRows workspaceId) [],
      entry.2.key.operationId = entry.1 :=
    fun entry member => ((mem_dictionary unique).mp member).2
  have distinctIds : ∀ left ∈ queuedByOperationId (queue.queuedRows workspaceId) [],
      ∀ right ∈ queuedByOperationId (queue.queuedRows workspaceId) [],
        left.1 = right.1 → left = right := by
    intro left leftMember right rightMember same
    obtain ⟨leftLatest, leftId⟩ := (mem_dictionary unique).mp leftMember
    obtain ⟨rightLatest, rightId⟩ := (mem_dictionary unique).mp rightMember
    have sameId : left.2.key.operationId = right.2.key.operationId := by
      rw [leftId, rightId, same]
    have leftFirst := rightLatest.latest _ leftLatest.stored leftLatest.workspace
      leftLatest.queued sameId
    have rightFirst := leftLatest.latest _ rightLatest.stored rightLatest.workspace
      rightLatest.queued sameId.symm
    have sameRow := unique.sequences _ leftLatest.stored _ rightLatest.stored
      (leftLatest.workspace.trans rightLatest.workspace.symm) (by omega)
    exact Prod.ext same sameRow
  have initial : Poison.Traced (queuedByOperationId (queue.queuedRows workspaceId) [])
      failedOperationId ⟨[failedOperationId], []⟩ := ⟨rfl, by simp⟩
  obtain ⟨traced, stable⟩ := poisonLoop_stable named
    ((queuedByOperationId (queue.queuedRows workspaceId) []).length + 1) initial
    ⟨by simp, by simp, by simp⟩ (by simp)
  rw [← eligible]
  constructor
  · exact traced.reached row
  · exact stable.complete traced distinctIds

end NavigationQueue

end GraphAgent.Navigation
