import Mathlib.Data.List.Basic
import Mathlib.Logic.Relation

/-!
# Reachability along a finite list of edges

The elements reached from a list of seeds, by rounds that add the targets of the
edges that leave what is reached.  A round that adds nothing ends the search, and
every other round takes edges off the list of those still to be followed, so as
many rounds as there are edges are enough.
-/

namespace GraphAgent.FiniteClosure

theorem countP_lt {Element : Type*} {few many : Element → Bool} {elements : List Element}
    (implied : ∀ element ∈ elements, few element → many element) {extra : Element}
    (member : extra ∈ elements) (counted : many extra) (missing : ¬ few extra) :
    elements.countP few < elements.countP many := by
  induction elements with
  | nil => cases member
  | cons first rest ih =>
    have restImplied : ∀ element ∈ rest, few element → many element :=
      fun element listed => implied element (by simp [listed])
    have restFewer := List.countP_mono_left restImplied
    rw [List.countP_cons, List.countP_cons]
    rcases List.mem_cons.mp member with rfl | later
    · rw [if_pos counted, if_neg missing]
      omega
    · have strict := ih restImplied later
      by_cases isFew : few first
      · rw [if_pos isFew, if_pos (implied first (by simp) isFew)]
        omega
      · rw [if_neg isFew]
        omega

variable {Vertex : Type*}

def Reaches (edges : List (Vertex × Vertex)) : Vertex → Vertex → Prop :=
  Relation.ReflTransGen fun source target => (source, target) ∈ edges

theorem mem_of_closed {edges : List (Vertex × Vertex)} {reached : List Vertex}
    (closed : ∀ edge ∈ edges, edge.1 ∈ reached → edge.2 ∈ reached)
    {seed vertex : Vertex} (seedMember : seed ∈ reached) (path : Reaches edges seed vertex) :
    vertex ∈ reached := by
  induction path with
  | refl => exact seedMember
  | tail _ edge ih => exact closed _ edge ih

variable [DecidableEq Vertex]

def frontier (edges : List (Vertex × Vertex)) (reached : List Vertex) : List (Vertex × Vertex) :=
  edges.filter fun edge => edge.1 ∈ reached ∧ edge.2 ∉ reached

def pending (edges : List (Vertex × Vertex)) (reached : List Vertex) : Nat :=
  edges.countP fun edge => edge.2 ∉ reached

def expand (edges : List (Vertex × Vertex)) : Nat → List Vertex → List Vertex
  | 0, reached => reached
  | rounds + 1, reached => expand edges rounds (reached ++ (frontier edges reached).map (·.2))

def closure (edges : List (Vertex × Vertex)) (seeds : List Vertex) : List Vertex :=
  expand edges edges.length seeds

variable {edges : List (Vertex × Vertex)} {reached : List Vertex}

theorem mem_expand_of_mem (rounds : Nat) {vertex : Vertex} (member : vertex ∈ reached) :
    vertex ∈ expand edges rounds reached := by
  induction rounds generalizing reached with
  | zero => exact member
  | succ rounds ih => exact ih (List.mem_append_left _ member)

theorem expand_sound (rounds : Nat) {vertex : Vertex}
    (member : vertex ∈ expand edges rounds reached) :
    ∃ seed ∈ reached, Reaches edges seed vertex := by
  induction rounds generalizing reached with
  | zero => exact ⟨vertex, member, .refl⟩
  | succ rounds ih =>
    obtain ⟨seed, seedMember, path⟩ := ih member
    rcases List.mem_append.mp seedMember with old | new
    · exact ⟨seed, old, path⟩
    · obtain ⟨edge, edgeMember, rfl⟩ := List.mem_map.mp new
      obtain ⟨listed, leaves⟩ := List.mem_filter.mp edgeMember
      simp only [decide_eq_true_eq] at leaves
      exact ⟨edge.1, leaves.1, Relation.ReflTransGen.head listed path⟩

theorem expand_complete (rounds : Nat) (enough : pending edges reached ≤ rounds)
    {seed vertex : Vertex} (seedMember : seed ∈ reached) (path : Reaches edges seed vertex) :
    vertex ∈ expand edges rounds reached := by
  induction rounds generalizing reached with
  | zero =>
    apply mem_of_closed _ seedMember path
    intro edge member _
    by_contra fresh
    have counted : 0 < pending edges reached :=
      List.countP_pos_iff.mpr ⟨edge, member, by simpa using fresh⟩
    omega
  | succ rounds ih =>
    by_cases closed : ∀ edge ∈ edges, edge.1 ∈ reached → edge.2 ∈ reached
    · exact mem_expand_of_mem _ (mem_of_closed closed seedMember path)
    · simp only [not_forall] at closed
      obtain ⟨edge, member, source, fresh⟩ := closed
      apply ih _ (List.mem_append_left _ seedMember)
      have followed : edge ∈ frontier edges reached :=
        List.mem_filter.mpr ⟨member, by simp [source, fresh]⟩
      have fewer : pending edges (reached ++ (frontier edges reached).map (·.2)) <
          pending edges reached := by
        apply countP_lt _ member
        · simpa using fresh
        · have added : edge.2 ∈ (frontier edges reached).map (·.2) :=
            List.mem_map_of_mem followed
          simp [added]
        · intro other _ notReached
          simp only [List.mem_append, not_or, decide_eq_true_eq] at notReached ⊢
          exact notReached.1
      omega

theorem mem_closure {seeds : List Vertex} {vertex : Vertex} :
    vertex ∈ closure edges seeds ↔ ∃ seed ∈ seeds, Reaches edges seed vertex := by
  constructor
  · exact expand_sound _
  · rintro ⟨seed, seedMember, path⟩
    exact expand_complete _ List.countP_le_length seedMember path

end GraphAgent.FiniteClosure
