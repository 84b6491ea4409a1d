import Mathlib.Order.Bounds.Defs
import SelectBuilder.Proofs.Filter.Locality
import SelectBuilder.Proofs.Filter.Meaning

/-!
# The walks through a filter tree

All members with their depths, the conditions alone, the first group with an id, and the height:
each of them goes through the tree by a recursion of its own.  Here all are told by the first, the
list of the members.  Where that list starts to count makes no other difference (`nodes_add`), so
that what is said of a group at some depth is brought to the nested groups, which are one level
down.

Ids may be repeated, also between groups and conditions.  What is looked up is the first group with
the id in the list, whatever conditions with that id come before it.
-/

namespace SelectBuilder

namespace ConditionGroup

variable {g : ConditionGroup}

/-! ## Depths -/

theorem mem_nodes {node : ConditionNode} {depth e : Int} :
    (node, e) ∈ g.nodes depth ↔
      (node = .group g ∧ e = depth) ∨ (∃ c ∈ g.conditions, node = .condition c ∧ e = depth) ∨
        ∃ h ∈ g.groups, (node, e) ∈ h.nodes (depth + 1) := by
  rw [nodes_eq, nodesOf_eq_flatMap]
  simp only [List.cons_append, List.mem_cons, List.mem_append, List.mem_map, List.mem_flatMap,
    Prod.mk.injEq, eq_comm]

/-- Counting from further down raises every depth by as much. -/
theorem nodes_add (g : ConditionGroup) (depth e : Int) :
    g.nodes (depth + e) = (g.nodes depth).map fun x ↦ (x.1, x.2 + e) := by
  induction g using inductionOn generalizing depth with
  | step g ih =>
    have hnested : g.groups.flatMap (nodes (depth + e + 1)) =
        g.groups.flatMap fun h ↦ (h.nodes (depth + 1)).map fun x ↦ (x.1, x.2 + e) := by
      refine List.flatMap_congr fun h hh ↦ ?_
      rw [← ih h hh, Int.add_right_comm]
    rw [nodes_eq, nodes_eq depth, nodesOf_eq_flatMap, nodesOf_eq_flatMap, hnested]
    simp [List.map_flatMap, Function.comp_def]

theorem le_height_of_mem_nodes {node : ConditionNode} {depth e : Int}
    (hmem : (node, e) ∈ g.nodes depth) : e ≤ depth + g.height := by
  induction g using inductionOn generalizing depth with
  | step g ih =>
    rcases mem_nodes.mp hmem with ⟨-, rfl⟩ | ⟨c, -, -, rfl⟩ | ⟨h, hh, hmem⟩
    · omega
    · omega
    · have := ih h hh hmem
      have := height_lt_of_mem hh
      omega

/-- Of some groups, one is as high as they all reach. -/
theorem exists_mem_levels {gs : List ConditionGroup} (hne : gs ≠ []) :
    ∃ h ∈ gs, levels gs = h.height + 1 := by
  induction gs with
  | nil => exact absurd rfl hne
  | cons g gs ih =>
    rw [levels]
    by_cases hle : levels gs ≤ 1 + g.height
    · refine ⟨g, List.mem_cons_self, ?_⟩
      omega
    · have hgs : gs ≠ [] := by
        rintro rfl
        exact hle (Nat.zero_le _)
      obtain ⟨h, hh, hlevels⟩ := ih hgs
      refine ⟨h, List.mem_cons_of_mem g hh, ?_⟩
      omega

/-- The lowest level of a tree has a group in it. -/
theorem exists_mem_nodes_height (g : ConditionGroup) (depth : Int) :
    ∃ h, (.group h, depth + g.height) ∈ g.nodes depth := by
  induction g using inductionOn generalizing depth with
  | step g ih =>
    by_cases hgroups : g.groups = []
    · have hheight : g.height = 0 := by
        rw [height_eq, hgroups]
        rfl
      refine ⟨g, mem_nodes.mpr (.inl ⟨rfl, ?_⟩)⟩
      rw [hheight]
      exact Int.add_zero depth
    · obtain ⟨h, hh, hlevels⟩ := exists_mem_levels hgroups
      obtain ⟨k, hk⟩ := ih h hh (depth + 1)
      have hdepth : depth + 1 + (h.height : Int) = depth + g.height := by
        rw [height_eq g, hlevels]
        omega
      exact ⟨k, mem_nodes.mpr (.inr (.inr ⟨h, hh, hdepth ▸ hk⟩))⟩

/-- The height of a tree is the greatest depth in it. -/
theorem isGreatest_height (g : ConditionGroup) :
    IsGreatest {d | ∃ node, (node, d) ∈ g.nodes 0} (g.height : Int) := by
  constructor
  · obtain ⟨h, hh⟩ := g.exists_mem_nodes_height 0
    rw [Int.zero_add] at hh
    exact ⟨.group h, hh⟩
  · rintro d ⟨node, hmem⟩
    have := le_height_of_mem_nodes hmem
    omega

/-! ## Looking up -/

/-- The group `h` at depth `d` is the first group with an id among some members of a tree. -/
def IsFirst (i : String) (members : List (ConditionNode × Int)) (h : ConditionGroup) (d : Int) :
    Prop :=
  h.id = i ∧ ∃ before after, members = before ++ (.group h, d) :: after ∧
    ∀ k e, (.group k, e) ∈ before → k.id ≠ i

/-- Whether a member is a group with an id. -/
def isNamed (i : String) (x : ConditionNode × Int) : Bool := x.1.group?.any (·.id = i)

theorem forall_not_isNamed_iff {i : String} {members : List (ConditionNode × Int)} :
    (∀ x ∈ members, !isNamed i x) ↔ ∀ k e, (.group k, e) ∈ members → k.id ≠ i := by
  constructor
  · intro hall k e hmem
    simpa [isNamed] using hall _ hmem
  · rintro hall ⟨node, e⟩ hmem
    cases node with
    | condition c => rfl
    | group k => simpa [isNamed] using hall k e hmem

/-- The first group with an id is what the list of all groups with their depths is searched for. -/
theorem find?_groupsAt_eq_some_iff {i : String} {depth : Int} {h : ConditionGroup} {d : Int} :
    (g.groupsAt depth).find? (·.1.id = i) = some (h, d) ↔ IsFirst i (g.nodes depth) h d := by
  have hgroup (x : ConditionNode × Int) :
      x.1.group?.map (·, x.2) = some (h, d) ↔ x = (.group h, d) := by
    obtain ⟨node, e⟩ := x
    cases node <;> simp
  have hnamed : (fun x : ConditionNode × Int ↦
      (x.1.group?.map (·, x.2)).any (·.1.id = i)) = isNamed i := by
    funext x
    rw [isNamed, Option.any_map]
  rw [groupsAt, List.find?_filterMap, Option.bind_eq_some_iff, hnamed]
  simp only [hgroup, exists_eq_right, List.find?_eq_some_iff_append, forall_not_isNamed_iff]
  simp [IsFirst, isNamed]

theorem locate_eq_some_iff {i : String} {h : ConditionGroup} {d : Nat} :
    g.locate i 0 = some (h, d) ↔ IsFirst i (g.nodes 0) h d := by
  rw [← find?_groupsAt_eq_some_iff]
  have hfind : (g.locate i 0).map (fun x ↦ (x.1, (x.2 : Int))) =
      (g.groupsAt 0).find? (·.1.id = i) := g.locate_eq_find? i 0
  rw [← hfind, Option.map_eq_some_iff]
  constructor
  · intro hlocate
    exact ⟨_, hlocate, rfl⟩
  · rintro ⟨⟨k, e⟩, hlocate, heq⟩
    rw [Prod.mk.injEq, Int.natCast_inj] at heq
    obtain ⟨rfl, rfl⟩ := heq
    exact hlocate

/-- The group that is found and the depth that is found are those of the same group. -/
theorem find?_and_depth?_eq_some_iff {i : String} {h : ConditionGroup} {d : Nat} :
    g.find? i = some h ∧ g.depth? i = some d ↔ IsFirst i (g.nodes 0) h d := by
  rw [← locate_eq_some_iff, find?, depth?]
  cases g.locate i 0 with
  | none => simp
  | some x =>
    obtain ⟨k, e⟩ := x
    simp

theorem depth?_eq_none_iff_find? {i : String} : g.depth? i = none ↔ g.find? i = none := by
  rw [depth?, find?, Option.map_eq_none_iff, Option.map_eq_none_iff]

theorem find?_eq_none_iff_nodes {i : String} :
    g.find? i = none ↔ ∀ h d, (.group h, d) ∈ g.nodes 0 → h.id ≠ i := by
  rw [← depth?_eq_none_iff_find?, depth?_eq_none_iff]
  simp only [mem_groupsAt]

/-! ## The main statement -/

/-- The walks through a tree agree, whatever ids are repeated in it.

The height is the greatest depth of a member.  A group and a depth are found by an id just if the
group is at that depth and is the first with the id among all members, and neither is found just if
no group has the id.  The conditions are those among the members, in the same order.  The members
counted from another depth are the same, with all depths raised by it. -/
theorem traversals_agree (g : ConditionGroup) :
    IsGreatest {d | ∃ node, (node, d) ∈ g.nodes 0} (g.height : Int) ∧
      (∀ i h (d : Nat), g.find? i = some h ∧ g.depth? i = some d ↔ IsFirst i (g.nodes 0) h d) ∧
      (∀ i, (g.find? i = none ↔ ∀ h d, (.group h, d) ∈ g.nodes 0 → h.id ≠ i) ∧
        (g.depth? i = none ↔ ∀ h d, (.group h, d) ∈ g.nodes 0 → h.id ≠ i)) ∧
      g.allConditions = (g.nodes 0).filterMap (·.1.condition?) ∧
      ∀ d, g.nodes d = (g.nodes 0).map fun x ↦ (x.1, x.2 + d) := by
  refine ⟨g.isGreatest_height, fun i h d ↦ find?_and_depth?_eq_some_iff, fun i ↦ ?_,
    (g.filterMap_nodes 0).symm, fun d ↦ ?_⟩
  · exact ⟨find?_eq_none_iff_nodes, depth?_eq_none_iff_find?.trans find?_eq_none_iff_nodes⟩
  · rw [← nodes_add, Int.zero_add]

end ConditionGroup

end SelectBuilder
