import Mathlib.Logic.Basic
import TypedSearch.Request.FilterNode

/-!
Filter trees as such: the conditions a tree mentions, and when a tree is satisfied given which
conditions are met. Neither notion knows how a tree is compiled.
-/

namespace TypedSearch.FilterNode

/-- A property of every node holds of a whole tree if each node has it once the nodes in its two
lists do. -/
theorem tree_induction {motive : FilterNode → Prop}
    (node : ∀ cond all any, (∀ child ∈ all.getD [], motive child) →
      (∀ child ∈ any.getD [], motive child) → motive ⟨cond, all, any⟩)
    (tree : FilterNode) : motive tree := by
  refine @FilterNode.rec motive (fun children => ∀ child ∈ children.getD [], motive child)
    (fun children => ∀ child ∈ children, motive child) ?_ ?_ ?_ ?_ ?_ tree
  · intro cond all any inAll inAny
    exact node cond all any inAll inAny
  · simp
  · intro children each
    exact each
  · simp
  · intro child rest first others
    exact List.forall_mem_cons.mpr ⟨first, others⟩

/-- A condition occurs in a tree, at whatever depth and in whichever list. -/
inductive Mentions (condition : String × Json) : FilterNode → Prop where
  | own {cond : Option Json.Entries} {all any : Option (List FilterNode)}
      (listed : condition ∈ cond.getD []) : Mentions condition ⟨cond, all, any⟩
  | conjunct {cond : Option Json.Entries} {all any : Option (List FilterNode)} {node : FilterNode}
      (child : node ∈ all.getD []) (inside : Mentions condition node) :
      Mentions condition ⟨cond, all, any⟩
  | alternative {cond : Option Json.Entries} {all any : Option (List FilterNode)}
      {node : FilterNode} (child : node ∈ any.getD []) (inside : Mentions condition node) :
      Mentions condition ⟨cond, all, any⟩

theorem mentions_iff {condition : String × Json} {cond : Option Json.Entries}
    {all any : Option (List FilterNode)} :
    Mentions condition ⟨cond, all, any⟩ ↔
      condition ∈ cond.getD [] ∨ (∃ child ∈ all.getD [], Mentions condition child) ∨
        ∃ child ∈ any.getD [], Mentions condition child := by
  constructor
  · intro mentioned
    cases mentioned with
    | own listed => exact .inl listed
    | conjunct child inside => exact .inr (.inl ⟨_, child, inside⟩)
    | alternative child inside => exact .inr (.inr ⟨_, child, inside⟩)
  · rintro (listed | ⟨node, child, inside⟩ | ⟨node, child, inside⟩)
    · exact .own listed
    · exact .conjunct child inside
    · exact .alternative child inside

/-- All conditions of a tree have a property. -/
def Throughout (holds : String × Json → Prop) (tree : FilterNode) : Prop :=
  ∀ condition, Mentions condition tree → holds condition

theorem throughout_iff {holds : String × Json → Prop} {cond : Option Json.Entries}
    {all any : Option (List FilterNode)} :
    Throughout holds ⟨cond, all, any⟩ ↔
      (∀ condition ∈ cond.getD [], holds condition) ∧
      (∀ child ∈ all.getD [], Throughout holds child) ∧
      ∀ child ∈ any.getD [], Throughout holds child := by
  constructor
  · intro each
    refine ⟨fun condition listed => each condition (.own listed), ?_, ?_⟩
    · exact fun child member condition inside => each condition (.conjunct member inside)
    · exact fun child member condition inside => each condition (.alternative member inside)
  · rintro ⟨own, conjuncts, alternatives⟩ condition mentioned
    rcases mentions_iff.mp mentioned with listed | ⟨child, member, inside⟩ | ⟨child, member, inside⟩
    · exact own condition listed
    · exact conjuncts child member condition inside
    · exact alternatives child member condition inside

/-- A tree holds as soon as some of its conditions are met: all of its own, all nodes that must hold,
and one of the alternatives unless there are none. -/
inductive Satisfied (met : String × Json → Prop) : FilterNode → Prop where
  | unconditional {cond : Option Json.Entries} {all any : Option (List FilterNode)}
      (own : ∀ condition ∈ cond.getD [], met condition)
      (conjuncts : ∀ child ∈ all.getD [], Satisfied met child) (noChoice : any.getD [] = []) :
      Satisfied met ⟨cond, all, any⟩
  | chosen {cond : Option Json.Entries} {all any : Option (List FilterNode)} {node : FilterNode}
      (own : ∀ condition ∈ cond.getD [], met condition)
      (conjuncts : ∀ child ∈ all.getD [], Satisfied met child) (child : node ∈ any.getD [])
      (holds : Satisfied met node) : Satisfied met ⟨cond, all, any⟩

/-- The three parts of a node that is satisfied. -/
theorem satisfied_iff {met : String × Json → Prop} {cond : Option Json.Entries}
    {all any : Option (List FilterNode)} :
    Satisfied met ⟨cond, all, any⟩ ↔
      (∀ condition ∈ cond.getD [], met condition) ∧
      (∀ child ∈ all.getD [], Satisfied met child) ∧
      (any.getD [] = [] ∨ ∃ child ∈ any.getD [], Satisfied met child) := by
  constructor
  · intro held
    cases held with
    | unconditional own conjuncts noChoice => exact ⟨own, conjuncts, .inl noChoice⟩
    | chosen own conjuncts child holds => exact ⟨own, conjuncts, .inr ⟨_, child, holds⟩⟩
  · rintro ⟨own, conjuncts, noChoice | ⟨node, child, holds⟩⟩
    · exact .unconditional own conjuncts noChoice
    · exact .chosen own conjuncts child holds

/-- Whether a tree is satisfied depends on the conditions that it mentions only. -/
theorem satisfied_congr {met other : String × Json → Prop} (tree : FilterNode)
    (same : ∀ condition, Mentions condition tree → (met condition ↔ other condition)) :
    Satisfied met tree ↔ Satisfied other tree := by
  induction tree using tree_induction with
  | node cond all any inAll inAny =>
    have own : ∀ condition ∈ cond.getD [], (met condition ↔ other condition) :=
      fun condition listed => same condition (.own listed)
    have conjuncts : ∀ child ∈ all.getD [], (Satisfied met child ↔ Satisfied other child) :=
      fun child member => inAll child member fun condition inside =>
        same condition (.conjunct member inside)
    have alternatives : ∀ child ∈ any.getD [], (Satisfied met child ↔ Satisfied other child) :=
      fun child member => inAny child member fun condition inside =>
        same condition (.alternative member inside)
    rw [satisfied_iff, satisfied_iff, forall₂_congr own, forall₂_congr conjuncts]
    simp only [and_congr_right_iff]
    intro _ _
    constructor
    · rintro (none | ⟨child, member, satisfied⟩)
      · exact .inl none
      · exact .inr ⟨child, member, (alternatives child member).mp satisfied⟩
    · rintro (none | ⟨child, member, satisfied⟩)
      · exact .inl none
      · exact .inr ⟨child, member, (alternatives child member).mpr satisfied⟩

/-- A condition stands where someone gets who goes through a tree in order and leaves a list of
alternatives after the first that is satisfied by idle conditions alone. -/
inductive Reaches (idle : String × Json → Prop) (condition : String × Json) : FilterNode → Prop where
  | own {cond : Option Json.Entries} {all any : Option (List FilterNode)}
      (listed : condition ∈ cond.getD []) : Reaches idle condition ⟨cond, all, any⟩
  | conjunct {cond : Option Json.Entries} {all any : Option (List FilterNode)} {node : FilterNode}
      (child : node ∈ all.getD []) (inside : Reaches idle condition node) :
      Reaches idle condition ⟨cond, all, any⟩
  | alternative {cond : Option Json.Entries} {all any : Option (List FilterNode)}
      {before after : List FilterNode} {node : FilterNode}
      (split : any.getD [] = before ++ node :: after)
      (unsettled : ∀ sibling ∈ before, ¬ Satisfied idle sibling)
      (inside : Reaches idle condition node) : Reaches idle condition ⟨cond, all, any⟩

theorem reaches_iff {idle : String × Json → Prop} {condition : String × Json}
    {cond : Option Json.Entries} {all any : Option (List FilterNode)} :
    Reaches idle condition ⟨cond, all, any⟩ ↔
      condition ∈ cond.getD [] ∨ (∃ child ∈ all.getD [], Reaches idle condition child) ∨
        ∃ before node after, any.getD [] = before ++ node :: after ∧
          (∀ sibling ∈ before, ¬ Satisfied idle sibling) ∧ Reaches idle condition node := by
  constructor
  · intro reached
    cases reached with
    | own listed => exact .inl listed
    | conjunct child inside => exact .inr (.inl ⟨_, child, inside⟩)
    | alternative split unsettled inside => exact .inr (.inr ⟨_, _, _, split, unsettled, inside⟩)
  · rintro (listed | ⟨node, child, inside⟩ | ⟨before, node, after, split, unsettled, inside⟩)
    · exact .own listed
    · exact .conjunct child inside
    · exact .alternative split unsettled inside

/-- A condition stands behind an alternative that is satisfied by idle conditions alone. -/
inductive Overlooked (idle : String × Json → Prop) (condition : String × Json) :
    FilterNode → Prop where
  | behind {cond : Option Json.Entries} {all any : Option (List FilterNode)}
      {before after : List FilterNode} {sibling node : FilterNode}
      (split : any.getD [] = before ++ sibling :: after) (settled : Satisfied idle sibling)
      (child : node ∈ after) (inside : Mentions condition node) :
      Overlooked idle condition ⟨cond, all, any⟩
  | conjunct {cond : Option Json.Entries} {all any : Option (List FilterNode)} {node : FilterNode}
      (child : node ∈ all.getD []) (inside : Overlooked idle condition node) :
      Overlooked idle condition ⟨cond, all, any⟩
  | alternative {cond : Option Json.Entries} {all any : Option (List FilterNode)}
      {node : FilterNode} (child : node ∈ any.getD []) (inside : Overlooked idle condition node) :
      Overlooked idle condition ⟨cond, all, any⟩

variable {idle : String × Json → Prop} {condition : String × Json} {tree : FilterNode}

theorem mentions_of_reaches (reached : Reaches idle condition tree) : Mentions condition tree := by
  induction reached with
  | own listed => exact .own listed
  | conjunct child _ ih => exact .conjunct child ih
  | alternative split _ _ ih => exact .alternative (by simp [split]) ih

/-- Only an alternative that is satisfied anyway can hide what a tree mentions. -/
theorem reached_or_overlooked (mentioned : Mentions condition tree) :
    Reaches idle condition tree ∨ Overlooked idle condition tree := by
  induction mentioned with
  | own listed => exact .inl (.own listed)
  | conjunct child _ ih =>
    rcases ih with reached | overlooked
    · exact .inl (.conjunct child reached)
    · exact .inr (.conjunct child overlooked)
  | @alternative cond all any node child inside ih =>
    obtain ⟨before, after, split⟩ := List.append_of_mem child
    -- Either nothing before the alternative settles the choice, or the first that does hides it.
    by_cases unsettled : ∀ sibling ∈ before, ¬ Satisfied idle sibling
    · rcases ih with reached | overlooked
      · exact .inl (.alternative split unsettled reached)
      · exact .inr (.alternative child overlooked)
    · simp only [Classical.not_forall, Classical.not_not] at unsettled
      obtain ⟨sibling, earlier, settled⟩ := unsettled
      obtain ⟨first, between, splitBefore⟩ := List.append_of_mem earlier
      have later : any.getD [] = first ++ sibling :: (between ++ node :: after) := by
        rw [split, splitBefore, List.append_assoc, List.cons_append]
      exact .inr (.behind later settled (by simp) inside)

/-- A tree has one condition more than another: somewhere in it conditions that did not have its name
have it among them. -/
inductive Extends (condition : String × Json) : FilterNode → FilterNode → Prop where
  | own {cond : Option Json.Entries} {all any : Option (List FilterNode)}
      {before after : Json.Entries} (split : cond.getD [] = before ++ after)
      (fresh : condition.1 ∉ Json.Entries.keys (cond.getD [])) :
      Extends condition ⟨cond, all, any⟩ ⟨some (before ++ condition :: after), all, any⟩
  | conjunct {cond : Option Json.Entries} {any : Option (List FilterNode)}
      {before after : List FilterNode} {node extended : FilterNode}
      (inside : Extends condition node extended) :
      Extends condition ⟨cond, some (before ++ node :: after), any⟩
        ⟨cond, some (before ++ extended :: after), any⟩
  | alternative {cond : Option Json.Entries} {all : Option (List FilterNode)}
      {before after : List FilterNode} {node extended : FilterNode}
      (inside : Extends condition node extended) :
      Extends condition ⟨cond, all, some (before ++ node :: after)⟩
        ⟨cond, all, some (before ++ extended :: after)⟩

/-- One condition more than none is that condition alone. -/
theorem extends_nothing (condition : String × Json) :
    Extends condition ⟨some [], none, none⟩ ⟨some [condition], none, none⟩ := by
  have fresh : condition.1 ∉ Json.Entries.keys [] := by simp [Json.Entries.keys]
  have added : Extends condition ⟨some [], none, none⟩
      ⟨some ([] ++ [condition]), none, none⟩ := .own rfl fresh
  exact added

section Nesting

variable {cond : Option Json.Entries} {all any : Option (List FilterNode)} {field : String}

/-- No node of a tree has two conditions of one name, as no object that was read has two entries of one
key. -/
inductive Keyed : FilterNode → Prop where
  | node {cond : Option Json.Entries} {all any : Option (List FilterNode)}
      (own : (Json.Entries.keys (cond.getD [])).Nodup)
      (conjuncts : ∀ child ∈ all.getD [], Keyed child)
      (alternatives : ∀ child ∈ any.getD [], Keyed child) : Keyed ⟨cond, all, any⟩

theorem keyed_iff :
    Keyed ⟨cond, all, any⟩ ↔ (Json.Entries.keys (cond.getD [])).Nodup ∧
      (∀ child ∈ all.getD [], Keyed child) ∧ ∀ child ∈ any.getD [], Keyed child := by
  constructor
  · rintro ⟨own, conjuncts, alternatives⟩
    exact ⟨own, conjuncts, alternatives⟩
  · rintro ⟨own, conjuncts, alternatives⟩
    exact .node own conjuncts alternatives

mutual

/-- A tree whose nodes ask under a field what those of another one ask. -/
def nest (field : String) : FilterNode → FilterNode
  | ⟨cond, all, any⟩ =>
    ⟨cond.map fun conditions => [(field, .object conditions)], nestChildren field all,
      nestChildren field any⟩
termination_by structural x => x

def nestChildren (field : String) : Option (List FilterNode) → Option (List FilterNode)
  | none => none
  | some nodes => some (nestNodes field nodes)
termination_by structural x => x

def nestNodes (field : String) : List FilterNode → List FilterNode
  | [] => []
  | node :: rest => nest field node :: nestNodes field rest
termination_by structural x => x

end

theorem nestNodes_eq_map (nodes : List FilterNode) :
    nestNodes field nodes = nodes.map (nest field) := by
  induction nodes with
  | nil => rfl
  | cons node rest ih => rw [nestNodes, ih, List.map_cons]

theorem nestChildren_getD (children : Option (List FilterNode)) :
    (nestChildren field children).getD [] = (children.getD []).map (nest field) := by
  cases children with
  | none => rfl
  | some nodes => exact nestNodes_eq_map nodes

/-- A tree put under a field is satisfied with the tree, if each object that its conditions make up is
met with them. -/
theorem satisfied_nest {met other : String × Json → Prop}
    (same : ∀ conditions, (Json.Entries.keys conditions).Nodup →
      (other (field, .object conditions) ↔ ∀ condition ∈ conditions, met condition))
    (tree : FilterNode) (keyed : tree.Keyed) :
    Satisfied other (tree.nest field) ↔ Satisfied met tree := by
  induction tree using tree_induction with
  | node cond all any inAll inAny =>
    obtain ⟨own, keyedAll, keyedAny⟩ := keyed_iff.mp keyed
    have conditions : (∀ condition ∈ (cond.map fun conditions =>
        [(field, Json.object conditions)]).getD [], other condition) ↔
        ∀ condition ∈ cond.getD [], met condition := by
      cases cond with
      | none => simp
      | some conditions => simpa using same conditions own
    have conjuncts : (∀ child ∈ (all.getD []).map (nest field), Satisfied other child) ↔
        ∀ child ∈ all.getD [], Satisfied met child := by
      rw [List.forall_mem_map]
      exact forall₂_congr fun child member => inAll child member (keyedAll child member)
    have alternatives : (∃ child ∈ (any.getD []).map (nest field), Satisfied other child) ↔
        ∃ child ∈ any.getD [], Satisfied met child := by
      simp only [List.mem_map, exists_exists_and_eq_and]
      exact exists_congr fun child => and_congr_right fun member =>
        inAny child member (keyedAny child member)
    rw [nest, satisfied_iff, satisfied_iff, conditions, nestChildren_getD, conjuncts,
      nestChildren_getD, alternatives, List.map_eq_nil_iff]

end Nesting

end TypedSearch.FilterNode
