import Authorization.Script.Acceptance

/-!
# What acceptance says of every node

The walk over a tree has room for more levels than the tree has, so that it comes to every node: in a
script, no node at any depth has a fault. From there, what the parts of each construct are like is read
off one node at a time.
-/

namespace Authorization.Script

/-! ## Heights of parts -/

/-- A size that is the greatest of its parts' sizes is at least the size of each part. -/
theorem le_of_mem_of_cons {α : Type} {size : α → Nat} {greatest : List α → Nat}
    (ofCons : ∀ first rest, greatest (first :: rest) = max (size first) (greatest rest)) {part : α}
    {parts : List α} (member : part ∈ parts) : size part ≤ greatest parts := by
  induction member with
  | head rest =>
      rw [ofCons]
      exact Nat.le_max_left _ _
  | tail first _ inductionHypothesis =>
      rw [ofCons]
      exact Nat.le_trans inductionHypothesis (Nat.le_max_right _ _)

theorem height_le_of_mem {e : Expression} {es : List Expression} (member : e ∈ es) :
    e.height ≤ heightOfList es :=
  le_of_mem_of_cons (fun _ _ => rfl) member

theorem height_le_of_mem_block {s : Statement} {block : List Statement} (member : s ∈ block) :
    s.height ≤ heightOfBlock block :=
  le_of_mem_of_cons (fun _ _ => rfl) member

theorem height_le_of_mem_clauses {c : Clause} {clauses : List Clause} (member : c ∈ clauses) :
    c.height ≤ heightOfClauses clauses :=
  le_of_mem_of_cons (fun _ _ => rfl) member

theorem height_le_of_mem_keywords {k : Keyword} {keywords : List Keyword}
    (member : k ∈ keywords) : k.height ≤ heightOfKeywords keywords :=
  le_of_mem_of_cons (fun _ _ => rfl) member

theorem height_le_of_mem_entries {entry : Entry} {entries : List Entry}
    (member : entry ∈ entries) :
    max (heightOfOption entry.key) entry.value.height ≤ heightOfEntries entries := by
  have ofCons (first : Entry) (rest : List Entry) : heightOfEntries (first :: rest) =
      max (max (heightOfOption first.key) first.value.height) (heightOfEntries rest) := by
    obtain ⟨key, value⟩ := first
    rfl
  exact le_of_mem_of_cons ofCons member

namespace Node

/-- The length of the longest path down from a node; operators and contexts end every path. -/
def height : Node → Nat
  | .root tree => tree.height
  | .statement s => s.height
  | .expression e => e.height
  | .clause c => c.height
  | .keyword k => k.height
  | _ => 0

theorem height_le_of_mem_ofOption {child : Node} {e? : Option Expression}
    (member : child ∈ ofOption e?) : child.height ≤ heightOfOption e? := by
  cases e? with
  | none => simp [ofOption] at member
  | some e =>
      have same : child = .expression e := by simpa [ofOption] using member
      rw [same]
      exact Nat.le_refl _

theorem height_lt_of_mem_belowExpression {child : Node} {e : Expression}
    (member : child ∈ belowExpression e) : child.height < e.height := by
  have ofList {es : List Expression} (member : child ∈ es.map Node.expression) :
      child.height ≤ heightOfList es := by
    obtain ⟨part, isPart, rfl⟩ := List.mem_map.1 member
    exact height_le_of_mem isPart
  have ofClauses {clauses : List Clause} (member : child ∈ clauses.map Node.clause) :
      child.height ≤ heightOfClauses clauses := by
    obtain ⟨part, isPart, rfl⟩ := List.mem_map.1 member
    exact height_le_of_mem_clauses isPart
  have ofKeywords {keywords : List Keyword} (member : child ∈ keywords.map Node.keyword) :
      child.height ≤ heightOfKeywords keywords := by
    obtain ⟨part, isPart, rfl⟩ := List.mem_map.1 member
    exact height_le_of_mem_keywords isPart
  cases e with
  | boolean line operator operands =>
      rcases List.mem_cons.1 member with rfl | member
      · exact Nat.succ_pos _
      · exact Nat.lt_succ_of_le (ofList member)
  | binary line left operator right =>
      simp only [belowExpression, List.mem_cons, List.not_mem_nil, or_false] at member
      rcases member with rfl | rfl | rfl <;> simp only [height, Expression.height] <;> omega
  | unary line operator operand =>
      simp only [belowExpression, List.mem_cons, List.not_mem_nil, or_false] at member
      rcases member with rfl | rfl <;> simp only [height, Expression.height] <;> omega
  | conditional line test body orElse =>
      simp only [belowExpression, List.mem_cons, List.not_mem_nil, or_false] at member
      rcases member with rfl | rfl | rfl <;> simp only [height, Expression.height] <;> omega
  | dict line entries =>
      have below : child.height ≤ heightOfEntries entries := by
        rcases List.mem_append.1 member with member | member
        · obtain ⟨entry, isEntry, member⟩ := List.mem_flatMap.1 member
          have low := height_le_of_mem_ofOption member
          have high := height_le_of_mem_entries isEntry
          omega
        · obtain ⟨entry, isEntry, rfl⟩ := List.mem_map.1 member
          have high := height_le_of_mem_entries isEntry
          simp only [height]
          omega
      exact Nat.lt_succ_of_le below
  | set line elements => exact Nat.lt_succ_of_le (ofList member)
  | list line elements use =>
      rcases List.mem_append.1 member with member | member
      · exact Nat.lt_succ_of_le (ofList member)
      · rw [List.mem_singleton.1 member]
        exact Nat.succ_pos _
  | tuple line elements use =>
      rcases List.mem_append.1 member with member | member
      · exact Nat.lt_succ_of_le (ofList member)
      · rw [List.mem_singleton.1 member]
        exact Nat.succ_pos _
  | comprehension line collector element clauses =>
      rcases List.mem_cons.1 member with rfl | member
      · simp only [height, Expression.height]
        omega
      · have := ofClauses member
        simp only [Expression.height]
        omega
  | dictComprehension line key value clauses =>
      simp only [belowExpression, List.mem_cons] at member
      rcases member with rfl | rfl | member
      · simp only [height, Expression.height]
        omega
      · simp only [height, Expression.height]
        omega
      · have := ofClauses member
        simp only [Expression.height]
        omega
  | compare line left operators operands =>
      simp only [belowExpression, List.mem_append, List.mem_cons] at member
      rcases member with (rfl | member) | member
      · simp only [height, Expression.height]
        omega
      · obtain ⟨operator, _, rfl⟩ := List.mem_map.1 member
        exact Nat.succ_pos _
      · have := ofList member
        simp only [Expression.height]
        omega
  | call line function arguments keywords =>
      simp only [belowExpression, List.mem_append, List.mem_cons] at member
      rcases member with (rfl | member) | member
      · simp only [height, Expression.height]
        omega
      · have := ofList member
        simp only [Expression.height]
        omega
      · have := ofKeywords member
        simp only [Expression.height]
        omega
  | constant => cases member
  | foreign => cases member
  | «attribute» line base field use =>
      simp only [belowExpression, List.mem_cons, List.not_mem_nil, or_false] at member
      rcases member with rfl | rfl <;> simp only [height, Expression.height] <;> omega
  | subscript line base index use =>
      simp only [belowExpression, List.mem_cons, List.not_mem_nil, or_false] at member
      rcases member with rfl | rfl | rfl <;> simp only [height, Expression.height] <;> omega
  | slice line lower upper step =>
      simp only [belowExpression, List.mem_append] at member
      simp only [Expression.height]
      rcases member with (member | member) | member <;>
        have := height_le_of_mem_ofOption member <;> omega
  | name line identifier use =>
      rw [List.mem_singleton.1 member]
      exact Nat.succ_pos _
  | starred line operand =>
      rw [List.mem_singleton.1 member]
      exact Nat.lt_succ_self _

theorem height_lt_of_mem_belowStatement {child : Node} {s : Statement}
    (member : child ∈ belowStatement s) : child.height < s.height := by
  have ofBlock {block : List Statement} (member : child ∈ block.map Node.statement) :
      child.height ≤ heightOfBlock block := by
    obtain ⟨part, isPart, rfl⟩ := List.mem_map.1 member
    exact height_le_of_mem_block isPart
  cases s with
  | expression line value =>
      rw [List.mem_singleton.1 member]
      exact Nat.lt_succ_self _
  | assign line targets value =>
      rcases List.mem_append.1 member with member | member
      · obtain ⟨target, isTarget, rfl⟩ := List.mem_map.1 member
        have := height_le_of_mem isTarget
        simp only [height, Statement.height]
        omega
      · rw [List.mem_singleton.1 member]
        simp only [height, Statement.height]
        omega
  | augmentedAssign line target operator value =>
      simp only [belowStatement, List.mem_cons, List.not_mem_nil, or_false] at member
      rcases member with rfl | rfl | rfl <;> simp only [height, Statement.height] <;> omega
  | branch line test body orElse =>
      simp only [belowStatement, List.mem_append, List.mem_cons] at member
      simp only [Statement.height]
      rcases member with (rfl | member) | member
      · simp only [height]
        omega
      · have := ofBlock member
        omega
      · have := ofBlock member
        omega
  | forLoop line target source body orElse =>
      simp only [belowStatement, List.mem_append, List.mem_cons] at member
      simp only [Statement.height]
      rcases member with (rfl | rfl | member) | member
      · simp only [height]
        omega
      · simp only [height]
        omega
      · have := ofBlock member
        omega
      · have := ofBlock member
        omega
  | whileLoop line test body orElse =>
      simp only [belowStatement, List.mem_append, List.mem_cons] at member
      simp only [Statement.height]
      rcases member with (rfl | member) | member
      · simp only [height]
        omega
      · have := ofBlock member
        omega
      · have := ofBlock member
        omega
  | returnValue line value => exact Nat.lt_succ_of_le (height_le_of_mem_ofOption member)
  | breakLoop => cases member
  | continueLoop => cases member
  | pass => cases member
  | foreign => cases member

/-- Every level of a tree is lower than the one above it. -/
theorem height_lt_of_mem_children {child node : Node} (member : child ∈ node.children) :
    child.height < node.height := by
  cases node with
  | root tree =>
      cases tree with
      | expression body =>
          rw [List.mem_singleton.1 member]
          exact Nat.lt_succ_self _
      | block body =>
          obtain ⟨part, isPart, rfl⟩ := List.mem_map.1 member
          exact Nat.lt_succ_of_le (height_le_of_mem_block isPart)
  | statement s => exact height_lt_of_mem_belowStatement member
  | expression e => exact height_lt_of_mem_belowExpression member
  | clause c =>
      obtain ⟨target, source, conditions, isAsync⟩ := c
      simp only [children, List.mem_cons] at member
      rcases member with rfl | rfl | member
      · simp only [height, Clause.height, Clause.target]
        omega
      · simp only [height, Clause.height, Clause.source]
        omega
      · obtain ⟨condition, isCondition, rfl⟩ := List.mem_map.1 member
        have := height_le_of_mem isCondition
        simp only [Clause.conditions] at this
        simp only [height, Clause.height]
        omega
  | keyword k =>
      obtain ⟨line, name, value⟩ := k
      rw [List.mem_singleton.1 member]
      exact Nat.lt_succ_self _
  | _ => cases member

/-! ## Accepted nodes -/

/-- A literal stands at a node or somewhere below it. -/
inductive Holds (literal : Literal) : Node → Prop
  | here (line : Nat) : Holds literal (.expression (.constant line literal))
  | under {node child : Node} (member : child ∈ node.children) (held : Holds literal child) :
      Holds literal node

/-- The literal of a node that is one. -/
def literal? : Node → Option Literal
  | .expression (.constant _ literal) => some literal
  | _ => none

/-- The literals at a node and on so many levels below it. -/
def literalsWithin : (levels : Nat) → Node → List Literal
  | 0, _ => []
  | levels + 1, node => node.literal?.toList ++ node.children.flatMap (literalsWithin levels)

/-- With room for every level below a node, its literals can be listed. -/
theorem Holds.mem_literalsWithin {literal : Literal} {node : Node} (held : node.Holds literal)
    {levels : Nat} (room : node.height < levels) : literal ∈ node.literalsWithin levels := by
  induction held generalizing levels with
  | here line =>
      cases levels with
      | zero => exact absurd room (Nat.not_lt_zero _)
      | succ levels => exact List.mem_append_left _ (List.mem_singleton_self literal)
  | @under node child member _ inductionHypothesis =>
      cases levels with
      | zero => exact absurd room (Nat.not_lt_zero _)
      | succ levels =>
          have lower := height_lt_of_mem_children member
          have roomBelow : child.height < levels := by omega
          have found := inductionHypothesis roomBelow
          exact List.mem_append_right _ (List.mem_flatMap.2 ⟨child, member, found⟩)

/-- Neither a node nor any node below it has a fault or a literal other than those admitted. -/
inductive Accepted (admits : Literal → Prop) : Node → Prop
  | intro {node : Node} (own : node.fault? = none)
      (spelled : ∀ line literal, node = .expression (.constant line literal) → admits literal)
      (below : ∀ child ∈ node.children, Accepted admits child) : Accepted admits node

variable {admits : Literal → Prop}

theorem Accepted.own {node : Node} (accepted : node.Accepted admits) : node.fault? = none := by
  cases accepted with
  | intro own spelled below => exact own

theorem Accepted.spelled {node : Node} (accepted : node.Accepted admits) (line : Nat)
    (literal : Literal) (same : node = .expression (.constant line literal)) : admits literal := by
  cases accepted with
  | intro own spelled below => exact spelled line literal same

theorem Accepted.child {node child : Node} (accepted : node.Accepted admits)
    (member : child ∈ node.children) : child.Accepted admits := by
  cases accepted with
  | intro own spelled below => exact below child member

theorem Accepted.mono {more : Literal → Prop} (implies : ∀ literal, admits literal → more literal)
    {node : Node} (accepted : node.Accepted admits) : node.Accepted more := by
  induction accepted with
  | intro own spelled _ inductionHypothesis =>
      exact .intro own (fun line literal same => implies literal (spelled line literal same))
        inductionHypothesis

/-- A walk with room for every level below its nodes that finds no fault has been to all nodes. -/
theorem accepted_of_firstFault? {levels : Nat} {level : List Node}
    (room : ∀ node ∈ level, node.height < levels) (faultless : firstFault? levels level = none)
    (admitted : ∀ node ∈ level, ∀ literal, node.Holds literal → admits literal) :
    ∀ node ∈ level, node.Accepted admits := by
  -- One level of the walk for each level of height: what is below `level` still has room.
  induction levels generalizing level with
  | zero =>
      intro node member
      exact absurd (room node member) (Nat.not_lt_zero _)
  | succ levels inductionHypothesis =>
      rw [firstFault?] at faultless
      cases found : level.findSome? fault? with
      | some fault => simp [found] at faultless
      | none =>
          intro node member
          refine .intro (List.findSome?_eq_none_iff.1 found node member) ?_ fun child isChild => ?_
          · rintro line literal rfl
            exact admitted _ member literal (.here line)
          have nonEmpty : level.isEmpty = false := by
            cases level with
            | nil => cases member
            | cons first rest => rfl
          simp only [found, nonEmpty] at faultless
          have roomBelow : ∀ child ∈ level.flatMap children, child.height < levels := by
            intro child isBelow
            obtain ⟨parent, isParent, isChild⟩ := List.mem_flatMap.1 isBelow
            have lower := height_lt_of_mem_children isChild
            have high := room parent isParent
            omega
          have admittedBelow : ∀ child ∈ level.flatMap children, ∀ literal,
              child.Holds literal → admits literal := by
            intro child isBelow literal held
            obtain ⟨parent, isParent, isChild⟩ := List.mem_flatMap.1 isBelow
            exact admitted parent isParent literal (.under isChild held)
          exact inductionHypothesis roomBelow faultless admittedBelow child
            (List.mem_flatMap.2 ⟨node, member, isChild⟩)

end Node

/-- No node of a script has a fault. -/
theorem Tree.accepted_of_fault? {admits : Literal → Prop} {tree : Tree}
    (faultless : tree.fault? = none)
    (admitted : ∀ literal, (Node.root tree).Holds literal → admits literal) :
    (Node.root tree).Accepted admits := by
  have room : ∀ node ∈ [Node.root tree], node.height < tree.height + 2 := by
    intro node member
    rw [List.mem_singleton.1 member]
    simp only [Node.height]
    omega
  have admittedHere : ∀ node ∈ [Node.root tree], ∀ literal,
      node.Holds literal → admits literal := by
    intro node member
    rw [List.mem_singleton.1 member]
    exact admitted
  exact Node.accepted_of_firstFault? room faultless admittedHere _ (List.mem_singleton_self _)

/-! ## The parts of accepted constructs -/

/-- An expression is accepted, with all that it holds. -/
abbrev Expression.Accepted (admits : Literal → Prop) (e : Expression) : Prop :=
  (Node.expression e).Accepted admits

/-- A statement is accepted, with all that it holds. -/
abbrev Statement.Accepted (admits : Literal → Prop) (s : Statement) : Prop :=
  (Node.statement s).Accepted admits

variable {admits : Literal → Prop}

namespace Expression

theorem Accepted.fault?_eq_none {e : Expression} (accepted : e.Accepted admits) :
    e.fault? = none := by
  have own := accepted.own
  simpa only [Node.fault?, Option.map_eq_none_iff] using own

theorem Accepted.part {e : Expression} {child : Node} (accepted : e.Accepted admits)
    (member : child ∈ Node.belowExpression e) : child.Accepted admits :=
  Node.Accepted.child accepted member

theorem Accepted.ofOption {e? : Option Expression}
    (accepted : ∀ child ∈ Node.ofOption e?, child.Accepted admits) :
    ∀ e ∈ e?, e.Accepted admits := by
  intro e isThere
  apply accepted
  rw [Option.mem_def] at isThere
  simp [Node.ofOption, isThere]

theorem not_accepted_starred (line : Nat) (operand : Expression) :
    ¬ (starred line operand).Accepted admits := by
  intro accepted
  cases accepted.fault?_eq_none

theorem not_accepted_foreign (line : Nat) (construct : ForeignExpression) :
    ¬ (foreign line construct).Accepted admits := by
  intro accepted
  cases accepted.fault?_eq_none

theorem Accepted.isPrivate_name {line : Nat} {identifier : String} {use : Context}
    (accepted : (name line identifier use).Accepted admits) : isPrivate identifier = false := by
  have faultless := accepted.fault?_eq_none
  simpa [fault?] using faultless

theorem Accepted.isPrivate_attribute {line : Nat} {base : Expression} {field : String}
    {use : Context} (accepted : (Expression.attribute line base field use).Accepted admits) :
    isPrivate field = false := by
  have faultless := accepted.fault?_eq_none
  simpa [fault?] using faultless

theorem Accepted.operator_ne_invert {line : Nat} {operator : UnaryOperator} {operand : Expression}
    (accepted : (unary line operator operand).Accepted admits) : operator ≠ .invert := by
  rintro rfl
  have own := (accepted.part (List.mem_cons_self ..)).own
  cases own

theorem Accepted.isOffered {line : Nat} {left right : Expression} {operator : BinaryOperator}
    (accepted : (binary line left operator right).Accepted admits) : operator.isOffered = true := by
  have part : (Node.binaryOperator operator).Accepted admits :=
    accepted.part (by simp [Node.belowExpression])
  have own := part.own
  cases offered : operator.isOffered with
  | true => rfl
  | false => simp [Node.fault?, Node.refusedUnless, offered] at own

/-- Every entry of an accepted mapping has a key. -/
theorem Accepted.entry {line : Nat} {entries : List Entry}
    (accepted : (dict line entries).Accepted admits) {entry : Entry} (member : entry ∈ entries) :
    ∃ key, entry.key = some key ∧ key.Accepted admits ∧ entry.value.Accepted admits := by
  have faultless := accepted.fault?_eq_none
  have keyed : entries.any (·.key.isNone) = false := by simpa [fault?] using faultless
  have hasKey := List.any_eq_false.1 keyed entry member
  cases found : entry.key with
  | none => simp [found] at hasKey
  | some key =>
      refine ⟨key, rfl, accepted.part ?_, accepted.part ?_⟩
      · refine List.mem_append_left _ (List.mem_flatMap.2 ⟨entry, member, ?_⟩)
        simp [found, Node.ofOption]
      · exact List.mem_append_right _ (List.mem_map_of_mem member)

end Expression

/-- A named argument of an accepted call has a name that scripts may use. -/
theorem Keyword.exists_name_of_accepted {keyword : Keyword}
    (accepted : (Node.keyword keyword).Accepted admits) :
    ∃ name, keyword.name = some name ∧ isPrivate name = false ∧ keyword.value.Accepted admits := by
  have own := accepted.own
  cases found : keyword.name with
  | none => simp [Node.fault?, found] at own
  | some name =>
      refine ⟨name, rfl, ?_, accepted.child (List.mem_singleton_self _)⟩
      simpa [Node.fault?, found] using own

/-- A part of an accepted comprehension assigns to a target. -/
theorem Clause.isTarget_of_accepted {clause : Clause}
    (accepted : (Node.clause clause).Accepted admits) : clause.target.isTarget = true := by
  have own := accepted.own
  cases isTarget : clause.target.isTarget with
  | true => rfl
  | false => simp [Node.fault?, Node.clauseFault?, isTarget] at own

namespace Statement

theorem Accepted.fault?_eq_none {s : Statement} (accepted : s.Accepted admits) :
    s.fault? = none := by
  have own := accepted.own
  simpa only [Node.fault?, Option.map_eq_none_iff] using own

theorem Accepted.part {s : Statement} {child : Node} (accepted : s.Accepted admits)
    (member : child ∈ Node.belowStatement s) : child.Accepted admits :=
  Node.Accepted.child accepted member

theorem not_accepted_foreign (line : Nat) (construct : ForeignStatement) :
    ¬ (foreign line construct).Accepted admits := by
  intro accepted
  cases accepted.fault?_eq_none

theorem Accepted.isTarget {line : Nat} {targets : List Expression} {value : Expression}
    (accepted : (assign line targets value).Accepted admits) {target : Expression}
    (member : target ∈ targets) : target.isTarget = true := by
  have faultless := accepted.fault?_eq_none
  have all : targets.all Expression.isTarget = true := by simpa [fault?] using faultless
  exact List.all_eq_true.1 all target member

theorem Accepted.isName {line : Nat} {target value : Expression} {operator : BinaryOperator}
    (accepted : (augmentedAssign line target operator value).Accepted admits) :
    target.isName = true := by
  have faultless := accepted.fault?_eq_none
  simpa [fault?] using faultless

theorem Accepted.isOffered {line : Nat} {target value : Expression} {operator : BinaryOperator}
    (accepted : (augmentedAssign line target operator value).Accepted admits) :
    operator.isOffered = true := by
  have part : (Node.binaryOperator operator).Accepted admits :=
    accepted.part (by simp [Node.belowStatement])
  have own := part.own
  cases offered : operator.isOffered with
  | true => rfl
  | false => simp [Node.fault?, Node.refusedUnless, offered] at own

theorem Accepted.isTarget_forLoop {line : Nat} {target source : Expression}
    {body orElse : List Statement}
    (accepted : (forLoop line target source body orElse).Accepted admits) :
    target.isTarget = true := by
  have faultless := accepted.fault?_eq_none
  cases isTarget : target.isTarget with
  | true => rfl
  | false => simp [fault?, isTarget] at faultless

end Statement

end Authorization.Script
