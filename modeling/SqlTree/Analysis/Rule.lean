import SqlTree.Node.Size

/-!
# Rules of nullability

What the nullability analysis looks at in a record, as a `Rule` over the parts that it consults.
Most kinds have no rule of their own, and all their children are collected. A record with a rule
shows the analysis some of its parts and hides the rest: what is no part of the rule has no
influence on the answer.
-/

namespace SqlTree

/-- What the nullability analysis sees of a record, over the parts that it consults. -/
inductive Rule (α : Type) where
  /-- The record itself says whether it is nullable. -/
  | known (nullable : Bool)
  /-- There is nothing that could be null. -/
  | blank
  /-- A join of two relations. -/
  | join (type : JoinType) (left right : α)
  /-- The operands of a boolean operator. -/
  | operands (args : List α)
  /-- A sub-select with the expression that it is tested against, if any. -/
  | subLink (type : SubLinkType) (test : Option α) (select : α)
  /-- A plain query: its targets, its rows of values, and the relations that it reads. -/
  | query (targets values sources : List α)
  /-- A set operation with the operands that are there. -/
  | combination (op : SetOperation) (left right : Option α)
  /-- The children of a record without a rule of its own. -/
  | collect (children : List α)

namespace Rule

variable {α β : Type}

/-- The parts that a rule consults, in the order in which it consults them. -/
def parts : Rule α → List α
  | known _ | blank => []
  | join _ left right => [left, right]
  | operands args => args
  | subLink _ test select => select :: test.toList
  | query targets values sources => targets ++ values ++ sources
  | combination _ left right => left.toList ++ right.toList
  | collect children => children

/-- A rule with each of its parts replaced by what `f` makes of it. -/
def map (f : α → β) : Rule α → Rule β
  | known nullable => known nullable
  | blank => blank
  | join type left right => join type (f left) (f right)
  | operands args => operands (args.map f)
  | subLink type test select => subLink type (test.map f) (f select)
  | query targets values sources => query (targets.map f) (values.map f) (sources.map f)
  | combination op left right => combination op (left.map f) (right.map f)
  | collect children => collect (children.map f)

/-- A rule with each of its parts carrying the proof that it is one. -/
def attach (r : Rule α) : Rule { a // a ∈ r.parts } :=
  match r with
  | known nullable => known nullable
  | blank => blank
  | join type left right => join type ⟨left, by simp [parts]⟩ ⟨right, by simp [parts]⟩
  | operands args => operands args.attach
  | subLink type test select =>
    subLink type (test.attach.map fun ⟨a, h⟩ => ⟨a, by simp [parts, h]⟩) ⟨select, by simp [parts]⟩
  | query targets values sources =>
    query (targets.attach.map fun ⟨a, h⟩ => ⟨a, by simp [parts, h]⟩)
      (values.attach.map fun ⟨a, h⟩ => ⟨a, by simp [parts, h]⟩)
      (sources.attach.map fun ⟨a, h⟩ => ⟨a, by simp [parts, h]⟩)
  | combination op left right =>
    combination op (left.attach.map fun ⟨a, h⟩ => ⟨a, by simp [parts, h]⟩)
      (right.attach.map fun ⟨a, h⟩ => ⟨a, by simp [parts, h]⟩)
  | collect children => collect children.attach

/-- Forgetting the proofs gives the rule back. -/
theorem map_attach (r : Rule α) (f : α → β) : (r.attach.map fun a => f a.val) = r.map f := by
  cases r with
  | operands args => exact congrArg operands List.attach_map_val
  | collect children => exact congrArg collect List.attach_map_val
  | _ => simp [attach, map]

end Rule

/-- What the nullability analysis sees of a record. -/
def Layer.rule {α : Type} : Layer α → Rule α
  | rangeVar record => .known record.nullable
  | columnRef record => .known record.nullable
  | paramRef record => .known record.nullable
  | aConst record => .known record.val.isNull
  | aliasClause _ => .blank
  | joinExpr record => .join record.jointype record.larg record.rarg
  | boolExpr record => .operands record.args
  | subLink record => .subLink record.subLinkType record.testexpr record.subselect
  | selectStmt record =>
    if record.op == .none then .query record.targetList record.valuesLists record.fromClause
    else .combination record.op record.larg record.rarg
  | layer => .collect layer.children

/-- The parts that a rule consults are children of the record. -/
theorem Layer.mem_children_of_mem_parts {α : Type} {a : α} {l : Layer α} (h : a ∈ l.rule.parts) :
    a ∈ l.children := by
  revert h
  cases l
  case selectStmt record =>
    simp only [Layer.rule]
    split <;>
      simp only [Rule.parts, Layer.children, SelectStmt.children, List.mem_append] <;> grind
  case joinExpr | subLink | boolExpr =>
    simp only [Layer.rule, Rule.parts, Layer.children, JoinExpr.children, SubLink.children,
      BoolExpr.children, List.mem_append, List.mem_cons]
    grind
  all_goals simp [Layer.rule, Rule.parts]

end SqlTree
