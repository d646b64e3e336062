import SqlTree.Builder

/-!
# Editing trees

Changes to the outermost record of a tree. A change names a field as raw trees do, and applies only
to the kinds that have the field. What is stored is not checked against the shape that the builder
insists on, so editing reaches trees that no raw tree builds: a set operation without operands, or
a sub-link whose query is not one.

Nodes to store are given as raw values and built with the standard settings, after it is clear that
the change applies.
-/

namespace SqlTree

/-- A node that is put around a tree. -/
inductive Wrapping where
  /-- A list with the tree as its one item. -/
  | list
  /-- The negation of the tree. -/
  | negation
  /-- A sub-link of the type that a symbol names, with the tree as its query. -/
  | subLink (symbol : String)
  /-- An INSERT with the tree as its relation. -/
  | insertion

/-- A change to the outermost record of a tree. -/
inductive Edit where
  /-- Sets the operator or type of the record from a symbol. -/
  | choose (symbol : String)
  /-- Sets a field that holds one node; `null` empties a field that may be empty. -/
  | set (field : String) (raw : Json)
  /-- Appends a node to a field that holds a sequence. -/
  | push (field : String) (raw : Json)
  /-- Drops the last node of a field that holds a sequence. -/
  | pop (field : String)
  /-- Empties a field that holds a sequence. -/
  | clear (field : String)
  /-- Puts a new outermost record around the tree. -/
  | wrap (wrapping : Wrapping)

/-- Why a change is not made. -/
inductive EditError where
  /-- The tree has no such field, or the field cannot be changed like this. -/
  | notApplicable
  /-- The node to store cannot be built. -/
  | unbuildable (error : BuildError)

/-- A field of a record that holds one node, with the way to set it. -/
inductive NodeField where
  /-- The field may be empty. -/
  | optional (set : Option Node → Node)
  /-- The field always holds a node. -/
  | required (set : Node → Node)

/-- A field of a record that holds a sequence of nodes: its value, and the way to set it. -/
structure SequenceField where
  items : List Node
  set : List Node → Node

namespace Node

/-- The field of the outermost record that holds one node and has the given name. -/
def nodeField? (n : Node) (field : String) : Option NodeField :=
  match n, field with
  | of (.selectStmt s), "larg" => some (.optional fun m => of (.selectStmt { s with larg := m }))
  | of (.selectStmt s), "rarg" => some (.optional fun m => of (.selectStmt { s with rarg := m }))
  | of (.selectStmt s), "whereClause" =>
    some (.optional fun m => of (.selectStmt { s with whereClause := m }))
  | of (.selectStmt s), "intoClause" =>
    some (.optional fun m => of (.selectStmt { s with intoClause := m }))
  | of (.joinExpr s), "quals" => some (.optional fun m => of (.joinExpr { s with quals := m }))
  | of (.joinExpr s), "larg" => some (.required fun m => of (.joinExpr { s with larg := m }))
  | of (.joinExpr s), "rarg" => some (.required fun m => of (.joinExpr { s with rarg := m }))
  | of (.subLink s), "testexpr" => some (.optional fun m => of (.subLink { s with testexpr := m }))
  | of (.subLink s), "subselect" =>
    some (.required fun m => of (.subLink { s with subselect := m }))
  | of (.insertStmt s), "selectStmt" =>
    some (.optional fun m => of (.insertStmt { s with selectStmt := m }))
  | of (.insertStmt s), "relation" =>
    some (.required fun m => of (.insertStmt { s with relation := m }))
  | _, _ => none

/-- The field of the outermost record that holds a sequence and has the given name. -/
def sequenceField? (n : Node) (field : String) : Option SequenceField :=
  match n, field with
  | of (.selectStmt s), "targetList" =>
    some ⟨s.targetList, fun items => of (.selectStmt { s with targetList := items })⟩
  | of (.selectStmt s), "fromClause" =>
    some ⟨s.fromClause, fun items => of (.selectStmt { s with fromClause := items })⟩
  | of (.selectStmt s), "valuesLists" =>
    some ⟨s.valuesLists, fun items => of (.selectStmt { s with valuesLists := items })⟩
  | of (.boolExpr s), "args" => some ⟨s.args, fun items => of (.boolExpr { s with args := items })⟩
  | of (.joinExpr s), "usingClause" =>
    some ⟨s.usingClause, fun items => of (.joinExpr { s with usingClause := items })⟩
  | of (.list items), "items" => some ⟨items, fun items => of (.list items)⟩
  | _, _ => none

/-- The tree with the operator or type of its outermost record set from a symbol. -/
def choose? (n : Node) (symbol : String) : Option Node :=
  match n with
  | of (.selectStmt s) =>
    (Vocabulary.ofSymbol? symbol).map fun op => of (.selectStmt { s with op := op })
  | of (.joinExpr s) =>
    (Vocabulary.ofSymbol? symbol).map fun type => of (.joinExpr { s with jointype := type })
  | of (.subLink s) =>
    (Vocabulary.ofSymbol? symbol).map fun type => of (.subLink { s with subLinkType := type })
  | of (.boolExpr s) =>
    (Vocabulary.ofSymbol? symbol).map fun op => of (.boolExpr { s with boolop := op })
  | _ => none

/-- The tree with a new outermost record around it. -/
def wrap? (n : Node) : Wrapping → Option Node
  | .list => some (of (.list [n]))
  | .negation => some (of (.boolExpr ⟨.not, [n], -1⟩))
  | .subLink symbol =>
    (Vocabulary.ofSymbol? symbol).map fun type => of (.subLink ⟨type, 0, none, [], n, -1⟩)
  | .insertion => some (of (.insertStmt ⟨n, [], none, [], none⟩))

/-- What is found, or the report that a change does not apply. -/
def applicable {α : Type} : Option α → Except EditError α
  | some value => .ok value
  | none => .error .notApplicable

/-- The node that a raw value builds, for storing. -/
def forStoring (raw : Json) : Except EditError (Option Node) :=
  match Builder.standard.build raw with
  | .ok node => .ok node
  | .error e => .error (.unbuildable e)

/-- The tree after a change. -/
def edit (n : Node) : Edit → Except EditError Node
  | .choose symbol => applicable (n.choose? symbol)
  | .set field raw => do
    match ← applicable (n.nodeField? field) with
    | .optional set => return set (← forStoring raw)
    | .required set => return set (← applicable (← forStoring raw))
  | .push field raw => do
    let sequence ← applicable (n.sequenceField? field)
    let item ← applicable (← forStoring raw)
    return sequence.set (sequence.items ++ [item])
  | .pop field => do
    let sequence ← applicable (n.sequenceField? field)
    if sequence.items.isEmpty then
      throw .notApplicable
    else
      return sequence.set sequence.items.dropLast
  | .clear field => do
    let sequence ← applicable (n.sequenceField? field)
    return sequence.set []
  | .wrap wrapping => applicable (n.wrap? wrapping)

end Node

end SqlTree
