import Mathlib.Data.Set.Card
import SqlTree.Proofs.Containment
import SqlTree.Proofs.TableOrder

/-!
# Names of relations

A table is given as one text, the name of a relation behind that of its schema, if it has one. The
text alone does not say where the schema ends, so two relations may be given as one table. They are
not when no name has a dot in it (`RangeVar.Undotted`): the text then has a dot exactly where a
schema ends, and the relation is known from it (`RangeVar.qualifiedName_inj`). A relation without a
schema differs from those in any schema, one with an empty name included.

So the tables of a tree correspond one to one to the relations that it reads from
(`Node.tables_of_undotted`). Which these are is said without the stack that finds them
(`Node.ReadsFrom`), and it is decided by the schema and the name, not by where in the tree or how
often a relation is referred to.
-/

namespace SqlTree

/-! ## One reference -/

namespace RangeVar

variable {α : Type}

/-- What tells relations apart: the schema, if one is named, and the name. -/
def relation (s : RangeVar α) : Option String × String := (s.schemaname, s.relname)

/-- There is no dot in the names of a reference. -/
def Undotted (s : RangeVar α) : Prop :=
  '.' ∉ s.relname.toList ∧ ∀ schema ∈ s.schemaname, '.' ∉ schema.toList

instance (s : RangeVar α) : Decidable s.Undotted := inferInstanceAs (Decidable (_ ∧ _))

/-- A name with a schema is the schema, a dot and the name. -/
theorem toList_qualifiedName_of_schema {s : RangeVar α} {schema : String}
    (named : s.schemaname = some schema) :
    s.qualifiedName.toList = schema.toList ++ '.' :: s.relname.toList := by
  rw [qualifiedName, named]
  simp

/-- The text of a name has a dot when there is a schema. -/
theorem dot_mem_qualifiedName_iff {s : RangeVar α} (undotted : s.Undotted) :
    '.' ∈ s.qualifiedName.toList ↔ s.schemaname.isSome = true := by
  cases named : s.schemaname with
  | none => simpa [qualifiedName, named] using undotted.1
  | some schema => simp [toList_qualifiedName_of_schema named]

/-- **Without dots in names**, two references have the same text when they are to one relation. -/
theorem qualifiedName_inj {r s : RangeVar α} (hr : r.Undotted) (hs : s.Undotted) :
    r.qualifiedName = s.qualifiedName ↔ r.relation = s.relation := by
  constructor
  · intro same
    have schemas := dot_mem_qualifiedName_iff hr
    rw [same, dot_mem_qualifiedName_iff hs] at schemas
    cases named : r.schemaname with
    | none =>
      have unnamed : s.schemaname = none := by simpa [named] using schemas
      have names : r.relname = s.relname := by simpa [qualifiedName, named, unnamed] using same
      rw [relation, relation, named, unnamed, names]
    | some schema =>
      obtain ⟨schema', named'⟩ : ∃ schema', s.schemaname = some schema' :=
        Option.isSome_iff_exists.mp (schemas.mpr (by rw [named]; rfl))
      have texts := congrArg String.toList same
      rw [toList_qualifiedName_of_schema named, toList_qualifiedName_of_schema named',
        List.append_cons_inj_of_notMem (hr.2 schema named) hr.1] at texts
      obtain ⟨schemas, -, names⟩ := texts
      rw [relation, relation, named, named', String.toList_inj.mp schemas,
        String.toList_inj.mp names]
  · intro same
    obtain ⟨schemas, names⟩ := Prod.mk.inj same
    rw [qualifiedName, qualifiedName, schemas, names]

end RangeVar

/-! ## The relations of a tree -/

namespace Node

/-- A node reads from itself, and from what the nodes read from that its edges lead to. -/
inductive ReadsFrom : Node → Node → Prop where
  | self (n : Node) : ReadsFrom n n
  | step {n c m : Node} : c ∈ n.tableEdges → ReadsFrom c m → ReadsFrom n m

/-- The relations that a tree reads from. -/
def relations (n : Node) : Set (Option String × String) :=
  { relation | ∃ r : RangeVar Node, n.ReadsFrom (of (.rangeVar r)) ∧ r.relation = relation }

/-- A relation that is read from is contained in the tree. -/
theorem ReadsFrom.contains {n m : Node} (h : n.ReadsFrom m) : n.Contains m := by
  induction h with
  | self n => exact .self n
  | step edge _ ih => exact .step ((Layer.tableEdges_sublist _).subset edge) ih

/-- Relations are the nodes with a table, which is their qualified name. -/
theorem table?_eq_some {n : Node} {name : String} :
    n.table? = some name ↔ ∃ r, n = of (.rangeVar r) ∧ r.qualifiedName = name := by
  obtain ⟨l⟩ := n
  cases l <;> simp [table?, layer, Layer.table?]

/-- The names listed for a node are those of the references that it reads from. -/
theorem mem_tableNames_iff {n : Node} {name : String} :
    name ∈ n.tableNames ↔ ∃ r, n.ReadsFrom (of (.rangeVar r)) ∧ r.qualifiedName = name := by
  constructor
  · intro listed
    rw [tableNames_eq, List.mem_append, List.mem_flatMap, Option.mem_toList] at listed
    obtain own | ⟨c, edge, below⟩ := listed
    · obtain ⟨r, rfl, named⟩ := table?_eq_some.mp own
      exact ⟨r, .self _, named⟩
    · obtain ⟨r, reads, named⟩ := mem_tableNames_iff.mp below
      exact ⟨r, .step edge reads, named⟩
  · rintro ⟨r, reads, named⟩
    generalize target : of (.rangeVar r) = m at reads
    induction reads with
    | self n =>
      rw [tableNames_eq, List.mem_append, Option.mem_toList]
      exact .inl (table?_eq_some.mpr ⟨r, target.symm, named⟩)
    | step edge _ ih =>
      rw [tableNames_eq, List.mem_append, List.mem_flatMap]
      exact .inr ⟨_, edge, ih target⟩
termination_by sizeOf n
decreasing_by exact sizeOf_lt ((Layer.tableEdges_sublist _).subset edge)

/-- Without dots in names there are as many tables as relations. -/
theorem length_tables {n : Node}
    (undotted : ∀ r, n.ReadsFrom (of (.rangeVar r)) → r.Undotted) :
    n.tables.length = n.relations.ncard := by
  have texts : {table | table ∈ n.tables} = (n.tables.toFinset : Set String) := by
    ext table
    simp
  have counted : {table | table ∈ n.tables}.ncard = n.tables.length := by
    rw [texts, Set.ncard_coe_finset, List.toFinset_card_of_nodup n.nodup_tables]
  rw [← counted]
  -- A relation goes to the text of any reference to it, and all of these have the same text.
  refine (Set.ncard_congr (fun _ known => known.choose.qualifiedName) ?_ ?_ ?_).symm
  · intro _ known
    exact mem_tables.mpr (mem_tableNames_iff.mpr ⟨_, known.choose_spec.1, rfl⟩)
  · intro _ _ known known' same
    have related := (RangeVar.qualifiedName_inj (undotted _ known.choose_spec.1)
      (undotted _ known'.choose_spec.1)).mp same
    rw [← known.choose_spec.2, ← known'.choose_spec.2, related]
  · intro table listed
    obtain ⟨r, reads, named⟩ := mem_tableNames_iff.mp (mem_tables.mp listed)
    have known : r.relation ∈ n.relations := ⟨r, reads, rfl⟩
    refine ⟨r.relation, known, ?_⟩
    rw [← named]
    exact (RangeVar.qualifiedName_inj (undotted _ known.choose_spec.1) (undotted r reads)).mpr
      known.choose_spec.2

/-- **Without dots in names, tables are relations.** Each reference that the tree reads from
contributes its text, and two of them contribute the same one exactly when they are to one relation;
there are as many tables as relations, and each table is that of one relation only. -/
theorem tables_of_undotted {n : Node}
    (undotted : ∀ r, n.Contains (of (.rangeVar r)) → r.Undotted) :
    (∀ table, table ∈ n.tables ↔
        ∃ r, n.ReadsFrom (of (.rangeVar r)) ∧ r.qualifiedName = table) ∧
      (∀ r s, n.ReadsFrom (of (.rangeVar r)) → n.ReadsFrom (of (.rangeVar s)) →
        (r.qualifiedName = s.qualifiedName ↔ r.relation = s.relation)) ∧
      n.tables.length = n.relations.ncard ∧
      ∀ table ∈ n.tables, ∃! relation, ∃ r, n.ReadsFrom (of (.rangeVar r)) ∧
        r.qualifiedName = table ∧ r.relation = relation := by
  have reached : ∀ r, n.ReadsFrom (of (.rangeVar r)) → r.Undotted :=
    fun r reads => undotted r reads.contains
  refine ⟨fun table => mem_tables.trans mem_tableNames_iff, ?_, length_tables reached, ?_⟩
  · intro r s hr hs
    exact RangeVar.qualifiedName_inj (reached r hr) (reached s hs)
  · intro table listed
    obtain ⟨r, reads, named⟩ := mem_tableNames_iff.mp (mem_tables.mp listed)
    refine ⟨r.relation, ⟨r, reads, named, rfl⟩, ?_⟩
    rintro _ ⟨s, reads', named', rfl⟩
    exact (RangeVar.qualifiedName_inj (reached s reads') (reached r reads)).mp
      (named'.trans named.symm)

/-- A reference to a relation. -/
def reference (schema : Option String) (name : String) : RangeVar Node :=
  ⟨none, schema, name, true, none, none, -1, false⟩

/-- References to relations called `t`, in no schema, twice in `s`, and in a schema without a name,
beside an INTO clause with a target of another name. -/
def namesakes : Node :=
  of (.list [of (.rangeVar (reference none "t")), of (.rangeVar (reference (some "s") "t")),
    of (.intoClause ⟨some (of (.rangeVar (reference none "u"))), [], [], .noop, none, false⟩),
    of (.rangeVar (reference (some "s") "t")), of (.rangeVar (reference (some "") "t"))])

/-- The namesakes are three tables and three relations. -/
theorem tables_of_namesakes :
    (∀ r, namesakes.Contains (of (.rangeVar r)) → r.Undotted) ∧
      namesakes.tables = ["t", "s.t", ".t"] ∧ namesakes.relations.ncard = 3 := by
  have leaf {schema : Option String} {name : String} (h : (reference schema name).Undotted)
      {r : RangeVar Node}
      (inside : (of (.rangeVar (reference schema name))).Contains (of (.rangeVar r))) :
      r.Undotted := by
    obtain _ | ⟨child, -⟩ := inside
    · exact h
    · cases child
  have undotted : ∀ r, namesakes.Contains (of (.rangeVar r)) → r.Undotted := by
    rintro r (_ | ⟨child, inside⟩)
    simp only [children, namesakes, layer, Layer.children, List.mem_cons, List.not_mem_nil,
      or_false] at child
    obtain rfl | rfl | rfl | rfl | rfl := child
    · exact leaf (by decide) inside
    · exact leaf (by decide) inside
    · obtain _ | ⟨child, inside⟩ := inside
      obtain rfl := List.mem_singleton.mp child
      exact leaf (by decide) inside
    · exact leaf (by decide) inside
    · exact leaf (by decide) inside
  have found : namesakes.tables = ["t", "s.t", ".t"] := by cbv
  have counted := (tables_of_undotted undotted).2.2.1
  rw [found] at counted
  exact ⟨undotted, found, counted.symm⟩

/-- A dot in a name can make one table of two relations. -/
example :
    let r := reference (some "a.b") "c"
    let s := reference (some "a") "b.c"
    r.relation ≠ s.relation ∧
      (of (.list [of (.rangeVar r), of (.rangeVar s)])).tables = ["a.b.c"] := by
  constructor
  · decide
  · cbv

end Node

end SqlTree
