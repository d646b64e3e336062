import Mathlib.Logic.Relation
import SqlTree.Proofs.DepthLimit
import SqlTree.Proofs.ListSpelling

/-!
# Empty slots

The functions of an entry in a FROM clause are an array of sub-lists, each a bare array or a `List`
record (`SubList`). A slot of a sub-list may be left empty, as `null` or as `{}`. What is built has
one list for each sub-list, with the trees of the filled slots in their order
(`functionsBuilt_of_readEntry`). A sub-list is read by its filled slots alone
(`readSubList_of_subList`), so empty slots do not count: wherever they are inserted in a raw tree or
deleted from it, the outcome is the same, be it a tree or an error
(`Builder.functions_of_subLists`).

A slot is read with two levels fewer than its record. What is read there is compared with what is
built for the slot alone, and there any limit will do that leaves as many levels.
-/

namespace SqlTree

/-! ## Sub-lists and their slots -/

/-- A sub-list with its slots: a bare array, or an object whose `List` has them as `items`, which
may be missing. -/
inductive SubList : Json → List Json → Prop where
  | array (slots : List Json) : SubList (.array slots) slots
  | list {fields body : Fields} {slots : List Json} : fields.lookup "List" = some (.object body) →
      body.value? "items" = some (.array slots) → SubList (.object fields) slots
  | noItems {fields body : Fields} : fields.lookup "List" = some (.object body) →
      body.value? "items" = none → SubList (.object fields) []

/-- The slots with something in them. -/
def filledSlots (slots : List Json) : List Json := slots.filter fun slot => !isEmptySlot slot

/-- An empty slot is inserted before, between or after the slots of a sub-list. -/
inductive SlotInserted : List Json → List Json → Prop where
  | insert (before after : List Json) (slot : Json) : slot = .null ∨ slot = .object [] →
      SlotInserted (before ++ after) (before ++ slot :: after)

/-- An empty slot is inserted into a sub-list, whichever way it is spelled before and after. -/
inductive EmptySlotInserted : Place → Json → Json → Prop where
  | subList {raw raw' : Json} {slots slots' : List Json} : SubList raw slots →
      SubList raw' slots' → SlotInserted slots slots' → EmptySlotInserted .subList raw raw'

/-- Calls stand for the filled slots of a sub-list in a record with `levels` levels left. Each is
what is built for its slot alone, under every limit that leaves the slot as many levels. -/
def CallsBuilt (levels : Nat) (raw : Json) (calls : List Node) : Prop :=
  ∃ slots, SubList raw slots ∧
    List.Forall₂ (fun slot call => ∀ limit, levels ≤ limit + 2 →
      Builder.build ⟨⟨limit⟩⟩ slot = .ok (some call)) (filledSlots slots) calls

/-- A node has the calls in sub-lists as its functions, one list for each sub-list, and they come
first among its children. -/
def FunctionsBuilt (levels : Nat) (lists : List Json) (n : Node) : Prop :=
  ∃ r : RangeFunction Node, n = .of (.rangeFunction r) ∧
    List.Forall₂ (CallsBuilt levels) lists r.functions ∧
    n.children = r.functions.flatten ++ r.aliasClause.toList ++ r.coldeflist

/-- A sub-list is read exactly where `SubList` says that it is one, with the same slots. -/
theorem subListSlots_eq_ok {site : Site} {raw : Json} {slots : List Json} :
    subListSlots site raw = .ok slots ↔ SubList raw slots := by
  constructor
  · intro found
    unfold subListSlots at found
    split at found
    next =>
      cases found
      exact .array _
    next list =>
      split at found
      next body list =>
        split at found
        next items =>
          cases found
          exact .noItems list items
        next items =>
          cases found
          exact .list list items
        next => cases found
      next => cases found
    next => cases found
  · intro found
    cases found with
    | array => rfl
    | list list items => simp only [subListSlots, list, items]
    | noItems list items => simp only [subListSlots, list, items]

/-- A sub-list has one list of slots. -/
theorem SubList.unique {raw : Json} {slots slots' : List Json} (found : SubList raw slots)
    (found' : SubList raw slots') : slots = slots' := by
  have read : subListSlots .root raw = .ok slots := subListSlots_eq_ok.mpr found
  exact Except.ok.inj (read.symm.trans (subListSlots_eq_ok.mpr found'))

/-- Empty slots that are put in leave the filled slots as they are. -/
theorem filledSlots_eq_of_inserted {slots slots' : List Json} (h : SlotInserted slots slots') :
    filledSlots slots = filledSlots slots' := by
  obtain ⟨before, after, slot, empty⟩ := h
  have skipped : isEmptySlot slot = true := by
    obtain rfl | rfl := empty <;> rfl
  simp [filledSlots, skipped]

/-- A sub-list is read by its filled slots. -/
theorem readSubList_of_subList {raw : Json} {slots : List Json} (found : SubList raw slots)
    (nested : Nested) (site : Site) :
    readSubList nested site raw = (filledSlots slots).mapM (readRecord nested.slot site) := by
  rw [readSubList, subListSlots_eq_ok.mpr found]
  rfl

/-- An empty slot that is put into a sub-list is not noticed. -/
theorem EmptySlotInserted.alike {place : Place} {raw raw' : Json}
    (h : EmptySlotInserted place raw raw') : place.Alike Eq raw raw' := by
  obtain ⟨found, found', inserted⟩ := h
  intro limit levels site site' sites
  obtain rfl : site = site' := (BuildError.malformed.inj (sites .array)).1
  rw [readSubList_of_subList found, readSubList_of_subList found',
    filledSlots_eq_of_inserted inserted]
  exact .refl _

/-! ## Calls -/

variable {limit levels : Nat} {site : Site}

/-- A record that is read somewhere is built alike for itself, under every limit that leaves as many
levels. -/
theorem build_of_readRecord {raw : Json} {n : Node}
    (read : readRecord (readEntry limit levels) site raw = .ok n) {limit' : Nat}
    (le : levels ≤ limit') : Builder.build ⟨⟨limit'⟩⟩ raw = .ok (some n) := by
  have : Std.Refl fun _ _ : BuildError => True := ⟨fun _ => trivial⟩
  have moved : Agree (fun _ _ => True) (readRecord (readEntry limit levels) site raw)
      (readRecord (readEntry limit levels) .root raw) :=
    agree_slot (fun _ => trivial) (.inl rfl)
  have outermost := (moved.ok_iff n).mp read
  have stable : StableAbove limit (readRecord (readEntry limit levels) .root raw)
      (readRecord (readEntry limit' limit') .root raw) :=
    stable_readRecord (stable_readEntry le .root raw)
  have higher : readRecord (readEntry limit' limit') .root raw = .ok n := by
    rw [stable.same (by simp [outermost]), outermost]
  cases raw with
  | object fields => exact map_eq_ok.mpr ⟨n, higher, rfl⟩
  | null | bool | number | string | array => cases read

/-- The calls read from a sub-list are the builds of its filled slots. -/
theorem callsBuilt_of_readSubList {raw : Json} {calls : List Node}
    (read : readSubList (nestedReaders limit levels) site raw = .ok calls) :
    CallsBuilt (levels + 1) raw calls := by
  obtain ⟨slots, found, built⟩ := bind_eq_ok.mp read
  rw [nestedReaders_slot] at built
  refine ⟨slots, subListSlots_eq_ok.mp found, (mapM_eq_ok.mp built).imp ?_⟩
  intro slot call read limit' le
  exact build_of_readRecord read (by omega)

/-- The functions of a record that is read stand for its sub-lists, whatever the number of levels
left. -/
theorem functionsBuilt_of_readEntry {fields : Fields} {lists : List Json} {n : Node}
    (listed : fields.value? "functions" = some (.array lists))
    (read : readEntry limit levels site (Kind.rangeFunction.raw fields) = .ok n) :
    FunctionsBuilt levels lists n := by
  cases levels with
  | zero => cases read
  | succ below =>
    rw [Kind.raw, readEntry_tagged, Kind.ofTag?_tag] at read
    have ensured : Kind.rangeFunction.decoder.Ensures
        (fun query answer =>
          query.answer Kind.rangeFunction.tag fields (nestedReaders limit below) = .ok answer)
        (FunctionsBuilt (below + 1) lists) := by
      simp only [Kind.decoder, Decoder.rangeFunction, Decoder.ensures_map, Decoder.ensures_bind,
        Decoder.flag, Decoder.sparseLists, Decoder.child, Decoder.children, Decoder.ensures_ask,
        Decoder.ensures_done, Decoder.ensures_pure]
      intro _ _ _ _ _ _ functions answered _ _ _ _
      simp only [Query.answer, listed] at answered
      exact ⟨_, rfl, (mapM_eq_ok.mp answered).imp fun _ _ => callsBuilt_of_readSubList, rfl⟩
    exact Decoder.post_of_run ensured (fun _ _ answered => answered) read

namespace Builder

/-- **The functions of a record are the calls in its sub-lists**, and empty slots do not count. A
record that is built, at whatever level, has a list of calls for each of its sub-lists, with the
trees of the filled slots in their order; its children are these calls, list after list, and then
the alias and the column definitions. Inserting empty slots anywhere in the sub-lists of a raw tree,
and deleting them, changes neither the tree that is built nor the error when none is. -/
theorem functions_of_subLists (b : Builder) :
    (∀ (fields : Fields) (lists : List Json),
      fields.value? "functions" = some (.array lists) →
        (∀ n, b.build (Kind.rangeFunction.raw fields) = .ok (some n) →
          FunctionsBuilt b.config.maxDepth lists n) ∧
        ∀ levels site n,
          readEntry b.config.maxDepth levels site (Kind.rangeFunction.raw fields) = .ok n →
            FunctionsBuilt levels lists n) ∧
      ∀ raw raw', Relation.EqvGen (ChangedAt EmptySlotInserted .record) raw raw' →
        b.build raw = b.build raw' := by
  constructor
  · intro fields lists listed
    exact ⟨fun n built => functionsBuilt_of_readEntry listed (entry_of_build built),
      fun levels site n read => functionsBuilt_of_readEntry listed read⟩
  · intro raw raw' changes
    induction changes with
    | rel raw raw' step =>
      have alike := step.alike fun _ _ _ => EmptySlotInserted.alike
      exact (agree_build b alike).eq
    | refl raw => rfl
    | symm raw raw' _ ih => exact ih.symm
    | trans raw raw' raw'' _ _ first second => exact first.trans second

/-- `name()` -/
def callTo (name : String) : Json := Kind.funcCall.raw [("funcname", .array [.string name])]

/-- An entry of a FROM clause with the given lists of functions. -/
def functionsIn (lists : List Json) : Json := Kind.rangeFunction.raw [("functions", .array lists)]

/-- Sub-lists in both spellings. One has an empty slot, and one has no slots. -/
def threeLists : List Json :=
  [.array [.null, callTo "f"], .array [], listRecord [callTo "g"]]

/-- Two of three sub-lists have a call. An empty slot may be deleted from the first one and inserted
into the last one. -/
theorem functions_of_threeLists :
    (∃ (r : RangeFunction Node) (f g : Node), r.functions = [[f], [], [g]] ∧
      build ⟨⟨1⟩⟩ (callTo "f") = .ok (some f) ∧ build ⟨⟨1⟩⟩ (callTo "g") = .ok (some g) ∧
      build ⟨⟨3⟩⟩ (functionsIn threeLists) = .ok (some (.of (.rangeFunction r))) ∧
      build ⟨⟨3⟩⟩
        (functionsIn [.array [callTo "f"], .array [], listRecord [callTo "g", .object []]]) =
          .ok (some (.of (.rangeFunction r)))) ∧
      ∃ n, readEntry 5 3 .stmts (functionsIn threeLists) = .ok n ∧
        FunctionsBuilt 3 threeLists n := by
  have asked : Kind.rangeFunction.decoder.Asks (.sparseLists "functions") :=
    .inr ⟨false, .inr ⟨false, .inr ⟨false, .inl rfl⟩⟩⟩
  have first : ChangedAt EmptySlotInserted .record
      (functionsIn [.array [callTo "f"], .array [], listRecord [callTo "g"]])
      (functionsIn threeLists) :=
    @ChangedAt.field _ .rangeFunction (.sparseLists "functions") _ [] [] _ _ asked rfl
      (@ChangedAt.one _ _ [] _ _ _
        (.here (.subList (.array _) (.array _) (.insert [] [callTo "f"] _ (.inl rfl)))))
  have last : ChangedAt EmptySlotInserted .record
      (functionsIn [.array [callTo "f"], .array [], listRecord [callTo "g"]])
      (functionsIn [.array [callTo "f"], .array [], listRecord [callTo "g", .object []]]) :=
    @ChangedAt.field _ .rangeFunction (.sparseLists "functions") _ [] [] _ _ asked rfl
      (@ChangedAt.one _ _ [_, _] _ _ _
        (.here (.subList (.list rfl rfl) (.list rfl rfl) (.insert [callTo "g"] [] _ (.inr rfl)))))
  have built : build ⟨⟨3⟩⟩ (functionsIn threeLists) = .ok (some _) := rfl
  have read : readEntry 5 3 .stmts (functionsIn threeLists) = .ok _ := rfl
  have nested := ((functions_of_subLists ⟨⟨5⟩⟩).1 _ threeLists rfl).2 3 .stmts _ read
  have unchanged := (functions_of_subLists ⟨⟨3⟩⟩).2 _ _
    (.trans _ _ _ (.symm _ _ (.rel _ _ first)) (.rel _ _ last))
  obtain ⟨r, e, lists, -⟩ := ((functions_of_subLists ⟨⟨3⟩⟩).1 _ _ rfl).1 _ built
  obtain ⟨f, g, functions⟩ : ∃ f g, r.functions = [[f], [], [g]] := by
    cases e
    exact ⟨_, _, rfl⟩
  simp only [functions, threeLists, List.forall₂_cons] at lists
  obtain ⟨⟨_, slotsF, callsF⟩, -, ⟨_, slotsG, callsG⟩, -⟩ := lists
  cases slotsF.unique (.array _)
  cases slotsG.unique (.list rfl rfl)
  obtain ⟨builtF, -⟩ := List.forall₂_cons.mp callsF
  obtain ⟨builtG, -⟩ := List.forall₂_cons.mp callsG
  rw [e] at built
  exact ⟨⟨r, f, g, functions, builtF 1 (by decide), builtG 1 (by decide), built,
    unchanged ▸ built⟩, _, read, nested⟩

end Builder

end SqlTree
