import Mathlib.Logic.Relation
import SqlTree.Proofs.RawChanges

/-!
# Two spellings of a list

A list inside a sequence is spelled as a bare array or as a `List` record over its items, and so is
a sub-list of a sparse list. Three parts of reading take the spellings apart: a bare array is read
where it stands, a record goes through the decoder of lists, and sub-lists are unwrapped for
themselves. They agree: however the spellings are exchanged in a raw tree, the same tree is built,
and where none is built the error is the same but for the place that it names
(`Builder.build_respelled`). In particular both spellings take one level of nesting, and a sub-list
takes none.
-/

namespace SqlTree

/-- Errors that are the same but for the place that they name. -/
inductive BuildError.SameButSite : BuildError → BuildError → Prop where
  | same (e : BuildError) : SameButSite e e
  | malformed (site site' : Site) (expected : Expectation) :
      SameButSite (.malformed site expected) (.malformed site' expected)

namespace BuildError.SameButSite

instance : Std.Refl SameButSite := ⟨.same⟩

instance : Std.Symm SameButSite where
  symm _ _ h := by
    cases h with
    | same => exact .same _
    | malformed => exact .malformed _ _ _

instance : IsTrans BuildError SameButSite where
  trans _ _ _ first second := by
    cases first with
    | same => exact second
    | malformed =>
      cases second with
      | same => exact .malformed _ _ _
      | malformed => exact .malformed _ _ _

end BuildError.SameButSite

/-- A list spelled as a record. -/
def listRecord (items : List Json) : Json := Kind.list.raw [("items", .array items)]

/-- A list spelled one way and the other, where both spellings are known. -/
inductive Respelled : Place → Json → Json → Prop where
  | wrapEntry (items : List Json) : Respelled .entry (.array items) (listRecord items)
  | unwrapEntry (items : List Json) : Respelled .entry (listRecord items) (.array items)
  | wrapSubList (items : List Json) : Respelled .subList (.array items) (listRecord items)
  | unwrapSubList (items : List Json) : Respelled .subList (listRecord items) (.array items)

/-- A list is read alike as an array and as a record: both take a level, and an error names the
place of the array in one spelling and the items of the record in the other. -/
theorem readEntry_listRecord (limit levels : Nat) (site site' : Site) (items : List Json) :
    Agree BuildError.SameButSite (readEntry limit levels site (.array items))
      (readEntry limit levels site' (listRecord items)) := by
  rw [readEntry_array]
  cases levels with
  | zero => exact .error (.same _)
  | succ below =>
    have decoded : readEntry limit (below + 1) site' (listRecord items) =
        (fun nodes => .of (.list nodes)) <$>
          items.mapM (readEntry limit below ⟨"List", "items"⟩) := by
      rw [listRecord, Kind.raw, readEntry_tagged, Kind.ofTag?_tag]
      change Decoder.run _ _ _ (Decoder.ask _ _) = _
      rw [Decoder.run_ask]
      rfl
    rw [decoded]
    refine .map (.mapM (List.forall₂_same.mpr fun item _ => ?_))
    exact ReadAlike.refl item _ _ _ _ fun _ => .malformed _ _ _

/-- A list in its other spelling is not noticed, but for the site of errors. -/
theorem Respelled.alike {place : Place} {raw raw' : Json} (h : Respelled place raw raw') :
    place.Alike BuildError.SameButSite raw raw' := by
  cases h with
  | wrapEntry items =>
    exact fun limit levels site site' _ => readEntry_listRecord limit levels site site' items
  | unwrapEntry items =>
    exact fun limit levels site site' _ =>
      (readEntry_listRecord limit levels site' site items).symm
  | wrapSubList items => exact fun _ _ _ _ sites => agree_readSubList sites rfl
  | unwrapSubList items => exact fun _ _ _ _ sites => agree_readSubList sites rfl

namespace Builder

/-- **The spelling of lists does not matter**: however arrays and `List` records are exchanged, the
same tree is built under each limit, and when none is built the errors differ in the place that a
malformed value is at and in nothing else. -/
theorem build_respelled {raw raw' : Json}
    (changes : Relation.ReflTransGen (ChangedAt Respelled .record) raw raw') (b : Builder) :
    (∀ built, b.build raw = .ok built ↔ b.build raw' = .ok built) ∧
      ∀ e, b.build raw = .error e → ∃ e', b.build raw' = .error e' ∧ e.SameButSite e' := by
  have agree : Agree BuildError.SameButSite (b.build raw) (b.build raw') := by
    -- By induction on the number of changes.
    induction changes with
    | refl => exact .refl _
    | tail _ step ih =>
      have alike := step.alike fun _ _ _ => Respelled.alike
      exact ih.trans (agree_build b alike)
  exact ⟨agree.ok_iff, fun e => agree.exists_error⟩

/-- `ARRAY[row]` -/
def arrayOf (row : Json) : Json := Kind.aArrayExpr.raw [("elements", .array [row])]

/-- An entry of a FROM clause with one list of functions. -/
def functionsOf (list : Json) : Json := Kind.rangeFunction.raw [("functions", .array [list])]

/-- A list in a slot of a sub-list is spelled as a record, and then the sub-list is. Both spellings
need four levels. -/
theorem build_functionsOf :
    (∃ n, build ⟨⟨4⟩⟩ (functionsOf (.array [arrayOf (.array [.string "a"])])) = .ok (some n) ∧
      build ⟨⟨4⟩⟩ (functionsOf (listRecord [arrayOf (listRecord [.string "a"])])) =
        .ok (some n)) ∧
      build ⟨⟨3⟩⟩ (functionsOf (.array [arrayOf (.array [.string "a"])])) =
        .error (.depthExceeded 3) ∧
      build ⟨⟨3⟩⟩ (functionsOf (listRecord [arrayOf (listRecord [.string "a"])])) =
        .error (.depthExceeded 3) := by
  have asked : Kind.rangeFunction.decoder.Asks (.sparseLists "functions") :=
    .inr ⟨false, .inr ⟨false, .inr ⟨false, .inl rfl⟩⟩⟩
  have row : ChangedAt Respelled .record (arrayOf (.array [.string "a"]))
      (arrayOf (listRecord [.string "a"])) :=
    @ChangedAt.field _ .aArrayExpr (.children "elements") _ [] [] _ _ (.inl rfl) rfl
      (@ChangedAt.one _ _ [] [] _ _ (.here (.wrapEntry _)))
  have slot : ChangedAt Respelled .record (functionsOf (.array [arrayOf (.array [.string "a"])]))
      (functionsOf (.array [arrayOf (listRecord [.string "a"])])) :=
    @ChangedAt.field _ .rangeFunction (.sparseLists "functions") _ [] [] _ _ asked rfl
      (@ChangedAt.one _ _ [] [] _ _ (.slots (@ChangedAt.one _ _ [] [] _ _ row)))
  have list : ChangedAt Respelled .record
      (functionsOf (.array [arrayOf (listRecord [.string "a"])]))
      (functionsOf (listRecord [arrayOf (listRecord [.string "a"])])) :=
    @ChangedAt.field _ .rangeFunction (.sparseLists "functions") _ [] [] _ _ asked rfl
      (@ChangedAt.one _ _ [] [] _ _ (.here (.wrapSubList _)))
  have changes := Relation.ReflTransGen.tail (.single slot) list
  have built : build ⟨⟨4⟩⟩ (functionsOf (.array [arrayOf (.array [.string "a"])])) =
      .ok (some _) := rfl
  have exceeded : build ⟨⟨3⟩⟩ (functionsOf (.array [arrayOf (.array [.string "a"])])) =
      .error (.depthExceeded 3) := rfl
  obtain ⟨_, failed, same⟩ := (build_respelled changes ⟨⟨3⟩⟩).2 _ exceeded
  cases same
  exact ⟨⟨_, built, ((build_respelled changes ⟨⟨4⟩⟩).1 _).mp built⟩, exceeded, failed⟩

end Builder

end SqlTree
