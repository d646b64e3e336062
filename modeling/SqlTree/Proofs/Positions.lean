import Mathlib.Algebra.GroupWithZero.Nat
import Mathlib.Data.List.Basic
import SqlTree.Node.Walk
import SqlTree.Proofs.RecordContents

/-!
# Child positions

A child position of a record is the name of a field with the indices that lead to a node inside the
field: none where the field holds one node, one in a sequence, two in a list of lists. The positions
at which a node stands, in the order in which the fields are declared, have the children of the
record (`Layer.map_snd_positions`), and no position is listed twice or left out
(`Layer.tabulates_positions`).

A list with one entry for each key at which a lookup finds something tabulates the lookup
(`Tabulates`). Fields, positions and the nodes of a tree are all listed by one list of entries with
another list for each entry, and it is one law that these tabulate (`Tabulates.spread`).

All this goes by the table of the fields of each record. That neither the table nor `children`
leaves a field out is another matter, and there the declarations themselves are asked: what is
stored in a record adds its weight to the size that is derived from the declaration, and so do the
children (`Layer.sizeBy_eq`).
-/

namespace SqlTree

/-! ## Tables of a lookup -/

/-- A list has one entry for each key at which a lookup finds a value, with its keys in order. -/
structure Tabulates {κ α : Type} (before : κ → κ → Prop) (entries : List (κ × α))
    (lookup : κ → Option α) : Prop where
  ordered : (entries.map Prod.fst).Pairwise before
  mem_iff : ∀ key value, (key, value) ∈ entries ↔ lookup key = some value

section Tables

variable {κ ι ν α β : Type}

/-- The values of a list under their indices. -/
def numbered (values : List α) : List (Nat × α) := values.zipIdx.map Prod.swap

/-- The entries of a list under other keys. -/
def relabel (key : κ → ν) (entries : List (κ × α)) : List (ν × α) :=
  entries.map fun entry => (key entry.1, entry.2)

/-- What is listed for the value of each entry of a list, under the joined keys. -/
def spread (join : κ → ι → ν) (inner : α → List (ι × β)) (entries : List (κ × α)) : List (ν × β) :=
  entries.flatMap fun entry => relabel (join entry.1) (inner entry.2)

theorem map_snd_numbered (values : List α) : (numbered values).map Prod.snd = values := by
  simp [numbered, Function.comp_def]

theorem map_snd_relabel (key : κ → ν) (entries : List (κ × α)) :
    (relabel key entries).map Prod.snd = entries.map Prod.snd := by
  simp [relabel, Function.comp_def]

/-- The values of a spread table are those of the inner tables in order. -/
theorem map_snd_spread (join : κ → ι → ν) (inner : α → List (ι × β)) (entries : List (κ × α)) :
    (spread join inner entries).map Prod.snd =
      (entries.map Prod.snd).flatMap fun value => (inner value).map Prod.snd := by
  simp [spread, List.map_flatMap, List.flatMap_map, map_snd_relabel]

/-- A spread table is as long as the inner tables together. -/
theorem length_spread (join : κ → ι → ν) (inner : α → List (ι × β)) (entries : List (κ × α)) :
    (spread join inner entries).length =
      ((entries.map Prod.snd).map fun value => (inner value).length).sum := by
  rw [spread, List.length_flatMap, List.map_map]
  simp only [relabel, List.length_map]
  rfl

variable {before : κ → κ → Prop} {inside : ι → ι → Prop} {order : ν → ν → Prop}
  {entries : List (κ × α)} {f : κ → Option α}

/-- Numbered values are looked up by index. -/
theorem tabulates_numbered (values : List α) :
    Tabulates (fun i j => i < j) (numbered values) (fun i => values[i]?) where
  ordered := by
    have indices : (numbered values).map Prod.fst = List.range values.length := by
      simp [numbered, Function.comp_def, List.range_eq_range']
    rw [indices]
    exact List.pairwise_lt_range
  mem_iff i value := by
    simp [numbered, List.mem_zipIdx_iff_getElem?]

/-- A list without repeated keys tabulates the lookup of keys in it. -/
theorem tabulates_lookup [BEq κ] [LawfulBEq κ] (nodup : (entries.map Prod.fst).Nodup) :
    Tabulates (· ≠ ·) entries (fun key => entries.lookup key) where
  ordered := nodup
  mem_iff key value := by
    induction entries with
    | nil => simp
    | cons entry rest ih =>
      obtain ⟨fresh, distinct⟩ := List.nodup_cons.mp nodup
      obtain ⟨k, v⟩ := entry
      rw [List.mem_cons]
      by_cases same : key = k
      · subst same
        have missing : (key, value) ∉ rest := fun mem =>
          fresh (List.mem_map_of_mem (f := Prod.fst) mem : key ∈ rest.map Prod.fst)
        simp [missing, eq_comm]
      · rw [List.lookup_cons, beq_false_of_ne same, ← ih distinct]
        simp [same]

/-- A table stays one under other keys. -/
theorem Tabulates.relabel {key : κ → ν} {h : ν → Option α} (table : Tabulates before entries f)
    (ordered : ∀ {k k'}, before k k' → order (key k) (key k')) (found : ∀ k, h (key k) = f k)
    (only : ∀ {k a}, h k = some a → ∃ k', k = key k') :
    Tabulates order (relabel key entries) h where
  ordered := by
    rw [SqlTree.relabel, List.map_map, List.pairwise_map]
    exact (List.pairwise_map.mp table.ordered).imp ordered
  mem_iff k a := by
    rw [SqlTree.relabel, List.mem_map]
    constructor
    · rintro ⟨⟨k', a'⟩, mem, e⟩
      obtain ⟨rfl, rfl⟩ := Prod.mk.inj e
      rw [found]
      exact (table.mem_iff k' a').mp mem
    · intro known
      obtain ⟨k', rfl⟩ := only known
      rw [found] at known
      exact ⟨(k', a), (table.mem_iff k' a).mpr known, rfl⟩

/-- **A table of tables is a table.** What is listed for each entry tabulates the lookup that goes
through the entry to what is inside it. -/
theorem Tabulates.spread {inner : α → List (ι × β)} {g : α → ι → Option β} {join : κ → ι → ν}
    {h : ν → Option β} (outer : Tabulates before entries f)
    (each : ∀ k a, (k, a) ∈ entries → Tabulates inside (inner a) (g a))
    (across : ∀ {k k'}, before k k' → ∀ i i', order (join k i) (join k' i'))
    (within : ∀ k {i i'}, inside i i' → order (join k i) (join k i'))
    (found : ∀ k i, h (join k i) = (f k).bind fun a => g a i)
    (only : ∀ {k b}, h k = some b → ∃ k' i, k = join k' i) :
    Tabulates order (spread join inner entries) h where
  ordered := by
    simp only [SqlTree.spread, SqlTree.relabel]
    rw [List.pairwise_map, List.pairwise_flatMap]
    refine ⟨fun (k, a) mem => ?_, (List.pairwise_map.mp outer.ordered).imp fun {e e'} lt => ?_⟩
    · rw [List.pairwise_map]
      exact (List.pairwise_map.mp (each k a mem).ordered).imp (within k)
    · simp only [List.forall_mem_map]
      exact fun s _ s' _ => across lt s.1 s'.1
  mem_iff k b := by
    simp only [SqlTree.spread, SqlTree.relabel, List.mem_flatMap, List.mem_map]
    constructor
    · rintro ⟨⟨k', a⟩, mem, ⟨i, b'⟩, listed, e⟩
      obtain ⟨rfl, rfl⟩ := Prod.mk.inj e
      rw [found, (outer.mem_iff k' a).mp mem]
      exact ((each k' a mem).mem_iff i b').mp listed
    · intro known
      obtain ⟨k', i, rfl⟩ := only known
      rw [found, Option.bind_eq_some_iff] at known
      obtain ⟨a, entry, known⟩ := known
      have mem := (outer.mem_iff k' a).mpr entry
      exact ⟨(k', a), mem, (i, b), ((each k' a mem).mem_iff i b).mpr known, rfl⟩

end Tables

/-! ## Positions -/

/-- A child position of a record: the name of a field, and the indices inside the field. -/
abbrev Position := String × List Nat

namespace Content

variable {α : Type}

/-- The nodes in a field, each with the indices that lead to it. -/
def positions : Content α → List (List Nat × α)
  | text _ | integer _ | flag _ | code _ | constant _ => []
  | child value => value.toList.map fun a => ([], a)
  | children values => relabel (fun i => [i]) (numbered values)
  | lists values => spread (fun i j => [i, j]) numbered (numbered values)

/-- The node that some indices lead to in a field. -/
def position? : Content α → List Nat → Option α
  | child value, [] => value
  | children values, [i] => values[i]?
  | lists values, [i, j] => values[i]?.bind fun l => l[j]?
  | _, _ => none

/-- What stands at the positions of a field are the nodes in it. -/
theorem map_snd_positions (c : Content α) : c.positions.map Prod.snd = c.parts := by
  cases c with
  | child value => cases value <;> rfl
  | children values => rw [positions, map_snd_relabel, map_snd_numbered, parts]
  | lists values =>
    rw [positions, map_snd_spread]
    simp only [map_snd_numbered, parts]
    exact List.flatMap_id'
  | text | integer | flag | code | constant => rfl

/-- The positions in a field are distinct, and each is looked up as what stands there. -/
theorem tabulates_positions (c : Content α) : Tabulates (· ≠ ·) c.positions c.position? := by
  cases c with
  | child value =>
    refine ⟨?_, ?_⟩
    · cases value with
      | none => exact .nil
      | some a => exact List.pairwise_singleton _ _
    · rintro (_ | ⟨i, indices⟩) a <;> simp [positions, position?]
  | children values =>
    show Tabulates _ (relabel (fun i => [i]) (numbered values)) _
    refine (tabulates_numbered values).relabel ?_ (fun i => rfl) ?_
    · intro i j lt e
      exact Nat.ne_of_lt lt (List.cons.inj e).1
    · rintro (_ | ⟨i, _ | ⟨j, indices⟩⟩) a h
      · cases h
      · exact ⟨i, rfl⟩
      · cases h
  | lists values =>
    show Tabulates _ (spread (fun i j => [i, j]) numbered (numbered values)) _
    refine (tabulates_numbered values).spread (fun _ l _ => tabulates_numbered l) ?_ ?_
      (fun i j => rfl) ?_
    · intro i i' lt j j' e
      exact Nat.ne_of_lt lt (List.cons.inj e).1
    · intro i j j' lt e
      exact Nat.ne_of_lt lt (List.cons.inj (List.cons.inj e).2).1
    · rintro (_ | ⟨i, _ | ⟨j, _ | ⟨k, indices⟩⟩⟩) a h
      · cases h
      · cases h
      · exact ⟨i, j, rfl⟩
      · cases h
  | text | integer | flag | code | constant => exact ⟨.nil, by simp [positions, position?]⟩

end Content

namespace Layer

variable {α : Type}

/-- The values at the child positions of a record, each with its position, field by field in the
order in which the fields are declared. -/
def positions (l : Layer α) : List (Position × α) := spread Prod.mk Content.positions l.contents

/-- The value at a child position of a record. -/
def position? (l : Layer α) (position : Position) : Option α :=
  (l.contents.lookup position.1).bind fun c => c.position? position.2

/-- The children of a record are what stands at its child positions. -/
theorem map_snd_positions (l : Layer α) : l.positions.map Prod.snd = l.children := by
  rw [positions, map_snd_spread, List.flatMap_map, children_eq]
  simp only [Content.map_snd_positions]

/-- **Every position at which a value stands is listed once.** -/
theorem tabulates_positions (l : Layer α) : Tabulates (· ≠ ·) l.positions l.position? := by
  refine (tabulates_lookup l.nodup_names).spread (fun _ c _ => c.tabulates_positions) ?_ ?_
    (fun _ _ => rfl) (fun {position} _ _ => ⟨position.1, position.2, rfl⟩)
  · intro field field' ne indices indices' e
    exact ne (Prod.mk.inj e).1
  · intro field indices indices' ne e
    exact ne (Prod.mk.inj e).2

/-- What stands at a position of a record is a child of it. -/
theorem mem_children_of_mem_positions {l : Layer α} {entry : Position × α}
    (h : entry ∈ l.positions) : entry.2 ∈ l.children :=
  l.map_snd_positions ▸ List.mem_map_of_mem h

end Layer

/-! ## The declarations -/

section Weights

variable {α : Type} (weight : α → Nat)

/-- The size of a record that is derived from its declaration, with a weight for whatever is stored
at its child positions. -/
noncomputable def Layer.sizeBy (weight : α → Nat) (l : Layer α) : Nat :=
  let _ : SizeOf α := ⟨weight⟩
  sizeOf l

/-- The size of a list by the weights of its entries. -/
theorem sizeOf_list (l : List α) :
    (let _ : SizeOf α := ⟨weight⟩; sizeOf l) =
      (let _ : SizeOf α := ⟨fun _ => 0⟩; sizeOf l) + (l.map weight).sum := by
  induction l with
  | nil => rfl
  | cons a rest ih =>
    simp only [List.cons.sizeOf_spec, List.map_cons, List.sum_cons] at ih ⊢
    omega

theorem sizeOf_option (o : Option α) :
    (let _ : SizeOf α := ⟨weight⟩; sizeOf o) =
      (let _ : SizeOf α := ⟨fun _ => 0⟩; sizeOf o) + (o.toList.map weight).sum := by
  cases o <;> simp

/-- The size of a list of lists by the weights of the entries. -/
theorem sizeOf_lists (ls : List (List α)) :
    (let _ : SizeOf α := ⟨weight⟩; sizeOf ls) =
      (let _ : SizeOf α := ⟨fun _ => 0⟩; sizeOf ls) + (ls.flatten.map weight).sum := by
  induction ls with
  | nil => rfl
  | cons l rest ih =>
    have := sizeOf_list weight l
    simp only [List.cons.sizeOf_spec, List.flatten_cons, List.map_append,
      List.sum_append] at this ih ⊢
    omega

/-- **Nothing that is stored in a record is missing from its children, or there twice.** The size
without any weights is that of the record itself, and the children weigh the rest. -/
theorem Layer.sizeBy_eq (l : Layer α) :
    l.sizeBy weight = l.sizeBy (fun _ => 0) + (l.children.map weight).sum := by
  have sequences := sizeOf_list weight
  have options := sizeOf_option weight
  have lists := sizeOf_lists weight
  rw [children_eq]
  unfold sizeBy
  cases l
  case aStar => simp [contents]
  case list items => simp [contents, Content.parts, sequences, Nat.add_assoc]
  case scalar value => cases value <;> simp [contents, scalarContents, Content.parts]
  case setToDefault | paramRef | aConst | sqlValueFunction =>
    simp [contents, Content.parts]
  all_goals
    rename_i record
    cases record
    simp [contents, Content.parts, sequences, options, lists]
    omega

end Weights

end SqlTree
