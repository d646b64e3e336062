import SqlTree.Json.Numeral
import SqlTree.Proofs.DecoderRuns
import SqlTree.Proofs.Equality
import SqlTree.Proofs.FieldMaps
import SqlTree.Proofs.Levels
import Mathlib.Data.String.Basic

/-!
# Trees written as raw values

Every tree is written as a raw value (`Node.encode`): each node as a record with the tag of its
kind, each field under its name, enumerated fields by code, floats as text, and empty optional
fields left out. The builder reads back what was written, for every tree that has queries where
they belong (`readEntry_encode`), with twice as many levels as the tree is high.

The raw value is well formed (`Json.WellFormed`) when the integers of the tree fit the integers of
raw values: the keys of each object are in order and without repetition.
-/

namespace SqlTree

/-! ## Objects from fields -/

namespace Fields

/-- The fields of an object, in key order, from fields of which some are left out. -/
def ofList : List (String × Option Json) → Fields
  | [] => []
  | (_, none) :: rest => ofList rest
  | (key, some value) :: rest => insert key value (ofList rest)

/-- A field that was not put into an object is not found in it. -/
theorem lookup_ofList_of_not_mem {key : String} {entries : List (String × Option Json)}
    (missing : key ∉ entries.map Prod.fst) : (ofList entries).lookup key = none := by
  induction entries with
  | nil => rfl
  | cons entry rest ih =>
    obtain ⟨k, _ | v⟩ := entry
    · exact ih fun h => missing (List.mem_cons_of_mem _ h)
    · have other : key ≠ k := fun e => missing (e ▸ List.mem_cons_self)
      rw [ofList, lookup_insert, if_neg other]
      exact ih fun h => missing (List.mem_cons_of_mem _ h)

/-- Each field of an object has the value that it was made with. -/
theorem value?_ofList {entries : List (String × Option Json)}
    (nodup : (entries.map Prod.fst).Nodup) {key : String} {value : Option Json}
    (mem : (key, value) ∈ entries) (some : value ≠ some .null) :
    (ofList entries).value? key = value := by
  have found : (ofList entries).lookup key = value := by
    induction entries with
    | nil => cases mem
    | cons entry rest ih =>
      obtain ⟨fresh, distinct⟩ := List.nodup_cons.mp nodup
      rcases List.mem_cons.mp mem with rfl | later
      · cases value with
        | none =>
          rw [ofList]
          exact lookup_ofList_of_not_mem fresh
        | some v => rw [ofList, lookup_insert, if_pos rfl]
      · have other : key ≠ entry.1 := fun e =>
          fresh (e ▸ List.mem_map_of_mem (f := Prod.fst) later)
        have below := ih distinct later
        obtain ⟨k, _ | v⟩ := entry
        · exact below
        · rw [ofList, lookup_insert, if_neg other, below]
  unfold value?
  rw [found]
  split
  · contradiction
  · rfl

end Fields

/-! ## The raw value of a tree -/

/-- The fields of the record of a plain value. -/
def Scalar.fields : Scalar → Fields
  | string text => [("sval", .string text)]
  | integer value => [("ival", .number (.integer value))]
  | float value => [("fval", .string value.toText)]
  | boolean value => [("boolval", .bool value)]
  | null => []

/-- The value of a field, unless it is left out. -/
def Content.spell : Content Json → Option Json
  | text value => value.map .string
  | integer value => value.map fun i => .number (.integer i)
  | flag value => some (.bool value)
  | code value => some (.number (.integer value))
  | constant value =>
    if value.isNull then none else some (.object [(value.kind.tag, .object value.fields)])
  | child value => value
  | children values => some (.array values)
  | lists values => some (.array (values.map .array))

/-- No field of a record is spelled `null`, as no nested record is. -/
theorem Content.spell_map_ne_null {f : Node → Json} (c : Content Node)
    (record : ∀ n, f n ≠ .null) : (c.map f).spell ≠ some .null := by
  cases c with
  | text value | integer value => cases value <;> simp [map, spell]
  | flag | code | children | lists => simp [map, spell]
  | constant value =>
    simp only [map, spell]
    split <;> simp
  | child value =>
    cases value with
    | none => simp [map, spell]
    | some n => simpa [map, spell] using record n

namespace Node

/-- A tree written as a raw value. -/
def encode (n : Node) : Json :=
  .object [(n.kind.tag, .object (Fields.ofList (n.layer.contents.attach.map fun ⟨(field, c), _⟩ =>
    (field, (c.attach.map fun ⟨child, _⟩ => child.encode).spell))))]
termination_by sizeOf n
decreasing_by exact sizeOf_lt (Layer.mem_children_of_mem_contents ‹_› ‹_›)

/-- The fields of a record with its nodes written as raw values. -/
def fields (n : Node) : Fields :=
  Fields.ofList (n.layer.contents.map fun entry => (entry.1, (entry.2.map encode).spell))

/-- A node is written as an object with one tag. -/
theorem encode_eq (n : Node) : n.encode = .object [(n.kind.tag, .object n.fields)] := by
  have content (c : Content Node) : (c.attach.map fun a => a.1.encode) = c.map encode :=
    Content.map_attach encode c
  rw [encode, fields]
  simp only [content]
  exact congrArg (fun l => Json.object [(n.kind.tag, .object (Fields.ofList l))])
    (List.attach_map_val
      (f := fun entry : String × Content Node => (entry.1, (entry.2.map encode).spell)))

/-- A plain value is written under the tag of its kind. -/
theorem encode_scalar (value : Scalar) :
    (Node.of (.scalar value)).encode = .object [(value.kind.tag, .object value.fields)] := by
  rw [encode_eq]
  cases value <;> rfl

end Node

/-! ## Reading back -/

section ReadBack

variable {nested : Nested} {tag field : String} {fields : Fields}

/-- What a node is written as passes where a record has to be. -/
theorem readRecord_encode {read : Site → Json → Except BuildError Node} {site : Site} (n : Node) :
    readRecord read site n.encode = read site n.encode := by
  rw [Node.encode_eq]
  rfl

/-- A list is read back from what its values are written as. -/
theorem mapM_map {α : Type} {spell : α → Json} {read : Json → Except BuildError α} {l : List α}
    (reads : ∀ a ∈ l, read (spell a) = .ok a) : (l.map spell).mapM read = .ok l := by
  induction l with
  | nil => rfl
  | cons a rest ih =>
    have others := ih fun b h => reads b (List.mem_cons_of_mem _ h)
    rw [List.map_cons, List.mapM_cons, reads a List.mem_cons_self, others]
    rfl

/-- A list of records written as an array is read back; none of its slots is empty. -/
theorem readSubList_encode {site : Site} {nodes : List Node}
    (slot : ∀ n ∈ nodes, nested.slot site n.encode = .ok n) :
    readSubList nested site (.array (nodes.map Node.encode)) = .ok nodes := by
  have filled : (nodes.map Node.encode).filter (fun slot => !isEmptySlot slot) =
      nodes.map Node.encode := by
    refine List.filter_eq_self.mpr fun raw h => ?_
    obtain ⟨n, -, rfl⟩ := List.mem_map.mp h
    rw [Node.encode_eq]
    rfl
  have slots : subListSlots site (.array (nodes.map Node.encode)) =
      .ok (nodes.map Node.encode) := rfl
  rw [readSubList, slots, ok_bind, filled]
  exact mapM_map fun n h => (readRecord_encode n).trans (slot n h)

/-- A field tells what it was written from. -/
theorem Content.told_encode {c : Content Node}
    (found : fields.value? field = (c.map Node.encode).spell)
    (entry : ∀ n ∈ c.parts, ∀ site, nested.entry site n.encode = .ok n)
    (slot : ∀ n ∈ c.parts, ∀ site, nested.slot site n.encode = .ok n)
    (payload : ∀ value, c = .constant value →
      ∀ site, nested.entry site (Node.of (.scalar value)).encode = .ok (.of (.scalar value))) :
    c.Told tag fields nested field := by
  cases c with
  | text value =>
    simp only [Told, Query.answer, found]
    cases value <;> rfl
  | integer value =>
    simp only [Told, Query.answer, found]
    cases value <;> rfl
  | flag value => simp only [Told, Query.answer, found, map, spell]
  | code value => simp only [Told, Query.answer, found, map, spell]
  | constant value =>
    simp only [Told, Query.answer, found, map, spell]
    by_cases null : value.isNull
    · rw [if_pos null, if_pos null]
    · rw [if_neg null, if_neg null, ← Node.encode_scalar]
      simp only [readRecord_encode, payload value rfl, map_ok]
  | child value =>
    simp only [Told, Query.answer, found, map, spell]
    cases value with
    | none => rfl
    | some n => simp only [Option.map_some, readRecord_encode, entry n (by simp [parts]), map_ok]
  | children values =>
    simp only [Told, Query.answer, found, map, spell]
    exact mapM_map fun n h => entry n h _
  | lists values =>
    simp only [Told, Query.answer, found, map, spell, List.map_map]
    exact mapM_map fun nodes h => readSubList_encode fun n hn =>
      slot n (List.mem_flatten.mpr ⟨nodes, h, hn⟩) _

/-- The fields of a record tell what it was written from. -/
theorem Layer.told_encode {l : Layer Node} (tag : String)
    (entry : ∀ n ∈ l.children, ∀ site, nested.entry site n.encode = .ok n)
    (slot : ∀ n ∈ l.children, ∀ site, nested.slot site n.encode = .ok n)
    (payload : ∀ field value, (field, .constant value) ∈ l.contents →
      ∀ site, nested.entry site (Node.of (.scalar value)).encode = .ok (.of (.scalar value))) :
    l.Told tag (Node.of l).fields nested := by
  rintro ⟨field, c⟩ mem
  have part : ∀ n ∈ c.parts, n ∈ l.children := fun n h => mem_children_of_mem_contents mem h
  refine Content.told_encode ?_ (fun n h => entry n (part n h)) (fun n h => slot n (part n h)) ?_
  · refine Fields.value?_ofList ?_ (List.mem_map_of_mem mem) ?_
    · rw [List.map_map]
      exact l.nodup_names
    · exact Content.spell_map_ne_null c fun n => by simp [Node.encode_eq]
  · rintro value rfl
    exact payload field value mem

end ReadBack

/-- A plain value is read back with one level left. -/
theorem readEntry_scalar (limit below : Nat) (site : Site) (value : Scalar) :
    readEntry limit (below + 1) site (Node.of (.scalar value)).encode =
      .ok (.of (.scalar value)) := by
  rw [Node.encode_eq, readEntry_tagged, Kind.ofTag?_tag]
  refine Kind.decoder_run (l := .scalar value) (Layer.told_encode _ ?_ ?_ ?_) trivial
  · exact fun n child => nomatch child
  · exact fun n child => nomatch child
  · intro field payload mem
    cases value <;> simp [Layer.contents, Layer.scalarContents] at mem

/-- **A tree is read back from the raw value that it is written as**, with two levels for each of
its own: a slot of a sparse list takes two, and the value of a constant takes one where the tree has
none. -/
theorem readEntry_encode {limit levels : Nat} {n : Node} (shaped : n.Everywhere Node.QueryShaped)
    (room : 2 * n.height ≤ levels) (site : Site) :
    readEntry limit levels site n.encode = .ok n := by
  have positive := n.height_pos
  obtain ⟨below, rfl⟩ : ∃ below, levels = below + 2 := ⟨levels - 2, by omega⟩
  -- A child is lower by one, so two levels less are enough for it, whether as an entry or a slot.
  have children : ∀ levels, below ≤ levels → ∀ c ∈ n.children, ∀ site,
      readEntry limit levels site c.encode = .ok c := by
    intro levels le c child site
    have lower := Node.height_lt_of_mem_children child
    exact readEntry_encode (shaped.child child) (by omega) site
  rw [Node.encode_eq, readEntry_tagged]
  obtain ⟨l⟩ := n
  rw [Node.kind, Kind.ofTag?_tag]
  refine Kind.decoder_run (Layer.told_encode _ ?_ ?_ ?_) shaped.root
  · exact children (below + 1) (by omega)
  · exact children below (by omega)
  · exact fun _ value _ site => readEntry_scalar limit below site value
termination_by sizeOf n
decreasing_by exact Node.sizeOf_lt child

/-! ## Well-formed raw values -/

/-- A number is one that a literal may read as: an integer of 64 signed bits, a natural number of 64
bits above those, or a finite double. -/
def Number.Fits : Number → Prop
  | integer value => -(Numeral.maxInteger + 1 : Int) ≤ value ∧ value ≤ Numeral.maxInteger
  | natural value => Numeral.maxInteger < value ∧ value ≤ Numeral.maxNatural
  | double value => value.isInfinite = false

/-- The numbers of a raw value fit, and the keys of each object are in order, none twice. -/
inductive Json.WellFormed : Json → Prop where
  | null : WellFormed .null
  | bool (value : Bool) : WellFormed (.bool value)
  | number {value : Number} : value.Fits → WellFormed (.number value)
  | string (text : String) : WellFormed (.string text)
  | array {items : List Json} : (∀ item ∈ items, WellFormed item) → WellFormed (.array items)
  | object {fields : Fields} : (fields.map Prod.fst).Pairwise (· < ·) →
      (∀ field ∈ fields, WellFormed field.2) → WellFormed (.object fields)

/-- The integers in a field fit 64 signed bits. -/
def Content.IntegersFit {α : Type} : Content α → Prop
  | integer value => ∀ i ∈ value, (Number.integer i).Fits
  | constant (.integer value) => (Number.integer value).Fits
  | _ => True

/-- The integers in the fields of a record fit 64 signed bits. -/
def Node.IntegersFit (n : Node) : Prop := ∀ entry ∈ n.layer.contents, entry.2.IntegersFit

namespace Fields

/-- Setting a field keeps the keys in order. -/
theorem insert_ordered {key : String} {value : Json} {fields : Fields}
    (ordered : (fields.map Prod.fst).Pairwise (· < ·)) :
    ((fields.insert key value).map Prod.fst).Pairwise (· < ·) := by
  induction fields with
  | nil => exact List.pairwise_singleton _ _
  | cons first rest ih =>
    obtain ⟨k, v⟩ := first
    obtain ⟨above, tail⟩ := List.pairwise_cons.mp ordered
    unfold insert
    split
    next before =>
      refine List.pairwise_cons.mpr ⟨fun other h => ?_, ordered⟩
      rcases List.mem_cons.mp h with rfl | h
      · exact before
      · exact lt_trans before (above other h)
    next notBefore =>
      split
      next same =>
        subst same
        exact ordered
      next different =>
        refine List.pairwise_cons.mpr ⟨fun other h => ?_, ih tail⟩
        obtain ⟨entry, inside, rfl⟩ := List.mem_map.mp h
        rcases mem_insert inside with rfl | inside
        · exact lt_of_le_of_ne (not_lt.mp notBefore) (Ne.symm different)
        · exact above _ (List.mem_map_of_mem inside)

/-- The keys of an object that was put together are in order. -/
theorem ofList_ordered (entries : List (String × Option Json)) :
    ((ofList entries).map Prod.fst).Pairwise (· < ·) := by
  induction entries with
  | nil => exact .nil
  | cons entry rest ih =>
    obtain ⟨k, _ | v⟩ := entry
    · exact ih
    · exact insert_ordered ih

/-- The fields of an object are among those that were put into it. -/
theorem mem_ofList {entries : List (String × Option Json)} {field : String × Json}
    (h : field ∈ ofList entries) : (field.1, some field.2) ∈ entries := by
  induction entries with
  | nil => cases h
  | cons entry rest ih =>
    obtain ⟨k, _ | v⟩ := entry
    · exact List.mem_cons_of_mem _ (ih h)
    · rcases mem_insert h with rfl | h
      · exact List.mem_cons_self
      · exact List.mem_cons_of_mem _ (ih h)

end Fields

/-- The codes of enumerations are small enough for a number. -/
theorem Number.fits_code {ε : Type} [Vocabulary ε] [BEq ε] [LawfulVocabulary ε] (value : ε) :
    (Number.integer (Vocabulary.code value)).Fits := by
  have bounds := Vocabulary.code_bounds value
  have large : (16 : Int) ≤ Numeral.maxInteger := by decide
  unfold Fits
  omega

/-- The codes in the fields of a record are small. -/
theorem Layer.fits_of_code {α : Type} {l : Layer α} {field : String} {code : Int}
    (h : (field, Content.code code) ∈ l.contents) : (Number.integer code).Fits := by
  cases l
  case scalar value => cases value <;> simp [contents, scalarContents] at h
  case sortBy =>
    simp [contents] at h
    rcases h with ⟨-, rfl⟩ | ⟨-, rfl⟩ <;> exact Number.fits_code _
  all_goals
    simp [contents] at h
  -- What is left are the records with one enumerated field.
  all_goals
    obtain ⟨-, rfl⟩ := h
    exact Number.fits_code _

/-- A plain value is written as a well-formed object when its integer fits. -/
theorem Scalar.wellFormed_fields {value : Scalar}
    (fits : ∀ i, value = .integer i → (Number.integer i).Fits) :
    (Json.object value.fields).WellFormed := by
  cases value with
  | null => exact .object .nil (by simp [fields])
  | integer i => exact .object (by simp [fields]) (by simpa [fields] using .number (fits i rfl))
  | string text => exact .object (by simp [fields]) (by simpa [fields] using .string text)
  | float d => exact .object (by simp [fields]) (by simpa [fields] using .string d.toText)
  | boolean b => exact .object (by simp [fields]) (by simpa [fields] using .bool b)

/-- A record under a tag is well formed when its fields are. -/
theorem Json.wellFormed_tagged {tag : String} {body : Json} (h : body.WellFormed) :
    (Json.object [(tag, body)]).WellFormed :=
  .object (List.pairwise_singleton _ _) (by simpa using h)

/-- What a field is spelled as is well-formed when its integers fit and the nodes in it are written
as well-formed values. -/
theorem Content.wellFormed_spell {c : Content Node} (fits : c.IntegersFit)
    (code : ∀ i, c = .code i → (Number.integer i).Fits)
    (parts : ∀ n ∈ c.parts, n.encode.WellFormed) {raw : Json}
    (spelled : (c.map Node.encode).spell = some raw) : raw.WellFormed := by
  cases c with
  | text value =>
    obtain ⟨text, -, rfl⟩ := Option.map_eq_some_iff.mp spelled
    exact .string text
  | integer value =>
    obtain ⟨i, h, rfl⟩ := Option.map_eq_some_iff.mp spelled
    exact .number (fits i h)
  | flag value =>
    cases spelled
    exact .bool value
  | code value =>
    cases spelled
    exact .number (code value rfl)
  | constant value =>
    simp only [map, spell] at spelled
    split at spelled
    next => cases spelled
    next =>
      cases spelled
      refine Json.wellFormed_tagged (Scalar.wellFormed_fields ?_)
      rintro i rfl
      exact fits
  | child value =>
    obtain ⟨n, h, rfl⟩ := Option.map_eq_some_iff.mp spelled
    exact parts n (by simp [Content.parts, h])
  | children values =>
    cases spelled
    exact .array (List.forall_mem_map.mpr parts)
  | lists values =>
    cases spelled
    rw [List.map_map]
    refine .array (List.forall_mem_map.mpr fun nodes h => ?_)
    exact .array (List.forall_mem_map.mpr fun n hn =>
      parts n (List.mem_flatten.mpr ⟨nodes, h, hn⟩))

/-- The raw value that a tree is written as is well formed when the integers of the tree fit. -/
theorem Node.wellFormed_encode {n : Node} (fits : n.Everywhere IntegersFit) :
    n.encode.WellFormed := by
  rw [encode_eq]
  refine Json.wellFormed_tagged (.object (Fields.ofList_ordered _) ?_)
  rintro ⟨field, raw⟩ h
  obtain ⟨⟨_, c⟩, mem, e⟩ := List.mem_map.mp (Fields.mem_ofList h)
  obtain ⟨rfl, spelled⟩ := Prod.mk.inj e
  refine Content.wellFormed_spell (fits.root _ mem) ?_ ?_ spelled
  · rintro i rfl
    exact Layer.fits_of_code mem
  · intro part inside
    have child : part ∈ n.children := Layer.mem_children_of_mem_contents mem inside
    exact part.wellFormed_encode (fits.child child)
termination_by sizeOf n
decreasing_by exact sizeOf_lt child

/-! ## Building what was written -/

namespace Builder

/-- **Every tree with queries where they belong is built from some raw value.** The raw value is the
tree written out, and the builder reads it back with twice as many levels as the tree is high. -/
theorem build_encode (n : Node) (shaped : n.Everywhere Node.QueryShaped) :
    (n.Everywhere Node.IntegersFit → n.encode.WellFormed) ∧
      ∃ n', Builder.build ⟨⟨2 * n.height⟩⟩ n.encode = .ok (some n') ∧ (n' == n) = true := by
  refine ⟨Node.wellFormed_encode, n, ?_, BEq.rfl⟩
  have read : readEntry (2 * n.height) (2 * n.height) .root n.encode = .ok n :=
    readEntry_encode shaped (Nat.le_refl _) .root
  have record : Builder.build ⟨⟨2 * n.height⟩⟩ n.encode =
      some <$> readRecord (readEntry (2 * n.height) (2 * n.height)) .root n.encode := by
    rw [Node.encode_eq]
    rfl
  rw [record, readRecord_encode, read]
  rfl

/-- A query with the given target list, FROM clause and operands. -/
def queryOf (targetList fromClause : List Node) (op : SetOperation) (larg rarg : Option Node) :
    Node :=
  .of (.selectStmt ⟨[], none, targetList, fromClause, none, [], none, [], [], none, none, none, op,
    false, larg, rarg⟩)

def negativeZero : Node := .of (.aConst ⟨.float (.zero true), 7⟩)

def functionName : Node := .of (.scalar (.string "f"))

/-- `ROWS FROM (f)`, with an empty list after the first. -/
def rowsFrom : Node := .of (.rangeFunction ⟨false, false, true, [[functionName], []], none, []⟩)

/-- `SELECT -0.0 UNION SELECT FROM ROWS FROM (f)` -/
def unionQuery : Node :=
  queryOf [] [] .union (some (queryOf [negativeZero] [] .none none none))
    (some (queryOf [] [rowsFrom] .none none none))

/-- What holds of each of its records holds everywhere in the union. -/
theorem everywhere_unionQuery {P : Node → Prop} (union : P unionQuery)
    (left : P (queryOf [negativeZero] [] .none none none))
    (right : P (queryOf [] [rowsFrom] .none none none)) (leaves : P negativeZero ∧ P functionName)
    (rows : P rowsFrom) : unionQuery.Everywhere P := by
  have none {n : Node} (leaf : n.children = []) (h : P n) : n.Everywhere P :=
    Node.everywhere_iff.mpr ⟨h, by simp [leaf]⟩
  have one {n c : Node} (parent : n.children = [c]) (h : P n) (child : c.Everywhere P) :
      n.Everywhere P :=
    Node.everywhere_iff.mpr ⟨h, by simpa [parent] using child⟩
  have leftEverywhere := one (c := negativeZero) rfl left (none rfl leaves.1)
  have rightEverywhere := one (c := rowsFrom) rfl right (one rfl rows (none rfl leaves.2))
  exact Node.everywhere_iff.mpr ⟨union, List.forall_mem_cons.mpr
    ⟨leftEverywhere, List.forall_mem_cons.mpr ⟨rightEverywhere, by simp⟩⟩⟩

/-- A set operation over a constant and over functions in a FROM clause is read back. -/
theorem build_encode_unionQuery :
    unionQuery.encode.WellFormed ∧
      ∃ n', Builder.build ⟨⟨2 * unionQuery.height⟩⟩ unionQuery.encode = .ok (some n') ∧
        (n' == unionQuery) = true := by
  have shaped : unionQuery.Everywhere Node.QueryShaped := by
    refine everywhere_unionQuery ?_ ?_ ?_ ⟨trivial, trivial⟩ trivial
    · simp [Node.QueryShaped, unionQuery, queryOf, Node.layer, Layer.QueryShaped, Node.IsSelect]
    · simp [Node.QueryShaped, queryOf, Node.layer, Layer.QueryShaped]
    · simp [Node.QueryShaped, queryOf, Node.layer, Layer.QueryShaped]
  have fits : unionQuery.Everywhere Node.IntegersFit := by
    refine everywhere_unionQuery ?_ ?_ ?_ ⟨?_, ?_⟩ ?_ <;>
      simp [Node.IntegersFit, unionQuery, queryOf, negativeZero, functionName, rowsFrom, Node.layer,
        Layer.contents, Layer.scalarContents, Content.IntegersFit, Number.Fits,
        Numeral.maxInteger]
  exact ⟨(build_encode unionQuery shaped).1 fits, (build_encode unionQuery shaped).2⟩

end Builder

end SqlTree
