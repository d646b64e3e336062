import SqlTree.Proofs.BuiltTrees
import SqlTree.Proofs.FieldMaps
import SqlTree.Proofs.Questions

/-!
# Raw trees with a change

What a value of a raw tree is read as follows from where it stands: a record, the untagged fields of
one, an entry of a sequence, a sub-list of a sparse list, or an array of such values (`Place`). One
value of a tree is changed, at whatever depth, when it stands where reading may get to: each field
on the way is one that the decoder of the record asks for (`ChangedAt`). Which value may take the
place of which is left open.

If the new value and the old one are read alike where they stand, then so are the two trees as they
stand (`ChangedAt.alike`), and what is built from them agrees (`Builder.agree_build`). Alike means
at every number of levels that may be left, and with errors that are related in a way that is left
open as well. The induction on the depth of the change is made here, once; the number of levels does
not enter it.
-/

namespace SqlTree

/-- What a value of a raw tree is read as. -/
inductive Place where
  /-- A record under its tag. -/
  | record
  /-- The fields of a record of a kind, without the tag. -/
  | body (kind : Kind)
  /-- An entry of a sequence: a record, an array of entries, or a plain value. -/
  | entry
  /-- A sub-list of a sparse list. -/
  | subList
  /-- An array of values at a place. -/
  | all (place : Place)

/-- What the value of a field is read as to answer a question, unless it is a plain value. -/
def Query.place? : Query → Option Place
  | child _ => some .record
  | untagged _ kind => some (.body kind)
  | children _ => some (.all .entry)
  | sparseLists _ => some (.all .subList)
  | present _ | string _ | integer _ | flag _ | spelling _ => none

/-- A record of a kind with the given fields. -/
def Kind.raw (kind : Kind) (fields : Fields) : Json := .object [(kind.tag, .object fields)]

/-- One value inside a raw value is changed. Both are read as what stands at a place. -/
inductive ChangedAt (change : Place → Json → Json → Prop) : Place → Json → Json → Prop where
  | here {place : Place} {raw raw' : Json} : change place raw raw' →
      ChangedAt change place raw raw'
  /-- A field that the decoder of the record asks for. -/
  | field {kind : Kind} {query : Query} {place : Place} {before after : Fields}
      {raw raw' : Json} : kind.decoder.Asks query → query.place? = some place →
      ChangedAt change place raw raw' →
      ChangedAt change .record (kind.raw (before ++ (query.field, raw) :: after))
        (kind.raw (before ++ (query.field, raw') :: after))
  | body {kind : Kind} {fields fields' : Fields} :
      ChangedAt change .record (kind.raw fields) (kind.raw fields') →
      ChangedAt change (.body kind) (.object fields) (.object fields')
  | recordEntry {raw raw' : Json} : ChangedAt change .record raw raw' →
      ChangedAt change .entry raw raw'
  | arrayEntry {raw raw' : Json} : ChangedAt change (.all .entry) raw raw' →
      ChangedAt change .entry raw raw'
  /-- The slots of a sub-list that is a bare array. -/
  | slots {raw raw' : Json} : ChangedAt change (.all .record) raw raw' →
      ChangedAt change .subList raw raw'
  /-- The slots of a sub-list that is an object. -/
  | items {before after first last : Fields} {raw raw' : Json} :
      ChangedAt change (.all .record) raw raw' →
      ChangedAt change .subList
        (.object (before ++ ("List", .object (first ++ ("items", raw) :: last)) :: after))
        (.object (before ++ ("List", .object (first ++ ("items", raw') :: last)) :: after))
  | one {place : Place} {before after : List Json} {raw raw' : Json} :
      ChangedAt change place raw raw' →
      ChangedAt change (.all place) (.array (before ++ raw :: after))
        (.array (before ++ raw' :: after))

/-! ## Values that are read alike -/

section Alike

variable (E : BuildError → BuildError → Prop)

/-- What is malformed at one site is so at the other, up to related errors. -/
def SitesAlike (site site' : Site) : Prop :=
  ∀ expected, E (.malformed site expected) (.malformed site' expected)

/-- Two values are read alike as entries, with any number of levels left. -/
def ReadAlike (raw raw' : Json) : Prop :=
  ∀ limit levels site site', SitesAlike E site site' →
    Agree E (readEntry limit levels site raw) (readEntry limit levels site' raw')

/-- A value that is an object with one tag over its fields. -/
def Json.IsRecord (raw : Json) : Prop := ∃ tag fields, raw = .object [(tag, .object fields)]

/-- Two values are alike at a place: of the form that belongs there, and read alike. -/
def Place.Alike : Place → Json → Json → Prop
  | record, raw, raw' => raw.IsRecord ∧ raw'.IsRecord ∧ ReadAlike E raw raw'
  | body kind, raw, raw' => ∃ fields fields', raw = .object fields ∧ raw' = .object fields' ∧
      ReadAlike E (kind.raw fields) (kind.raw fields')
  | entry, raw, raw' => ReadAlike E raw raw'
  | subList, raw, raw' => ∀ limit levels site site', SitesAlike E site site' →
      Agree E (readSubList (nestedReaders limit levels) site raw)
        (readSubList (nestedReaders limit levels) site' raw')
  | all place, raw, raw' => ∃ items items', raw = .array items ∧ raw' = .array items' ∧
      List.Forall₂ (fun item item' => item = item' ∨ place.Alike item item') items items'

end Alike

variable {E : BuildError → BuildError → Prop} {limit levels : Nat} {site site' : Site}
  {raw raw' : Json}

/-- A value of the form that belongs where nested values are is there. -/
theorem Place.Alike.ne_null {query : Query} {place : Place} (read : query.place? = some place)
    (h : place.Alike E raw raw') : raw ≠ .null ∧ raw' ≠ .null := by
  cases query <;> cases read
  case child =>
    obtain ⟨⟨_, _, rfl⟩, ⟨_, _, rfl⟩, -⟩ := h
    exact ⟨nofun, nofun⟩
  case untagged | children | sparseLists =>
    obtain ⟨_, _, rfl, rfl, -⟩ := h
    exact ⟨nofun, nofun⟩

variable [Std.Refl E]

theorem SitesAlike.refl (site : Site) : SitesAlike E site site :=
  fun _ => Std.Refl.refl _

/-- The site of a value counts in errors only. -/
theorem ReadAlike.refl (raw : Json) : ReadAlike E raw raw := by
  intro limit levels site site' sites
  induction levels generalizing raw with
  | zero =>
    rw [readEntry_eq, readEntry_eq]
    split <;> first | exact .refl _ | exact .error (sites _)
  | succ below ih =>
    by_cases array : ∃ items, raw = .array items
    · obtain ⟨items, rfl⟩ := array
      rw [readEntry_array, readEntry_array]
      exact .map (.mapM (List.forall₂_same.mpr fun item _ => ih item))
    · rw [readEntry_eq, readEntry_eq]
      split
      case h_4 items => exact absurd ⟨items, rfl⟩ array
      all_goals first | exact .refl _ | exact .error (sites _)

/-- Arrays are read alike when their entries are. -/
theorem ReadAlike.array {items items' : List Json}
    (entries : List.Forall₂ (ReadAlike E) items items') :
    ReadAlike E (.array items) (.array items') := by
  intro limit levels site site' sites
  rw [readEntry_array, readEntry_array]
  cases levels with
  | zero => exact .refl _
  | succ below =>
    exact .map (.mapM (entries.imp fun _ _ alike => alike limit below site site' sites))

/-! ## Sub-lists -/

/-- Where a record has to be, a record is read as any value. -/
theorem readRecord_record {read : Site → Json → Except BuildError Node} (h : raw.IsRecord) :
    readRecord read site raw = read site raw := by
  obtain ⟨_, _, rfl⟩ := h
  rfl

/-- Slots are read alike when they are the same or alike as records. -/
theorem agree_slot (sites : SitesAlike E site site')
    (h : raw = raw' ∨ Place.record.Alike E raw raw') :
    Agree E (readRecord (readEntry limit levels) site raw)
      (readRecord (readEntry limit levels) site' raw') := by
  obtain rfl | ⟨record, record', alike⟩ := h
  · cases raw with
    | object fields => exact ReadAlike.refl _ _ _ _ _ sites
    | null | bool | number | string | array => exact .error (sites _)
  · rw [readRecord_record record, readRecord_record record']
    exact alike _ _ _ _ sites

/-- A record is no empty slot. -/
theorem Json.IsRecord.isEmptySlot (h : raw.IsRecord) : isEmptySlot raw = false := by
  obtain ⟨_, _, rfl⟩ := h
  rfl

/-- The slots of a sub-list are read alike, one by one, the empty ones being left out. -/
theorem agree_slots (sites : SitesAlike E site site') {slots slots' : List Json}
    (h : List.Forall₂ (fun slot slot' => slot = slot' ∨ Place.record.Alike E slot slot')
      slots slots') :
    Agree E
      ((slots.filter fun slot => !isEmptySlot slot).mapM
        (readRecord (nestedReaders limit levels).slot site))
      ((slots'.filter fun slot => !isEmptySlot slot).mapM
        (readRecord (nestedReaders limit levels).slot site')) := by
  have kept : List.Forall₂ (fun slot slot' => slot = slot' ∨ Place.record.Alike E slot slot')
      (slots.filter fun slot => !isEmptySlot slot)
      (slots'.filter fun slot => !isEmptySlot slot) := by
    refine List.rel_filter (fun slot slot' related => ?_) h
    obtain rfl | ⟨record, record', -⟩ := related
    · rfl
    · simp only [record.isEmptySlot, record'.isEmptySlot]
  rw [nestedReaders_slot]
  exact .mapM (kept.imp fun _ _ related => agree_slot sites related)

/-- Sub-lists are read alike when they have the same slots. -/
theorem agree_readSubList (sites : SitesAlike E site site')
    (h : subListSlots site raw = subListSlots site raw') :
    Agree E (readSubList (nestedReaders limit levels) site raw)
      (readSubList (nestedReaders limit levels) site' raw') := by
  have slots : Agree E (subListSlots site raw') (subListSlots site' raw') := by
    unfold subListSlots
    repeat' split
    all_goals first | exact .refl _ | exact .error (sites _)
  unfold readSubList
  rw [h]
  exact slots.bind fun _ => agree_slots sites (List.forall₂_same.mpr fun _ _ => .inl rfl)

/-- Sub-lists are read alike when their slots are. -/
theorem agree_readSubList_of_slots (sites : SitesAlike E site site')
    {slots slots' : List Json} (found : subListSlots site raw = .ok slots)
    (found' : subListSlots site' raw' = .ok slots')
    (h : List.Forall₂ (fun slot slot' => slot = slot' ∨ Place.record.Alike E slot slot')
      slots slots') :
    Agree E (readSubList (nestedReaders limit levels) site raw)
      (readSubList (nestedReaders limit levels) site' raw') := by
  unfold readSubList
  rw [found, found']
  exact agree_slots sites h

/-! ## Objects with one field changed -/

/-- Sub-lists that are objects are read alike when the slots in them are. -/
theorem agree_readSubList_items (sites : SitesAlike E site site')
    {before after first last : Fields} {slots slots' : List Json}
    (h : List.Forall₂ (fun slot slot' => slot = slot' ∨ Place.record.Alike E slot slot')
      slots slots') :
    Agree E
      (readSubList (nestedReaders limit levels) site
        (.object (before ++ ("List", .object (first ++ ("items", .array slots) :: last)) :: after)))
      (readSubList (nestedReaders limit levels) site'
        (.object
          (before ++ ("List", .object (first ++ ("items", .array slots') :: last)) :: after))) := by
  obtain list | ⟨-, list, list'⟩ := Fields.lookup_change before after "List" "List"
    (.object (first ++ ("items", .array slots) :: last))
    (.object (first ++ ("items", .array slots') :: last))
  · refine agree_readSubList sites ?_
    simp only [subListSlots, list]
  · obtain items | ⟨-, items, items'⟩ := Fields.value?_change first last "items" "items"
      (.array slots) (.array slots') nofun nofun
    · refine agree_readSubList sites ?_
      simp only [subListSlots, list, list', items]
    · refine agree_readSubList_of_slots sites ?_ ?_ h
      · simp only [subListSlots, list, items]
      · simp only [subListSlots, list', items']

/-- The answer about a field is alike when its value is. -/
theorem Query.agree_answer_of_value {query : Query} {place : Place} {tag : String}
    {fields fields' : Fields} (read : query.place? = some place)
    (alike : place.Alike E raw raw') (found : fields.value? query.field = some raw)
    (found' : fields'.value? query.field = some raw') :
    Agree E (query.answer tag fields (nestedReaders limit levels))
      (query.answer tag fields' (nestedReaders limit levels)) := by
  have site (field : String) : SitesAlike E ⟨tag, field⟩ ⟨tag, field⟩ := .refl _
  cases query <;> cases read <;> simp only [field] at found found' <;>
    simp only [answer, found, found']
  case child name =>
    exact .map (agree_slot (site name) (.inr alike))
  case untagged name kind =>
    obtain ⟨body, body', rfl, rfl, alike⟩ := alike
    have alike := alike limit levels _ _ (site name)
    rwa [Kind.raw, Kind.raw, readEntry_record, readEntry_record] at alike
  case children name =>
    obtain ⟨items, items', rfl, rfl, entries⟩ := alike
    refine .mapM (entries.imp fun item item' related => ?_)
    obtain rfl | alike := related
    · exact .refl _
    · exact alike _ _ _ _ (site name)
  case sparseLists name =>
    obtain ⟨lists, lists', rfl, rfl, entries⟩ := alike
    refine .mapM (entries.imp fun list list' related => ?_)
    obtain rfl | alike := related
    · exact .refl _
    · exact alike _ _ _ _ (site name)

/-- Records with one tag are read alike when the runs of the decoder over their fields agree. -/
theorem readAlike_tagged {tag : String} {fields fields' : Fields}
    (runs : ∀ kind, Kind.ofTag? tag = some kind → ∀ limit below,
      Agree E (kind.decoder.run tag fields (nestedReaders limit below))
        (kind.decoder.run tag fields' (nestedReaders limit below))) :
    ReadAlike E (.object [(tag, .object fields)]) (.object [(tag, .object fields')]) := by
  intro limit levels site site' sites
  cases levels with
  | zero => exact .refl _
  | succ below =>
    rw [readEntry_tagged, readEntry_tagged]
    cases known : Kind.ofTag? tag with
    | none => exact .refl _
    | some kind => exact runs kind known limit below

/-- The same, for records of a kind. -/
theorem readAlike_raw {kind : Kind} {fields fields' : Fields}
    (runs : ∀ limit below,
      Agree E (kind.decoder.run kind.tag fields (nestedReaders limit below))
        (kind.decoder.run kind.tag fields' (nestedReaders limit below))) :
    ReadAlike E (kind.raw fields) (kind.raw fields') := by
  refine readAlike_tagged fun named known => ?_
  obtain rfl : kind = named := by simpa [Kind.ofTag?_tag] using known
  exact runs

/-- A record is read alike when the value of a field is that its decoder asks for. -/
theorem readAlike_field {kind : Kind} {query : Query} {place : Place} {before after : Fields}
    (asks : kind.decoder.Asks query) (read : query.place? = some place)
    (alike : place.Alike E raw raw') :
    ReadAlike E (kind.raw (before ++ (query.field, raw) :: after))
      (kind.raw (before ++ (query.field, raw') :: after)) := by
  refine readAlike_raw fun limit below => Decoder.agree_run fun other asks' => ?_
  obtain ⟨filled, filled'⟩ := alike.ne_null read
  obtain unchanged | ⟨name, found, found'⟩ :=
    Fields.value?_change before after query.field other.field raw raw' filled filled'
  · rw [other.answer_congr unchanged]
    exact .refl _
  · obtain rfl | rfl | present := Decoder.eq_of_asks asks asks' name
    · exact Query.agree_answer_of_value read alike found found'
    · simp only [Query.answer, Query.field] at found found' ⊢
      rw [found, found']
      exact .ok true
    · rw [present] at read
      cases read

/-! ## Trees -/

/-- **A change that is read alike where it is made** is read alike in the tree around it. -/
theorem ChangedAt.alike {change : Place → Json → Json → Prop} {place : Place}
    (step : ∀ place raw raw', change place raw raw' → place.Alike E raw raw')
    (h : ChangedAt change place raw raw') : place.Alike E raw raw' := by
  induction h with
  | here changed => exact step _ _ _ changed
  | field asks read _ ih => exact ⟨⟨_, _, rfl⟩, ⟨_, _, rfl⟩, readAlike_field asks read ih⟩
  | body _ ih => exact ⟨_, _, rfl, rfl, ih.2.2⟩
  | recordEntry _ ih => exact ih.2.2
  | arrayEntry _ ih =>
    obtain ⟨items, items', rfl, rfl, entries⟩ := ih
    refine .array (entries.imp fun item item' related => ?_)
    obtain rfl | alike := related
    · exact .refl item
    · exact alike
  | slots _ ih =>
    obtain ⟨slots, slots', rfl, rfl, entries⟩ := ih
    exact fun _ _ _ _ sites => agree_readSubList_of_slots sites rfl rfl entries
  | items _ ih =>
    obtain ⟨slots, slots', rfl, rfl, entries⟩ := ih
    exact fun _ _ _ _ sites => agree_readSubList_items sites entries
  | one _ ih =>
    exact ⟨_, _, rfl, rfl, forall₂_replace (fun _ => .inl rfl) (.inr ih)⟩

/-- What is built from two records that are read alike agrees. -/
theorem Builder.agree_build (b : Builder) (h : Place.record.Alike E raw raw') :
    Agree E (b.build raw) (b.build raw') := by
  obtain ⟨⟨_, _, rfl⟩, ⟨_, _, rfl⟩, alike⟩ := h
  exact .map (alike _ _ _ _ (.refl _))

end SqlTree
