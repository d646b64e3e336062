import SqlTree.Json.Reader
import SqlTree.Proofs.FieldMaps

/-!
# Nesting of JSON values

How many arrays and objects nest in a value (`Json.nesting`): none in a plain value, one in an empty
array or object. A value that is read from text nests at most as deep as the reader is told to let
it (`Json.nesting_le_of_readWithin?`), although the reader looks at nothing but the number of open
frames. What carries the proof is that each open array or object, if it were closed right away,
would be within the limit where it stands (`Json.Within`); every token keeps this.
-/

namespace SqlTree.Json

/-! ## Nesting -/

mutual

/-- How many arrays and objects nest in a value. -/
def nesting : Json → Nat
  | array items => 1 + deepestItem items
  | object fields => 1 + deepestField fields
  | null | bool _ | number _ | string _ => 0

/-- The nesting of the deepest item. -/
def deepestItem : List Json → Nat
  | [] => 0
  | item :: rest => Nat.max item.nesting (deepestItem rest)

/-- The nesting of the deepest value of a field. -/
def deepestField : List (String × Json) → Nat
  | [] => 0
  | (_, value) :: rest => Nat.max value.nesting (deepestField rest)

end

variable {items : List Json} {fields : Fields} {value : Json} {key : String} {bound limit : Nat}

/-- An array nests one deeper than its items. -/
theorem nesting_array_le_iff :
    (array items).nesting ≤ bound + 1 ↔ ∀ item ∈ items, item.nesting ≤ bound := by
  have deepest : deepestItem items ≤ bound ↔ ∀ item ∈ items, item.nesting ≤ bound := by
    induction items with
    | nil => simp [deepestItem]
    | cons item rest ih =>
      rw [deepestItem, List.forall_mem_cons, ← ih]
      exact Nat.max_le
  rw [← deepest, nesting]
  omega

/-- An object nests one deeper than its values. -/
theorem nesting_object_le_iff :
    (object fields).nesting ≤ bound + 1 ↔ ∀ entry ∈ fields, entry.2.nesting ≤ bound := by
  have deepest : deepestField fields ≤ bound ↔ ∀ entry ∈ fields, entry.2.nesting ≤ bound := by
    induction fields with
    | nil => simp [deepestField]
    | cons entry rest ih =>
      rw [deepestField, List.forall_mem_cons, ← ih]
      exact Nat.max_le
  rw [← deepest, nesting]
  omega

theorem one_le_nesting_array : 1 ≤ (array items).nesting := by
  rw [nesting]
  omega

theorem one_le_nesting_object : 1 ≤ (object fields).nesting := by
  rw [nesting]
  omega

/-- An item nests less deep than its array. -/
theorem nesting_lt_of_mem {item : Json} (mem : item ∈ items) :
    item.nesting < (array items).nesting := by
  have whole : (array items).nesting = deepestItem items + 1 := Nat.add_comm _ _
  have part := nesting_array_le_iff.mp (Nat.le_of_eq whole) item mem
  omega

/-- A value nests less deep than its object. -/
theorem nesting_lt_of_lookup (found : fields.lookup key = some value) :
    value.nesting < (object fields).nesting := by
  have whole : (object fields).nesting = deepestField fields + 1 := Nat.add_comm _ _
  have part : value.nesting ≤ deepestField fields :=
    nesting_object_le_iff.mp (Nat.le_of_eq whole) (key, value) (Fields.mem_of_lookup found)
  omega

/-! ## Reading -/

/-- The array or object that a frame is when it is closed right away. -/
def Frame.closed : Frame → Json
  | .array items => .array items
  | .object fields _ => .object fields

/-- What has been read where the reader is, if it were to end there. -/
def Expect.read? : Expect → Option Json
  | .value => none
  | .firstItem => some (.array [])
  | .firstKey => some (.object [])
  | .key fields | .colon fields _ => some (.object fields)
  | .after value => some value

/-- A value inside a number of open frames is within the limit. -/
def FitsIn (limit depth : Nat) (value : Json) : Prop := value.nesting + depth ≤ limit

/-- Each frame, if it were closed right away, is within the limit inside the frames around it. -/
def Frame.AllFit (limit : Nat) : List Frame → Prop
  | [] => True
  | frame :: outer => FitsIn limit outer.length frame.closed ∧ AllFit limit outer

/-- The reader is within the limit: so is what has been read where it is, and each open frame. -/
structure Within (limit : Nat) (expect : Expect) (frames : List Frame) : Prop where
  here : ∀ value ∈ expect.read?, FitsIn limit frames.length value
  around : Frame.AllFit limit frames

/-- One more item that fits leaves an array fitting. -/
theorem fitsIn_array_cons {depth : Nat} (first : FitsIn limit (depth + 1) value)
    (rest : FitsIn limit depth (array items)) : FitsIn limit depth (array (value :: items)) := by
  unfold FitsIn at *
  have parts : ∀ item ∈ items, item.nesting ≤ limit - depth - 1 := by
    apply nesting_array_le_iff.mp
    omega
  have whole : (array (value :: items)).nesting ≤ limit - depth - 1 + 1 :=
    nesting_array_le_iff.mpr (List.forall_mem_cons.mpr ⟨by omega, parts⟩)
  omega

/-- The order of its items does not decide whether an array fits. -/
theorem fitsIn_array_reverse {depth : Nat} (h : FitsIn limit depth (array items)) :
    FitsIn limit depth (array items.reverse) := by
  unfold FitsIn at *
  have opened : 1 ≤ (array items).nesting := one_le_nesting_array
  have whole : (array items.reverse).nesting ≤ limit - depth - 1 + 1 := by
    refine nesting_array_le_iff.mpr fun item mem => ?_
    refine nesting_array_le_iff.mp ?_ item (List.mem_reverse.mp mem)
    omega
  omega

/-- One more field that fits leaves an object fitting. -/
theorem fitsIn_insert {depth : Nat} (first : FitsIn limit (depth + 1) value)
    (rest : FitsIn limit depth (object fields)) :
    FitsIn limit depth (object (fields.insert key value)) := by
  unfold FitsIn at *
  have parts : ∀ entry ∈ fields, entry.2.nesting ≤ limit - depth - 1 := by
    apply nesting_object_le_iff.mp
    omega
  have whole : (object (fields.insert key value)).nesting ≤ limit - depth - 1 + 1 := by
    refine nesting_object_le_iff.mpr fun entry mem => ?_
    obtain rfl | before := Fields.mem_insert mem
    · change value.nesting ≤ _
      omega
    · exact parts entry before
  omega

/-- There is room for a plain value inside frames that are within the limit. -/
theorem Frame.AllFit.length_le {frames : List Frame} (h : Frame.AllFit limit frames) :
    frames.length ≤ limit := by
  cases frames with
  | nil => exact Nat.zero_le limit
  | cons frame outer =>
    obtain ⟨fits, -⟩ := h
    unfold FitsIn at fits
    have opened : 1 ≤ frame.closed.nesting := by
      cases frame with
      | array items => exact one_le_nesting_array
      | object fields key => exact one_le_nesting_object
    rw [List.length_cons]
    omega

/-- A token that starts a value keeps the reader within the limit. -/
theorem within_begin {frames frames' : List Frame} {token : Token} {expect : Expect}
    (around : Frame.AllFit limit frames) (h : begin limit frames token = some (expect, frames')) :
    Within limit expect frames' := by
  have room := around.length_le
  unfold begin at h
  split at h
  · split at h
    next more =>
      cases h
      refine ⟨?_, around⟩
      rintro _ ⟨⟩
      show 1 + frames.length ≤ limit
      omega
    next => cases h
  · split at h
    next more =>
      cases h
      refine ⟨?_, around⟩
      rintro _ ⟨⟩
      show 1 + frames.length ≤ limit
      omega
    next => cases h
  · obtain ⟨value, plain, e⟩ := Option.map_eq_some_iff.mp h
    cases e
    refine ⟨?_, around⟩
    rintro _ ⟨⟩
    have none : value.nesting = 0 := by
      cases token <;> cases plain <;> rfl
    unfold FitsIn
    omega

/-- **Every token keeps the reader within the limit.** -/
theorem Within.advance {frames frames' : List Frame} {token : Token} {expect expect' : Expect}
    (before : Within limit expect frames)
    (h : advance limit expect frames token = some (expect', frames')) :
    Within limit expect' frames' := by
  obtain ⟨here, around⟩ := before
  cases expect with
  | value => exact within_begin around h
  | firstItem =>
    by_cases closes : token = .closeArray
    · subst closes
      cases h
      exact ⟨here, around⟩
    · have inside : Frame.AllFit limit (.array [] :: frames) := ⟨here _ rfl, around⟩
      have begins : begin limit (.array [] :: frames) token = some (expect', frames') := by
        cases token <;> first | exact h | exact absurd rfl closes
      exact within_begin inside begins
  | firstKey | key =>
    cases token <;> cases h
    all_goals exact ⟨here, around⟩
  | colon fields key =>
    cases token <;> cases h
    exact ⟨nofun, here _ rfl, around⟩
  -- The value goes into the innermost frame, and then that goes on or is closed.
  | after value =>
    have fits := here value rfl
    cases frames with
    | nil => cases token <;> cases h
    | cons frame outer =>
      obtain ⟨fit, around⟩ := around
      cases frame with
      | array items =>
        have longer := fitsIn_array_cons fits fit
        cases token <;> cases h
        case comma.refl => exact ⟨nofun, longer, around⟩
        case closeArray.refl =>
          refine ⟨?_, around⟩
          rintro _ ⟨⟩
          exact fitsIn_array_reverse longer
      | object fields key =>
        cases token <;> cases h
        all_goals
          refine ⟨?_, around⟩
          rintro _ ⟨⟩
          exact fitsIn_insert fits fit

/-- What is read from a state within the limit nests within the limit. -/
theorem Within.nesting_le {tokens : List Token} {frames : List Frame} {expect : Expect}
    {value : Json} (before : Within limit expect frames)
    (h : valueFrom limit expect frames tokens = some value) : value.nesting ≤ limit := by
  induction tokens generalizing expect frames with
  | nil =>
    unfold valueFrom at h
    split at h
    next =>
      cases h
      exact before.here value rfl
    next => cases h
  | cons token rest ih =>
    unfold valueFrom at h
    split at h
    next stepped => exact ih (before.advance stepped) h
    next => cases h

/-- **What is read from text nests no deeper than the limit of the reader.** -/
theorem nesting_le_of_readWithin? {text : String} (h : readWithin? limit text = some value) :
    value.nesting ≤ limit := by
  obtain ⟨tokens, -, read⟩ := Option.bind_eq_some_iff.mp h
  have start : Within limit .value [] := ⟨nofun, trivial⟩
  exact start.nesting_le read

end SqlTree.Json
