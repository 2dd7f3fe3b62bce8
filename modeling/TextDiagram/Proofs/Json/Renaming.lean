import TextDiagram.Json.Decoder

/-!
# Changing values inside of values

What is read off an object when one of its fields has been changed, and off a list when its items
have been. Main statement: where every value that can be read is replaced by another one, exactly
the other ones are read.
-/
namespace TextDiagram.Json

/-! ### Fields -/

/-- A field with its value changed, if it has the name. -/
def changeNamed (name : String) (change : Json → Json) : String × Json → String × Json
  | (field, value) => (field, if field = name then change value else value)

/-- The value with a field changed, if it is an object that has the field. -/
def mapField (name : String) (change : Json → Json) : Json → Json
  | object fields => object (fields.map (changeNamed name change))
  | other => other

variable {name : String} {change : Json → Json}

/-- What is read off the fields is changed under the name, and left alone under others. -/
theorem field?_mapField (value : Json) (wanted : String) :
    (value.mapField name change).field? wanted =
      (value.field? wanted).map fun held => if wanted = name then change held else held := by
  cases value with
  | object fields =>
    simp only [mapField, field?]
    induction fields with
    | nil => rfl
    | cons field rest ih =>
      obtain ⟨first, held⟩ := field
      simp only [List.map_cons, changeNamed, List.lookup_cons]
      by_cases same : wanted = first
      · simp [same]
      · simp only [beq_false_of_ne same, ih]
  | _ => rfl

theorem field?_mapField_self (value : Json) :
    (value.mapField name change).field? name = (value.field? name).map change := by
  simp only [field?_mapField, if_true]

theorem field?_mapField_of_ne (value : Json) {wanted : String} (apart : wanted ≠ name) :
    (value.mapField name change).field? wanted = value.field? wanted := by
  simp only [field?_mapField, if_neg apart, Option.map_id']

/-- Where a field goes depends on its name alone. -/
theorem map_insertField (field : String) (value : Json) (sorted : List (String × Json)) :
    (insertField field value sorted).map (changeNamed name change) =
      insertField field (changeNamed name change (field, value)).2
        (sorted.map (changeNamed name change)) := by
  induction sorted with
  | nil => rfl
  | cons head rest ih =>
    obtain ⟨first, held⟩ := head
    simp only [insertField, List.map_cons, changeNamed]
    split
    next => rfl
    next =>
      split
      next => rfl
      next => rw [List.map_cons, ih]; rfl

/-- A field may be changed before or after an object is made. -/
theorem mapField_ofFields (fields : List (String × Json)) :
    (ofFields fields).mapField name change = ofFields (fields.map (changeNamed name change)) := by
  have inserted (sorted : List (String × Json)) :
      (fields.foldl (fun sorted (name, value) => insertField name value sorted) sorted).map
          (changeNamed name change) =
        (fields.map (changeNamed name change)).foldl
          (fun sorted (name, value) => insertField name value sorted)
          (sorted.map (changeNamed name change)) := by
    induction fields generalizing sorted with
    | nil => rfl
    | cons head rest ih =>
      simp only [List.foldl_cons, List.map_cons, ih, map_insertField]
      rfl
  exact congrArg object (inserted [])

theorem mapField_id (value : Json) : value.mapField name id = value := by
  have unchanged : changeNamed name id = id := by
    funext field
    simp [changeNamed]
  cases value <;> simp [mapField, unchanged]

/-! ### Items -/

/-- The value with its items changed, if it is a list. -/
def mapItems (change : Json → Json) : Json → Json
  | array items => array (items.map change)
  | other => other

theorem mapItems_id (value : Json) : value.mapItems id = value := by
  cases value <;> simp [mapItems]

section

variable {β : Type} [DecidableEq β] {decoder : Decoder β} {encode : β → Json}

/-- Replaces a value by the encoding of what it is changed to. A value that cannot be read, and one
that is not changed, stays in the form that it has. -/
def rename (decoder : Decoder β) (encode : β → Json) (change : β → β) (value : Json) : Json :=
  match decode? decoder value with
  | none => value
  | some held => if change held = held then value else encode (change held)

theorem rename_id (value : Json) : rename decoder encode id value = value := by
  unfold rename
  split
  · rfl
  · rw [id_eq, if_pos rfl]

variable (read_back : ∀ value, decoder (encode value).toOutline = .ok value)

include read_back

theorem rename_encode (change : β → β) (value : β) :
    rename decoder encode change (encode value) = encode (change value) := by
  simp only [rename, decode?, read_back, Except.toOption]
  split
  next same => rw [same]
  next => rfl

theorem decode_rename (change : β → β) (value : Json) :
    decoder (rename decoder encode change value).toOutline =
      (decoder value.toOutline).map change := by
  unfold rename decode?
  cases read : decoder value.toOutline with
  | error fault => simp [Except.toOption, read, Except.map]
  | ok held =>
    simp only [Except.toOption, Except.map]
    split
    next same => rw [read, same]
    next => exact read_back (change held)

/-- A list of encodings is changed item by item. -/
theorem mapItems_ofList (change : β → β) (values : List β) :
    (ofList encode values).mapItems (rename decoder encode change) =
      ofList encode (values.map change) := by
  simp [ofList, mapItems, Function.comp_def, rename_encode read_back]

/-- What is read off a list whose items have been changed. -/
theorem decode?_mapItems (change : β → β) (value : Json) :
    decode? (.list decoder) (value.mapItems (rename decoder encode change)) =
      (decode? (.list decoder) value).map (List.map change) := by
  cases value with
  | array items =>
    have read : (outlineItems (items.map (rename decoder encode change))).mapM decoder =
        ((outlineItems items).mapM decoder).map (List.map change) := by
      induction items with
      | nil => rfl
      | cons item rest ih =>
        simp only [List.map_cons, outlineItems, List.mapM_cons, decode_rename read_back, ih]
        cases decoder item.toOutline with
        | error fault => rfl
        | ok first => cases (outlineItems rest).mapM decoder <;> rfl
    simp only [mapItems, decode?, toOutline, Decoder.list, read]
    cases (outlineItems items).mapM decoder <;> rfl
  | _ => rfl

end

end TextDiagram.Json
