import Mathlib.Data.List.Basic
import TextDiagram.Json.Basic

/-!
# Fields of objects

An object keeps its fields sorted, but that does not matter to what is read off it. Main statement:
a field has the last value that was given to it.
-/
namespace TextDiagram.Json

/-- No order of the fields is needed: what has been set is found, wherever it went. -/
theorem lookup_insertField_self (name : String) (value : Json) (fields : List (String × Json)) :
    (insertField name value fields).lookup name = some value := by
  induction fields with
  | nil => simp [insertField]
  | cons head rest ih =>
    obtain ⟨first, held⟩ := head
    simp only [insertField]
    split
    next => exact List.lookup_cons_self
    next other =>
      have apart : (name == first) = false := beq_false_of_ne other
      split
      next => exact List.lookup_cons_self
      next => rw [List.lookup_cons, apart, ih]

theorem lookup_insertField_of_ne (name : String) (value : Json) (fields : List (String × Json))
    {wanted : String} (apart : wanted ≠ name) :
    (insertField name value fields).lookup wanted = fields.lookup wanted := by
  have not_name : (wanted == name) = false := beq_false_of_ne apart
  induction fields with
  | nil => rw [insertField, List.lookup_cons, not_name]
  | cons head rest ih =>
    obtain ⟨first, held⟩ := head
    simp only [insertField]
    split
    next same => rw [List.lookup_cons, List.lookup_cons, ← same, not_name]
    next =>
      split
      next => rw [List.lookup_cons, not_name]
      next => rw [List.lookup_cons, List.lookup_cons, ih]

/-- The last value of a name stands. -/
theorem field?_ofFields (fields : List (String × Json)) (name : String) :
    (ofFields fields).field? name = fields.reverse.lookup name := by
  -- Fields that are inserted later hide those that are there already.
  have inserted (sorted : List (String × Json)) :
      (fields.foldl (fun sorted field => insertField field.1 field.2 sorted) sorted).lookup name =
        (fields.reverse.lookup name).or (sorted.lookup name) := by
    induction fields generalizing sorted with
    | nil => rfl
    | cons head rest ih =>
      obtain ⟨first, value⟩ := head
      rw [List.foldl_cons, ih, List.reverse_cons, List.lookup_append, Option.or_assoc]
      congr 1
      by_cases same : name = first
      · rw [same, lookup_insertField_self, List.lookup_cons_self, Option.some_or]
      · rw [lookup_insertField_of_ne first value sorted same, List.lookup_cons,
          beq_false_of_ne same]
        rfl
  calc (ofFields fields).field? name
    _ = (fields.reverse.lookup name).or (List.lookup name []) := inserted []
    _ = fields.reverse.lookup name := by rw [List.lookup_nil, Option.or_none]

end TextDiagram.Json
