import TextDiagram.Proofs.Document.Keyed

/-!
# Kinds of entries

A document lists entries of two kinds, shapes and connectors, and does the same to both: it appends
them, deletes them by their ids and puts them back under their ids. What a kind of entries is to a
document is said here once, so that what holds of the operations is proved for both kinds together.
-/
namespace TextDiagram

variable {α β ι : Type}

/-- A kind of entries: where a document lists them, and what their ids are. -/
structure EntryKind (α β ι : Type) where
  entries : Document α → List β
  /-- The document with other entries of the kind. -/
  put : Document α → List β → Document α
  key : β → ι
  entries_put : ∀ document held, entries (put document held) = held
  put_entries : ∀ document, put document (entries document) = document
  put_put : ∀ document held others, put (put document held) others = put document others
  put_id : ∀ document held, (put document held).id = document.id
  entries_empty : ∀ id, entries (.empty id) = []

def shapeKind : EntryKind α (Shape α) ShapeId where
  entries := Document.shapes
  put document shapes := { document with shapes }
  key := Shape.id
  entries_put _ _ := rfl
  put_entries _ := rfl
  put_put _ _ _ := rfl
  put_id _ _ := rfl
  entries_empty _ := rfl

def connectorKind : EntryKind α Connector ConnectorId where
  entries := Document.connectors
  put document connectors := { document with connectors }
  key := Connector.id
  entries_put _ _ := rfl
  put_entries _ := rfl
  put_put _ _ _ := rfl
  put_id _ _ := rfl
  entries_empty _ := rfl

namespace EntryKind

variable (kind : EntryKind α β ι) (document : Document α)

def ids : List ι :=
  (kind.entries document).map kind.key

/-- The document with entries behind those that it has. -/
def append (items : List β) : Document α :=
  kind.put document (kind.entries document ++ items)

theorem append_nil : kind.append document [] = document := by
  rw [append, List.append_nil, kind.put_entries]

theorem append_append (first rest : List β) :
    kind.append (kind.append document first) rest = kind.append document (first ++ rest) := by
  simp only [append, kind.entries_put, kind.put_put, List.append_assoc]

theorem append_id (items : List β) : (kind.append document items).id = document.id :=
  kind.put_id document _

theorem ids_append (items : List β) :
    kind.ids (kind.append document items) = kind.ids document ++ items.map kind.key := by
  rw [ids, append, kind.entries_put, List.map_append, ids]

variable [DecidableEq ι]

/-! ### Deleting -/

/-- The document without the entries under these ids. -/
def erase (keys : List ι) : Document α :=
  kind.put document ((kind.entries document).filter (kind.key · ∉ keys))

/-- The document has an entry under one of these ids. -/
def holds (keys : List ι) : Bool :=
  (kind.entries document).any (kind.key · ∈ keys)

theorem erase_id (keys : List ι) : (kind.erase document keys).id = document.id :=
  kind.put_id document _

theorem ids_erase (keys : List ι) :
    kind.ids (kind.erase document keys) = (kind.ids document).filter (· ∉ keys) := by
  rw [ids, erase, kind.entries_put, ids, List.filter_map]
  rfl

variable {document}

theorem erase_of_absent {keys : List ι} (absent : ∀ wanted ∈ keys, wanted ∉ kind.ids document) :
    kind.erase document keys = document := by
  rw [erase, filter_of_absent kind.key absent, kind.put_entries]

theorem erase_of_not_holds {keys : List ι} (none_held : ¬ kind.holds document keys = true) :
    kind.erase document keys = document :=
  kind.erase_of_absent (absent_of_not_any kind.key none_held)

variable (document)

theorem erase_nil : kind.erase document [] = document :=
  kind.erase_of_absent fun _ listed => absurd listed List.not_mem_nil

theorem holds_nil : kind.holds document [] = false := by
  simp [holds]

theorem holds_empty (id : DocumentId) (keys : List ι) : kind.holds (.empty id) keys = false := by
  rw [holds, kind.entries_empty, List.any_nil]

theorem erase_append (first rest : List ι) :
    kind.erase document (first ++ rest) = kind.erase (kind.erase document first) rest := by
  simp [erase, kind.entries_put, kind.put_put, List.filter_filter, Bool.and_comm]

theorem holds_append (first rest : List ι) :
    kind.holds document (first ++ rest) =
      (kind.holds document first || kind.holds document rest) := by
  apply Bool.eq_iff_iff.mpr
  simp only [holds, List.any_eq_true, Bool.or_eq_true, decide_eq_true_eq, List.mem_append,
    and_or_left, exists_or]

/-- The document without these entries, if it has any of them. -/
def erased? (keys : List ι) : Option (Document α) :=
  if kind.holds document keys then some (kind.erase document keys) else none

theorem erased?_nil : kind.erased? document [] = none := by
  simp [erased?, holds_nil]

theorem erased?_empty (id : DocumentId) (keys : List ι) : kind.erased? (.empty id) keys = none := by
  simp [erased?, holds_empty]

theorem erased?_getD (keys : List ι) :
    (kind.erased? document keys).getD document = kind.erase document keys := by
  unfold erased?
  split
  · rfl
  next none_held => exact (kind.erase_of_not_holds none_held).symm

theorem erased?_id {keys : List ι} {document erased : Document α}
    (found : kind.erased? document keys = some erased) : erased.id = document.id := by
  unfold erased? at found
  split at found
  · cases found
    exact kind.erase_id document keys
  · cases found

/-- What the second of two deletions finds is what the first one has left. -/
theorem erased?_append (first rest : List ι) :
    kind.erased? document (first ++ rest) =
      (kind.erased? document first).elim (kind.erased? document rest)
        fun between => (kind.erased? between rest).or (some between) := by
  simp only [erased?, kind.holds_append, kind.erase_append]
  -- A deletion that finds nothing hands on the document as it is.
  cases some_first : kind.holds document first with
  | false => simp [kind.erase_of_not_holds (ne_true_of_eq_false some_first)]
  | true =>
    cases some_rest : kind.holds (kind.erase document first) rest with
    | false => simp [some_rest, kind.erase_of_not_holds (ne_true_of_eq_false some_rest)]
    | true => simp [some_rest]

/-! ### Putting back -/

/-- The document with entries put back under their ids, one after the other. -/
def restore (items : List β) : Document α :=
  kind.put document (upsertAll kind.key items (kind.entries document))

theorem restore_id (items : List β) : (kind.restore document items).id = document.id :=
  kind.put_id document _

/-- Restoring some of the entries that are left out leaves the others where they are. -/
theorem erase_restore_of_listed {keys : List ι} {items : List β}
    (listed : ∀ item ∈ items, kind.key item ∈ keys) :
    kind.erase (kind.restore document items) keys = kind.erase document keys := by
  have others := filter_upsertAll_of_listed kind.key items (kind.entries document) listed
  rw [erase, restore, kind.entries_put, kind.put_put, others, erase]

/-- Deleting restored entries deletes what had their ids before, and nothing else. -/
theorem erase_restore (items : List β) :
    kind.erase (kind.restore document items) (items.map kind.key) =
      kind.erase document (items.map kind.key) :=
  kind.erase_restore_of_listed document fun _ member => List.mem_map_of_mem (f := kind.key) member

end EntryKind

end TextDiagram
