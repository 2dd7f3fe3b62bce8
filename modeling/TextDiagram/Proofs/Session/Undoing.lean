import TextDiagram.Proofs.Session.Filing

/-!
# Undoing in sessions

A session is watched at one of its documents: whenever a command is pushed to the history of the
document, the document is noted as it was just before, and whenever a command is popped, the latest
note is dropped. Main statement: however many imports, restores and undos there have been, on this
document and on others, an undo brings back the records of the latest note. The invariant: undoing
the commands of the history one after the other brings back the records of one note after the
other.
-/
namespace TextDiagram

variable {α : Type}

open Memory

/-- A session, and for one of its documents what it was just before each command of its history was
executed, the latest first. -/
structure Watch (α : Type) where
  session : Session α (Memory α)
  snapshots : List (Document α)

namespace Watch

variable [Scalar α]

/-- Has the session do something. Notes are pushed, forgotten and popped as commands are. -/
def step (store : DocumentStore α (Memory α)) (id : DocumentId) (watch : Watch α)
    (action : Session.Action α) : Watch α :=
  let (answer, session) := watch.session.perform store action
  let snapshots :=
    if action.document = id then
      match answer.effect with
      | .kept => watch.snapshots
      | .pushed =>
        (watch.session.store.documentOrEmpty id :: watch.snapshots).take
          (max watch.session.undoDepth 1)
      | .popped => watch.snapshots.tail
    else
      watch.snapshots
  ⟨session, snapshots⟩

def run (store : DocumentStore α (Memory α)) (id : DocumentId) (watch : Watch α)
    (actions : List (Session.Action α)) : Watch α :=
  actions.foldl (step store id) watch

end Watch

/-- All actions are allowed, each at its time. -/
def Session.AllowsAll [Scalar α] (supply : Supply) (batches : Bool)
    (session : Session α (Memory α)) : List (Session.Action α) → Prop
  | [] => True
  | action :: rest =>
    session.Allows supply batches action ∧
      AllowsAll supply batches (session.perform (Memory.store supply batches) action).2 rest

/-! ### Going back through a history -/

/-- Undoing commands one after the other brings back the records of one document after the other. -/
inductive Rewinds : History α → List (Document α) → Document α → Prop where
  | nothing (document : Document α) : Rewinds [] [] document
  | command {command : Command α} {earlier : History α} {before : Document α}
      {older : List (Document α)} {document : Document α}
      (same : (command.undone document).SameRecords before) (rest : Rewinds earlier older before) :
      Rewinds (command :: earlier) (before :: older) document

namespace Rewinds

variable {history : History α} {snapshots : List (Document α)} {document other : Document α}

theorem length_eq (rewinds : Rewinds history snapshots document) :
    history.length = snapshots.length := by
  induction rewinds with
  | nothing => rfl
  | command _ _ ih => simp [ih]

/-- The order of the document that the way back starts from does not matter. -/
theorem congr (rewinds : Rewinds history snapshots document) (distinct : document.Distinct)
    (same : document.SameRecords other) : Rewinds history snapshots other := by
  cases rewinds with
  | nothing => exact .nothing other
  | command undone rest =>
    exact .command ((Command.undone_congr _ distinct same).symm.trans undone) rest

/-- When the oldest commands are forgotten, the way back is shorter. -/
theorem take (rewinds : Rewinds history snapshots document) (count : Nat) :
    Rewinds (history.take count) (snapshots.take count) document := by
  induction rewinds generalizing count with
  | nothing document => simpa using .nothing document
  | command undone _ ih =>
    cases count with
    | zero => exact .nothing _
    | succ count => exact .command undone (ih count)

end Rewinds

/-! ### The invariant -/

/-- The watched document and all its notes have a property, and the history leads back through the
notes. -/
structure Watch.Tracks (id : DocumentId) (good : Document α → Prop) (watch : Watch α) : Prop where
  now : good (watch.session.store.documentOrEmpty id)
  noted : ∀ before ∈ watch.snapshots, good before
  about : ∀ other, ∀ command ∈ watch.session.commands other, command.document = other
  rewinds : Rewinds (watch.session.commands id) watch.snapshots
    (watch.session.store.documentOrEmpty id)

section

variable [Scalar α] {supply : Supply} {batches : Bool} {id : DocumentId}
  {good : Document α → Prop}

/-- A property of documents that does not depend on their order, and that commands keep, is kept
along with the invariant by every action. -/
theorem Watch.Tracks.step {watch : Watch α} (tracks : watch.Tracks id good)
    (good_distinct : ∀ document, good document → document.Distinct)
    (good_congr : ∀ document other, good document → document.SameRecords other → good other)
    (action : Session.Action α)
    (good_changes : ∀ (command : Command α) (before after : Document α),
      command.restores = action.restores → command.Changes before after → good before → good after)
    (allowed : watch.session.Allows supply batches action) :
    (watch.step (store supply batches) id action).Tracks id good := by
  obtain ⟨session, snapshots⟩ := watch
  obtain ⟨answer, after, performed, turns, steps⟩ :=
    session.perform_steps supply batches action allowed (tracks.about _)
  have filed : session.Filed := tracks.about
  have about := Session.perform_filed (store supply batches) filed action
  rw [performed] at about
  by_cases here : action.document = id
  · subst here
    simp only [Watch.step, performed, if_true]
    cases steps with
    | idle kept same_commands same_store =>
      simp only [kept]
      exact ⟨same_store ▸ tracks.now, tracks.noted, about,
        same_commands ▸ same_store ▸ tracks.rewinds⟩
    | executed pushed commands _ restores changes =>
      simp only [pushed]
      -- Undoing the new command leads to the latest note, and from there the way back is as before;
      -- a history that has grown too long loses its oldest command and the note of it.
      have rewinds := Rewinds.command (changes.undone_same (good_distinct _ tracks.now))
        tracks.rewinds
      refine ⟨good_changes _ _ _ restores changes tracks.now, ?_, about, ?_⟩
      · intro before noted
        rcases List.mem_cons.mp (List.mem_of_mem_take noted) with rfl | noted_earlier
        · exact tracks.now
        · exact tracks.noted before noted_earlier
      · rw [commands]
        exact rewinds.take _
    | undone popped _ held commands document =>
      simp only [popped]
      -- The way back is one command shorter. It starts from the document now and not from the note,
      -- but the two have the same records.
      have rewinds := tracks.rewinds
      rw [held] at rewinds
      cases rewinds with
      | @command _ _ before older _ same rest =>
        have good_before : good before := tracks.noted before List.mem_cons_self
        have same_document : before.SameRecords (after.store.documentOrEmpty action.document) :=
          document ▸ same.symm
        refine ⟨good_congr _ _ good_before same_document, ?_, about, ?_⟩
        · exact fun earlier noted => tracks.noted earlier (List.mem_cons_of_mem _ noted)
        · rw [commands]
          exact rest.congr (good_distinct _ good_before) same_document
  -- Another document is acted on, and nothing that is watched changes.
  · have apart : id ≠ action.document := fun same => here same.symm
    have same_commands := turns.commands id apart
    have same_document : after.store.documentOrEmpty id = session.store.documentOrEmpty id :=
      congrArg (Option.getD · (Document.empty id)) (turns.documents id apart)
    simp only [Watch.step, performed, here, if_false]
    exact ⟨same_document ▸ tracks.now, tracks.noted, about,
      same_commands ▸ same_document ▸ tracks.rewinds⟩

theorem Watch.Tracks.run {watch : Watch α} (tracks : watch.Tracks id good)
    (good_distinct : ∀ document, good document → document.Distinct)
    (good_congr : ∀ document other, good document → document.SameRecords other → good other)
    (actions : List (Session.Action α))
    (good_changes : ∀ action ∈ actions, ∀ (command : Command α) (before after : Document α),
      command.restores = action.restores → command.Changes before after → good before → good after)
    (allowed : watch.session.AllowsAll supply batches actions) :
    (watch.run (store supply batches) id actions).Tracks id good := by
  induction actions generalizing watch with
  | nil => exact tracks
  | cons action rest ih =>
    have stepped := tracks.step good_distinct good_congr action
      (good_changes action List.mem_cons_self) allowed.1
    exact ih stepped (fun other member => good_changes other (List.mem_cons_of_mem _ member))
      allowed.2

omit [Scalar α] in
theorem Watch.Tracks.start {layout : Config α} {depth : Nat} {memory : Memory α}
    (now : good (memory.documentOrEmpty id)) :
    Watch.Tracks id good ⟨.start layout depth memory, []⟩ :=
  ⟨now, fun _ noted => absurd noted List.not_mem_nil,
    fun _ _ held => absurd held List.not_mem_nil, .nothing _⟩

/-- Undo is last-in-first-out and exact. Whatever has been imported, restored and undone since a
session started: when an undo answers a description, it is the description of the latest command of
the history, which is gone now, and the document has the records again that it had just before this
command was executed. -/
theorem Watch.undo_exact (supply : Supply) (batches : Bool) (layout : Config α) (depth : Nat)
    (memory : Memory α) (id : DocumentId) (distinct : (memory.documentOrEmpty id).Distinct)
    (actions : List (Session.Action α))
    (allowed : (Session.start layout depth memory).AllowsAll supply batches actions)
    (description : String)
    (answered : ((Watch.run (store supply batches) id ⟨.start layout depth memory, []⟩
      actions).session.undo (store supply batches) id).1 = .ok (some description)) :
    let watch := Watch.run (store supply batches) id ⟨.start layout depth memory, []⟩ actions
    let undone := (watch.session.undo (store supply batches) id).2
    ∃ command earlier before older,
      watch.session.commands id = command :: earlier ∧ watch.snapshots = before :: older ∧
      earlier.length = older.length ∧
      command.description = description ∧ undone.commands id = earlier ∧
      (undone.store.documentOrEmpty id).SameRecords before := by
  intro watch undone
  have tracks : watch.Tracks id Document.Distinct :=
    (Watch.Tracks.start distinct).run (fun _ held => held) (fun _ _ held same => same.distinct held)
      actions (fun _ _ _ _ _ _ changes held => changes.distinct held) allowed
  obtain ⟨result, after, ran, -, steps⟩ :=
    watch.session.undo_steps supply batches id (tracks.about id)
  have undone_after : undone = after := congrArg Prod.snd ran
  have result_answered : result = .ok (some description) :=
    (congrArg Prod.fst ran).symm.trans answered
  subst result_answered
  rw [undone_after]
  -- Only an undo that pops a command answers a description.
  cases steps with
  | idle kept => cases kept
  | executed pushed => cases pushed
  | @undone latest earlier _ same_answer held commands document =>
    cases same_answer
    have rewinds := tracks.rewinds
    rw [show watch.session.commands id = latest :: earlier from held] at rewinds
    -- The history has a command, so there is a note of the document from before it.
    generalize notes : watch.snapshots = snapshots at rewinds
    cases rewinds with
    | @command _ _ before older _ same rest =>
      refine ⟨latest, earlier, before, older, held, rfl, rest.length_eq, rfl, commands, ?_⟩
      rw [show after.store.documentOrEmpty id = _ from document]
      exact same

/-- A flow chart is imported and replaced, and another import is refused; then the replacement is
undone. -/
theorem Watch.undo_exact_of_update :
    let id : DocumentId := ⟨.numbered 2 0⟩
    let request (source : String) (preview : Option ShapeId) : ImportRequest Rat :=
      ⟨"flow", source, none, none, preview⟩
    let actions : List (Session.Action Rat) :=
      [.importText id (request "bpmn\nstart --> a" none),
        .importText id (request "bpmn\na --> b; b --> c" (some (Supply.numbered.shape 2))),
        .importText id (request "a --> b" none)]
    let watch := Watch.run (store .numbered true) id ⟨.start .default 8 .empty, []⟩ actions
    let undone := (watch.session.undo (store .numbered true) id).2
    ∃ command earlier before older,
      watch.session.commands id = command :: earlier ∧ watch.snapshots = before :: older ∧
      earlier.length = older.length ∧
      command.description = "update flow diagram preview" ∧ undone.commands id = earlier ∧
      (undone.store.documentOrEmpty id).SameRecords before :=
  undo_exact .numbered true .default 8 .empty _ (Document.distinct_empty _)
    [.importText _ ⟨_, _, _, _, _⟩, .importText _ ⟨_, _, _, _, _⟩, .importText _ ⟨_, _, _, _, _⟩]
    ⟨⟨by decide +kernel, nofun⟩, ⟨by decide +kernel, nofun⟩, ⟨by decide +kernel, nofun⟩, trivial⟩
    _ (by decide +kernel)

end

end TextDiagram
