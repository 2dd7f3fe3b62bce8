import TextDiagram.Proofs.Session.Matching
import TextDiagram.Store.Observed

/-!
# Documents that do not interfere

All documents share one store, one list of histories and one supply of ids. Main statement: a call
on a document leaves all other documents and their histories as they are, and its answer and its
effect depend on nothing but that document, its history and the ids that are given out; so every
document fares, up to the names of its entries, as if no other document were there.
-/
namespace TextDiagram

variable {α : Type}

/-! ### Calls on a service -/

/-- A call on a service: what it asks for, and what is to befall the calls to the store that are
made for it. -/
structure ServiceCall (α : Type) where
  action : Session.Action α
  disturbances : List Disturbance

namespace ServiceCall

def document (call : ServiceCall α) : DocumentId :=
  call.action.document

def rename (names : Renaming) (call : ServiceCall α) : ServiceCall α :=
  { call with action := call.action.rename names }

theorem rename_document (names : Renaming) (call : ServiceCall α) :
    (call.rename names).document = call.document :=
  call.action.rename_document names

theorem rename_identity (call : ServiceCall α) : call.rename .identity = call := by
  rw [rename, Session.Action.rename_identity]

end ServiceCall

namespace Session

/-- The session with another store. -/
def withStore {σ τ : Type} (session : Session α σ) (store : τ) : Session α τ :=
  ⟨session.layout, session.undoDepth, session.histories, store⟩

/-- The session with its store put under observation. -/
def observe {σ : Type} (session : Session α σ) (disturbances : List Disturbance) :
    Session α (Observed σ) :=
  session.withStore ⟨[], disturbances, session.store⟩

variable [Scalar α]

/-- Answers a call, with a store in memory of which some calls may fail. -/
def serve (supply : Supply) (batches : Bool) (session : Session α (Memory α))
    (call : ServiceCall α) : Answer × Session α (Memory α) :=
  let (answer, after) := (session.observe call.disturbances).perform
    (Memory.store supply batches).observed call.action
  (answer, after.withStore after.store.inner)

theorem serve_filed (supply : Supply) (batches : Bool) {session : Session α (Memory α)}
    (filed : session.Filed) (call : ServiceCall α) :
    (session.serve supply batches call).2.Filed := by
  have filed_observed : (session.observe call.disturbances).Filed := filed
  exact perform_filed (Memory.store supply batches).observed filed_observed call.action

/-- When no call to the store fails, a service does what the session does. -/
theorem serve_undisturbed (supply : Supply) (batches : Bool) {session : Session α (Memory α)}
    (filed : session.Filed) (action : Action α) :
    let served := session.serve supply batches ⟨action, []⟩
    let performed := session.perform (Memory.store supply batches) action
    served.1 = performed.1 ∧ served.2.store = performed.2.store ∧
      ∀ id, served.2.commands id = performed.2.commands id := by
  intro served performed
  have matched := (Memory.store (α := α) supply batches).observed_quiet action.document
  have linked : Linked Observed.quiet .identity action.document (session.observe []) session :=
    ⟨rfl, rfl, by simp [Session.observe, withStore, commands, history?], rfl, rfl⟩
  rcases perform_linked linked matched action rfl (filed _) with never | ⟨answer, still⟩
  · exact never.elim
  · rw [action.rename_identity] at answer still
    refine ⟨(answer.trans (Answer.rename_identity _)).symm, still.store.2.symm, fun id => ?_⟩
    by_cases here : id = action.document
    · subst here
      have same_commands := still.commands
      rw [Command.rename_identity, List.map_id'] at same_commands
      exact same_commands.symm
    · have kept := perform_history?_of_ne (Memory.store supply batches).observed
        (session.observe []) action here
      have kept_also := perform_history?_of_ne (Memory.store supply batches) session action here
      exact congrArg (Option.getD · []) (kept.trans kept_also.symm)

/-- Answers calls one after the other. Every answer is given with the document of its call. -/
def serveAll (supply : Supply) (batches : Bool) (session : Session α (Memory α)) :
    List (ServiceCall α) → List (DocumentId × Answer) × Session α (Memory α)
  | [] => ([], session)
  | call :: rest =>
    let (answer, between) := session.serve supply batches call
    let (answers, after) := between.serveAll supply batches rest
    ((call.document, answer) :: answers, after)

/-- The sessions that can come about by calls on a service. -/
inductive Reachable (supply : Supply) (batches : Bool) (layout : Config α) (depth : Nat) :
    Session α (Memory α) → Prop where
  | start : Reachable supply batches layout depth (start layout depth .empty)
  | serve {session : Session α (Memory α)} (call : ServiceCall α)
      (reachable : Reachable supply batches layout depth session) :
      Reachable supply batches layout depth (session.serve supply batches call).2

theorem Reachable.filed {supply : Supply} {batches : Bool} {layout : Config α} {depth : Nat}
    {session : Session α (Memory α)}
    (reachable : Reachable supply batches layout depth session) : session.Filed := by
  induction reachable with
  | start => exact fun _ _ held => absurd held List.not_mem_nil
  | serve call _ filed => exact serve_filed supply batches filed call

/-! ### One call -/

/-- Two sessions say the same about a document, up to a renaming. -/
structure Alike (names : Renaming) (id : DocumentId) (session also : Session α (Memory α)) :
    Prop where
  layout : also.layout = session.layout
  undoDepth : also.undoDepth = session.undoDepth
  document : also.store.document? id = (session.store.document? id).map (Document.rename names)
  commands : also.commands id = (session.commands id).map (Command.rename names)

variable {names : Renaming} {id : DocumentId} {supply supply' : Supply} {batches : Bool}
  {session also : Session α (Memory α)}

open Memory (Agree Together)

theorem serve_alike (filed : session.Filed) (alike : Alike names id session also)
    (call : ServiceCall α) (own : call.document = id)
    (agree : Agree names supply supply' session.store also.store
      (session.serve supply batches call).2.store) :
    let served := session.serve supply batches call
    let served' := also.serve supply' batches (call.rename names)
    served'.1 = served.1.rename names ∧ Alike names id served.2 served'.2 ∧
      Together names id session.store also.store served.2.store served'.2.store := by
  intro served served'
  have matched := (Memory.store_matches id batches agree).observed
  have together : Together names id session.store also.store session.store also.store :=
    ⟨alike.document, fun _ _ => rfl, ⟨0, rfl, rfl⟩, ⟨0, rfl, rfl⟩⟩
  have linked : Linked
      (Observed.link (Memory.link names id session.store also.store served.2.store)) names id
      (session.observe call.disturbances) (also.observe call.disturbances) :=
    ⟨alike.layout, alike.undoDepth, alike.commands, rfl, rfl, together⟩
  rcases perform_linked linked matched call.action own (filed id) with
    (far | far) | ⟨answer, still⟩
  -- The run cannot draw more ids than it has drawn in the end.
  · exact absurd far (Nat.lt_irrefl _)
  · exact absurd far (Nat.lt_irrefl _)
  · obtain ⟨layout, undoDepth, commands, -, -, after⟩ := still
    exact ⟨answer, ⟨layout, undoDepth, after.document, commands⟩, after⟩

/-- A call leaves other documents and their histories alone, and ids are only ever given out. -/
theorem serve_others (supply : Supply) (batches : Bool) (filed : session.Filed)
    (call : ServiceCall α) :
    let after := (session.serve supply batches call).2
    (∀ other, other ≠ call.document →
      after.store.document? other = session.store.document? other ∧
        after.history? other = session.history? other) ∧
      session.store.shapesDrawn ≤ after.store.shapesDrawn ∧
      session.store.connectorsDrawn ≤ after.store.connectorsDrawn := by
  intro after
  have alike : Alike .identity call.document session session := ⟨rfl, rfl, by simp, by simp⟩
  have agree : Agree .identity supply supply session.store session.store after.store :=
    ⟨by simp [Supply.shapesBetween], by simp [Supply.connectorsBetween]⟩
  obtain ⟨-, -, together⟩ := serve_alike filed alike call rfl agree
  obtain ⟨drawn, shapes, -⟩ := together.shapes
  obtain ⟨drawn', connectors, -⟩ := together.connectors
  refine ⟨fun other apart => ⟨together.others other apart, ?_⟩, ?_, ?_⟩
  · exact perform_history?_of_ne (Memory.store supply batches).observed
      (session.observe call.disturbances) call.action apart
  · exact shapes ▸ Nat.le_add_right _ _
  · exact connectors ▸ Nat.le_add_right _ _

/-- To a document, calls on other ones make no difference. -/
theorem serve_alike_of_ne (supply : Supply) (batches : Bool) (filed : session.Filed)
    (alike : Alike names id session also) (call : ServiceCall α) (apart : call.document ≠ id) :
    Alike names id (session.serve supply batches call).2 also := by
  obtain ⟨others, -, -⟩ := serve_others supply batches filed call
  obtain ⟨document, history⟩ := others id apart.symm
  obtain ⟨layout, undoDepth⟩ := perform_settings (Memory.store supply batches).observed
    (session.observe call.disturbances) call.action
  constructor
  · exact alike.layout.trans layout.symm
  · exact alike.undoDepth.trans undoDepth.symm
  · rw [document]
    exact alike.document
  · rw [alike.commands, commands, commands, history]

/-! ### Many calls -/

/-- The ids that are given out for the calls on a document. -/
def drawnFor {ι : Type} (give : Nat → ι) (drawn : Memory α → Nat) (supply : Supply)
    (batches : Bool) (id : DocumentId) (session : Session α (Memory α)) :
    List (ServiceCall α) → List ι
  | [] => []
  | call :: rest =>
    let after := (session.serve supply batches call).2
    let others := drawnFor give drawn supply batches id after rest
    if call.document = id then
      Memory.idsFrom give (drawn session.store) (drawn after.store - drawn session.store) ++ others
    else
      others

/-- The answers to the calls on a document. -/
def answersTo (id : DocumentId) (answers : List (DocumentId × Answer)) : List Answer :=
  (answers.filter (·.1 = id)).map Prod.snd

theorem answersTo_cons (id document : DocumentId) (answer : Answer)
    (answers : List (DocumentId × Answer)) :
    answersTo id ((document, answer) :: answers) =
      if document = id then answer :: answersTo id answers else answersTo id answers := by
  by_cases own : document = id <;> simp [answersTo, own]

/-- Each of two runs of ids that are given out one after the other. -/
theorem idsFrom_append_eq {ι : Type} {give : Nat → ι} {rename : ι → ι} {first : Nat}
    {drawn others : List ι}
    (same : (drawn ++ others).map rename = Memory.idsFrom give first (drawn ++ others).length) :
    drawn.map rename = Memory.idsFrom give first drawn.length ∧
      others.map rename = Memory.idsFrom give (first + drawn.length) others.length := by
  rw [List.map_append, List.length_append, ← Memory.idsFrom_append] at same
  exact List.append_inj same (by simp)

/-- The ids that are drawn for the calls on a document are, renamed, those that another session
draws next. -/
structure Draws (names : Renaming) (supply supply' : Supply) (batches : Bool) (id : DocumentId)
    (session also : Session α (Memory α)) (calls : List (ServiceCall α)) : Prop where
  shapes :
    let drawn := drawnFor supply.shape Memory.shapesDrawn supply batches id session calls
    drawn.map names.shape = Memory.idsFrom supply'.shape also.store.shapesDrawn drawn.length
  connectors :
    let drawn := drawnFor supply.connector Memory.connectorsDrawn supply batches id session calls
    drawn.map names.connector =
      Memory.idsFrom supply'.connector also.store.connectorsDrawn drawn.length

theorem serveAll_alike (filed : session.Filed) (alike : Alike names id session also)
    {calls : List (ServiceCall α)}
    (draws : Draws names supply supply' batches id session also calls) :
    let served := session.serveAll supply batches calls
    let alone := also.serveAll supply' batches
      ((calls.filter (·.document = id)).map (ServiceCall.rename names))
    answersTo id alone.1 = (answersTo id served.1).map (Answer.rename names) ∧
      Alike names id served.2 alone.2 := by
  induction calls generalizing session also with
  | nil => exact ⟨rfl, alike⟩
  | cons call rest ih =>
    have filed_after := serve_filed supply batches filed call
    obtain ⟨shapes, connectors⟩ := draws
    by_cases own : call.document = id
    · simp only [drawnFor, own, if_true] at shapes connectors
      obtain ⟨shapes, shapes_later⟩ := idsFrom_append_eq shapes
      obtain ⟨connectors, connectors_later⟩ := idsFrom_append_eq connectors
      rw [Memory.idsFrom_length] at shapes connectors shapes_later connectors_later
      obtain ⟨answer, still, together⟩ :=
        serve_alike filed alike call own ⟨shapes, connectors⟩
      obtain ⟨drawn, shapes_drawn, shapes_drawn'⟩ := together.shapes
      obtain ⟨drawn', connectors_drawn, connectors_drawn'⟩ := together.connectors
      rw [shapes_drawn, Nat.add_sub_cancel_left, ← shapes_drawn'] at shapes_later
      rw [connectors_drawn, Nat.add_sub_cancel_left, ← connectors_drawn'] at connectors_later
      obtain ⟨answers, last⟩ := ih filed_after still ⟨shapes_later, connectors_later⟩
      simp only [List.filter_cons, own, decide_true, if_true, List.map_cons, serveAll,
        answersTo_cons, ServiceCall.rename_document]
      exact ⟨congrArg₂ List.cons answer answers, last⟩
    · simp only [drawnFor, own, if_false] at shapes connectors
      have still := serve_alike_of_ne supply batches filed alike call own
      obtain ⟨answers, last⟩ := ih filed_after still ⟨shapes, connectors⟩
      simp only [List.filter_cons, own, decide_false, Bool.false_eq_true, if_false, serveAll,
        answersTo_cons]
      exact ⟨answers, last⟩

/-! ### Exchanging ids -/

/-- Items can be exchanged for as many other ones, and all the rest kept. -/
theorem exists_perm_map_eq {β : Type} [DecidableEq β] {items others : List β}
    (distinct : items.Nodup) (others_distinct : others.Nodup)
    (same_length : items.length = others.length) :
    ∃ exchange : Equiv.Perm β, items.map exchange = others ∧
      ∀ item, item ∉ items → item ∉ others → exchange item = item := by
  induction items generalizing others with
  | nil =>
    obtain rfl := List.length_eq_zero_iff.mp same_length.symm
    exact ⟨Equiv.refl β, rfl, fun _ _ _ => rfl⟩
  | cons first items ih =>
    obtain _ | ⟨other, others⟩ := others
    · cases same_length
    · obtain ⟨first_new, distinct⟩ := List.nodup_cons.mp distinct
      obtain ⟨other_new, others_distinct⟩ := List.nodup_cons.mp others_distinct
      obtain ⟨exchange, exchanged, kept⟩ :=
        ih distinct others_distinct (Nat.succ.inj same_length)
      -- What the first item has become so far is exchanged for what it is to become.
      refine ⟨exchange.trans (Equiv.swap (exchange first) other), ?_, fun item absent absent' => ?_⟩
      · rw [List.map_cons]
        refine congrArg₂ List.cons (Equiv.swap_apply_left _ _) ?_
        refine Eq.trans (List.map_congr_left fun item member => ?_) exchanged
        refine Equiv.swap_apply_of_ne_of_ne ?_ ?_
        · exact fun same => first_new (exchange.injective same ▸ member)
        · rintro rfl
          exact other_new (exchanged ▸ List.mem_map_of_mem member)
      · simp only [List.mem_cons, not_or] at absent absent'
        rw [Equiv.trans_apply, kept item absent.2 absent'.2]
        refine Equiv.swap_apply_of_ne_of_ne (fun same => absent.1 ?_) absent'.1
        exact exchange.injective ((kept item absent.2 absent'.2).trans same)

section

variable {ι : Type} (give : Nat → ι) (drawn : Memory α → Nat)
  (grows : ∀ (session : Session α (Memory α)), session.Filed → ∀ call,
    drawn session.store ≤ drawn (session.serve supply batches call).2.store)

include grows

theorem serveAll_grows (filed : session.Filed) (calls : List (ServiceCall α)) :
    drawn session.store ≤ drawn (session.serveAll supply batches calls).2.store := by
  induction calls generalizing session with
  | nil => exact Nat.le_refl _
  | cons call rest ih =>
    exact (grows session filed call).trans (ih (serve_filed supply batches filed call))

/-- What is drawn for the calls on a document is a part of what is drawn for all calls. -/
theorem drawnFor_sublist (filed : session.Filed) (id : DocumentId) (calls : List (ServiceCall α)) :
    (drawnFor give drawn supply batches id session calls).Sublist
      (Memory.idsFrom give (drawn session.store)
        (drawn (session.serveAll supply batches calls).2.store - drawn session.store)) := by
  induction calls generalizing session with
  | nil => exact List.nil_sublist _
  | cons call rest ih =>
    have filed_after := serve_filed supply batches filed call
    have now := grows session filed call
    have later := serveAll_grows drawn grows filed_after rest
    have others := ih filed_after
    simp only [drawnFor, serveAll]
    split
    · have parts := Memory.idsFrom_append give (drawn session.store)
        (drawn (session.serve supply batches call).2.store - drawn session.store)
        (drawn ((session.serve supply batches call).2.serveAll supply batches rest).2.store -
          drawn (session.serve supply batches call).2.store)
      rw [Nat.add_sub_of_le now, Nat.add_comm (drawn _ - drawn _), Nat.sub_add_sub_cancel later now]
        at parts
      rw [← parts]
      exact others.append_left _
    · exact others.trans (Memory.idsFrom_sublist give now (Nat.le_refl _))

/-- There is an exchange of ids, among those that are drawn and those that would be drawn elsewhere,
that takes what is drawn for a document to what would be drawn first elsewhere. -/
theorem exists_exchange [DecidableEq ι] (give' : Nat → ι) (filed : session.Filed)
    (id : DocumentId) (calls : List (ServiceCall α)) (start : drawn session.store = 0) :
    let total := drawn (session.serveAll supply batches calls).2.store
    (Memory.idsFrom give 0 total).Nodup → (Memory.idsFrom give' 0 total).Nodup →
    ∃ exchange : Equiv.Perm ι,
      (∀ item, item ∉ Memory.idsFrom give 0 total → item ∉ Memory.idsFrom give' 0 total →
        exchange item = item) ∧
      let own := drawnFor give drawn supply batches id session calls
      own.map exchange = Memory.idsFrom give' 0 own.length := by
  intro total distinct distinct'
  have own := drawnFor_sublist give drawn grows filed id calls
  rw [start, Nat.sub_zero] at own
  have few := own.length_le
  rw [Memory.idsFrom_length] at few
  have firsts := Memory.idsFrom_sublist give' (Nat.le_refl 0) few
  simp only [Nat.sub_zero] at firsts
  obtain ⟨exchange, exchanged, kept⟩ := exists_perm_map_eq (distinct.sublist own)
    (distinct'.sublist firsts) (Memory.idsFrom_length give' 0 _).symm
  exact ⟨exchange, fun item absent absent' => kept item (fun held => absent (own.subset held))
    fun held => absent' (firsts.subset held), exchanged⟩

end

/-! ### Isolation -/

/-- An answer and an effect depend on what is said here of the session, and on nothing else. -/
theorem serve_congr (filed : session.Filed) (call : ServiceCall α)
    (layout : also.layout = session.layout) (undoDepth : also.undoDepth = session.undoDepth)
    (document : also.store.document? call.document = session.store.document? call.document)
    (same_commands : also.commands call.document = session.commands call.document) :
    let served := session.serve supply batches call
    Memory.idsFrom supply'.shape also.store.shapesDrawn
        (served.2.store.shapesDrawn - session.store.shapesDrawn) =
      supply.shapesBetween session.store served.2.store →
    Memory.idsFrom supply'.connector also.store.connectorsDrawn
        (served.2.store.connectorsDrawn - session.store.connectorsDrawn) =
      supply.connectorsBetween session.store served.2.store →
    let served' := also.serve supply' batches call
    served'.1 = served.1 ∧
      served'.2.store.document? call.document = served.2.store.document? call.document ∧
      served'.2.commands call.document = served.2.commands call.document := by
  intro served shapes connectors
  have alike : Alike .identity call.document session also :=
    ⟨layout, undoDepth, by simp [document], by simp [same_commands]⟩
  have agree : Agree .identity supply supply' session.store also.store served.2.store :=
    ⟨by simp [shapes], by simp [connectors]⟩
  obtain ⟨answer, still, -⟩ := serve_alike filed alike call rfl agree
  rw [call.rename_identity] at answer still
  have same_document := still.document
  have commands_after := still.commands
  simp only [Document.rename_identity, Command.rename_identity, Option.map_id', List.map_id']
    at same_document commands_after
  exact ⟨answer.trans served.1.rename_identity, same_document, commands_after⟩

/-- From the start on, the calls on a document alone run as they do among all calls, whatever ids
are given out to them. -/
theorem serveAll_alone (supply supply' : Supply) (batches : Bool) (layout : Config α)
    (depth : Nat) (calls : List (ServiceCall α)) :
    let session : Session α (Memory α) := start layout depth .empty
    let served := session.serveAll supply batches calls
    let shapes := supply.shapesBetween session.store served.2.store
    let connectors := supply.connectorsBetween session.store served.2.store
    let shapes' := supply'.shapesBetween session.store served.2.store
    let connectors' := supply'.connectorsBetween session.store served.2.store
    shapes.Nodup → connectors.Nodup → shapes'.Nodup → connectors'.Nodup →
    ∀ id, ∃ names : Renaming,
      (∀ shape, shape ∉ shapes → shape ∉ shapes' → names.shape shape = shape) ∧
      (∀ connector, connector ∉ connectors → connector ∉ connectors' →
        names.connector connector = connector) ∧
      let alone := session.serveAll supply' batches
        ((calls.filter (·.document = id)).map (ServiceCall.rename names))
      answersTo id alone.1 = (answersTo id served.1).map (Answer.rename names) ∧
        Alike names id served.2 alone.2 := by
  intro session served shapes connectors shapes' connectors' shapes_distinct connectors_distinct
    shapes_distinct' connectors_distinct' id
  have filed : session.Filed :=
    (Reachable.start : Reachable supply batches layout depth session).filed
  obtain ⟨shape, other_shapes, shapes_first⟩ := exists_exchange supply.shape Memory.shapesDrawn
    (fun _ filed call => (serve_others supply batches filed call).2.1) supply'.shape filed id calls
    rfl shapes_distinct shapes_distinct'
  obtain ⟨connector, other_connectors, connectors_first⟩ := exists_exchange supply.connector
    Memory.connectorsDrawn (fun _ filed call => (serve_others supply batches filed call).2.2)
    supply'.connector filed id calls rfl connectors_distinct connectors_distinct'
  have alike : Alike ⟨shape, connector⟩ id session session := ⟨rfl, rfl, rfl, rfl⟩
  refine ⟨⟨shape, connector⟩, other_shapes, other_connectors, ?_⟩
  exact serveAll_alike filed alike ⟨shapes_first, connectors_first⟩

/-- Documents do not interfere, whatever calls are made and whichever calls to the store fail. A
call on a document leaves all other documents and their histories as they are. What it answers, and
what it makes of its document and of the history of it, is the same in every session with the same
settings that has the same under the document, and whose store gives out the same ids next. So for
each document the ids that are drawn in a run can be exchanged in such a way that the calls on it
alone are answered as they have been, and leave its entries and its commands as they have been left.
The run of these calls alone may draw any other ids, as long as neither run draws one twice. The
calls may name any ids: those that they have been told go along, those of other documents stay
apart, and those that are not drawn stay as they are. -/
theorem serve_isolated (supply : Supply) (batches : Bool) (layout : Config α) (depth : Nat) :
    (∀ session, Reachable supply batches layout depth session → ∀ call : ServiceCall α,
      let id := call.document
      let served := session.serve supply batches call
      (∀ other, other ≠ id →
        served.2.store.document? other = session.store.document? other ∧
          served.2.history? other = session.history? other) ∧
      ∀ (supply' : Supply) (session' : Session α (Memory α)),
        session'.layout = session.layout → session'.undoDepth = session.undoDepth →
        session'.store.document? id = session.store.document? id →
        session'.commands id = session.commands id →
        Memory.idsFrom supply'.shape session'.store.shapesDrawn
            (served.2.store.shapesDrawn - session.store.shapesDrawn) =
          supply.shapesBetween session.store served.2.store →
        Memory.idsFrom supply'.connector session'.store.connectorsDrawn
            (served.2.store.connectorsDrawn - session.store.connectorsDrawn) =
          supply.connectorsBetween session.store served.2.store →
        let served' := session'.serve supply' batches call
        served'.1 = served.1 ∧
          served'.2.store.document? id = served.2.store.document? id ∧
          served'.2.commands id = served.2.commands id) ∧
    ∀ (calls : List (ServiceCall α)) (supply' : Supply),
      let session : Session α (Memory α) := start layout depth .empty
      let served := session.serveAll supply batches calls
      let shapes := supply.shapesBetween session.store served.2.store
      let connectors := supply.connectorsBetween session.store served.2.store
      let shapes' := supply'.shapesBetween session.store served.2.store
      let connectors' := supply'.connectorsBetween session.store served.2.store
      shapes.Nodup → connectors.Nodup → shapes'.Nodup → connectors'.Nodup →
      ∀ id, ∃ names : Renaming,
        (∀ shape, shape ∉ shapes → shape ∉ shapes' → names.shape shape = shape) ∧
        (∀ connector, connector ∉ connectors → connector ∉ connectors' →
          names.connector connector = connector) ∧
        let alone := session.serveAll supply' batches
          ((calls.filter (·.document = id)).map (ServiceCall.rename names))
        answersTo id alone.1 = (answersTo id served.1).map (Answer.rename names) ∧
          alone.2.store.document? id =
            (served.2.store.document? id).map (Document.rename names) ∧
          alone.2.commands id = (served.2.commands id).map (Command.rename names) := by
  refine ⟨fun session reachable call => ⟨?_, ?_⟩, fun calls supply' => ?_⟩
  · exact (serve_others supply batches reachable.filed call).1
  · intro supply' session' layout undoDepth document commands shapes connectors
    exact serve_congr reachable.filed call layout undoDepth document commands shapes connectors
  · intro session served shapes connectors shapes' connectors' shapes_distinct connectors_distinct
      shapes_distinct' connectors_distinct' id
    obtain ⟨names, other_shapes, other_connectors, answers, alike⟩ :=
      serveAll_alone supply supply' batches layout depth calls shapes_distinct connectors_distinct
        shapes_distinct' connectors_distinct' id
    exact ⟨names, other_shapes, other_connectors, answers, alike.document, alike.commands⟩

/-- Two flow charts are imported into two documents, and the second import fails half-way; then the
first one is undone. The second document fares as it does on its own. -/
theorem serve_isolated_of_two_imports :
    let first : DocumentId := ⟨.numbered 2 0⟩
    let second : DocumentId := ⟨.numbered 2 1⟩
    let shown : ServiceCall Rat :=
      ⟨.importText first ⟨"flow", "bpmn\na --> b", none, none, none⟩, []⟩
    let failing : ServiceCall Rat :=
      ⟨.importText second ⟨"flow", "bpmn\nc --> d", none, none, none⟩,
        [⟨.addConnectors, 1, .hollow⟩]⟩
    let start : Session Rat (Memory Rat) := start .default 8 .empty
    let session := (start.serve .numbered true shown).2
    let served := session.serve .numbered true failing
    let later : Supply :=
      ⟨fun number => Supply.numbered.shape (3 + number),
        fun number => Supply.numbered.connector (1 + number)⟩
    served.2.history? first = session.history? first ∧
      (start.serve later true failing).1 = served.1 ∧
      ∃ names : Renaming,
        answersTo second (start.serveAll later true [failing.rename names]).1 =
          (answersTo second
            (start.serveAll .numbered true [shown, failing, ⟨.undo first, []⟩]).1).map
            (Answer.rename names) := by
  intro first second shown failing start session served later
  have reachable : Reachable .numbered true .default 8 session := .serve shown .start
  obtain ⟨isolated, alone⟩ := serve_isolated (α := Rat) .numbered true .default 8
  obtain ⟨others, depends⟩ := isolated session reachable failing
  -- The first call has left the second document without entries and without a history.
  have untouched := (serve_others .numbered true
    (Reachable.start : Reachable .numbered true .default 8 start).filed shown).1 second (by decide)
  obtain ⟨layout, undoDepth⟩ := perform_settings (Memory.store .numbered true).observed
    (start.observe []) shown.action
  have answer := (depends later start layout.symm undoDepth.symm untouched.1.symm
    (congrArg (Option.getD · []) untouched.2.symm) (by decide +kernel) (by decide +kernel)).1
  obtain ⟨names, -, -, answers, -⟩ := alone [shown, failing, ⟨.undo first, []⟩] later
    (by decide +kernel) (by decide +kernel) (by decide +kernel) (by decide +kernel) second
  exact ⟨(others first (by decide)).2, answer, names, answers⟩

end Session

end TextDiagram
