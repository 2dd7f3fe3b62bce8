import TextDiagram.Proofs.Command.Renaming
import TextDiagram.Proofs.Store.Failing

/-!
# Two runs on two stores

Two runs of calls are compared step by step: the states that they start from are linked, and each
call takes linked states to linked states and gives the same answer, up to an exchange of ids. The
comparison is given up for good once the first run has gone too far. Main statements: runs that are
put together of matching calls match; and calls on one document match on two stores in memory that
hold the same document, as far as both give out the same ids, whether or not they are observed.
-/
namespace TextDiagram

variable {α σ τ β γ δ ε : Type}

/-- How the states of two runs are compared. -/
structure Link (σ τ : Type) where
  /-- The first run has gone too far. -/
  apart : σ → Prop
  linked : σ → τ → Prop

namespace Link

variable (link : Link σ τ)

/-- The other run answers what the first one answers, changed in some way, and both take linked
states to linked ones, unless the first one goes too far. From there it never comes back. -/
structure Runs (change : β → γ) (run : StateM σ β) (other : StateM τ γ) : Prop where
  stays : ∀ before, link.apart before → link.apart (run.run before).2
  agrees : ∀ before also, link.linked before also →
    link.apart (run.run before).2 ∨
      (other.run also).1 = change (run.run before).1 ∧
        link.linked (run.run before).2 (other.run also).2

/-- The same of two calls, which fail together and with the same error. -/
def Calls (change : β → γ) (call : StoreCall σ β) (other : StoreCall τ γ) : Prop :=
  link.Runs (Except.map change) call.run other.run

variable {link} {change : β → γ} {change' : δ → ε}

namespace Runs

theorem pure {answer : β} {also : γ} (same : also = change answer) :
    link.Runs change (Pure.pure answer) (Pure.pure also) where
  stays _ apart := apart
  agrees _ _ linked := .inr ⟨same, linked⟩

theorem bind {run : StateM σ β} {other : StateM τ γ} {next : β → StateM σ δ}
    {next' : γ → StateM τ ε} (first : link.Runs change run other)
    (continued : ∀ answer, link.Runs change' (next answer) (next' (change answer))) :
    link.Runs change' (run >>= next) (other >>= next') where
  stays before apart := (continued (run.run before).1).stays _ (first.stays before apart)
  agrees before also linked := by
    rcases first.agrees before also linked with apart | ⟨answer, still⟩
    · exact .inl ((continued (run.run before).1).stays _ apart)
    · have second := (continued (run.run before).1).agrees _ _ still
      rw [← answer] at second
      exact second

end Runs

namespace Calls

theorem pure {answer : β} {also : γ} (same : also = change answer) :
    link.Calls change (Pure.pure answer) (Pure.pure also) where
  stays _ apart := apart
  agrees _ _ linked := .inr ⟨congrArg Except.ok same, linked⟩

theorem throw (error : StoreError) :
    link.Calls change (MonadExcept.throw error) (MonadExcept.throw error) where
  stays _ apart := apart
  agrees _ _ linked := .inr ⟨rfl, linked⟩

theorem bind {call : StoreCall σ β} {other : StoreCall τ γ} {next : β → StoreCall σ δ}
    {next' : γ → StoreCall τ ε} (first : link.Calls change call other)
    (continued : ∀ answer, link.Calls change' (next answer) (next' (change answer))) :
    link.Calls change' (call >>= next) (other >>= next') := by
  unfold Calls
  rw [ExceptT.run_bind, ExceptT.run_bind]
  refine Runs.bind first fun result => ?_
  cases result with
  | error error => exact throw error
  | ok answer => exact continued answer

end Calls

end Link

/-! ### Stores -/

/-- Every operation on a document matches the operation of another store. -/
structure DocumentStore.Matches (link : Link σ τ) (names : Renaming) (id : DocumentId)
    (store : DocumentStore α σ) (other : DocumentStore α τ) : Prop where
  batches : store.batches = other.batches
  document? : link.Calls (Option.map (Document.rename names)) (store.document? id)
    (other.document? id)
  addShape : ∀ draft, link.Calls (Document.rename names) (store.addShape id draft)
    (other.addShape id (draft.rename names))
  updateShape : ∀ shape patch, link.Calls (Option.map (Document.rename names))
    (store.updateShape id shape patch)
    (other.updateShape id (names.shape shape) (patch.rename names))
  deleteShape : ∀ shape, link.Calls (Option.map (Document.rename names))
    (store.deleteShape id shape) (other.deleteShape id (names.shape shape))
  shape? : ∀ shape, link.Calls (Option.map (Shape.rename names)) (store.shape? id shape)
    (other.shape? id (names.shape shape))
  restoreShapes : ∀ shapes, link.Calls (Document.rename names) (store.restoreShapes id shapes)
    (other.restoreShapes id (shapes.map (Shape.rename names)))
  addConnector : ∀ draft, link.Calls (Document.rename names) (store.addConnector id draft)
    (other.addConnector id (draft.rename names))
  deleteConnector : ∀ connector, link.Calls (Option.map (Document.rename names))
    (store.deleteConnector id connector) (other.deleteConnector id (names.connector connector))
  restoreConnectors : ∀ connectors, link.Calls (Document.rename names)
    (store.restoreConnectors id connectors)
    (other.restoreConnectors id (connectors.map (Connector.rename names)))
  addShapes : ∀ drafts, link.Calls (Document.rename names) (store.addShapes id drafts)
    (other.addShapes id (drafts.map (ShapeDraft.rename names)))
  deleteShapes : ∀ shapes, link.Calls (Option.map (Document.rename names))
    (store.deleteShapes id shapes) (other.deleteShapes id (shapes.map names.shape))
  addConnectors : ∀ drafts, link.Calls (Document.rename names) (store.addConnectors id drafts)
    (other.addConnectors id (drafts.map (ConnectorDraft.rename names)))
  deleteConnectors : ∀ connectors, link.Calls (Option.map (Document.rename names))
    (store.deleteConnectors id connectors)
    (other.deleteConnectors id (connectors.map names.connector))

/-! ### Observed stores -/

namespace Observed

/-- The same calls have been made, and the same is to befall those to come. -/
def link (behind : Link σ τ) : Link (Observed σ) (Observed τ) where
  apart observed := behind.apart observed.inner
  linked observed also :=
    also.calls = observed.calls ∧ also.disturbances = observed.disturbances ∧
      behind.linked observed.inner also.inner

variable {behind : Link σ τ} {names : Renaming} {change : β → γ}

theorem log_calls (call : Call) : (link behind).Calls id (log call) (log call) where
  stays _ apart := apart
  agrees before also := by
    obtain ⟨calls, disturbances, inner⟩ := before
    obtain ⟨_, _, also⟩ := also
    rintro ⟨rfl, rfl, linked⟩
    exact .inr ⟨rfl, rfl, rfl, linked⟩

theorem pass_calls {action : StoreCall σ β} {other : StoreCall τ γ}
    (acts : behind.Calls change action other) :
    (link behind).Calls change (pass action) (pass other) where
  stays before apart := by
    rw [pass_run]
    exact acts.stays before.inner apart
  agrees before also := by
    rintro ⟨calls, disturbances, linked⟩
    simp only [pass_run]
    rcases acts.agrees before.inner also.inner linked with apart | ⟨answer, still⟩
    · exact .inl apart
    · exact .inr ⟨answer, calls, disturbances, still⟩

theorem creating_calls {action : StoreCall σ (Document α)} {other : StoreCall τ (Document α)}
    (acts : behind.Calls (Document.rename names) action other) (id : DocumentId) (call : Call) :
    (link behind).Calls (Document.rename names) (creating id call action)
      (creating id call other) := by
  refine (log_calls call).bind fun effect => ?_
  match effect with
  | some (.fail error) => exact .throw error
  | some .loseDocument => exact .throw (.documentNotFound id)
  | some .hollow => exact (pass_calls acts).bind fun _ => .pure rfl
  | some .nothing | none => exact pass_calls acts

theorem finding_calls {action : StoreCall σ (Option β)} {other : StoreCall τ (Option γ)}
    (acts : behind.Calls (Option.map change) action other) (id : DocumentId) (call : Call) :
    (link behind).Calls (Option.map change) (finding id call action) (finding id call other) := by
  refine (log_calls call).bind fun effect => ?_
  match effect with
  | some (.fail error) => exact .throw error
  | some .loseDocument => exact .throw (.documentNotFound id)
  | some .nothing => exact .pure rfl
  | some .hollow | none => exact pass_calls acts

end Observed

theorem DocumentStore.Matches.observed {link : Link σ τ} {names : Renaming} {id : DocumentId}
    {store : DocumentStore α σ} {other : DocumentStore α τ}
    (matched : store.Matches link names id other) :
    store.observed.Matches (Observed.link link) names id other.observed where
  batches := matched.batches
  document? := Observed.finding_calls matched.document? id _
  addShape draft := Observed.creating_calls (matched.addShape draft) id _
  updateShape shape patch := Observed.finding_calls (matched.updateShape shape patch) id _
  deleteShape shape := Observed.finding_calls (matched.deleteShape shape) id _
  shape? shape := Observed.finding_calls (matched.shape? shape) id _
  restoreShapes shapes := by
    simpa only [DocumentStore.observed, List.length_map] using
      Observed.creating_calls (matched.restoreShapes shapes) id ⟨.restoreShapes, shapes.length⟩
  addConnector draft := Observed.creating_calls (matched.addConnector draft) id _
  deleteConnector connector := Observed.finding_calls (matched.deleteConnector connector) id _
  restoreConnectors connectors := by
    simpa only [DocumentStore.observed, List.length_map] using
      Observed.creating_calls (matched.restoreConnectors connectors) id
        ⟨.restoreConnectors, connectors.length⟩
  addShapes drafts := by
    simpa only [DocumentStore.observed, List.length_map] using
      Observed.creating_calls (matched.addShapes drafts) id ⟨.addShapes, drafts.length⟩
  deleteShapes shapes := by
    simpa only [DocumentStore.observed, List.length_map] using
      Observed.finding_calls (matched.deleteShapes shapes) id ⟨.deleteShapes, shapes.length⟩
  addConnectors drafts := by
    simpa only [DocumentStore.observed, List.length_map] using
      Observed.creating_calls (matched.addConnectors drafts) id ⟨.addConnectors, drafts.length⟩
  deleteConnectors connectors := by
    simpa only [DocumentStore.observed, List.length_map] using
      Observed.finding_calls (matched.deleteConnectors connectors) id
        ⟨.deleteConnectors, connectors.length⟩

/-! ### Observation without disturbance -/

namespace Observed

/-- Nothing is to befall the calls to an observed store, and the other state is the one behind. -/
def quiet : Link (Observed σ) σ where
  apart _ := False
  linked observed state := observed.disturbances = [] ∧ state = observed.inner

theorem quiet_pass (action : StoreCall σ β) {change : β → β}
    (unchanged : ∀ answer, change answer = answer) : quiet.Calls change (pass action) action where
  stays _ := False.elim
  agrees observed state := by
    rintro ⟨undisturbed, rfl⟩
    rw [pass_run]
    refine .inr ⟨?_, undisturbed, rfl⟩
    cases (action.run.run observed.inner).1 with
    | error error => rfl
    | ok answer => exact congrArg Except.ok (unchanged answer).symm

theorem quiet_creating (id : DocumentId) (call : Call) (action : StoreCall σ (Document α)) :
    quiet.Calls (Document.rename .identity) (creating id call action) action where
  stays _ := False.elim
  agrees observed state := by
    obtain ⟨calls, disturbances, inner⟩ := observed
    rintro ⟨rfl, rfl⟩
    exact (quiet_pass action (congrFun Document.rename_identity)).agrees ⟨calls ++ [call], [], _⟩ _
      ⟨rfl, rfl⟩

theorem quiet_finding {change : β → β} (unchanged : change = fun answer => answer)
    (id : DocumentId) (call : Call) (action : StoreCall σ (Option β)) :
    quiet.Calls (Option.map change) (finding id call action) action where
  stays _ := False.elim
  agrees observed state := by
    obtain ⟨calls, disturbances, inner⟩ := observed
    rintro ⟨rfl, rfl⟩
    have same (answer : Option β) : answer.map change = answer := by simp [unchanged]
    exact (quiet_pass action same).agrees ⟨calls ++ [call], [], _⟩ _ ⟨rfl, rfl⟩

end Observed

/-- A store under observation that nothing befalls does what the store does. -/
theorem DocumentStore.observed_quiet (store : DocumentStore α σ) (id : DocumentId) :
    store.observed.Matches Observed.quiet .identity id store where
  batches := rfl
  document? := Observed.quiet_finding Document.rename_identity id _ _
  addShape draft := by
    rw [ShapeDraft.rename_identity]
    exact Observed.quiet_creating id _ _
  updateShape shape patch := by
    rw [ShapePatch.rename_identity]
    exact Observed.quiet_finding Document.rename_identity id _ _
  deleteShape shape := Observed.quiet_finding Document.rename_identity id _ _
  shape? shape := Observed.quiet_finding Shape.rename_identity id _ _
  restoreShapes shapes := by
    rw [Shape.rename_identity, List.map_id']
    exact Observed.quiet_creating id _ _
  addConnector draft := Observed.quiet_creating id _ _
  deleteConnector connector := Observed.quiet_finding Document.rename_identity id _ _
  restoreConnectors connectors := by
    rw [Connector.rename_identity, List.map_id']
    exact Observed.quiet_creating id _ _
  addShapes drafts := by
    rw [ShapeDraft.rename_identity, List.map_id']
    exact Observed.quiet_creating id _ _
  deleteShapes shapes := by
    rw [Renaming.coe_identity_shape, List.map_id]
    exact Observed.quiet_finding Document.rename_identity id _ _
  addConnectors drafts := by
    rw [ConnectorDraft.rename_identity, List.map_id']
    exact Observed.quiet_creating id _ _
  deleteConnectors connectors := by
    rw [Renaming.coe_identity_connector, List.map_id]
    exact Observed.quiet_finding Document.rename_identity id _ _

/-! ### Stores in memory -/

namespace Memory

/-- Two stores in memory since the start of two runs on a document: they hold the same document, up
to a renaming, both runs have drawn equally many ids, and no other document has changed. -/
structure Together (names : Renaming) (id : DocumentId) (start start' memory also : Memory α) :
    Prop where
  document : also.document? id = (memory.document? id).map (Document.rename names)
  others : ∀ other, other ≠ id → memory.document? other = start.document? other
  shapes : ∃ drawn, memory.shapesDrawn = start.shapesDrawn + drawn ∧
    also.shapesDrawn = start'.shapesDrawn + drawn
  connectors : ∃ drawn, memory.connectorsDrawn = start.connectorsDrawn + drawn ∧
    also.connectorsDrawn = start'.connectorsDrawn + drawn

/-- Two runs on a document are compared as long as the first one draws no ids beyond those that it
has drawn in the end. -/
def link (names : Renaming) (id : DocumentId) (start start' stop : Memory α) :
    Link (Memory α) (Memory α) where
  apart memory :=
    stop.shapesDrawn < memory.shapesDrawn ∨ stop.connectorsDrawn < memory.connectorsDrawn
  linked := Together names id start start'

/-- The ids that the first run draws are, renamed, those that the other one draws next. -/
structure Agree (names : Renaming) (supply supply' : Supply) (start start' stop : Memory α) :
    Prop where
  shapes : (supply.shapesBetween start stop).map names.shape =
    idsFrom supply'.shape start'.shapesDrawn (stop.shapesDrawn - start.shapesDrawn)
  connectors : (supply.connectorsBetween start stop).map names.connector =
    idsFrom supply'.connector start'.connectorsDrawn (stop.connectorsDrawn - start.connectorsDrawn)

/-- What is given out next is numbered on from what has been given out since the start. -/
theorem next_agrees {ι : Type} {give give' : Nat → ι} {rename : ι → ι}
    {start start' stop now now' count : Nat}
    (same : (idsFrom give start (stop - start)).map rename =
      idsFrom give' start' (stop - start))
    (together : ∃ drawn, now = start + drawn ∧ now' = start' + drawn)
    (near : now + count ≤ stop) {more : Nat} (few : more < count) :
    give' (now' + more) = rename (give (now + more)) := by
  obtain ⟨drawn, rfl, rfl⟩ := together
  -- The next id is among those that are given out up to the end, and these are known to agree.
  have within : drawn + more < stop - start := by omega
  have same_item := congrArg (·[drawn + more]?) same
  simpa [idsFrom, within, Nat.add_assoc] using same_item.symm

variable {names : Renaming} {id : DocumentId} {start start' stop : Memory α}

theorem Together.documentOrEmpty {memory also : Memory α}
    (together : Together names id start start' memory also) :
    also.documentOrEmpty id = (memory.documentOrEmpty id).rename names := by
  unfold Memory.documentOrEmpty
  rw [together.document]
  cases memory.document? id <;> rfl

theorem Together.keep {memory also : Memory α}
    (together : Together names id start start' memory also) {document : Document α}
    (about : document.id = id) :
    Together names id start start' (memory.keep document) (also.keep (document.rename names)) where
  document := by
    subst about
    rw [document?_keep]
    exact document?_keep also (document.rename names)
  others other apart := by
    subst about
    rw [document?_keep_of_ne memory document apart]
    exact together.others other apart
  shapes := together.shapes
  connectors := together.connectors

theorem write_calls (change change' : Document α → Document α)
    (same_id : ∀ document, (change document).id = document.id)
    (agrees : ∀ document, change' (document.rename names) = (change document).rename names) :
    (link names id start start' stop).Calls (Document.rename names) (write id change)
      (write id change') where
  stays _ apart := apart
  agrees memory also together := by
    have changed : change' (also.documentOrEmpty id) =
        (change (memory.documentOrEmpty id)).rename names := by
      rw [together.documentOrEmpty, agrees]
    refine .inr ⟨congrArg Except.ok changed, ?_⟩
    have kept := together.keep ((same_id _).trans (memory.documentOrEmpty_id id))
    rw [← changed] at kept
    exact kept

section

variable {memory : Memory α} {change : Document α → Option (Document α)}

theorem change?_none (nothing : (memory.document? id).bind change = none) :
    (change? id change).Yields memory none memory := by
  refine .get_bind ?_
  simp only [nothing]
  rfl

theorem change?_some {document : Document α}
    (changed : (memory.document? id).bind change = some document) :
    (change? id change).Yields memory (some document) (memory.keep document) := by
  refine .get_bind ?_
  simp only [changed]
  rfl

end

theorem change?_calls {change change' : Document α → Option (Document α)}
    (same_id : ∀ document changed, change document = some changed → changed.id = document.id)
    (agrees : ∀ document, change' (document.rename names) =
      (change document).map (Document.rename names)) :
    (link names id start start' stop).Calls (Option.map (Document.rename names))
      (change? id change) (change? id change') where
  stays memory apart := by
    cases found : (memory.document? id).bind change with
    | none =>
      rw [change?_none found]
      exact apart
    | some document =>
      rw [change?_some found]
      exact apart
  agrees memory also together := by
    have same : (also.document? id).bind change' =
        ((memory.document? id).bind change).map (Document.rename names) := by
      rw [together.document]
      cases memory.document? id with
      | none => rfl
      | some document => exact agrees document
    cases found : (memory.document? id).bind change with
    | none =>
      rw [found] at same
      rw [change?_none found, change?_none same]
      exact .inr ⟨rfl, together⟩
    | some document =>
      rw [found] at same
      rw [change?_some found, change?_some same]
      obtain ⟨held, present, made⟩ := Option.bind_eq_some_iff.mp found
      have held_id : held.id = id := by simpa using List.find?_some present
      exact .inr ⟨rfl, together.keep ((same_id held document made).trans held_id)⟩

theorem withIds_map {δ ι β : Type} {give : δ → ι → β} {supply supply' : Nat → ι} {draft : δ → δ}
    {rename : ι → ι} {move : β → β}
    (gives : ∀ item id, give (draft item) (rename id) = move (give item id)) {first first' : Nat}
    {drafts : List δ}
    (agree : ∀ drawn < drafts.length, supply' (first' + drawn) = rename (supply (first + drawn))) :
    withIds give supply' first' (drafts.map draft) =
      (withIds give supply first drafts).map move := by
  induction drafts generalizing first first' with
  | nil => rfl
  | cons item rest ih =>
    have here : supply' first' = rename (supply first) := agree 0 (Nat.zero_lt_succ _)
    have agree_rest : ∀ drawn < rest.length,
        supply' (first' + 1 + drawn) = rename (supply (first + 1 + drawn)) := by
      intro drawn few
      simpa only [Nat.add_assoc, Nat.add_comm 1] using agree (drawn + 1) (Nat.succ_lt_succ few)
    have others := ih agree_rest
    simp only [List.map_cons, withIds, here, gives, others]

theorem Together.drawn {memory also : Memory α}
    (together : Together names id start start' memory also) (shapes connectors : Nat) :
    Together names id start start' (memory.drawn shapes connectors)
      (also.drawn shapes connectors) := by
  obtain ⟨shapes_drawn, now_shapes, also_shapes⟩ := together.shapes
  obtain ⟨connectors_drawn, now_connectors, also_connectors⟩ := together.connectors
  exact {
    document := together.document
    others := together.others
    shapes := ⟨shapes_drawn + shapes, by simp [Memory.drawn, now_shapes, Nat.add_assoc],
      by simp [Memory.drawn, also_shapes, Nat.add_assoc]⟩
    connectors := ⟨connectors_drawn + connectors,
      by simp [Memory.drawn, now_connectors, Nat.add_assoc],
      by simp [Memory.drawn, also_connectors, Nat.add_assoc]⟩ }

/-! ### Calls on a kind of entries -/

section

variable {κ ι : Type}

/-- Creations match as far as both stores give out the same ids for the kind, when the first run has
gone too far as soon as it draws more ids for the kind than it has drawn in the end. -/
theorem Series.add_calls {series : Series α κ δ ι} (renamed : series.Renamed names)
    {draft : δ → δ} {supply supply' : Supply}
    (gives : ∀ item key,
      series.withId (draft item) (renamed.name key) = renamed.entry (series.withId item key))
    (far_apart : ∀ memory : Memory α, series.given stop < series.given memory →
      (link names id start start' stop).apart memory)
    (agree : ∀ memory also count, Together names id start start' memory also →
      series.given memory + count ≤ series.given stop → ∀ more < count,
        series.give supply' (series.given also + more) =
          renamed.name (series.give supply (series.given memory + more)))
    (drafts : List δ) :
    (link names id start start' stop).Calls (Document.rename names) (series.add supply id drafts)
      (series.add supply' id (drafts.map draft)) where
  stays _ apart := apart.imp (Nat.lt_add_right _) (Nat.lt_add_right _)
  agrees memory also together := by
    let drawn := memory.drawn (series.shapes drafts.length) (series.connectors drafts.length)
    rcases Nat.lt_or_ge (series.given stop) (series.given memory + drafts.length) with far | near
    · rw [← series.given_drawn] at far
      exact .inl (far_apart drawn far)
    · let made := withIds series.withId (series.give supply) (series.given memory) drafts
      let made' := withIds series.withId (series.give supply') (series.given also)
        (drafts.map draft)
      have same_made : made' = made.map renamed.entry :=
        withIds_map gives (agree memory also drafts.length together near)
      have written : (link names id start start' stop).Calls (Document.rename names)
          (write id (series.append · made)) (write id (series.append · made')) :=
        write_calls _ _ (fun document => series.append_id document made)
          fun document => by rw [same_made, renamed.append]
      have drawn_together : Together names id start start' drawn
          (also.drawn (series.shapes (drafts.map draft).length)
            (series.connectors (drafts.map draft).length)) := by
        rw [List.length_map]
        exact together.drawn _ _
      exact written.agrees _ _ drawn_together

variable [DecidableEq ι] {kind : EntryKind α κ ι}

theorem delete_calls (renamed : kind.Renamed names) (keys : List ι) :
    (link names id start start' stop).Calls (Option.map (Document.rename names))
      (kind.delete id keys) (kind.delete id (keys.map renamed.name)) :=
  change?_calls (fun _ _ => kind.erased?_id) fun document => renamed.erased? document keys

theorem restore_calls (renamed : kind.Renamed names) (items : List κ) :
    (link names id start start' stop).Calls (Document.rename names)
      (write id (kind.restore · items))
      (write id (kind.restore · (items.map renamed.entry))) :=
  write_calls _ _ (fun document => kind.restore_id document items)
    fun document => (renamed.restore document items).symm

end

/-! ### The calls one by one -/

section

variable {supply supply' : Supply} (agree : Agree names supply supply' start start' stop)

include agree

theorem addShapes_calls (drafts : List (ShapeDraft α)) :
    (link names id start start' stop).Calls (Document.rename names) (addShapes supply id drafts)
      (addShapes supply' id (drafts.map (ShapeDraft.rename names))) :=
  shapeSeries.add_calls names.shapes (ShapeDraft.rename_withId names) (fun _ => .inl)
    (fun _ _ _ together near _ => next_agrees agree.shapes together.shapes near) drafts

theorem addConnectors_calls (drafts : List ConnectorDraft) :
    (link names id start start' stop).Calls (Document.rename (α := α) names)
      (addConnectors supply id drafts)
      (addConnectors supply' id (drafts.map (ConnectorDraft.rename names))) :=
  connectorSeries.add_calls names.connectors (ConnectorDraft.rename_withId names) (fun _ => .inr)
    (fun _ _ _ together near _ => next_agrees agree.connectors together.connectors near) drafts

end

theorem deleteShapes_calls (ids : List ShapeId) :
    (link names id start start' stop).Calls (Option.map (Document.rename (α := α) names))
      (deleteShapes id ids) (deleteShapes id (ids.map names.shape)) :=
  delete_calls names.shapes ids

theorem deleteConnectors_calls (ids : List ConnectorId) :
    (link names id start start' stop).Calls (Option.map (Document.rename (α := α) names))
      (deleteConnectors id ids) (deleteConnectors id (ids.map names.connector)) :=
  delete_calls names.connectors ids

theorem document?_calls (supply supply' : Supply) (batches : Bool) :
    (link names id start start' stop).Calls (Option.map (Document.rename (α := α) names))
      ((store supply batches).document? id) ((store supply' batches).document? id) where
  stays _ apart := apart
  agrees _ _ together := .inr ⟨congrArg Except.ok together.document, together⟩

theorem shape?_calls (supply supply' : Supply) (batches : Bool) (shape : ShapeId) :
    (link names id start start' stop).Calls (Option.map (Shape.rename (α := α) names))
      ((store supply batches).shape? id shape)
      ((store supply' batches).shape? id (names.shape shape)) where
  stays _ apart := apart
  agrees memory also together := by
    refine .inr ⟨congrArg Except.ok ?_, together⟩
    rw [together.document]
    cases memory.document? id with
    | none => rfl
    | some document => exact document.rename_shape? names shape

theorem updateShape_calls (shape : ShapeId) (patch : ShapePatch) :
    (link names id start start' stop).Calls (Option.map (Document.rename (α := α) names))
      (change? id (·.patchShape? shape patch))
      (change? id (·.patchShape? (names.shape shape) (patch.rename names))) := by
  refine change?_calls ?_ fun document => (document.rename_patchShape? names shape patch).symm
  intro document changed patched
  obtain ⟨shapes, _, rfl⟩ := Option.map_eq_some_iff.mp patched
  rfl

theorem restoreShapes_calls (shapes : List (Shape α)) :
    (link names id start start' stop).Calls (Document.rename names)
      (write id (·.restoreShapes shapes))
      (write id (·.restoreShapes (shapes.map (Shape.rename names)))) :=
  restore_calls names.shapes shapes

theorem restoreConnectors_calls (connectors : List Connector) :
    (link names id start start' stop).Calls (Document.rename (α := α) names)
      (write id (·.restoreConnectors connectors))
      (write id (·.restoreConnectors (connectors.map (Connector.rename names)))) :=
  restore_calls names.connectors connectors

/-- Calls on the document match as far as both stores give out the same ids. -/
theorem store_matches {supply supply' : Supply} (id : DocumentId) (batches : Bool)
    (agree : Agree names supply supply' start start' stop) :
    (store supply batches).Matches (link names id start start' stop) names id
      (store supply' batches) where
  batches := rfl
  document? := document?_calls supply supply' batches
  addShape draft := addShapes_calls agree [draft]
  updateShape := updateShape_calls
  deleteShape shape := deleteShapes_calls [shape]
  shape? := shape?_calls supply supply' batches
  restoreShapes := restoreShapes_calls
  addConnector draft := addConnectors_calls agree [draft]
  deleteConnector connector := deleteConnectors_calls [connector]
  restoreConnectors := restoreConnectors_calls
  addShapes := addShapes_calls agree
  deleteShapes := deleteShapes_calls
  addConnectors := addConnectors_calls agree
  deleteConnectors := deleteConnectors_calls

end Memory

end TextDiagram
