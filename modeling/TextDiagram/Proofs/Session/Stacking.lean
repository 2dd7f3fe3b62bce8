import TextDiagram.Proofs.Session.Actions

/-!
# Histories as bounded stacks

A history is a stack of bounded height: a command that has succeeded goes on top, what is too much
falls off the bottom, and an undo takes the top away. Main statement: on any store, whichever
commands and undos succeed or fail, a history is at every moment what such a stack is, and so is the
history of a document in a session. After a number of successful runs exactly as many undos act as
there were runs, up to the greatest height, on the latest run first; the next undo finds nothing.
-/
namespace TextDiagram

variable {α σ : Type}

/-! ### Stacks -/

/-- Takes items off the bottom of a stack until at most `limit` remain. The bottom is the first. -/
def discard {β : Type} (limit : Nat) : List β → List β
  | [] => []
  | bottom :: rest =>
    if limit < (bottom :: rest).length then discard limit rest else bottom :: rest

/-- Seen from the top, what remains is the first part of the stack. -/
theorem reverse_discard {β : Type} (limit : Nat) (stack : List β) :
    (discard limit stack).reverse = stack.reverse.take limit := by
  induction stack with
  | nil => simp [discard]
  | cons bottom rest ih =>
    rw [discard]
    split
    next too_high =>
      have rest_high : limit ≤ rest.reverse.length := by
        rw [List.length_cons] at too_high
        rw [List.length_reverse]
        omega
      rw [ih, List.reverse_cons, List.take_append_of_le_length rest_high]
    next fits => rw [List.take_of_length_le (by simpa using fits)]

/-- A call on a history. -/
inductive HistoryCall (α : Type) where
  | run (command : Command α)
  | undo

inductive HistoryAnswer where
  | ran (result : Except CommandError (Option Created))
  | undone (result : Except CommandError (Option String))

/-- Whether a command has run and succeeded. -/
def HistoryAnswer.succeeded : HistoryAnswer → Bool
  | ran (.ok _) => true
  | ran (.error _) | undone _ => false

/-- What a call makes of a stack of commands, the latest of them last, while the state behind the
store becomes another one. A run that fails leaves the stack alone, whatever it has done to the
store; an undo takes the latest command away even when it fails. -/
inductive StackStep [Scalar α] (store : DocumentStore α σ) (limit : Nat) :
    List (Command α) → σ → HistoryCall α → HistoryAnswer → List (Command α) → σ → Prop where
  | pushed {stack : List (Command α)} {before after : σ} {command executed : Command α}
      (ran : (command.execute store).run before = ((.ok (), executed), after)) :
      StackStep store limit stack before (.run command) (.ran (.ok executed.created?))
        (discard limit (stack ++ [executed])) after
  | refused {stack : List (Command α)} {before after : σ} {command ended : Command α}
      {error : CommandError}
      (ran : (command.execute store).run before = ((.error error, ended), after)) :
      StackStep store limit stack before (.run command) (.ran (.error error)) stack after
  | undone {below : List (Command α)} {before after : σ} {latest ended : Command α}
      (ran : (latest.undo store).run before = ((.ok (), ended), after)) :
      StackStep store limit (below ++ [latest]) before .undo
        (.undone (.ok (some ended.description))) below after
  | failed {below : List (Command α)} {before after : σ} {latest ended : Command α}
      {error : CommandError}
      (ran : (latest.undo store).run before = ((.error error, ended), after)) :
      StackStep store limit (below ++ [latest]) before .undo (.undone (.error error)) below after
  | nothing {before : σ} :
      StackStep store limit [] before .undo (.undone (.ok none)) [] before

/-- What one call after the other makes of a stack. -/
inductive StackRun [Scalar α] (store : DocumentStore α σ) (limit : Nat) :
    List (Command α) → σ → List (HistoryCall α) → List HistoryAnswer → List (Command α) → σ →
      Prop where
  | nil {stack : List (Command α)} {state : σ} : StackRun store limit stack state [] [] stack state
  | cons {stack between last : List (Command α)} {before middle after : σ} {call : HistoryCall α}
      {answer : HistoryAnswer} {calls : List (HistoryCall α)} {answers : List HistoryAnswer}
      (step : StackStep store limit stack before call answer between middle)
      (rest : StackRun store limit between middle calls answers last after) :
      StackRun store limit stack before (call :: calls) (answer :: answers) last after

/-! ### One call -/

namespace History

variable [Scalar α]

/-- Makes a call on a history that keeps `depth` commands. -/
def answer (store : DocumentStore α σ) (depth : Nat) (history : History α) :
    HistoryCall α → StateM σ (HistoryAnswer × History α)
  | .run command => do
    let (result, history) ← history.run store depth command
    pure (.ran result, history)
  | .undo => do
    let (result, history) ← history.undoLatest store
    pure (.undone result, history)

/-- Makes one call after the other. -/
def answerAll (store : DocumentStore α σ) (depth : Nat) (history : History α) :
    List (HistoryCall α) → StateM σ (List HistoryAnswer × History α)
  | [] => pure ([], history)
  | call :: rest => do
    let (first, history) ← history.answer store depth call
    let (others, history) ← answerAll store depth history rest
    pure (first :: others, history)

variable {store : DocumentStore α σ} {depth : Nat}

omit [Scalar α] in
theorem undoLatest_failed {command ended : Command α} {before after : σ} {error : CommandError}
    (earlier : History α)
    (ran : (command.undo store).run before = ((.error error, ended), after)) :
    (undoLatest store (command :: earlier)).run before = ((.error error, earlier), after) :=
  run_bind_of_run ran

omit [Scalar α] in
theorem push_reverse (depth : Nat) (stack : List (Command α)) (command : Command α) :
    push stack.reverse depth command = (discard (max depth 1) (stack ++ [command])).reverse := by
  rw [reverse_discard, List.reverse_append, push]
  rfl

omit [Scalar α] in
/-- A session clamps the depth when it starts, and a history does so again at each push. -/
theorem push_max (history : History α) (depth : Nat) (command : Command α) :
    history.push (max depth 1) command = history.push depth command := by
  rw [push, push, Nat.max_assoc, Nat.max_self]

theorem answer_of_step {stack next : List (Command α)} {before after : σ} {call : HistoryCall α}
    {given : HistoryAnswer}
    (step : StackStep store (max depth 1) stack before call given next after) :
    (answer store depth stack.reverse call).run before = ((given, next.reverse), after) := by
  cases step with
  | pushed ran =>
    rw [← push_reverse]
    exact run_bind_of_run (run_done _ depth ran)
  | refused ran => exact run_bind_of_run (run_refused _ depth ran)
  | undone ran =>
    rw [List.reverse_append]
    exact run_bind_of_run (undoLatest_done _ ran)
  | failed ran =>
    rw [List.reverse_append]
    exact run_bind_of_run (undoLatest_failed _ ran)
  | nothing => rfl

/-- Whatever is called, a stack has a step for it. -/
theorem exists_step (store : DocumentStore α σ) (limit : Nat) (stack : List (Command α))
    (before : σ) (call : HistoryCall α) :
    ∃ given next after, StackStep store limit stack before call given next after := by
  cases call with
  | run command =>
    rcases ran : (command.execute store).run before with ⟨⟨error | ⟨⟩, ended⟩, after⟩
    · exact ⟨_, _, after, .refused ran⟩
    · exact ⟨_, _, after, .pushed ran⟩
  | undo =>
    rcases List.eq_nil_or_concat stack with rfl | ⟨below, latest, rfl⟩
    · exact ⟨_, _, before, .nothing⟩
    · rw [List.concat_eq_append]
      rcases ran : (latest.undo store).run before with ⟨⟨error | ⟨⟩, ended⟩, after⟩
      · exact ⟨_, _, after, .failed ran⟩
      · exact ⟨_, _, after, .undone ran⟩

/-! ### Runs -/

theorem answerAll_cons {history between last : History α} {before middle after : σ}
    {call : HistoryCall α} {rest : List (HistoryCall α)} {given : HistoryAnswer}
    {others : List HistoryAnswer}
    (answered : (answer store depth history call).run before = ((given, between), middle))
    (answered_rest :
      (answerAll store depth between rest).run middle = ((others, last), after)) :
    (answerAll store depth history (call :: rest)).run before = ((given :: others, last), after) :=
  (run_bind_of_run answered).trans (run_bind_of_run answered_rest)

theorem answerAll_of_run {stack last : List (Command α)} {before after : σ}
    {calls : List (HistoryCall α)} {answers : List HistoryAnswer}
    (run : StackRun store (max depth 1) stack before calls answers last after) :
    (answerAll store depth stack.reverse calls).run before = ((answers, last.reverse), after) := by
  induction run with
  | nil => rfl
  | cons step _ ih => exact answerAll_cons (answer_of_step step) ih

theorem exists_run (store : DocumentStore α σ) (limit : Nat) (stack : List (Command α))
    (before : σ) (calls : List (HistoryCall α)) :
    ∃ answers last after, StackRun store limit stack before calls answers last after := by
  induction calls generalizing stack before with
  | nil => exact ⟨[], stack, before, .nil⟩
  | cons call rest ih =>
    obtain ⟨given, between, middle, step⟩ := exists_step store limit stack before call
    obtain ⟨answers, last, after, run⟩ := ih between middle
    exact ⟨given :: answers, last, after, .cons step run⟩

/-- A history and a stack answer alike, and hold the same commands after any calls. -/
theorem answerAll_iff {stack last : List (Command α)} {before after : σ}
    {calls : List (HistoryCall α)} {answers : List HistoryAnswer} :
    (answerAll store depth stack.reverse calls).run before = ((answers, last.reverse), after) ↔
      StackRun store (max depth 1) stack before calls answers last after := by
  refine ⟨fun answered => ?_, answerAll_of_run⟩
  -- The stack has a run, and the history has answered as in this run and in no other way.
  obtain ⟨others, other_last, other_after, run⟩ :=
    exists_run store (max depth 1) stack before calls
  have same : ((others, other_last.reverse), other_after) = ((answers, last.reverse), after) :=
    (answerAll_of_run run).symm.trans answered
  simp only [Prod.mk.injEq, List.reverse_inj] at same
  obtain ⟨⟨rfl, rfl⟩, rfl⟩ := same
  exact run

theorem answerAll_append {history between last : History α} {before middle after : σ}
    {first rest : List (HistoryCall α)} {answers others : List HistoryAnswer}
    (answered : (answerAll store depth history first).run before = ((answers, between), middle))
    (answered_rest :
      (answerAll store depth between rest).run middle = ((others, last), after)) :
    (answerAll store depth history (first ++ rest)).run before =
      ((answers ++ others, last), after) := by
  induction first generalizing history before answers with
  | nil =>
    cases answered
    exact answered_rest
  | cons call calls ih =>
    rcases one : (answer store depth history call).run before with ⟨⟨given, next⟩, state⟩
    rcases all : (answerAll store depth next calls).run state with ⟨⟨later, stop⟩, reached⟩
    cases (answerAll_cons one all).symm.trans answered
    exact answerAll_cons one (ih all)

end History

/-! ### Runs and then undos -/

namespace Command

/-- Executes one command after the other. Gives those that have succeeded, as they are then. -/
def executeAll [Scalar α] (store : DocumentStore α σ) :
    List (Command α) → StateM σ (List (Command α))
  | [] => pure []
  | command :: rest => do
    match ← command.execute store with
    | (.error _, _) => executeAll store rest
    | (.ok (), executed) =>
      let others ← executeAll store rest
      pure (executed :: others)

/-- Undoes one command after the other, also after one of them has failed. Gives the descriptions
of those that are undone. -/
def undoAll (store : DocumentStore α σ) :
    List (Command α) → StateM σ (List (Except CommandError String))
  | [] => pure []
  | command :: rest => do
    let (result, ended) ← command.undo store
    let others ← undoAll store rest
    pure (result.map (fun _ => ended.description) :: others)

theorem undoAll_length (store : DocumentStore α σ) (commands : List (Command α)) (before : σ) :
    ((undoAll store commands).run before).1.length = commands.length := by
  induction commands generalizing before with
  | nil => rfl
  | cons command rest ih =>
    rcases ran : (command.undo store).run before with ⟨⟨result, ended⟩, middle⟩
    have all : ((undoAll store (command :: rest)).run before).1 =
        result.map (fun _ => ended.description) :: ((undoAll store rest).run middle).1 :=
      congrArg Prod.fst (run_bind_of_run ran)
    rw [all, List.length_cons, ih, List.length_cons]

end Command

namespace History

variable [Scalar α] {store : DocumentStore α σ}

/-- Runs push the commands that succeed, and keep the latest of them that find room. -/
theorem answerAll_runs (store : DocumentStore α σ) (depth : Nat) {history : History α}
    (fits : history.length ≤ max depth 1) (commands : List (Command α)) (before : σ) :
    ∃ answers,
      answers.countP HistoryAnswer.succeeded =
        ((Command.executeAll store commands).run before).1.length ∧
      (answerAll store depth history (commands.map .run)).run before =
        ((answers, (((Command.executeAll store commands).run before).1.reverse ++ history).take
          (max depth 1)), ((Command.executeAll store commands).run before).2) := by
  induction commands generalizing history before with
  | nil =>
    refine ⟨[], rfl, ?_⟩
    have kept : (([] : List (Command α)).reverse ++ history).take (max depth 1) = history := by
      rw [List.reverse_nil, List.nil_append, List.take_of_length_le fits]
    exact congrArg (fun last => (([], last), before)) kept.symm
  | cons command rest ih =>
    rcases ran : (command.execute store).run before with ⟨⟨error | ⟨⟩, executed⟩, middle⟩
    · obtain ⟨answers, counted, answered⟩ := ih fits middle
      have all : (Command.executeAll store (command :: rest)).run before =
          (Command.executeAll store rest).run middle := run_bind_of_run ran
      have one : (answer store depth history (.run command)).run before =
          ((.ran (.error error), history), middle) :=
        run_bind_of_run (run_refused history depth ran)
      refine ⟨.ran (.error error) :: answers, ?_, ?_⟩
      · rw [all, ← counted]
        exact List.countP_cons_of_neg Bool.false_ne_true
      · rw [all]
        exact answerAll_cons one answered
    · have room : (history.push depth executed).length ≤ max depth 1 := List.length_take_le _ _
      obtain ⟨answers, counted, answered⟩ := ih room middle
      have all : (Command.executeAll store (command :: rest)).run before =
          (executed :: ((Command.executeAll store rest).run middle).1,
            ((Command.executeAll store rest).run middle).2) := run_bind_of_run ran
      have one : (answer store depth history (.run command)).run before =
          ((.ran (.ok executed.created?), history.push depth executed), middle) :=
        run_bind_of_run (run_done history depth ran)
      -- What the push has dropped already would not have found room later either.
      have kept (later : List (Command α)) :
          (later ++ history.push depth executed).take (max depth 1) =
            (later ++ executed :: history).take (max depth 1) := by
        rw [push, List.take_append, List.take_append, List.take_take,
          Nat.min_eq_left (Nat.sub_le _ _)]
      rw [kept] at answered
      refine ⟨.ran (.ok executed.created?) :: answers, ?_, ?_⟩
      · rw [all, List.length_cons, ← counted]
        exact List.countP_cons_of_pos rfl
      · rw [all, List.reverse_cons, List.append_assoc, List.singleton_append]
        exact answerAll_cons one answered

/-- Undos take the commands of the history one by one, the latest first, until there are none. -/
theorem answerAll_undos (depth : Nat) (history : History α) (further : Nat) (before : σ) :
    (answerAll store depth history (.replicate (history.length + further) .undo)).run before =
      ((((Command.undoAll store history).run before).1.map (fun result =>
          .undone (result.map some)) ++ .replicate further (.undone (.ok none)), []),
        ((Command.undoAll store history).run before).2) := by
  induction history generalizing before with
  | nil =>
    rw [List.length_nil, Nat.zero_add]
    induction further with
    | zero => rfl
    | succ further ih =>
      have one : (answer store depth [] .undo).run before =
          ((.undone (.ok none), []), before) := rfl
      exact answerAll_cons one ih
  | cons latest earlier ih =>
    rcases ran : (latest.undo store).run before with ⟨⟨result, ended⟩, middle⟩
    have one : (answer store depth (latest :: earlier) .undo).run before =
        ((.undone ((result.map fun _ => ended.description).map some), earlier), middle) := by
      cases result with
      | error error => exact run_bind_of_run (undoLatest_failed earlier ran)
      | ok => exact run_bind_of_run (undoLatest_done earlier ran)
    have all : (Command.undoAll store (latest :: earlier)).run before =
        (result.map (fun _ => ended.description) :: ((Command.undoAll store earlier).run middle).1,
          ((Command.undoAll store earlier).run middle).2) := run_bind_of_run ran
    rw [List.length_cons, Nat.add_right_comm, List.replicate_succ, all]
    exact answerAll_cons one (ih middle)

end History

/-! ### Sessions -/

namespace Session

/-- Makes a call on the history of a document. -/
def makeCall [Scalar α] (store : DocumentStore α σ) (session : Session α σ) (id : DocumentId) :
    HistoryCall α → HistoryAnswer × Session α σ
  | .run command =>
    let (result, session) := session.run store id command
    (.ran result, session)
  | .undo =>
    let (result, session) := session.undo store id
    (.undone result, session)

/-- Makes one call after the other. -/
def makeCalls [Scalar α] (store : DocumentStore α σ) (session : Session α σ) (id : DocumentId) :
    List (HistoryCall α) → List HistoryAnswer × Session α σ
  | [] => ([], session)
  | call :: rest =>
    let (first, session) := session.makeCall store id call
    let (others, session) := makeCalls store session id rest
    (first :: others, session)

/-- The session keeps this history of a document, of `depth` commands and of one at least. -/
structure Keeps (id : DocumentId) (depth : Nat) (history : History α) (state : σ)
    (session : Session α σ) : Prop where
  undoDepth : session.undoDepth = max depth 1
  commands : session.commands id = history
  store : session.store = state

theorem start_keeps (id : DocumentId) (layout : Config α) (depth : Nat) (state : σ) :
    Keeps id depth [] state (start layout depth state) :=
  ⟨rfl, rfl, rfl⟩

variable {id : DocumentId} {depth : Nat} {history next : History α} {before after : σ}
  {session : Session α σ}

theorem Keeps.setHistory (keeps : Keeps id depth history before session) (next : History α)
    (after : σ) : Keeps id depth next after (session.setHistory id next after) :=
  ⟨keeps.undoDepth, setHistory_commands session id next after, rfl⟩

variable [Scalar α] {store : DocumentStore α σ}

theorem Keeps.makeCall {call : HistoryCall α} {given : HistoryAnswer}
    (keeps : Keeps id depth history before session)
    (answered : (History.answer store depth history call).run before = ((given, next), after)) :
    ∃ last, session.makeCall store id call = (given, last) ∧ Keeps id depth next after last := by
  obtain ⟨depth_eq, rfl, rfl⟩ := keeps
  cases call with
  | run command =>
    rcases ran : (command.execute store).run session.store with ⟨⟨error | ⟨⟩, ended⟩, state⟩
    · cases (run_bind_of_run (History.run_refused _ depth ran)).symm.trans answered
      refine ⟨_, ?_, Keeps.setHistory ⟨depth_eq, rfl, rfl⟩ _ _⟩
      simp only [Session.makeCall, Session.run_refused id ran]
    · cases (run_bind_of_run (History.run_done _ depth ran)).symm.trans answered
      refine ⟨_, ?_, Keeps.setHistory ⟨depth_eq, rfl, rfl⟩ _ _⟩
      simp only [Session.makeCall, Session.run_done id ran, depth_eq, History.push_max]
  | undo =>
    cases found : session.history? id with
    | none =>
      have empty : session.commands id = [] := by simp [Session.commands, found]
      rw [empty] at answered
      cases answered
      refine ⟨session, ?_, ⟨depth_eq, empty, rfl⟩⟩
      simp only [Session.makeCall, Session.undo, found]
    | some held =>
      have same : session.commands id = held := by simp [Session.commands, found]
      rw [same] at answered
      rcases undone : (held.undoLatest store).run session.store with ⟨⟨result, rest⟩, state⟩
      cases (run_bind_of_run undone).symm.trans answered
      refine ⟨_, ?_, Keeps.setHistory ⟨depth_eq, rfl, rfl⟩ _ _⟩
      simp only [Session.makeCall, Session.undo, found, undone]

theorem Keeps.makeCalls {calls : List (HistoryCall α)} {answers : List HistoryAnswer}
    (keeps : Keeps id depth history before session)
    (answered : (History.answerAll store depth history calls).run before =
      ((answers, next), after)) :
    ∃ last, session.makeCalls store id calls = (answers, last) ∧
      Keeps id depth next after last := by
  induction calls generalizing history before session answers with
  | nil =>
    cases answered
    exact ⟨session, rfl, keeps⟩
  | cons call rest ih =>
    rcases one : (History.answer store depth history call).run before with ⟨⟨given, held⟩, middle⟩
    rcases all : (History.answerAll store depth held rest).run middle with ⟨⟨others, stop⟩, reached⟩
    cases (History.answerAll_cons one all).symm.trans answered
    obtain ⟨between, answered_one, keeps_between⟩ := keeps.makeCall one
    obtain ⟨last, answered_rest, keeps_last⟩ := ih keeps_between all
    refine ⟨last, ?_, keeps_last⟩
    simp only [Session.makeCalls, answered_one, answered_rest]

end Session

/-! ### The stack of a history -/

namespace History

variable [Scalar α] (store : DocumentStore α σ) (depth : Nat)

/-- After runs on an empty history the latest of those that have succeeded are undone, the latest
first, and then there is nothing to undo. -/
theorem answerAll_runs_undos (commands : List (Command α)) (further : Nat) (before : σ) :
    let executed := (Command.executeAll store commands).run before
    let acting := executed.1.reverse.take (max depth 1)
    let undone := (Command.undoAll store acting).run executed.2
    acting.length = min executed.1.length (max depth 1) ∧
      undone.1.length = acting.length ∧
      ∃ answers : List HistoryAnswer,
        answers.countP HistoryAnswer.succeeded = executed.1.length ∧
        (answerAll store depth []
            (commands.map .run ++ .replicate (acting.length + further) .undo)).run before =
          ((answers ++ (undone.1.map (fun result => .undone (result.map some)) ++
            .replicate further (.undone (.ok none))), []), undone.2) := by
  intro executed acting undone
  have acting_length : acting.length = min executed.1.length (max depth 1) := by
    rw [List.length_take, List.length_reverse, Nat.min_comm]
  have fits : ([] : History α).length ≤ max depth 1 := Nat.zero_le _
  obtain ⟨answers, counted, answered⟩ := answerAll_runs store depth fits commands before
  rw [List.append_nil] at answered
  exact ⟨acting_length, Command.undoAll_length store acting executed.2, answers, counted,
    answerAll_append answered (answerAll_undos depth acting further executed.2)⟩

/-- On any store a history answers every call as a stack of at most `max depth 1` commands does,
and holds what the stack holds. After `n` successful runs `min n (max depth 1)` undos act, on the
latest run first, whether they succeed or fail, and the next ones find nothing. In a session each
document has such a history. -/
theorem answers_as_stack (before : σ) :
    (∀ (calls : List (HistoryCall α)) (stack last : List (Command α)) (answers : List HistoryAnswer)
      (after : σ),
      (answerAll store depth stack.reverse calls).run before = ((answers, last.reverse), after) ↔
        StackRun store (max depth 1) stack before calls answers last after) ∧
    (∀ (commands : List (Command α)) (further : Nat),
      let executed := (Command.executeAll store commands).run before
      let acting := executed.1.reverse.take (max depth 1)
      let undone := (Command.undoAll store acting).run executed.2
      acting.length = min executed.1.length (max depth 1) ∧
        undone.1.length = acting.length ∧
        ∃ answers : List HistoryAnswer,
          answers.countP HistoryAnswer.succeeded = executed.1.length ∧
          (answerAll store depth []
              (commands.map .run ++ .replicate (acting.length + further) .undo)).run before =
            ((answers ++ (undone.1.map (fun result => .undone (result.map some)) ++
              .replicate further (.undone (.ok none))), []), undone.2)) ∧
    (∀ (layout : Config α) (id : DocumentId) (calls : List (HistoryCall α)),
      let served := (Session.start layout depth before).makeCalls store id calls
      let answered := (answerAll store depth [] calls).run before
      served.1 = answered.1.1 ∧
        served.2.commands id = answered.1.2 ∧ served.2.store = answered.2) := by
  refine ⟨fun _ _ _ _ _ => answerAll_iff, fun commands further =>
    answerAll_runs_undos store depth commands further before, fun layout id calls => ?_⟩
  rcases answered : (answerAll store depth [] calls).run before with ⟨⟨answers, history⟩, after⟩
  obtain ⟨last, served, keeps⟩ := (Session.start_keeps id layout depth before).makeCalls answered
  simp only [served]
  exact ⟨trivial, keeps.commands, keeps.store⟩

end History

end TextDiagram
