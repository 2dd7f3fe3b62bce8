import TextDiagram.Proofs.Graph.Adding
import TextDiagram.Proofs.Graph.Splitting

/-!
# Reading graphs

Main statement: every graph that is read from a text is well formed. The statements of a text are
each in one line, and the graph is well formed after each of them.
-/
namespace TextDiagram

open Text

/-! ### The statements of a text -/

namespace Text

/-- Lines are numbered by their places. -/
theorem mem_numbered {first : Nat} {lines : List (List Char)} {line : Line}
    (among : line ∈ numbered first lines) :
    ∃ index raw, lines[index]? = some raw ∧ line = ⟨first + index, trim raw⟩ := by
  induction lines generalizing first with
  | nil => cases among
  | cons raw rest ih =>
    rcases List.mem_cons.mp among with rfl | behind
    · exact ⟨0, raw, rfl, rfl⟩
    · obtain ⟨index, other, stands, same⟩ := ih behind
      refine ⟨index + 1, other, stands, ?_⟩
      rw [same, Nat.add_assoc, Nat.add_comm 1]

theorem exists_of_mem_numbered {first : Nat} {lines : List (List Char)} {line : Line}
    (among : line ∈ numbered first lines) : ∃ raw ∈ lines, line.text = trim raw := by
  obtain ⟨index, raw, stands, rfl⟩ := mem_numbered among
  exact ⟨raw, List.mem_of_getElem? stands, rfl⟩

theorem one_line_of_mem_significantLines {text : List Char} {line : Line}
    (among : line ∈ significantLines text) : '\n' ∉ line.text := by
  obtain ⟨raw, held, same⟩ := exists_of_mem_numbered (List.mem_filter.mp among).1
  intro member
  rw [same] at member
  simpa using (mem_of_mem_pieces held _ (mem_of_mem_trim member)).2

end Text

theorem Family.one_line_of_mem_body {family : Family} {text : List Char}
    {statements : List Line} (opened : family.body text = .ok statements) :
    ∀ statement ∈ statements, '\n' ∉ statement.text := by
  unfold body at opened
  split at opened
  · cases opened
  next first rest lines =>
    split at opened
    · cases opened
      intro statement among
      obtain ⟨line, held, part⟩ := List.mem_flatMap.mp among
      have line_one := one_line_of_mem_significantLines (lines ▸ List.mem_cons_of_mem first held)
      cases family with
      | flow =>
        obtain ⟨piece, split_off, rfl⟩ := List.mem_map.mp part
        exact fun member => line_one (mem_of_mem_splitStatements split_off _ member)
      | architecture =>
        obtain rfl := List.mem_singleton.mp part
        exact line_one
    · cases opened

namespace Reading

/-- What every statement keeps holds at the end if it holds at the start. Skipped statements keep
everything. -/
theorem foldl_keeps (holds : Graph → Prop) {statements : List Line} {reading : Reading}
    (start : holds reading.graph)
    (keeps : ∀ statement ∈ statements, ∀ graph parsed added, holds graph →
      Statement.read? graph.family statement.text = some parsed → graph.Adds parsed added →
        holds added) : holds (statements.foldl step reading).graph := by
  induction statements generalizing reading with
  | nil => exact start
  | cons statement rest ih =>
    have stepped : holds (reading.step statement).graph := by
      unfold step
      split
      next graph read =>
        obtain ⟨parsed, parses, added⟩ := Option.bind_eq_some_iff.mp read
        exact keeps statement List.mem_cons_self _ _ _ start parses (Graph.add?_iff.mp added)
      next => exact start
    exact ih stepped fun other behind => keeps other (List.mem_cons_of_mem statement behind)

/-- A text is read as a graph of the family that it is read for. -/
theorem ofStatements_family (family : Family) (statements : List Line) :
    (ofStatements family statements).graph.family = family := by
  refine foldl_keeps (fun graph => graph.family = family) rfl ?_
  intro _ _ _ _ _ same _ adds
  exact adds.family.trans same

theorem ofStatements_wellFormed (family : Family) {statements : List Line}
    (one_line : ∀ statement ∈ statements, '\n' ∉ statement.text) :
    (ofStatements family statements).graph.WellFormed := by
  refine foldl_keeps Graph.WellFormed (Graph.wellFormed_empty family) ?_
  intro statement among _ _ _ well parses adds
  exact adds.wellFormed well (Statement.wellFormed_of_read? (one_line statement among) parses)

end Reading

theorem Graph.exists_body_of_read {family : Family} {text : String} {graph : Graph}
    (read : Graph.read family text = .ok graph) :
    ∃ statements, family.body text.toList = .ok statements ∧
      graph = (Reading.ofStatements family statements).graph := by
  unfold Graph.read readWithDiagnostics at read
  cases opened : family.body text.toList with
  | error error => simp [opened, Except.map] at read
  | ok statements =>
    simp only [opened, Except.map, Except.ok.injEq] at read
    exact ⟨statements, rfl, read.symm⟩

/-- Every graph that is read from a text is of the family that it is read as, and well formed. -/
theorem Graph.wellFormed_of_read {family : Family} {text : String} {graph : Graph}
    (read : Graph.read family text = .ok graph) : graph.family = family ∧ graph.WellFormed := by
  obtain ⟨statements, opened, rfl⟩ := Graph.exists_body_of_read read
  exact ⟨Reading.ofStatements_family family statements,
    Reading.ofStatements_wellFormed family (Family.one_line_of_mem_body opened)⟩

/-- A node that is mentioned before it is declared, a label with blanks around it, and a line that
is skipped. -/
theorem Graph.wellFormed_of_read_mentioned :
    let text := "bpmn\nstart --> check\ngateway check[ open ]; check -->| no |end\nwrong"
    let graph : Graph := {
      family := .flow
      nodes := [⟨"start", "start", .start, none, none⟩, ⟨"check", "open", .gateway, none, none⟩,
        ⟨"end", "end", .finish, none, none⟩]
      connections := [⟨"start", "check", none, none, false, none⟩,
        ⟨"check", "end", none, none, false, some "no"⟩] }
    Graph.read .flow text = .ok graph ∧ graph.family = .flow ∧ graph.WellFormed := by
  intro text graph
  have read : Graph.read .flow text = .ok graph := by decide +kernel
  exact ⟨read, Graph.wellFormed_of_read read⟩

end TextDiagram
