import TextDiagram.Proofs.Graph.Writing

/-!
# Skipped statements

A statement that is reported as skipped has left no trace. Main statement: the statements of a text
that are not reported, written one on a line, are read as the same graph with nothing skipped. They
and the reports together are all the statements of the text, and the reports quote its lines in
order.
-/
namespace TextDiagram

open Text

/-! ### The statements of a text -/

namespace Text

/-- The report that a statement is skipped. -/
def Line.diagnostic (statement : Line) : Diagnostic :=
  ⟨statement.number, String.ofList statement.text⟩

theorem numbered_pairwise (first : Nat) (lines : List (List Char)) :
    (numbered first lines).Pairwise (·.number < ·.number) := by
  induction lines generalizing first with
  | nil => exact .nil
  | cons raw rest ih =>
    refine .cons (fun line behind => ?_) (ih (first + 1))
    obtain ⟨index, other, -, rfl⟩ := mem_numbered behind
    exact Nat.lt_of_lt_of_le (Nat.lt_succ_self first) (Nat.le_add_right _ _)

theorem significantLines_pairwise (text : List Char) :
    (significantLines text).Pairwise (·.number < ·.number) :=
  (numbered_pairwise 1 _).filter _

/-- A stretch of a line of a text, under the number of the line: trimmed, and not empty. -/
structure Quotes (text : List Char) (statement : Line) : Prop where
  nonempty : statement.text ≠ []
  trimmed : trim statement.text = statement.text
  numbered : 1 ≤ statement.number
  held : ∃ line, (pieces (· == '\n') text)[statement.number - 1]? = some line ∧
    statement.text <:+: line

theorem Quotes.one_line {text : List Char} {statement : Line} (quotes : Quotes text statement) :
    '\n' ∉ statement.text := by
  obtain ⟨line, stands, part⟩ := quotes.held
  intro member
  simpa using (mem_of_mem_pieces (List.mem_of_getElem? stands) _ (part.subset member)).2

theorem quotes_of_mem_significantLines {text : List Char} {line : Line}
    (among : line ∈ significantLines text) : Quotes text line := by
  obtain ⟨listed, significant⟩ := List.mem_filter.mp among
  obtain ⟨index, raw, stands, rfl⟩ := mem_numbered listed
  refine ⟨?_, trim_trim raw, Nat.le_add_right 1 index, raw, ?_, trim_part raw⟩
  · intro nothing
    dsimp only at nothing significant
    rw [nothing] at significant
    exact absurd significant (by decide)
  · simpa using stands

end Text

namespace Family

variable {family : Family}

/-- The statements on the significant lines behind the first one. -/
def statementsBehind (family : Family) (text : List Char) : List Line :=
  (significantLines text).tail.flatMap family.statements

theorem body_eq {text : List Char} {statements : List Line}
    (opened : family.body text = .ok statements) :
    statements = family.statementsBehind text := by
  unfold body at opened
  unfold statementsBehind
  split at opened
  · cases opened
  next first rest lines =>
    split at opened
    · cases opened
      rw [lines, List.tail_cons]
    · cases opened

theorem number_of_mem_statements {line statement : Line}
    (part : statement ∈ family.statements line) : statement.number = line.number := by
  cases family with
  | flow =>
    obtain ⟨piece, -, rfl⟩ := List.mem_map.mp part
    rfl
  | architecture =>
    obtain rfl := List.mem_singleton.mp part
    rfl

theorem quotes_of_mem_statements {text : List Char} {line statement : Line}
    (part : statement ∈ family.statements line) (quotes : Quotes text line) :
    Quotes text statement := by
  cases family with
  | flow =>
    obtain ⟨piece, split_off, rfl⟩ := List.mem_map.mp part
    obtain ⟨raw, stands, line_part⟩ := quotes.held
    obtain ⟨trimmed, nonempty⟩ := List.mem_filter.mp split_off
    obtain ⟨stretch, -, rfl⟩ := List.mem_map.mp trimmed
    refine ⟨by simpa using nonempty, trim_trim stretch, quotes.numbered, raw, stands, ?_⟩
    exact (part_of_mem_splitStatements split_off).trans line_part
  | architecture =>
    obtain rfl := List.mem_singleton.mp part
    exact quotes

theorem quotes_of_mem_statementsBehind {text : List Char} :
    ∀ statement ∈ family.statementsBehind text, Quotes text statement := by
  intro statement among
  obtain ⟨line, behind, part⟩ := List.mem_flatMap.mp among
  have listed := List.mem_of_mem_tail behind
  exact quotes_of_mem_statements part (quotes_of_mem_significantLines listed)

theorem statementsBehind_pairwise (family : Family) (text : List Char) :
    (family.statementsBehind text).Pairwise (·.number ≤ ·.number) := by
  refine List.pairwise_flatMap.mpr ⟨fun line _ => ?_, ?_⟩
  · refine List.pairwise_of_forall_mem_list fun first among second among_too => ?_
    rw [number_of_mem_statements among, number_of_mem_statements among_too]
  · refine (significantLines_pairwise text).tail.imp ?_
    intro line other earlier first part second other_part
    rw [number_of_mem_statements part, number_of_mem_statements other_part]
    exact Nat.le_of_lt earlier

/-- A line of an architecture text is one statement. -/
theorem statementsBehind_architecture (text : List Char) :
    architecture.statementsBehind text = (significantLines text).tail :=
  List.flatMap_singleton' _

theorem statementsBehind_numbers (text : List Char) :
    ((architecture.statementsBehind text).map Line.number).Nodup := by
  rw [statementsBehind_architecture]
  exact List.pairwise_map.mpr ((significantLines_pairwise text).tail.imp Nat.ne_of_lt)

end Family

/-! ### Accepted and skipped statements -/

namespace Reading

/-- Statements that take one graph to another, sorted into those that do so and those that are
skipped. -/
inductive Sorts : Graph → List Line → Graph → List Line → List Line → Prop where
  | done {graph : Graph} : Sorts graph [] graph [] []
  | accept {graph added final : Graph} {statement : Line} {rest accepted skipped : List Line}
      (reads : graph.readStatement? statement.text = some added)
      (behind : Sorts added rest final accepted skipped) :
      Sorts graph (statement :: rest) final (statement :: accepted) skipped
  | skip {graph final : Graph} {statement : Line} {rest accepted skipped : List Line}
      (refuses : graph.readStatement? statement.text = none)
      (behind : Sorts graph rest final accepted skipped) :
      Sorts graph (statement :: rest) final accepted (statement :: skipped)

theorem step_of_reads {reading : Reading} {statement : Line} {added : Graph}
    (reads : reading.graph.readStatement? statement.text = some added) :
    reading.step statement = { reading with graph := added } := by
  simp only [step, reads]

theorem step_of_refuses {reading : Reading} {statement : Line}
    (refuses : reading.graph.readStatement? statement.text = none) :
    reading.step statement =
      { reading with skipped := reading.skipped ++ [statement.diagnostic] } := by
  simp only [step, refuses]
  rfl

/-- A flow takes every statement of its grammar. -/
theorem exists_reads_of_form {graph : Graph} {statement : Statement} {text : List Char}
    (flow : graph.family = .flow) (form : Grammar.Form .flow statement text) :
    ∃ added, graph.readStatement? text = some added := by
  rw [Graph.readStatement?, flow, Grammar.read?_iff.mpr form]
  cases statement with
  | arrow connection => exact ⟨_, Graph.add?_iff.mpr (.flowArrow flow)⟩
  | declare node => exact ⟨_, Graph.add?_iff.mpr (.flowNode flow)⟩

theorem exists_sorts (graph : Graph) (statements : List Line) :
    ∃ final accepted skipped, Sorts graph statements final accepted skipped := by
  induction statements generalizing graph with
  | nil => exact ⟨graph, [], [], .done⟩
  | cons statement rest ih =>
    cases read : graph.readStatement? statement.text with
    | some added =>
      obtain ⟨final, accepted, skipped, behind⟩ := ih added
      exact ⟨final, _, skipped, .accept read behind⟩
    | none =>
      obtain ⟨final, accepted, skipped, behind⟩ := ih graph
      exact ⟨final, accepted, _, .skip read behind⟩

namespace Sorts

variable {graph final : Graph} {statements accepted skipped : List Line}

/-- Reading the statements gives the graph, and reports what is skipped. -/
theorem foldl_step (sorts : Sorts graph statements final accepted skipped)
    (reported : List Diagnostic) :
    statements.foldl step ⟨graph, reported⟩ =
      ⟨final, reported ++ skipped.map Line.diagnostic⟩ := by
  induction sorts generalizing reported with
  | done => simp
  | accept reads _ ih => rw [List.foldl_cons, step_of_reads reads, ih]
  | skip refuses _ ih =>
    rw [List.foldl_cons, step_of_refuses refuses, ih]
    simp

/-- On their own, the accepted statements give the same graph, whatever lines they stand on. -/
theorem replay (sorts : Sorts graph statements final accepted skipped) {again : List Line}
    (same : again.map Line.text = accepted.map Line.text) : Sorts graph again final again [] := by
  induction sorts generalizing again with
  | done =>
    obtain rfl := List.map_eq_nil_iff.mp same
    exact .done
  | accept reads _ ih =>
    obtain ⟨first, others, rfl, first_same, others_same⟩ := List.map_eq_cons_iff.mp same
    exact .accept (first_same ▸ reads) (ih others_same)
  | skip _ _ ih => exact ih same

theorem perm (sorts : Sorts graph statements final accepted skipped) :
    (accepted ++ skipped).Perm statements := by
  induction sorts with
  | done => exact .nil
  | accept _ _ ih => exact ih.cons _
  | skip _ _ ih => exact List.perm_middle.trans (ih.cons _)

theorem skipped_sublist (sorts : Sorts graph statements final accepted skipped) :
    skipped.Sublist statements := by
  induction sorts with
  | done => exact .slnil
  | accept _ _ ih => exact ih.cons _
  | skip _ _ ih => exact ih.cons_cons _

/-- The accepted statements are those that are not reported, unless a report fits an accepted
one. -/
theorem filter_eq (sorts : Sorts graph statements final accepted skipped)
    {reported : List Diagnostic} (unreported : ∀ kept ∈ accepted, kept.diagnostic ∉ reported)
    (all_reported : ∀ refused ∈ skipped, refused.diagnostic ∈ reported) :
    statements.filter (·.diagnostic ∉ reported) = accepted := by
  induction sorts with
  | done => rfl
  | accept _ _ ih =>
    have kept := unreported _ List.mem_cons_self
    rw [List.filter_cons_of_pos (by simpa using kept),
      ih (fun other behind => unreported other (List.mem_cons_of_mem _ behind)) all_reported]
  | skip _ _ ih =>
    have refused := all_reported _ List.mem_cons_self
    rw [List.filter_cons_of_neg (by simpa using refused),
      ih unreported fun other behind => all_reported other (List.mem_cons_of_mem _ behind)]

/-- A flow of nothing but statements of its grammar accepts them all. -/
theorem of_forms (flow : graph.family = .flow)
    (formed : ∀ line ∈ statements, ∃ statement, Grammar.Form .flow statement line.text) :
    ∃ final, Sorts graph statements final statements [] := by
  induction statements generalizing graph with
  | nil => exact ⟨graph, .done⟩
  | cons line rest ih =>
    obtain ⟨statement, form⟩ := formed line List.mem_cons_self
    obtain ⟨added, reads⟩ := exists_reads_of_form flow form
    obtain ⟨parsed, parses, adds⟩ := Option.bind_eq_some_iff.mp reads
    have added_flow := (Graph.add?_iff.mp adds).family.trans flow
    obtain ⟨final, behind⟩ := ih added_flow fun other member =>
      formed other (List.mem_cons_of_mem line member)
    exact ⟨final, .accept reads behind⟩

/-- What is accepted has the form of a statement. -/
theorem form (sorts : Sorts graph statements final accepted skipped) :
    ∀ kept ∈ accepted, ∃ statement, Grammar.Form graph.family statement kept.text := by
  induction sorts with
  | done => simp
  | accept reads _ ih =>
    obtain ⟨statement, parses, adds⟩ := Option.bind_eq_some_iff.mp reads
    rw [(Graph.add?_iff.mp adds).family] at ih
    exact List.forall_mem_cons.mpr ⟨⟨statement, Grammar.read?_iff.mp parses⟩, ih⟩
  | skip _ _ ih => exact ih

/-- The flow grammar alone decides what is skipped. -/
theorem not_form (sorts : Sorts graph statements final accepted skipped)
    (flow : graph.family = .flow) :
    ∀ refused ∈ skipped, ∀ statement, ¬ Grammar.Form .flow statement refused.text := by
  induction sorts with
  | done => simp
  | accept reads _ ih =>
    obtain ⟨statement, parses, adds⟩ := Option.bind_eq_some_iff.mp reads
    exact ih ((Graph.add?_iff.mp adds).family.trans flow)
  | skip refuses _ ih =>
    refine List.forall_mem_cons.mpr ⟨fun statement form => ?_, ih flow⟩
    obtain ⟨added, reads⟩ := exists_reads_of_form flow form
    rw [reads] at refuses
    cases refuses

/-- No report fits an accepted statement: in a flow text equal statements are all accepted or all
skipped, and in an architecture text each has a line of its own. -/
theorem diagnostic_ne (sorts : Sorts graph statements final accepted skipped)
    (numbers : graph.family = .architecture → (statements.map Line.number).Nodup) :
    ∀ kept ∈ accepted, ∀ refused ∈ skipped, kept.diagnostic ≠ refused.diagnostic := by
  intro kept is_accepted refused is_skipped same
  obtain ⟨same_number, same_text⟩ := Diagnostic.mk.inj same
  cases family : graph.family with
  | flow =>
    obtain ⟨statement, form⟩ := sorts.form kept is_accepted
    rw [family, String.ofList_injective same_text] at form
    exact sorts.not_form family refused is_skipped statement form
  | architecture =>
    have distinct := (sorts.perm.map Line.number).nodup_iff.mpr (numbers family)
    rw [List.map_append] at distinct
    exact (List.nodup_append.mp distinct).2.2 _ (List.mem_map_of_mem is_accepted) _
      (List.mem_map_of_mem is_skipped) same_number

end Sorts

end Reading

/-! ### Accepted statements on their own -/

/-- What comes first in a flow statement is a blank or belongs to a name. -/
theorem Grammar.Form.head_ne {statement : Statement} {text : List Char}
    (form : Form .flow statement text) : ∀ c ∈ text.head?, c ≠ '%' := by
  have starts {front name : List Char} (front_blank : Blank front) (named : isName name = true)
      (rest : List Char) : ∀ c ∈ (front ++ (name ++ rest)).head?, c ≠ '%' := by
    rintro c first rfl
    have some_front : front ++ name ≠ [] := by simp [ne_nil_of_isName named]
    rw [← List.append_assoc, List.head?_append_of_ne_nil _ some_front] at first
    have known := mem_around_isName named front_blank blank_nil '%'
      (by simpa using List.mem_of_mem_head? first)
    exact absurd known (by decide)
  cases statement with
  | arrow connection =>
    obtain ⟨front_blank, source_named, -, -, -, -⟩ := form
    simp only [List.append_assoc]
    exact starts front_blank source_named _
  | declare node =>
    obtain ⟨-, -, -, -, -, -⟩ := form
    exact starts blank_nil (isName_keyword _) _

namespace Family

variable {family : Family}

/-- An accepted statement can stand on a line of its own. -/
theorem isLine_of_mem_statementsBehind {text : List Char} {line : Line} {statement : Statement}
    (among : line ∈ family.statementsBehind text)
    (form : Grammar.Form family statement line.text) : IsLine line.text := by
  have quotes := quotes_of_mem_statementsBehind line among
  refine ⟨quotes.one_line, quotes.trimmed, ?_⟩
  cases family with
  | flow => exact isSignificant_of_head quotes.nonempty form.head_ne
  | architecture =>
    rw [statementsBehind_architecture] at among
    exact (List.mem_filter.mp (List.mem_of_mem_tail among)).2

end Family

theorem text_of_numbered {lines : List (List Char)} (are_lines : ∀ line ∈ lines, IsLine line)
    (first : Nat) : (numbered first lines).map Line.text = lines := by
  induction lines generalizing first with
  | nil => rfl
  | cons line rest ih =>
    have rest_lines := fun other behind => are_lines other (List.mem_cons_of_mem line behind)
    rw [numbered, List.map_cons, ih rest_lines, (are_lines line List.mem_cons_self).trimmed]

namespace Reading

/-- A text that is read has its statements sorted. -/
theorem exists_sorts_of_read {family : Family} {text : String} {reading : Reading}
    (read : Graph.readWithDiagnostics family text = .ok reading) :
    ∃ accepted skipped,
      Sorts (.empty family) (family.statementsBehind text.toList) reading.graph accepted skipped ∧
        reading.skipped = skipped.map Line.diagnostic := by
  obtain ⟨final, accepted, skipped, sorts⟩ :=
    exists_sorts (.empty family) (family.statementsBehind text.toList)
  unfold Graph.readWithDiagnostics at read
  cases opened : family.body text.toList with
  | error error => simp [opened, Except.map] at read
  | ok statements =>
    obtain rfl := Family.body_eq opened
    simp only [opened, Except.map, Except.ok.injEq] at read
    rw [ofStatements, sorts.foldl_step, List.nil_append] at read
    subst read
    exact ⟨accepted, skipped, sorts, rfl⟩

namespace Sorts

variable {family : Family} {text : List Char} {final : Graph} {accepted skipped : List Line}

theorem unreported_eq
    (sorts : Sorts (.empty family) (family.statementsBehind text) final accepted skipped) :
    (family.statementsBehind text).filter (·.diagnostic ∉ skipped.map Line.diagnostic) =
      accepted := by
  have numbers : family = .architecture →
      ((family.statementsBehind text).map Line.number).Nodup := by
    rintro rfl
    exact Family.statementsBehind_numbers text
  refine sorts.filter_eq (fun kept is_accepted reported => ?_) fun _ => List.mem_map_of_mem
  obtain ⟨refused, is_skipped, same⟩ := List.mem_map.mp reported
  exact sorts.diagnostic_ne numbers kept is_accepted refused is_skipped same.symm

theorem read_accepted
    (sorts : Sorts (.empty family) (family.statementsBehind text) final accepted skipped) :
    Graph.readWithDiagnostics family
      (String.ofList (joinLines (family.header.toList :: accepted.map Line.text))) =
        .ok ⟨final, []⟩ := by
  have formed : ∀ line ∈ accepted.map Line.text,
      IsLine line ∧ ∃ statement, Grammar.Form family statement line := by
    intro line among
    obtain ⟨kept, is_accepted, rfl⟩ := List.mem_map.mp among
    obtain ⟨statement, form⟩ := sorts.form kept is_accepted
    have listed := sorts.perm.subset (List.mem_append_left skipped is_accepted)
    exact ⟨Family.isLine_of_mem_statementsBehind listed form, statement, form⟩
  have are_lines := fun line among => (formed line among).1
  have again := sorts.replay (text_of_numbered are_lines 2)
  rw [Graph.readWithDiagnostics, String.toList_ofList, body_joinLines are_lines,
    flatMap_statements_of_form formed, Except.map, ofStatements, again.foldl_step]
  rfl

end Sorts

end Reading

/-- Statements that are skipped have no effect, and all others are accepted: those that are not
reported, one on a line, are read as the same graph with nothing skipped. Every statement is either
among them or reported, once, and the reports follow the lines of the text and quote them. -/
theorem Graph.readWithDiagnostics_accepted {family : Family} {text : String} {reading : Reading}
    (read : Graph.readWithDiagnostics family text = .ok reading) :
    let statements := family.statementsBehind text.toList
    let accepted := statements.filter (·.diagnostic ∉ reading.skipped)
    let lines := family.header.toList :: accepted.map Line.text
    Graph.readWithDiagnostics family (String.ofList (joinLines lines)) =
        .ok ⟨reading.graph, []⟩ ∧
      accepted.length + reading.skipped.length = statements.length ∧
      reading.skipped.Pairwise (·.line ≤ ·.line) ∧
      ∀ diagnostic ∈ reading.skipped, diagnostic.text ≠ "" ∧ 1 ≤ diagnostic.line ∧
        ∃ line, (pieces (· == '\n') text.toList)[diagnostic.line - 1]? = some line ∧
          diagnostic.text.toList <:+: line := by
  intro statements
  obtain ⟨accepted, skipped, sorts, skipped_eq⟩ := Reading.exists_sorts_of_read read
  dsimp only
  rw [skipped_eq, sorts.unreported_eq]
  refine ⟨sorts.read_accepted, ?_, ?_, ?_⟩
  · rw [List.length_map, ← List.length_append, sorts.perm.length_eq]
  · have ordered := family.statementsBehind_pairwise text.toList
    exact List.pairwise_map.mpr (ordered.sublist sorts.skipped_sublist)
  · intro diagnostic reported
    obtain ⟨refused, is_skipped, rfl⟩ := List.mem_map.mp reported
    have listed := sorts.skipped_sublist.subset is_skipped
    have quotes := Family.quotes_of_mem_statementsBehind refused listed
    obtain ⟨line, stands, part⟩ := quotes.held
    refine ⟨?_, quotes.numbered, line, stands, ?_⟩
    · simpa [Line.diagnostic] using quotes.nonempty
    · simpa [Line.diagnostic] using part

/-- A service that is declared twice, of which the second line is skipped, and a line that is no
statement. -/
theorem Graph.readWithDiagnostics_accepted_duplicate :
    let text := "architecture-beta\n\n%% two of a kind\ngroup g(cloud)[G]\n" ++
      "  service a(server)[A] in g\nservice a(server)[Other]\na:R --> b\na:E --> W:b"
    let graph : Graph := {
      family := .architecture
      nodes := [⟨"g", "G", .group, some "cloud", none⟩,
        ⟨"a", "A", .service, some "server", some "g"⟩]
      connections := [⟨"a", "b", some .east, some .west, false, none⟩] }
    let reading : Reading := ⟨graph, [⟨6, "service a(server)[Other]"⟩, ⟨7, "a:R --> b"⟩]⟩
    let accepted := "architecture-beta\ngroup g(cloud)[G]\nservice a(server)[A] in g\na:E --> W:b"
    Graph.readWithDiagnostics .architecture text = .ok reading ∧
      Graph.readWithDiagnostics .architecture accepted = .ok ⟨graph, []⟩ := by
  intro text graph reading accepted
  have read : Graph.readWithDiagnostics .architecture text = .ok reading := by decide +kernel
  have again := (Graph.readWithDiagnostics_accepted read).1
  have lines : String.ofList (joinLines (Family.architecture.header.toList ::
      ((Family.architecture.statementsBehind text.toList).filter
        (·.diagnostic ∉ reading.skipped)).map Line.text)) = accepted := by decide +kernel
  exact ⟨read, lines ▸ again⟩

end TextDiagram
