import Mathlib.Data.List.Forall2
import TextDiagram.Proofs.Graph.Joining

/-!
# Reformatting

How a text is laid out does not matter to what is read of it. Lines that are blank or comments may
come and go, and so may the blanks around a line, the carriage return of a line break among them.
Main statement: after any run of such changes the text gives the same graph or the same error, and
the same reports in the same order, under the numbers that their lines have now.

One change keeps the significant lines in order and moves their numbers; a run of changes moves them
one after the other. Everything behind the significant lines looks at numbers only to report them.
-/
namespace TextDiagram

open Text

namespace Text

/-! ### Changes of the layout -/

/-- Where the line of a number stands after a line has been put in as line `place`. -/
def afterInsert (place number : Nat) : Option Nat :=
  some (if number < place then number else number + 1)

/-- Where the line of a number stands after line `place` has been taken out; that line itself stands
nowhere. -/
def afterRemove (place number : Nat) : Option Nat :=
  if number < place then some number
  else if number = place then none
  else some (number - 1)

/-- One change of the lines of a text that leaves alone what they say, and the number that each line
has then. A carriage return in front of a line feed is a blank at the end of its line. -/
inductive LayoutChange : List (List Char) → List (List Char) → (Nat → Option Nat) → Prop where
  -- Lines are counted from one, so the new line comes behind the count of those before it.
  | insert (before : List (List Char)) (line : List Char) (after : List (List Char))
      (silent : isSignificant (trim line) = false) :
      LayoutChange (before ++ after) (before ++ line :: after) (afterInsert (before.length + 1))
  | remove (before : List (List Char)) (line : List Char) (after : List (List Char))
      (silent : isSignificant (trim line) = false) :
      LayoutChange (before ++ line :: after) (before ++ after) (afterRemove (before.length + 1))
  | pad (before : List (List Char)) (left line right : List Char) (after : List (List Char))
      (left_blank : Blank left) (right_blank : Blank right) :
      LayoutChange (before ++ line :: after) (before ++ (left ++ line ++ right) :: after) some
  | unpad (before : List (List Char)) (left line right : List Char) (after : List (List Char))
      (left_blank : Blank left) (right_blank : Blank right) :
      LayoutChange (before ++ (left ++ line ++ right) :: after) (before ++ line :: after) some

/-- Any number of changes of the layout, one after the other. Line `number` of the first lines is
line `moved number` of the last ones, unless it has been taken out. -/
inductive Reformatted (lines : List (List Char)) :
    List (List Char) → (Nat → Option Nat) → Prop where
  | same : Reformatted lines lines some
  | change {others further : List (List Char)} {moved shifted : Nat → Option Nat}
      (reformatted : Reformatted lines others moved)
      (changes : LayoutChange others further shifted) :
      Reformatted lines further fun number => (moved number).bind shifted

/-! #### Line breaks -/

theorem pieces_append_cons {separates : Char → Bool} {c : Char} (separator : separates c = true)
    (before after : List Char) :
    pieces separates (before ++ c :: after) =
      pieces separates before ++ pieces separates after := by
  induction before with
  | nil => simp [pieces, separator]
  | cons d rest ih =>
    rw [List.cons_append, pieces, pieces, ih]
    split
    · rfl
    · cases cut : pieces separates rest with
      | nil => exact absurd cut (pieces_ne_nil separates rest)
      | cons first others => rfl

/-- A character that does not separate makes the last stretch longer. -/
theorem exists_pieces_concat {separates : Char → Bool} {c : Char} (solid : separates c = false)
    (text : List Char) :
    ∃ front last, pieces separates text = front ++ [last] ∧
      pieces separates (text ++ [c]) = front ++ [last ++ [c]] := by
  induction text with
  | nil => exact ⟨[], [], by simp [pieces, solid]⟩
  | cons d rest ih =>
    obtain ⟨front, last, cut, longer⟩ := ih
    rw [List.cons_append, pieces, pieces, cut, longer]
    split
    · exact ⟨[] :: front, last, rfl, rfl⟩
    · cases front with
      | nil => exact ⟨[], d :: last, rfl, rfl⟩
      | cons first others => exact ⟨(d :: first) :: others, last, rfl, rfl⟩

/-- Line breaks with and without a carriage return can be exchanged, each way. -/
theorem layoutChange_carriage (before after : List Char) :
    let feed := pieces (· == '\n') (before ++ '\n' :: after)
    let carriage := pieces (· == '\n') (before ++ '\r' :: '\n' :: after)
    LayoutChange feed carriage some ∧ LayoutChange carriage feed some := by
  intro feed carriage
  -- The carriage return belongs to the line that the line feed ends.
  obtain ⟨front, last, cut, longer⟩ := @exists_pieces_concat (· == '\n') '\r' rfl before
  have feed_eq : feed = front ++ last :: pieces (· == '\n') after := by
    rw [List.append_cons, ← cut]
    exact pieces_append_cons rfl before after
  have carriage_eq : carriage = front ++ ([] ++ last ++ ['\r']) :: pieces (· == '\n') after := by
    rw [List.nil_append, List.append_cons, ← longer]
    simpa using @pieces_append_cons (· == '\n') '\n' rfl (before ++ ['\r']) after
  have blank : Blank ['\r'] := by simp [Blank, isBlank]
  rw [feed_eq, carriage_eq]
  exact ⟨.pad front _ last _ _ blank_nil blank, .unpad front _ last _ _ blank_nil blank⟩

/-! ### The significant lines -/

/-- The significant ones of the lines from number `first` on. -/
def significantFrom (first : Nat) (lines : List (List Char)) : List Line :=
  (numbered first lines).filter fun line => isSignificant line.text

/-- The same line further down. -/
def Line.below (line : Line) : Line :=
  { line with number := line.number + 1 }

/-- A line of the same text, under the number that the first one has been moved to. -/
def Line.Follows (moved : Nat → Option Nat) (line other : Line) : Prop :=
  other.text = line.text ∧ moved line.number = some other.number

theorem significantFrom_append (first : Nat) (before after : List (List Char)) :
    significantFrom first (before ++ after) =
      significantFrom first before ++ significantFrom (first + before.length) after := by
  induction before generalizing first with
  | nil => rfl
  | cons line rest ih =>
    have behind := ih (first + 1)
    simp only [significantFrom] at behind ⊢
    rw [List.cons_append, numbered, numbered, List.filter_cons, List.filter_cons, behind,
      List.length_cons, Nat.add_assoc, Nat.add_comm 1]
    split <;> rfl

theorem significantFrom_silent {line : List Char} (silent : isSignificant (trim line) = false)
    (first : Nat) (after : List (List Char)) :
    significantFrom first (line :: after) = significantFrom (first + 1) after := by
  simp [significantFrom, numbered, silent]

theorem significantFrom_succ (first : Nat) (lines : List (List Char)) :
    significantFrom (first + 1) lines = (significantFrom first lines).map Line.below := by
  induction lines generalizing first with
  | nil => rfl
  | cons line rest ih =>
    have behind := ih (first + 1)
    simp only [significantFrom] at behind ⊢
    rw [numbered, numbered, List.filter_cons, List.filter_cons, behind]
    split <;> rfl

theorem number_of_mem_significantFrom {first : Nat} {lines : List (List Char)} {line : Line}
    (among : line ∈ significantFrom first lines) :
    first ≤ line.number ∧ line.number < first + lines.length := by
  obtain ⟨index, raw, stands, rfl⟩ := mem_numbered (List.mem_filter.mp among).1
  have inside := (List.getElem?_eq_some_iff.mp stands).1
  dsimp only
  omega

/-- A line that says nothing moves the lines behind it, and nothing else. -/
theorem significantFrom_insert (before after : List (List Char)) {line : List Char}
    (silent : isSignificant (trim line) = false) :
    List.Forall₂
      (fun held shifted => held.Follows (afterInsert (before.length + 1)) shifted ∧
        shifted.Follows (afterRemove (before.length + 1)) held)
      (significantFrom 1 (before ++ after)) (significantFrom 1 (before ++ line :: after)) := by
  rw [significantFrom_append, significantFrom_append, significantFrom_silent silent,
    significantFrom_succ (1 + before.length)]
  refine List.rel_append (List.forall₂_same.mpr fun held among => ?_)
    (List.forall₂_map_right_iff.mpr (List.forall₂_same.mpr fun held among => ?_))
  -- The lines in front keep their numbers.
  · have in_front : held.number < before.length + 1 := by
      have bound := (number_of_mem_significantFrom among).2
      omega
    exact ⟨⟨rfl, by simp [afterInsert, in_front]⟩, rfl, by simp [afterRemove, in_front]⟩
  -- Each line behind goes down by one, and taking the new line out brings it back up.
  · have behind : before.length + 1 ≤ held.number := by
      have bound := (number_of_mem_significantFrom among).1
      omega
    refine ⟨⟨rfl, ?_⟩, rfl, ?_⟩
    · rw [afterInsert, if_neg (by omega), Line.below]
    · rw [afterRemove, Line.below, if_neg (by dsimp only; omega), if_neg (by dsimp only; omega)]
      rfl

theorem significantFrom_pad (before : List (List Char)) (line : List Char)
    (after : List (List Char)) {left right : List Char} (left_blank : Blank left)
    (right_blank : Blank right) :
    significantFrom 1 (before ++ (left ++ line ++ right) :: after) =
      significantFrom 1 (before ++ line :: after) := by
  rw [significantFrom_append, significantFrom_append]
  simp only [significantFrom, numbered, trim_append left_blank right_blank]

variable {lines others : List (List Char)} {moved : Nat → Option Nat}

/-- One change keeps the significant lines, and moves their numbers. -/
theorem LayoutChange.significantFrom (changes : LayoutChange lines others moved) :
    List.Forall₂ (Line.Follows moved) (significantFrom 1 lines) (significantFrom 1 others) := by
  cases changes with
  | insert before line after silent =>
    exact (significantFrom_insert before after silent).imp fun _ _ => And.left
  | remove before line after silent =>
    -- Read backwards, the line has been put in.
    exact ((significantFrom_insert before after silent).imp fun _ _ => And.right).flip
  | pad before left line right after left_blank right_blank =>
    rw [significantFrom_pad before line after left_blank right_blank]
    exact List.forall₂_same.mpr fun held _ => ⟨rfl, rfl⟩
  | unpad before left line right after left_blank right_blank =>
    rw [significantFrom_pad before line after left_blank right_blank]
    exact List.forall₂_same.mpr fun held _ => ⟨rfl, rfl⟩

theorem Line.Follows.bind {shifted : Nat → Option Nat} {line other further : Line}
    (follows : line.Follows moved other) (follows_on : other.Follows shifted further) :
    line.Follows (fun number => (moved number).bind shifted) further := by
  refine ⟨follows_on.1.trans follows.1, ?_⟩
  dsimp only
  rw [follows.2]
  exact follows_on.2

theorem Line.forall₂_bind {shifted : Nat → Option Nat} {held middle last : List Line}
    (follow : List.Forall₂ (Line.Follows moved) held middle)
    (follow_on : List.Forall₂ (Line.Follows shifted) middle last) :
    List.Forall₂ (Line.Follows fun number => (moved number).bind shifted) held last := by
  induction follow generalizing last with
  | nil =>
    cases follow_on
    exact .nil
  | cons first _ ih =>
    cases follow_on with
    | cons second rest => exact .cons (first.bind second) (ih rest)

/-- Any run of changes keeps the significant lines, and moves their numbers. -/
theorem Reformatted.significantFrom (reformatted : Reformatted lines others moved) :
    List.Forall₂ (Line.Follows moved) (significantFrom 1 lines) (significantFrom 1 others) := by
  -- Only numbers change on the way, and those of the first lines are followed through all changes.
  induction reformatted with
  | same => exact List.forall₂_same.mpr fun held _ => ⟨rfl, rfl⟩
  | change _ changes ih => exact Line.forall₂_bind ih changes.significantFrom

end Text

variable (family : Family) {moved : Nat → Option Nat}

/-! ### Reading on -/

/-- A report of the same text, under the number that the line of the first one has been moved to. -/
def Diagnostic.Follows (moved : Nat → Option Nat) (report other : Diagnostic) : Prop :=
  other.text = report.text ∧ moved report.line = some other.line

/-- The same graph, with the same reports under the numbers that their lines have been moved to. -/
structure Reading.Follows (moved : Nat → Option Nat) (reading other : Reading) : Prop where
  graph : other.graph = reading.graph
  skipped : List.Forall₂ (Diagnostic.Follows moved) reading.skipped other.skipped

/-- A line is cut into the same statements wherever it stands. -/
theorem Family.statements_follow {line other : Line} (follows : line.Follows moved other) :
    List.Forall₂ (Line.Follows moved) (family.statements line) (family.statements other) := by
  cases family with
  | architecture => exact .cons follows .nil
  | flow =>
    rw [statements, statements, follows.1, List.forall₂_map_left_iff, List.forall₂_map_right_iff]
    exact List.forall₂_same.mpr fun text _ => ⟨rfl, follows.2⟩

theorem Reading.Follows.step {reading other : Reading} {statement again : Line}
    (alike : reading.Follows moved other) (follows : statement.Follows moved again) :
    (reading.step statement).Follows moved (other.step again) := by
  have same_text : other.graph.readStatement? again.text =
      reading.graph.readStatement? statement.text := by
    rw [alike.graph, follows.1]
  -- The graph and the text alone decide whether the statement is taken.
  cases read : reading.graph.readStatement? statement.text with
  | some added =>
    rw [step_of_reads read, step_of_reads (same_text.trans read)]
    exact ⟨rfl, alike.skipped⟩
  | none =>
    rw [step_of_refuses read, step_of_refuses (same_text.trans read)]
    have reported : statement.diagnostic.Follows moved again.diagnostic :=
      ⟨congrArg String.ofList follows.1, follows.2⟩
    exact ⟨alike.graph, List.rel_append alike.skipped (.cons reported .nil)⟩

theorem Reading.ofStatements_follow {statements again : List Line}
    (follow : List.Forall₂ (Line.Follows moved) statements again) :
    (ofStatements family statements).Follows moved (ofStatements family again) :=
  List.rel_foldl (fun _ _ alike _ _ follows => alike.step follows) ⟨rfl, .nil⟩ follow

/-- The header is one of the significant lines, so texts with the same ones open alike. -/
theorem Family.body_follow {text other : List Char}
    (follow : List.Forall₂ (Line.Follows moved) (significantLines text) (significantLines other)) :
    (∃ error, family.body text = .error error ∧ family.body other = .error error) ∨
      ∃ statements again, family.body text = .ok statements ∧ family.body other = .ok again ∧
        List.Forall₂ (Line.Follows moved) statements again := by
  unfold body
  generalize significantLines text = lines, significantLines other = others at follow
  cases follow with
  | nil => exact .inl ⟨_, rfl, rfl⟩
  | @cons first second rest behind follows rest_follow =>
    simp only [follows.1]
    by_cases opens : first.text = family.header.toList
    · rw [if_pos opens, if_pos opens]
      exact .inr ⟨_, _, rfl, rfl, List.rel_flatMap rest_follow fun _ _ => statements_follow family⟩
    · rw [if_neg opens, if_neg opens]
      exact .inl ⟨_, rfl, rfl⟩

/-- A text says the same however it is laid out: it gives the same graph or the same error, and each
report has the number that its line has now. -/
theorem Graph.readWithDiagnostics_reformatted {text other : String}
    (reformatted : Reformatted (pieces (· == '\n') text.toList) (pieces (· == '\n') other.toList)
      moved) :
    (∀ error, readWithDiagnostics family text = .error error ↔
      readWithDiagnostics family other = .error error) ∧
    ∀ reading, readWithDiagnostics family text = .ok reading →
      ∃ skipped, readWithDiagnostics family other = .ok ⟨reading.graph, skipped⟩ ∧
        List.Forall₂ (Diagnostic.Follows moved) reading.skipped skipped := by
  unfold readWithDiagnostics
  rcases Family.body_follow family reformatted.significantFrom with
    ⟨error, refused, refused_too⟩ | ⟨statements, again, opened, opened_too, follow⟩
  · rw [refused, refused_too]
    refine ⟨fun _ => Iff.rfl, fun _ read => ?_⟩
    cases read
  · rw [opened, opened_too]
    have accepted {read : Reading} (error : FormatError) : Except.ok read ≠ Except.error error := by
      intro same
      cases same
    refine ⟨fun error => iff_of_false (accepted error) (accepted error), ?_⟩
    rintro reading ⟨rfl⟩
    have alike := Reading.ofStatements_follow family follow
    refine ⟨(Reading.ofStatements family again).skipped, ?_, alike.skipped⟩
    rw [← alike.graph]
    rfl

/-- Comments, line breaks and blanks of every kind, and a report that moves down. -/
theorem Graph.readWithDiagnostics_reformatted_carriages :
    let text := "bpmn\n%% old\na --> b\n  wrong ; b --> c\n"
    let other := "%% new\r\n\r\n\u3000bpmn\r\n\ta --> b\u00A0\r\nwrong ; b --> c"
    let graph : Graph := {
      family := .flow
      nodes := [⟨"a", "a", .task, none, none⟩, ⟨"b", "b", .task, none, none⟩,
        ⟨"c", "c", .task, none, none⟩]
      connections := [⟨"a", "b", none, none, false, none⟩, ⟨"b", "c", none, none, false, none⟩] }
    ∃ moved,
      Reformatted (pieces (· == '\n') text.toList) (pieces (· == '\n') other.toList) moved ∧
      moved 4 = some 5 ∧
      readWithDiagnostics .flow text = .ok ⟨graph, [⟨4, "wrong"⟩]⟩ ∧
      readWithDiagnostics .flow other = .ok ⟨graph, [⟨5, "wrong"⟩]⟩ := by
  intro text other graph
  let header := "bpmn".toList
  let arrow := "a --> b".toList
  let mixed := "wrong ; b --> c".toList
  let wide := "  ".toList ++ mixed ++ []
  let old := "%% old".toList
  let new := "%% new\r".toList
  let carriage := "\r".toList
  let wide_header := "\u3000".toList ++ header ++ carriage
  let wide_arrow := "\t".toList ++ arrow ++ "\u00A0\r".toList
  have text_lines : pieces (· == '\n') text.toList = [header, old, arrow, wide, []] := by
    decide +kernel
  have other_lines : pieces (· == '\n') other.toList =
      [new, carriage, wide_header, wide_arrow] ++ [mixed] := by
    decide +kernel
  have blank {blanks : List Char} (all_blank : blanks.all isBlank = true) : Blank blanks :=
    all_isBlank_iff.mp all_blank
  have reformatted := @Reformatted.same [header, old, arrow, wide, []]
    |>.change (.remove [header] old [arrow, wide, []] (by decide +kernel))
    |>.change (.remove [header, arrow, wide] [] [] (by decide +kernel))
    |>.change (.insert [] carriage [header, arrow, wide] (by decide +kernel))
    |>.change (.insert [] new [carriage, header, arrow, wide] (by decide +kernel))
    |>.change (.pad [new, carriage] "\u3000".toList header carriage [arrow, wide]
      (blank (by decide +kernel)) (blank (by decide +kernel)))
    |>.change (.pad [new, carriage, wide_header] "\t".toList arrow "\u00A0\r".toList [wide]
      (blank (by decide +kernel)) (blank (by decide +kernel)))
    |>.change (.unpad [new, carriage, wide_header, wide_arrow] "  ".toList mixed [] []
      (blank (by decide +kernel)) (blank (by decide +kernel)))
  rw [← text_lines, ← other_lines] at reformatted
  have read : readWithDiagnostics .flow text = .ok ⟨graph, [⟨4, "wrong"⟩]⟩ := by decide +kernel
  obtain ⟨skipped, read_too, reports⟩ :=
    (Graph.readWithDiagnostics_reformatted .flow reformatted).2 _ read
  obtain ⟨⟨line, quoted⟩, rest, ⟨same_text, same_line⟩, none_else, rfl⟩ :=
    List.forall₂_cons_left_iff.mp reports
  obtain rfl := List.forall₂_nil_left_iff.mp none_else
  obtain rfl : quoted = "wrong" := same_text
  obtain rfl : 5 = line := Option.some.inj same_line
  exact ⟨_, reformatted, rfl, read, read_too⟩

end TextDiagram
