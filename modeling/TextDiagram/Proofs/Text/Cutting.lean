import TextDiagram.Proofs.Text.Trimming
import TextDiagram.Text.Split

/-!
# Cutting and joining

Each way to cut a text is the inverse of putting it together. Main statements: a text is cut at a
character, at the arrow and between delimiters exactly where it was joined there, and a text that
was joined from stretches, or from words with blanks behind them, is cut into these again.
-/
namespace TextDiagram.Text

/-! ### At the first separator -/

theorem cutAt_append {separates : Char → Bool} {before : List Char} {c : Char}
    (clean : ∀ d ∈ before, separates d = false) (separator : separates c = true)
    (after : List Char) : cutAt separates (before ++ c :: after) = some (before, after) := by
  induction before with
  | nil => simp [cutAt, separator]
  | cons d rest ih =>
    have rest_cut := ih fun e member => clean e (List.mem_cons_of_mem d member)
    simp [cutAt, clean d List.mem_cons_self, rest_cut]

theorem cutAt_char_iff {separator : Char} {text before after : List Char} :
    cutAt (· == separator) text = some (before, after) ↔
      text = before ++ separator :: after ∧ separator ∉ before := by
  constructor
  · intro cut
    obtain ⟨c, hit, shape, clean⟩ := cutAt_eq_some cut
    obtain rfl : c = separator := by simpa using hit
    exact ⟨shape, fun member => by simpa using clean c member⟩
  · rintro ⟨rfl, absent⟩
    refine cutAt_append (fun d member => ?_) (by simp) after
    have apart : d ≠ separator := fun same => absent (same ▸ member)
    simpa using apart

/-- Two cuts of a text at its first separator are one. -/
theorem parts_eq_of_notMem {separator : Char} {before after other behind : List Char}
    (absent : separator ∉ before) (other_absent : separator ∉ other)
    (same : before ++ separator :: after = other ++ separator :: behind) :
    before = other ∧ after = behind := by
  have cut := cutAt_char_iff.mpr ⟨same, other_absent⟩
  rw [cutAt_char_iff.mpr ⟨rfl, absent⟩] at cut
  simpa using cut

theorem cutEnclosed_iff {opening closing : Char} {text inside after : List Char} :
    cutEnclosed opening closing text = some (inside, after) ↔
      text = opening :: inside ++ closing :: after ∧ closing ∉ inside := by
  cases text with
  | nil => simp [cutEnclosed]
  | cons c rest =>
    by_cases opens : c = opening
    · simp [cutEnclosed, opens, cutAt_char_iff]
    · simp [cutEnclosed, opens]

/-! ### At the first arrow -/

theorem cutAtArrow_eq_some {text before after : List Char}
    (cut : cutAtArrow text = some (before, after)) :
    text = before ++ '-' :: '-' :: '>' :: after := by
  induction text generalizing before with
  | nil => simp [cutAtArrow] at cut
  | cons c rest ih =>
    unfold cutAtArrow at cut
    split at cut
    next arrow =>
      cases cut
      exact arrow
    next shape =>
      cases shape
      obtain ⟨⟨start, tail⟩, found, same⟩ := Option.map_eq_some_iff.mp cut
      cases same
      rw [ih found, List.cons_append]
    next => cases cut

/-- The first arrow ends with the first `>`, when that one belongs to an arrow. -/
theorem cutAtArrow_append {before : List Char} (unpointed : '>' ∉ before) (after : List Char) :
    cutAtArrow (before ++ '-' :: '-' :: '>' :: after) = some (before, after) := by
  induction before with
  | nil => rfl
  | cons c rest ih =>
    have rest_cut := ih fun member => unpointed (List.mem_cons_of_mem c member)
    rw [List.cons_append, cutAtArrow]
    · rw [rest_cut]
      rfl
    -- An arrow that starts here would have its `>` among the next two characters.
    · rintro tail rfl early
      match rest with
      | [] => simp at early
      | [d] => simp at early
      | d :: e :: more =>
        simp only [List.cons_append, List.cons.injEq] at early
        obtain ⟨-, rfl, -⟩ := early
        simp at unpointed

/-- No arrow starts before a character that no name and no arrow has. -/
theorem mem_of_cutAtArrow {front back before after : List Char} {c : Char}
    (unpointed : '>' ∉ front) (not_dash : c ≠ '-') (not_point : c ≠ '>')
    (cut : cutAtArrow (front ++ c :: back) = some (before, after)) : c ∈ before := by
  have shape := cutAtArrow_eq_some cut
  -- The arrow starts behind the character, or else it would run over it or end before it.
  rcases List.append_eq_append_iff.mp shape with ⟨more, rfl, rest⟩ | ⟨more, rfl, rest⟩
  · cases more with
    | nil => simp_all
    | cons d others =>
      obtain ⟨rfl, -⟩ := List.cons.inj rest
      simp
  · match more with
    | [] => simp_all
    | [d] => simp_all
    | [d, e] => simp_all
    | d :: e :: f :: others => simp_all

/-! ### Into stretches -/

/-- The stretches are those of the standard library. -/
theorem pieces_eq_splitOnP (separates : Char → Bool) (text : List Char) :
    pieces separates text = text.splitOnP separates := by
  induction text with
  | nil => rfl
  | cons c rest ih =>
    rw [pieces, List.splitOnP_cons_eq_if_modifyHead, ih]
    cases cut : rest.splitOnP separates with
    | nil => exact absurd cut (List.splitOnP_ne_nil separates rest)
    | cons first others => rfl

theorem pieces_append {separates : Char → Bool} {piece : List Char} {c : Char}
    (clean : ∀ d ∈ piece, separates d = false) (separator : separates c = true)
    (rest : List Char) :
    pieces separates (piece ++ c :: rest) = piece :: pieces separates rest := by
  simp only [pieces_eq_splitOnP]
  exact List.splitOnP_append_cons_of_forall_mem clean c separator rest

theorem pieces_of_clean {separates : Char → Bool} {text : List Char}
    (clean : ∀ d ∈ text, separates d = false) : pieces separates text = [text] := by
  rw [pieces_eq_splitOnP]
  exact List.splitOnP_eq_singleton clean

/-- The stretches consist of the characters that do not separate. -/
theorem mem_of_mem_pieces {separates : Char → Bool} {text piece : List Char}
    (among : piece ∈ pieces separates text) :
    ∀ c ∈ piece, c ∈ text ∧ separates c = false := by
  induction text generalizing piece with
  | nil => simp_all [pieces]
  | cons d rest ih =>
    rw [pieces] at among
    split at among
    next =>
      rcases List.mem_cons.mp among with rfl | behind
      · simp
      · intro c member
        have both := ih behind c member
        exact ⟨List.mem_cons_of_mem d both.1, both.2⟩
    next miss =>
      have solid : separates d = false := by simpa using miss
      cases cut : pieces separates rest with
      | nil => exact absurd cut (pieces_ne_nil separates rest)
      -- The first stretch of the rest becomes longer by the character in front of it.
      | cons first others =>
        rw [cut] at among ih
        intro c member
        rcases List.mem_cons.mp among with rfl | behind
        · rcases List.mem_cons.mp member with rfl | inside
          · exact ⟨List.mem_cons_self, solid⟩
          · have held := ih List.mem_cons_self c inside
            exact ⟨List.mem_cons_of_mem d held.1, held.2⟩
        · have held := ih (List.mem_cons_of_mem first behind) c member
          exact ⟨List.mem_cons_of_mem d held.1, held.2⟩

/-! ### Into words -/

theorem words_append {word : List Char} {c : Char} (some_word : word ≠ [])
    (solid : ∀ d ∈ word, isBlank d = false) (blank : isBlank c = true) (rest : List Char) :
    words (word ++ c :: rest) = word :: words rest := by
  simp [words, pieces_append solid blank, some_word]

theorem words_of_solid {word : List Char} (some_word : word ≠ [])
    (solid : ∀ d ∈ word, isBlank d = false) : words word = [word] := by
  simp [words, pieces_of_clean solid, some_word]

theorem words_blank_append {blanks : List Char} (blank : Blank blanks) (text : List Char) :
    words (blanks ++ text) = words text := by
  induction blanks with
  | nil => rfl
  | cons c rest ih =>
    have rest_passed := ih fun d member => blank d (List.mem_cons_of_mem c member)
    rw [← rest_passed]
    simp [words, pieces, blank c List.mem_cons_self]

/-- A stretch without blanks at the start of a text is the start of its first word. -/
theorem words_solid_append {front : List Char} (some_front : front ≠ [])
    (solid : ∀ d ∈ front, isBlank d = false) (text : List Char) :
    ∃ behind others, words (front ++ text) = (front ++ behind) :: others := by
  have stretched :
      ∃ behind others, pieces isBlank (front ++ text) = (front ++ behind) :: others := by
    clear some_front
    induction front with
    | nil => exact List.exists_cons_of_ne_nil (pieces_ne_nil isBlank text)
    | cons c rest ih =>
      obtain ⟨behind, others, cut⟩ := ih fun d member => solid d (List.mem_cons_of_mem c member)
      exact ⟨behind, others, by simp [pieces, solid c List.mem_cons_self, cut]⟩
  obtain ⟨behind, others, cut⟩ := stretched
  exact ⟨behind, others.filter fun word => !word.isEmpty, by simp [words, cut, some_front]⟩

/-- A word in front of blanks ends there. -/
theorem words_gap {word gap : List Char} (some_word : word ≠ [])
    (solid : ∀ c ∈ word, isBlank c = false) (gap_blank : Blank gap) (some_gap : gap ≠ [])
    (rest : List Char) : words (word ++ (gap ++ rest)) = word :: words rest := by
  obtain ⟨c, others, rfl⟩ := List.exists_cons_of_ne_nil some_gap
  rw [List.cons_append, words_append some_word solid (gap_blank c List.mem_cons_self),
    words_blank_append fun d member => gap_blank d (List.mem_cons_of_mem c member)]

theorem words_eq_nil_iff {text : List Char} : words text = [] ↔ Blank text := by
  constructor
  · intro none_left
    obtain ⟨front, front_blank, shape⟩ := trimStart_parts text
    cases starts : trimStart text with
    | nil =>
      rw [shape, starts, List.append_nil]
      exact front_blank
    | cons c tail =>
      have solid := head_trimStart starts
      obtain ⟨behind, others, cut⟩ :=
        words_solid_append (List.cons_ne_nil c []) (by simpa using solid) tail
      rw [shape, words_blank_append front_blank, starts, ← List.singleton_append, cut] at none_left
      cases none_left
  · intro blank
    simpa [words, pieces] using words_blank_append blank []

/-- The first word of a text stands behind blanks, and ends where it does or at a blank. -/
theorem words_parts {text word : List Char} {rest : List (List Char)}
    (cut : words text = word :: rest) :
    ∃ front behind, Blank front ∧ word ≠ [] ∧ (∀ c ∈ word, isBlank c = false) ∧
      (∀ c ∈ behind.head?, isBlank c = true) ∧ text = front ++ (word ++ behind) ∧
        words behind = rest := by
  obtain ⟨front, front_blank, shape⟩ := trimStart_parts text
  have from_start : words (trimStart text) = word :: rest := by
    rwa [shape, words_blank_append front_blank] at cut
  have some_left : trimStart text ≠ [] := by
    intro nothing
    rw [nothing, words_eq_nil_iff.mpr blank_nil] at from_start
    cases from_start
  obtain ⟨c, tail, starts⟩ := List.exists_cons_of_ne_nil some_left
  let first := (trimStart text).takeWhile fun d => !isBlank d
  let behind := (trimStart text).dropWhile fun d => !isBlank d
  have parts : trimStart text = first ++ behind := List.takeWhile_append_dropWhile.symm
  have some_first : first ≠ [] := by simp [first, starts, head_trimStart starts]
  have first_solid : ∀ d ∈ first, isBlank d = false :=
    fun d member => by simpa using List.mem_takeWhile_imp member
  have behind_blank : ∀ d ∈ behind.head?, isBlank d = true := by
    intro d stops
    have stopped := List.head?_dropWhile_not (fun d => !isBlank d) (trimStart text)
    rw [Option.mem_def.mp stops] at stopped
    simpa using stopped
  have first_cut : words (first ++ behind) = first :: words behind := by
    cases ends : behind with
    | nil =>
      rw [List.append_nil, words_of_solid some_first first_solid, words_eq_nil_iff.mpr blank_nil]
    | cons d more =>
      have blank := behind_blank d (by simp [ends])
      have passed : words ([d] ++ more) = words more :=
        words_blank_append (by simpa [Blank] using blank) more
      rw [words_append some_first first_solid blank, ← passed, List.singleton_append]
  rw [parts, first_cut, List.cons.injEq] at from_start
  obtain ⟨rfl, behind_cut⟩ := from_start
  exact ⟨front, behind, front_blank, some_first, first_solid, behind_blank, parts ▸ shape,
    behind_cut⟩

/-- Between two words there is a blank. -/
theorem front_ne_nil {front word rest : List Char} (some_word : word ≠ [])
    (solid : ∀ c ∈ word, isBlank c = false)
    (starts : ∀ c ∈ (front ++ (word ++ rest)).head?, isBlank c = true) : front ≠ [] := by
  rintro rfl
  obtain ⟨c, others, rfl⟩ := List.exists_cons_of_ne_nil some_word
  have blank := starts c rfl
  rw [solid c List.mem_cons_self] at blank
  cases blank

/-- A trimmed text of three words. -/
theorem words_eq_three {text first second third : List Char} (trimmed : trim text = text)
    (cut : words text = [first, second, third]) :
    ∃ before behind, Blank before ∧ before ≠ [] ∧ Blank behind ∧ behind ≠ [] ∧
      text = first ++ before ++ second ++ behind ++ third := by
  obtain ⟨front, rest, front_blank, some_first, first_solid, rest_starts, shape, rest_cut⟩ :=
    words_parts cut
  obtain ⟨before, tail, before_blank, some_second, second_solid, tail_starts, rfl, tail_cut⟩ :=
    words_parts rest_cut
  obtain ⟨behind, back, behind_blank, some_third, third_solid, -, rfl, back_cut⟩ :=
    words_parts tail_cut
  have back_blank := words_eq_nil_iff.mp back_cut
  have inner := trim_between some_first some_third first_solid third_solid
    (before ++ second ++ behind)
  have whole : text = front ++ (first ++ (before ++ second ++ behind) ++ third) ++ back := by
    simp [shape]
  rw [whole, trim_append front_blank back_blank, inner] at trimmed
  refine ⟨before, behind, before_blank, front_ne_nil some_second second_solid rest_starts,
    behind_blank, front_ne_nil some_third third_solid tail_starts, ?_⟩
  rw [whole, ← trimmed]
  simp

end TextDiagram.Text
