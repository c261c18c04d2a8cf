import Caseflow.Template
/-! The one way in which a text falls apart into literals and references. A reference stands
between an opening and the next closing, so the first opening of a text and the closing after it
are found without looking further, and what follows falls apart in the same way. -/
namespace Caseflow

namespace Text

variable {text inner : List Char}

/-- The inner text stands in the text between blanks, and has none at its own ends. -/
structure TrimsTo (text inner : List Char) : Prop where
  around : ∃ lead trail, text = lead ++ inner ++ trail ∧
    (∀ c ∈ lead, isBlank c = true) ∧ ∀ c ∈ trail, isBlank c = true
  first : ∀ c ∈ inner.head?, isBlank c = false
  last : ∀ c ∈ inner.getLast?, isBlank c = false

theorem dropWhile_blanks {lead : List Char} (blank : ∀ c ∈ lead, isBlank c = true)
    (first : ∀ c ∈ inner.head?, isBlank c = false) : (lead ++ inner).dropWhile isBlank = inner := by
  rw [List.dropWhile_append_of_pos blank]
  cases inner with
  | nil => rfl
  | cons c rest => simp [first c rfl]

theorem visible_of_dropWhile {c : Char} (first : c ∈ (text.dropWhile isBlank).head?) :
    isBlank c = false := by
  have stops := List.head?_dropWhile_not isBlank text
  rw [Option.mem_def.mp first] at stops
  simpa using stops

theorem trimsTo_trimmed (text : List Char) : TrimsTo text (trimmed text) := by
  have front := List.takeWhile_append_dropWhile (p := isBlank) (l := text)
  have back := List.takeWhile_append_dropWhile (p := isBlank) (l := (text.dropWhile isBlank).reverse)
  have blanks {held : List Char} : ∀ c ∈ held.takeWhile isBlank, isBlank c = true :=
    fun c member => List.all_eq_true.mp List.all_takeWhile c member
  have rest : trimmed text ++ ((text.dropWhile isBlank).reverse.takeWhile isBlank).reverse =
      text.dropWhile isBlank := by
    rw [trimmed, ← List.reverse_append, back, List.reverse_reverse]
  refine ⟨⟨text.takeWhile isBlank, ((text.dropWhile isBlank).reverse.takeWhile isBlank).reverse,
    ?_, blanks, fun c member => blanks c (List.mem_reverse.mp member)⟩, fun c first => ?_, ?_⟩
  · rw [List.append_assoc, rest, front]
  · have starts : c ∈ (text.dropWhile isBlank).head? := by
      rw [← rest, List.head?_append, Option.mem_def.mp first]
      rfl
    exact visible_of_dropWhile starts
  · rw [trimmed, List.getLast?_reverse]
    exact fun c last => visible_of_dropWhile last

theorem TrimsTo.eq_trimmed (trims : TrimsTo text inner) : inner = trimmed text := by
  obtain ⟨lead, trail, rfl, leading, trailing⟩ := trims.around
  rcases inner.eq_nil_or_concat with rfl | ⟨front, c, rfl⟩
  · have blank : ∀ c ∈ lead ++ trail, isBlank c = true := by
      intro c member
      exact (List.mem_append.mp member).elim (leading c) (trailing c)
    have nothing : (lead ++ trail ++ []).dropWhile isBlank = [] := dropWhile_blanks blank (by simp)
    rw [List.append_nil] at nothing ⊢
    rw [trimmed, nothing]
    rfl
  · rw [List.concat_eq_append] at trims ⊢
    have ends : ∀ d ∈ (front ++ [c]).reverse.head?, isBlank d = false := by
      rw [List.head?_reverse]
      exact trims.last
    have starts : ∀ d ∈ (front ++ [c] ++ trail).head?, isBlank d = false := by
      have first := trims.first
      cases front <;> simpa using first
    rw [trimmed, List.append_assoc, dropWhile_blanks leading starts, List.reverse_append,
      dropWhile_blanks (fun d member => trailing d (List.mem_reverse.mp member)) ends,
      List.reverse_reverse]

theorem trimsTo_iff : TrimsTo text inner ↔ inner = trimmed text :=
  ⟨TrimsTo.eq_trimmed, fun same => same ▸ trimsTo_trimmed text⟩

end Text

namespace Template

/-- What a reference begins with. -/
def opening : List Char := ['$', '\x7b']

/-- What a reference ends with. -/
def closing : Char := '\x7d'

/-- The template is a decomposition of the text: written in turn, its literals and references are
the text, no literal before a reference holds an opening, no reference holds a closing, and of the
tail nothing is left to read as a reference, since it holds no opening, or no closing after its
first one. -/
structure Divides (template : Template) (text : List Char) : Prop where
  whole : template.fill written = text
  literals : ∀ segment ∈ template.segments, ¬ opening <:+: segment.1
  references : ∀ segment ∈ template.segments, closing ∉ segment.2
  tail : ¬ opening <:+: template.tail ∨ ∃ before after, template.tail = before ++ opening ++ after ∧
    ¬ opening <:+: before ∧ closing ∉ after

/-- The text is a single reference, blanks around it aside. -/
def IsSole (reference text : List Char) : Prop :=
  Text.TrimsTo text (written reference) ∧ ¬ opening <:+: reference ∧ closing ∉ reference

variable {before after inner rest reference text : List Char}

/-! ### Openings -/

theorem hasOpening_iff {text : List Char} : hasOpening text = true ↔ opening <:+: text := by
  fun_induction hasOpening text with
  | case1 => simp [opening]
  | case2 rest => simpa [opening] using (List.prefix_append ['$', '\x7b'] rest).isInfix
  | case3 c rest plain ih =>
    rw [ih, List.infix_cons_iff]
    refine ⟨.inr, fun found => found.resolve_left fun starts => ?_⟩
    obtain ⟨more, same⟩ := starts
    cases same
    exact plain _ rfl rfl

/-- A text with an opening has a first one. -/
theorem exists_first_opening (found : opening <:+: text) :
    ∃ before after, text = before ++ opening ++ after ∧ ¬ opening <:+: before := by
  induction text with
  | nil => simp [opening] at found
  | cons c rest ih =>
    by_cases starts : opening <+: c :: rest
    · obtain ⟨more, same⟩ := starts
      exact ⟨[], more, same.symm, by simp [opening]⟩
    · obtain ⟨before, after, same, plain⟩ := ih ((List.infix_cons_iff.mp found).resolve_left starts)
      refine ⟨c :: before, after, by rw [same]; rfl, fun inside => ?_⟩
      rcases List.infix_cons_iff.mp inside with early | later
      · refine starts (early.trans ⟨opening ++ after, ?_⟩)
        rw [same]
        simp
      · exact plain later

/-! ### Taking a text apart -/

theorem parseLiteral_plain (plain : ¬ opening <:+: text) (done : List Char) :
    parseLiteral done text = ⟨[], done.reverse ++ text⟩ := by
  induction text generalizing done with
  | nil => simp [parseLiteral]
  | cons c rest ih =>
    have apart : ∀ more, c = '$' → rest = '\x7b' :: more → False := by
      rintro more rfl rfl
      exact plain (List.prefix_append ['$', '\x7b'] more).isInfix
    rw [parseLiteral.eq_3 done c rest apart, ih fun inside => plain (List.infix_cons inside)]
    simp

theorem parseLiteral_opening (plain : ¬ opening <:+: before) (done : List Char) :
    parseLiteral done (before ++ opening ++ after) = parseReference (before.reverse ++ done) [] after := by
  induction before generalizing done with
  | nil => simp [opening, parseLiteral]
  | cons c rest ih =>
    have apart : ∀ more, c = '$' → rest ++ opening ++ after = '\x7b' :: more → False := by
      rintro more rfl same
      cases rest with
      | nil => simp [opening] at same
      | cons d others =>
        cases same
        exact plain (List.prefix_append ['$', '\x7b'] others).isInfix
    rw [List.cons_append, List.cons_append, parseLiteral.eq_3 done c _ apart,
      ih fun inside => plain (List.infix_cons inside)]
    simp

theorem parseReference_closing (within : closing ∉ inner) (before done : List Char) :
    parseReference before done (inner ++ closing :: rest) =
      (parse rest).precede before.reverse (done.reverse ++ inner) := by
  induction inner generalizing done with
  | nil => simp [closing, parseReference, parse]
  | cons c more ih =>
    have apart : c = '\x7d' → False := fun same => within (by simp [closing, same])
    rw [List.cons_append, parseReference.eq_3 before done c _ apart,
      ih fun member => within (List.mem_cons_of_mem _ member)]
    simp

theorem parseReference_unclosed (unclosed : closing ∉ text) (before done : List Char) :
    parseReference before done text = ⟨[], before.reverse ++ opening ++ done.reverse ++ text⟩ := by
  induction text generalizing done with
  | nil => simp [parseReference, opening]
  | cons c rest ih =>
    have apart : c = '\x7d' → False := fun same => unclosed (by simp [closing, same])
    rw [parseReference.eq_3 before done c rest apart,
      ih fun member => unclosed (List.mem_cons_of_mem _ member)]
    simp

/-- A text without an opening is one literal. -/
theorem parse_plain (plain : ¬ opening <:+: text) : parse text = ⟨[], text⟩ :=
  parseLiteral_plain plain []

/-- Up to the first closing after the first opening a text is a literal and a reference. -/
theorem parse_closed (plain : ¬ opening <:+: before) (within : closing ∉ inner) :
    parse (before ++ opening ++ (inner ++ closing :: rest)) = (parse rest).precede before inner := by
  rw [parse, parseLiteral_opening plain, parseReference_closing within]
  simp

/-- Without a closing after the first opening a text is one literal. -/
theorem parse_unclosed (plain : ¬ opening <:+: before) (unclosed : closing ∉ after) :
    parse (before ++ opening ++ after) = ⟨[], before ++ opening ++ after⟩ := by
  rw [parse, parseLiteral_opening plain, parseReference_unclosed unclosed]
  simp

/-! ### The decomposition -/

/-- Induction along a text: it has no opening, or its first opening is never closed, or the rest
after the first closing of that is shorter. -/
@[elab_as_elim]
theorem scan {motive : List Char → Prop} (plain : ∀ text, ¬ opening <:+: text → motive text)
    (unclosed : ∀ before after, ¬ opening <:+: before → closing ∉ after →
      motive (before ++ opening ++ after))
    (closed : ∀ before inner rest, ¬ opening <:+: before → closing ∉ inner → motive rest →
      motive (before ++ opening ++ (inner ++ closing :: rest)))
    (text : List Char) : motive text := by
  by_cases found : opening <:+: text
  · obtain ⟨before, after, rfl, first⟩ := exists_first_opening found
    by_cases ends : closing ∈ after
    · obtain ⟨inner, rest, rfl, within⟩ := List.eq_append_cons_of_mem ends
      exact closed before inner rest first within (scan plain unclosed closed rest)
    · exact unclosed before after first ends
  · exact plain text found
termination_by text.length
decreasing_by
  subst_vars
  simp
  omega

theorem Divides.precede {template : Template} (divides : template.Divides rest)
    (plain : ¬ opening <:+: before) (within : closing ∉ inner) :
    (template.precede before inner).Divides (before ++ opening ++ (inner ++ closing :: rest)) where
  whole := by
    rw [fill_precede, divides.whole]
    simp [written, opening, closing]
  literals := by
    intro segment member
    rcases List.mem_cons.mp member with rfl | later
    · exact plain
    · exact divides.literals segment later
  references := by
    intro segment member
    rcases List.mem_cons.mp member with rfl | later
    · exact within
    · exact divides.references segment later
  tail := divides.tail

/-- Taking a text apart gives a decomposition. -/
theorem parse_divides (text : List Char) : (parse text).Divides text := by
  induction text using scan with
  | plain text plain =>
    rw [parse_plain plain]
    exact ⟨rfl, List.forall_mem_nil _, List.forall_mem_nil _, .inl plain⟩
  | unclosed before after plain unclosed =>
    rw [parse_unclosed plain unclosed]
    exact ⟨rfl, List.forall_mem_nil _, List.forall_mem_nil _,
      .inr ⟨before, after, rfl, plain, unclosed⟩⟩
  | closed before inner rest plain within ih =>
    rw [parse_closed plain within]
    exact ih.precede plain within

/-- There is no other decomposition. -/
theorem Divides.eq_parse {template : Template} (divides : template.Divides text) :
    template = parse text := by
  obtain ⟨segments, tail⟩ := template
  induction segments generalizing text with
  | nil =>
    have whole : tail = text := divides.whole
    subst whole
    rcases divides.tail with plain | ⟨before, after, rfl, plain, unclosed⟩
    · exact (parse_plain plain).symm
    · exact (parse_unclosed plain unclosed).symm
  | cons segment more ih =>
    have plain := divides.literals segment (List.mem_cons_self ..)
    have within := divides.references segment (List.mem_cons_self ..)
    have others : (⟨more, tail⟩ : Template).Divides (fill written ⟨more, tail⟩) :=
      ⟨rfl, fun other member => divides.literals other (List.mem_cons_of_mem _ member),
        fun other member => divides.references other (List.mem_cons_of_mem _ member), divides.tail⟩
    have split : text =
        segment.1 ++ opening ++ (segment.2 ++ closing :: fill written ⟨more, tail⟩) := by
      rw [← divides.whole]
      simp [fill, written, opening, closing]
    rw [split, parse_closed plain within, ← ih others]
    rfl

theorem divides_iff {template : Template} : template.Divides text ↔ template = parse text :=
  ⟨Divides.eq_parse, fun same => same ▸ parse_divides text⟩

/-- An opening inside a reference is a part of it, and one that is never closed is plain text. -/
example : parse "a $\x7bb$\x7bc\x7d\x7d $\x7bd".toList =
    ⟨[("a ".toList, "b$\x7bc".toList)], "\x7d $\x7bd".toList⟩ := by
  decide

/-- Every reference of a text takes up three characters at least. -/
theorem Divides.length_le {template : Template} (divides : template.Divides text) :
    3 * template.segments.length ≤ text.length := by
  rw [← divides.whole, fill, List.length_append]
  refine Nat.le_add_right_of_le ?_
  induction template.segments with
  | nil => exact Nat.le_refl 0
  | cons segment rest ih =>
    simp only [List.flatMap_cons, List.length_append, List.length_cons, written] at ih ⊢
    omega

/-! ### Single references -/

theorem parse_written (within : closing ∉ reference) :
    parse (written reference) = ⟨[([], reference)], []⟩ := by
  have plain : ¬ opening <:+: [] := by simp [opening]
  exact parse_closed plain within

/-- A text is told to be a single reference just where it is one. -/
theorem sole?_eq_some_iff : sole? text = some reference ↔ IsSole reference text := by
  unfold sole? IsSole
  constructor
  · intro found
    split at found
    · rename_i own parsed
      split at found
      · cases found
      · rename_i plain
        cases found
        have divides := parse_divides (Text.trimmed text)
        rw [parsed] at divides
        refine ⟨?_, fun inside => plain (hasOpening_iff.mpr inside), ?_⟩
        · exact Text.trimsTo_iff.mpr (by simpa [fill] using divides.whole)
        · exact divides.references _ (List.mem_singleton_self _)
    · cases found
  · rintro ⟨whole, plain, within⟩
    have noOpening : ¬ hasOpening reference = true := fun found => plain (hasOpening_iff.mp found)
    simp [← whole.eq_trimmed, parse_written within, noOpening]

theorem no_opening_of_blank {blanks : List Char} (blank : ∀ c ∈ blanks, Text.isBlank c = true) :
    ¬ opening <:+: blanks := by
  intro inside
  have member : '$' ∈ blanks := inside.subset (by simp [opening])
  exact absurd (blank '$' member) (by decide)

/-- There is no opening on either side of a single reference. -/
theorem IsSole.around (sole : IsSole reference text) :
    ∃ lead trail, text = lead ++ opening ++ (reference ++ closing :: trail) ∧
      ¬ opening <:+: lead ∧ ¬ opening <:+: trail := by
  obtain ⟨lead, trail, whole, leading, trailing⟩ := sole.1.around
  refine ⟨lead, trail, ?_, no_opening_of_blank leading, no_opening_of_blank trailing⟩
  rw [whole]
  simp [written, opening, closing]

/-- A single reference is also the only one of the text with its blanks. -/
theorem IsSole.parse_eq (sole : IsSole reference text) :
    ∃ lead trail, parse text = ⟨[(lead, reference)], trail⟩ := by
  obtain ⟨lead, trail, whole, leading, trailing⟩ := sole.around
  refine ⟨lead, trail, ?_⟩
  rw [whole, parse_closed leading sole.2.2, parse_plain trailing]
  rfl

theorem IsSole.has_opening (sole : IsSole reference text) : opening <:+: text := by
  obtain ⟨lead, trail, whole, -, -⟩ := sole.around
  exact ⟨lead, reference ++ closing :: trail, whole.symm⟩

/-! ### Filling in -/

theorem infix_fill {template : Template} {segment : List Char × List Char}
    (member : segment ∈ template.segments) (value : List Char → List Char) :
    value segment.2 <:+: template.fill value := by
  obtain ⟨front, back, split⟩ := List.append_of_mem member
  rw [fill, split]
  exact ⟨front.flatMap (fun segment => segment.1 ++ value segment.2) ++ segment.1,
    back.flatMap (fun segment => segment.1 ++ value segment.2) ++ template.tail, by simp⟩

theorem fill_congr {template : Template} {value other : List Char → List Char}
    (same : ∀ segment ∈ template.segments, value segment.2 = other segment.2) :
    template.fill value = template.fill other := by
  have segments : template.segments.map (fun segment => segment.1 ++ value segment.2) =
      template.segments.map fun segment => segment.1 ++ other segment.2 :=
    List.map_congr_left fun segment member => by rw [same segment member]
  rw [fill, fill, List.flatMap_def, List.flatMap_def, segments]

end Template

end Caseflow
