import GraphSelect.Proofs.Text.Balance
import GraphSelect.Text.Quoted

/-!
# Braces outside of string literals

A string literal goes from a double quote to the next double quote that is not escaped.
A reader that knows this is in one of three places: outside of literals, inside of one,
or behind a backslash inside of one. It counts the braces that it meets outside.

`Text.IsBraceGroup` says that a text is one pair of braces for this reader, with all of
the text in between. Nested text inside a pair of braces is such a group, when its
pieces are quoted texts and characters that are neither braces nor quotes
(`Text.Nested.isBraceGroup`). The contents of a quoted text do not matter: whatever they
are, reading it ends outside of literals again and counts nothing (`Text.passes_quoted`).
-/

set_option autoImplicit false

namespace GraphSelect

namespace Text

/-! ## The reader -/

/-- Where a reader stands. -/
inductive Place where
  | outside
  | inside
  /-- Inside a literal, directly behind a backslash. -/
  | escaping
deriving DecidableEq, Repr

/-- How far a text is read: the opening braces outside of literals less the closing
ones, and the place. -/
structure BraceReader where
  depth : Int := 0
  place : Place := .outside
deriving DecidableEq, Repr

namespace BraceReader

/-- One more character. -/
def advance : BraceReader → Char → BraceReader
  | ⟨depth, .outside⟩, c =>
    if c = '"' then ⟨depth, .inside⟩
    else if c = '{' then ⟨depth + 1, .outside⟩
    else if c = '}' then ⟨depth - 1, .outside⟩
    else ⟨depth, .outside⟩
  | ⟨depth, .inside⟩, c =>
    if c = '"' then ⟨depth, .outside⟩
    else if c = '\\' then ⟨depth, .escaping⟩
    else ⟨depth, .inside⟩
  | ⟨depth, .escaping⟩, _ => ⟨depth, .inside⟩

/-- All the characters. -/
def read (reader : BraceReader) (chars : List Char) : BraceReader := chars.foldl advance reader

@[simp] theorem read_nil (reader : BraceReader) : reader.read [] = reader := rfl

@[simp] theorem read_cons (reader : BraceReader) (c : Char) (rest : List Char) :
    reader.read (c :: rest) = (reader.advance c).read rest := rfl

@[simp] theorem read_append (reader : BraceReader) (first second : List Char) :
    reader.read (first ++ second) = (reader.read first).read second :=
  List.foldl_append

theorem read_opening (depth : Int) (rest : List Char) :
    read ⟨depth, .outside⟩ ('{' :: rest) = read ⟨depth + 1, .outside⟩ rest := rfl

theorem read_closing (depth : Int) (rest : List Char) :
    read ⟨depth + 1, .outside⟩ ('}' :: rest) = read ⟨depth, .outside⟩ rest := by
  have closed : advance ⟨depth + 1, .outside⟩ '}' = ⟨depth + 1 - 1, .outside⟩ := rfl
  rw [read_cons, closed, Int.add_sub_cancel]

end BraceReader

/-- The depth of the braces outside of string literals, after the characters. -/
def braceDepth (chars : List Char) : Int := (BraceReader.read {} chars).depth

/-- The text is one pair of braces with everything else in between: the depth is never
negative, and it is zero before the first character and after the last one only. -/
structure IsBraceGroup (chars : List Char) : Prop where
  opens : chars.head? = some '{'
  closes : chars.getLast? = some '}'
  nonneg : ∀ before, before <+: chars → 0 ≤ braceDepth before
  zero_iff : ∀ before, before <+: chars → (braceDepth before = 0 ↔ before = [] ∨ before = chars)

/-! ## Text that keeps the depth -/

/-- Reading the characters leads from one place to another, ends at the depth where it
starts, and never goes below that. -/
structure Passes (start stop : Place) (chars : List Char) : Prop where
  ends : ∀ depth, BraceReader.read ⟨depth, start⟩ chars = ⟨depth, stop⟩
  stays : ∀ depth before, before <+: chars → depth ≤ (BraceReader.read ⟨depth, start⟩ before).depth

theorem prefix_append_cases {α : Type} {before first second : List α}
    (isPrefix : before <+: first ++ second) :
    before <+: first ∨ ∃ front, front <+: second ∧ before = first ++ front := by
  rcases List.prefix_or_prefix_of_prefix isPrefix (List.prefix_append first second) with
    short | ⟨front, rfl⟩
  · exact .inl short
  · exact .inr ⟨front, (List.prefix_append_right_inj first).mp isPrefix, rfl⟩

/-- A prefix of a text between two characters is empty, or all of it, or a prefix of the
text behind the first of the two. -/
theorem prefix_enclosed_cases {α : Type} {before inside : List α} {first last : α}
    (isPrefix : before <+: first :: (inside ++ [last])) :
    before = [] ∨ before = first :: (inside ++ [last]) ∨
      ∃ front, front <+: inside ∧ before = first :: front := by
  rcases List.prefix_cons_iff.mp isPrefix with rfl | ⟨front, rfl, short⟩
  · exact .inl rfl
  · rcases List.prefix_concat_iff.mp short with rfl | shorter
    · exact .inr (.inl rfl)
    · exact .inr (.inr ⟨front, shorter, rfl⟩)

/-- A text without braces and double quotes. -/
def IsPlain (chars : List Char) : Prop := ∀ c ∈ chars, c ≠ '{' ∧ c ≠ '}' ∧ c ≠ '"'

instance (chars : List Char) : Decidable (IsPlain chars) :=
  List.decidableBAll (fun c => c ≠ '{' ∧ c ≠ '}' ∧ c ≠ '"') chars

namespace Passes

variable {start middle stop : Place} {first second : List Char}

theorem nil (place : Place) : Passes place place [] where
  ends _ := rfl
  stays depth before isPrefix := by
    rw [List.prefix_nil.mp isPrefix]
    exact Int.le_refl depth

theorem append (front : Passes start middle first) (back : Passes middle stop second) :
    Passes start stop (first ++ second) where
  ends depth := by rw [BraceReader.read_append, front.ends, back.ends]
  stays depth before isPrefix := by
    rcases prefix_append_cases isPrefix with short | ⟨more, inSecond, rfl⟩
    · exact front.stays depth before short
    · rw [BraceReader.read_append, front.ends]
      exact back.stays depth more inSecond

/-- A character that only changes the place. -/
theorem single {c : Char} (step : ∀ depth, BraceReader.advance ⟨depth, start⟩ c = ⟨depth, stop⟩) :
    Passes start stop [c] where
  ends := step
  stays depth before isPrefix := by
    rcases List.prefix_cons_iff.mp isPrefix with rfl | ⟨front, rfl, short⟩
    · exact Int.le_refl depth
    · rw [List.prefix_nil.mp short, BraceReader.read_cons, step]
      exact Int.le_refl depth

theorem plain {c : Char} (notOpening : c ≠ '{') (notClosing : c ≠ '}') (notQuote : c ≠ '"') :
    Passes .outside .outside [c] :=
  single fun depth => by
    simp only [BraceReader.advance, if_neg notQuote, if_neg notOpening, if_neg notClosing]

theorem of_isPlain (isPlain : IsPlain first) : Passes .outside .outside first := by
  induction first with
  | nil => exact nil _
  | cons c rest ih =>
      obtain ⟨notOpening, notClosing, notQuote⟩ := isPlain c List.mem_cons_self
      exact (plain notOpening notClosing notQuote).append
        (ih fun other member => isPlain other (List.mem_cons_of_mem _ member))

theorem braces (within : Passes .outside .outside first) :
    Passes .outside .outside ('{' :: (first ++ ['}'])) := by
  have ends : ∀ depth, BraceReader.read ⟨depth, .outside⟩ ('{' :: (first ++ ['}'])) =
      ⟨depth, .outside⟩ := by
    intro depth
    rw [BraceReader.read_opening, BraceReader.read_append, within.ends,
      BraceReader.read_closing, BraceReader.read_nil]
  refine ⟨ends, ?_⟩
  intro depth before isPrefix
  rcases prefix_enclosed_cases isPrefix with rfl | rfl | ⟨front, short, rfl⟩
  · exact Int.le_refl depth
  · exact Int.le_of_eq (congrArg BraceReader.depth (ends depth)).symm
  · rw [BraceReader.read_opening]
    have deeper := within.stays (depth + 1) front short
    omega

end Passes

/-! ## Quoted text -/

/-- A backslash and a character behind it. -/
theorem passes_escape (c : Char) : Passes .inside .inside ['\\', c] :=
  (Passes.single fun _ => rfl : Passes .inside .escaping ['\\']).append
    (Passes.single fun _ => rfl)

theorem passes_inside {c : Char} (notQuote : c ≠ '"') (notBackslash : c ≠ '\\') :
    Passes .inside .inside [c] :=
  Passes.single fun depth => by
    simp only [BraceReader.advance, if_neg notQuote, if_neg notBackslash]

/-- The digits of an escape are neither braces nor quotes nor backslashes. -/
theorem hexDigit_plain {digit : Nat} (small : digit < 16) :
    hexDigit digit ≠ '"' ∧ hexDigit digit ≠ '\\' ∧ hexDigit digit ≠ '{' ∧ hexDigit digit ≠ '}' := by
  have all : ∀ digit < 16, hexDigit digit ≠ '"' ∧ hexDigit digit ≠ '\\' ∧
      hexDigit digit ≠ '{' ∧ hexDigit digit ≠ '}' := by decide
  exact all digit small

/-- **An escaped character never ends the literal in which it stands.** -/
theorem passes_escaped (c : Char) : Passes .inside .inside (escaped c) := by
  unfold escaped
  split_ifs with quote backslash backspace formFeed newline return_ tab control
  · exact passes_escape _
  · exact passes_escape _
  · exact passes_escape _
  · exact passes_escape _
  · exact passes_escape _
  · exact passes_escape _
  · exact passes_escape _
  · have high := hexDigit_plain (show c.toNat / 16 < 16 by omega)
    have low := hexDigit_plain (show c.toNat % 16 < 16 by omega)
    have zero : Passes .inside .inside ['0'] := passes_inside (by decide) (by decide)
    exact (passes_escape 'u').append (zero.append (zero.append
      ((passes_inside high.1 high.2.1).append (passes_inside low.1 low.2.1))))
  · exact passes_inside quote backslash

theorem toList_quoted (text : String) :
    (quoted text).toList = '"' :: (text.toList.flatMap escaped ++ ['"']) := by
  rw [quoted, String.toList_ofList, List.cons_append]

/-- **Reading a quoted text ends outside of literals, whatever the text is.** -/
theorem passes_quoted (text : String) : Passes .outside .outside (quoted text).toList := by
  have opens : Passes .outside .inside ['"'] := .single fun _ => rfl
  have closes : Passes .inside .outside ['"'] := .single fun _ => rfl
  have body : Passes .inside .inside (text.toList.flatMap escaped) := by
    induction text.toList with
    | nil => exact .nil _
    | cons c rest ih =>
        rw [List.flatMap_cons]
        exact (passes_escaped c).append ih
  rw [toList_quoted]
  exact opens.append (body.append closes)

/-- **A quoted text has the braces of the text.** -/
theorem bracesOf_quoted (text : String) :
    bracesOf (quoted text).toList = bracesOf text.toList := by
  have one : ∀ c, bracesOf (escaped c) = bracesOf [c] := by
    intro c
    unfold escaped
    split_ifs with quote backslash backspace formFeed newline return_ tab control
    iterate 7
      · subst c
        rfl
    · have high := hexDigit_plain (show c.toNat / 16 < 16 by omega)
      have low := hexDigit_plain (show c.toNat % 16 < 16 by omega)
      have digits : BraceFree ['\\', 'u', '0', '0', hexDigit (c.toNat / 16),
          hexDigit (c.toNat % 16)] := by
        simp [BraceFree, high.2.2, low.2.2]
      have self : BraceFree [c] := by
        refine List.forall_mem_singleton.mpr ⟨?_, ?_⟩ <;>
        · rintro rfl
          exact absurd control (by decide)
      rw [digits.bracesOf_eq_nil, self.bracesOf_eq_nil]
    · rfl
  have body : bracesOf (text.toList.flatMap escaped) = bracesOf text.toList := by
    induction text.toList with
    | nil => rfl
    | cons c rest ih =>
        rw [List.flatMap_cons, bracesOf_append, ih, one, ← bracesOf_append, List.singleton_append]
  have mark : bracesOf ['"'] = [] := rfl
  rw [toList_quoted, ← List.singleton_append, bracesOf_append, bracesOf_append, body, mark,
    List.nil_append, List.append_nil]

/-! ## Groups -/

/-- A piece of text for the reader: a quoted text, or characters that are neither braces
nor quotes. -/
inductive IsPiece : List Char → Prop
  | quoted (text : String) : IsPiece (quoted text).toList
  | plain {chars : List Char} (isPlain : IsPlain chars) : IsPiece chars

namespace Nested

variable {chars : List Char}

theorem of_isPlain (isPlain : IsPlain chars) : Nested IsPiece chars := .of_piece (.plain isPlain)

/-- Reading nested text ends outside of literals at the depth at which it began, and never
goes below it. -/
theorem passes (nested : Nested IsPiece chars) : Passes .outside .outside chars := by
  induction nested with
  | nil => exact .nil _
  | piece isPiece _ ih =>
      cases isPiece with
      | quoted text => exact (passes_quoted text).append ih
      | plain isPlain => exact (Passes.of_isPlain isPlain).append ih
  | @group inside rest _ _ within ih =>
      have whole := within.braces.append ih
      rwa [List.cons_append, List.append_assoc] at whole

/-- **Nested text inside a pair of braces is one group.** -/
theorem isBraceGroup (nested : Nested IsPiece chars) : IsBraceGroup ('{' :: (chars ++ ['}'])) := by
  have passes := nested.passes
  -- what stands between the two braces is read at depth one
  have between : ∀ front, front <+: chars → 0 < braceDepth ('{' :: front) := by
    intro front isPrefix
    exact passes.stays 1 front isPrefix
  have whole : braceDepth ('{' :: (chars ++ ['}'])) = 0 := by
    rw [braceDepth, passes.braces.ends]
  constructor
  · rfl
  · rw [← List.cons_append, List.getLast?_concat]
  · intro before isPrefix
    rcases prefix_enclosed_cases isPrefix with rfl | rfl | ⟨front, short, rfl⟩
    · exact Int.le_refl 0
    · exact Int.le_of_eq whole.symm
    · exact Int.le_of_lt (between front short)
  · intro before isPrefix
    rcases prefix_enclosed_cases isPrefix with rfl | rfl | ⟨front, short, rfl⟩
    · simp [braceDepth]
    · simp [whole]
    · have deep := between front short
      have shorter : '{' :: front ≠ '{' :: (chars ++ ['}']) := by
        rintro same
        have lengths := short.length_le
        rw [(List.cons.inj same).2, List.length_append, List.length_singleton] at lengths
        omega
      simp only [shorter, List.cons_ne_nil, or_self, iff_false]
      omega

end Nested

end Text

end GraphSelect
