import GraphSelect.Selection.Layout
import GraphSelect.Text.Blank

/-!
# Reading a selection set

The tokens of a text are its braces and the words between them: the longest runs of
characters that are neither blank nor a brace. A selection set is a sequence of
words, each of which may be followed by a selection set in braces.

The reader of tokens accepts the spellings of trees and nothing else, and it gives
back the tree that was spelled (`Selection.parse_eq_some_iff`). A tree whose names are
words is spelled by its text in every layout whose unit is blank
(`Selection.ofText_textOfAll`): neither the margins nor the missing line end after a
closing brace of compact text lets two tokens run together.
-/

set_option autoImplicit false

namespace GraphSelect

/-! ## Tokens of a text -/

/-- A brace or a word. -/
inductive Token where
  | opening
  | closing
  | word (text : String)
deriving DecidableEq, Repr

namespace Token

/-- The character can stand in a word. -/
def IsWordChar (c : Char) : Prop := Text.isBlank c = false ∧ c ≠ '{' ∧ c ≠ '}'

instance (c : Char) : Decidable (IsWordChar c) :=
  inferInstanceAs (Decidable (Text.isBlank c = false ∧ c ≠ '{' ∧ c ≠ '}'))

/-- The text is a single word. -/
def IsWord (text : String) : Prop := text ≠ "" ∧ ∀ c ∈ text.toList, IsWordChar c

instance (text : String) : Decidable (IsWord text) :=
  decidable_of_iff (text ≠ "" ∧ text.toList.all (fun c => decide (IsWordChar c)) = true)
    (by simp only [IsWord, List.all_eq_true, decide_eq_true_eq])

/-- The word of a run of characters. An empty run has none. -/
def ofRun (run : List Char) : List Token :=
  if run = [] then [] else [word (.ofList run)]

/-- The tokens of the characters, when the characters of `run` stand directly before
them. -/
def scan (run : List Char) : List Char → List Token
  | [] => ofRun run
  | c :: rest =>
    if c = '{' then ofRun run ++ opening :: scan [] rest
    else if c = '}' then ofRun run ++ closing :: scan [] rest
    else if Text.isBlank c then ofRun run ++ scan [] rest
    else scan (run ++ [c]) rest

/-- The tokens of a text. -/
def ofText (text : String) : List Token := scan [] text.toList

theorem scan_nil : scan [] [] = [] := rfl

theorem scan_opening (rest : List Char) : scan [] ('{' :: rest) = opening :: scan [] rest := rfl

theorem scan_closing (rest : List Char) : scan [] ('}' :: rest) = closing :: scan [] rest := rfl

/-- A blank before a token does not matter. -/
theorem scan_blank_cons {c : Char} (blank : Text.isBlank c = true) (rest : List Char) :
    scan [] (c :: rest) = scan [] rest := by
  have notOpening : c ≠ '{' := by
    rintro rfl
    exact absurd blank (by decide)
  have notClosing : c ≠ '}' := by
    rintro rfl
    exact absurd blank (by decide)
  rw [scan, if_neg notOpening, if_neg notClosing, if_pos blank]
  rfl

theorem scan_blank_append {blanks : List Char} (blank : ∀ c ∈ blanks, Text.isBlank c = true)
    (rest : List Char) : scan [] (blanks ++ rest) = scan [] rest := by
  induction blanks with
  | nil => rfl
  | cons c blanks ih =>
      rw [List.cons_append, scan_blank_cons (blank c List.mem_cons_self)]
      exact ih fun c member => blank c (List.mem_cons_of_mem _ member)

/-- Characters of a word are gathered. -/
theorem scan_append {chars : List Char} (plain : ∀ c ∈ chars, IsWordChar c)
    (run rest : List Char) : scan run (chars ++ rest) = scan (run ++ chars) rest := by
  induction chars generalizing run with
  | nil => rw [List.nil_append, List.append_nil]
  | cons c chars ih =>
      obtain ⟨notBlank, notOpening, notClosing⟩ := plain c List.mem_cons_self
      rw [List.cons_append, scan, if_neg notOpening, if_neg notClosing,
        if_neg (by simp [notBlank]), ih fun c member => plain c (List.mem_cons_of_mem _ member),
        List.append_assoc, List.singleton_append]

/-- A word ends before a character that cannot stand in it. -/
theorem scan_run_cons {c : Char} (ends : ¬ IsWordChar c) (run rest : List Char) :
    scan run (c :: rest) = ofRun run ++ scan [] (c :: rest) := by
  simp only [scan]
  split
  · rfl
  · split
    · rfl
    · split
      · rfl
      · next notOpening notClosing notBlank =>
          exact absurd ⟨by simpa using notBlank, notOpening, notClosing⟩ ends

theorem scan_word_append {name : String} (isWord : IsWord name) {c : Char}
    (ends : ¬ IsWordChar c) (rest : List Char) :
    scan [] (name.toList ++ c :: rest) = word name :: scan [] (c :: rest) := by
  obtain ⟨nonempty, plain⟩ := isWord
  have some : name.toList ≠ [] := fun none => nonempty (String.toList_eq_nil_iff.mp none)
  rw [scan_append plain, scan_run_cons ends, List.nil_append, ofRun, if_neg some,
    String.ofList_toList, List.singleton_append]

end Token

namespace Selection

open Token

/-! ## The tokens of a tree -/

mutual

/-- The spelling of one entry. -/
def tokens : Selection → List Token
  | leaf name => [.word name]
  | block name body => .word name :: .opening :: (tokensOfAll body ++ [.closing])

/-- The spelling of a selection set. -/
def tokensOfAll : List Selection → List Token
  | [] => []
  | first :: rest => tokens first ++ tokensOfAll rest

end

theorem tokensOfAll_append (first second : List Selection) :
    tokensOfAll (first ++ second) = tokensOfAll first ++ tokensOfAll second := by
  induction first with
  | nil => rfl
  | cons entry rest ih =>
      simp only [List.cons_append, tokensOfAll, ih, List.append_assoc]

mutual

/-- The names of an entry, at every depth. -/
def names : Selection → List String
  | leaf name => [name]
  | block name body => name :: namesOfAll body

/-- The names of a selection set, at every depth. -/
def namesOfAll : List Selection → List String
  | [] => []
  | first :: rest => names first ++ namesOfAll rest

end

theorem mem_namesOfAll_append {first second : List Selection} {name : String} :
    name ∈ namesOfAll (first ++ second) ↔ name ∈ namesOfAll first ∨ name ∈ namesOfAll second := by
  induction first with
  | nil => simp [namesOfAll]
  | cons entry rest ih => simp [namesOfAll, ih, or_assoc]

/-! ## Reading tokens -/

/-- A selection set of which some tokens are read: the entries of the innermost open
level, the latest first, and the open blocks around it, the innermost first, each
with the entries that stand before it. -/
structure Reading where
  entries : List Selection := []
  enclosing : List (List Selection × String) := []

namespace Reading

/-- One more token. An opening brace needs a name directly before it, a closing one an
open block. -/
def advance : Reading → Token → Option Reading
  | ⟨entries, enclosing⟩, .word name => some ⟨leaf name :: entries, enclosing⟩
  | ⟨leaf name :: entries, enclosing⟩, .opening => some ⟨[], (entries, name) :: enclosing⟩
  | ⟨body, (entries, name) :: enclosing⟩, .closing =>
    some ⟨block name body.reverse :: entries, enclosing⟩
  | _, _ => none

theorem advance_word (reading : Reading) (name : String) :
    reading.advance (.word name) = some ⟨leaf name :: reading.entries, reading.enclosing⟩ := by
  simp only [advance]

/-- The tree, when no block is open. -/
def tree? : Reading → Option (List Selection)
  | ⟨entries, []⟩ => some entries.reverse
  | _ => none

/-- The tokens of open blocks, from the outermost. -/
def openTokens : List (List Selection × String) → List Token
  | [] => []
  | (entries, name) :: enclosing =>
    openTokens enclosing ++ tokensOfAll entries.reverse ++ [.word name, .opening]

/-- All tokens that are read. -/
def tokens (reading : Reading) : List Token :=
  openTokens reading.enclosing ++ tokensOfAll reading.entries.reverse

/-- Reading a token adds it to the tokens that are read. -/
theorem tokens_of_advance {reading next : Reading} {token : Token}
    (step : reading.advance token = some next) : next.tokens = reading.tokens ++ [token] := by
  obtain ⟨entries, enclosing⟩ := reading
  cases token with
  | word name =>
      simp only [advance, Option.some.injEq] at step
      subst step
      simp [tokens, tokensOfAll_append, tokensOfAll, Selection.tokens]
  | opening =>
      cases entries with
      | nil => simp [advance] at step
      | cons last before =>
          cases last with
          | leaf name =>
              simp only [advance, Option.some.injEq] at step
              subst step
              simp [tokens, openTokens, tokensOfAll_append, tokensOfAll, Selection.tokens]
          | block name body => simp [advance] at step
  | closing =>
      cases enclosing with
      | nil => simp [advance] at step
      | cons innermost enclosing =>
          obtain ⟨before, name⟩ := innermost
          simp only [advance, Option.some.injEq] at step
          subst step
          simp [tokens, openTokens, tokensOfAll_append, tokensOfAll, Selection.tokens]

theorem tokens_of_foldlM {input : List Token} {reading last : Reading}
    (steps : input.foldlM advance reading = some last) :
    last.tokens = reading.tokens ++ input := by
  induction input generalizing reading with
  | nil =>
      cases steps
      rw [List.append_nil]
  | cons token rest ih =>
      rw [List.foldlM_cons] at steps
      obtain ⟨next, step, steps⟩ := Option.bind_eq_some_iff.mp steps
      rw [ih steps, tokens_of_advance step, List.append_assoc, List.singleton_append]

end Reading

/-- The tree that the tokens spell, if they spell one. -/
def parse (input : List Token) : Option (List Selection) :=
  (input.foldlM Reading.advance {}) >>= Reading.tree?

open Reading

mutual

/-- Reading the tokens of an entry adds the entry. -/
theorem foldlM_tokens : ∀ (entry : Selection) (entries : List Selection)
    (enclosing : List (List Selection × String)),
    (tokens entry).foldlM advance ⟨entries, enclosing⟩ = some ⟨entry :: entries, enclosing⟩
  | leaf _, _, _ => rfl
  | block name body, entries, enclosing => by
      have inside := foldlM_tokensOfAll body [] ((entries, name) :: enclosing)
      have opened : advance ⟨leaf name :: entries, enclosing⟩ .opening =
          some ⟨[], (entries, name) :: enclosing⟩ := rfl
      have closed : advance ⟨body.reverse, (entries, name) :: enclosing⟩ .closing =
          some ⟨block name body :: entries, enclosing⟩ := by
        simp only [advance, List.reverse_reverse]
      rw [List.append_nil] at inside
      simp only [Selection.tokens, List.foldlM_cons, List.foldlM_append, List.foldlM_nil,
        advance_word, opened, inside, closed, Option.bind_eq_bind, Option.bind_some]
      rfl

theorem foldlM_tokensOfAll : ∀ (new entries : List Selection)
    (enclosing : List (List Selection × String)),
    (tokensOfAll new).foldlM advance ⟨entries, enclosing⟩ =
      some ⟨new.reverse ++ entries, enclosing⟩
  | [], _, _ => rfl
  | first :: rest, entries, enclosing => by
      simp only [tokensOfAll, List.foldlM_append, foldlM_tokens first, Option.bind_eq_bind,
        Option.bind_some, foldlM_tokensOfAll rest, List.reverse_cons, List.append_assoc,
        List.singleton_append]

end

/-- **The reader accepts exactly the spellings of trees, each as the tree it spells.** -/
theorem parse_eq_some_iff {input : List Token} {tree : List Selection} :
    parse input = some tree ↔ input = tokensOfAll tree := by
  constructor
  · intro parsed
    obtain ⟨⟨entries, enclosing⟩, steps, ended⟩ := Option.bind_eq_some_iff.mp parsed
    cases enclosing with
    | nil =>
        cases ended
        exact (Reading.tokens_of_foldlM steps).symm
    | cons innermost enclosing => simp [tree?] at ended
  · rintro rfl
    simp [parse, foldlM_tokensOfAll, tree?]

/-! ## The tokens of laid out text -/

section Layout

variable {unit : String}

theorem isBlank_margin (blank : ∀ c ∈ unit.toList, Text.isBlank c = true) (depth : Nat) :
    ∀ c ∈ (margin unit depth).toList, Text.isBlank c = true := by
  intro c member
  unfold margin at member
  split at member
  · simp at member
  · rw [String.toList_join, List.mem_flatMap] at member
    obtain ⟨part, ofUnit, member⟩ := member
    exact blank c (List.eq_of_mem_replicate ofUnit ▸ member)

theorem isBlank_closingEnd : ∀ c ∈ (closingEnd unit).toList, Text.isBlank c = true := by
  intro c member
  unfold closingEnd at member
  split at member
  · simp at member
  · obtain rfl : c = '\n' := by simpa using member
    decide

mutual

/-- The text of an entry has the tokens of the entry, whatever follows. -/
theorem scan_text (blank : ∀ c ∈ unit.toList, Text.isBlank c = true) :
    ∀ (entry : Selection) (depth : Nat) (rest : List Char),
      (∀ name ∈ names entry, IsWord name) →
        scan [] ((text unit depth entry).toList ++ rest) = tokens entry ++ scan [] rest
  | leaf name, depth, rest, words => by
      have isWord : IsWord name := words name (by simp [names])
      simp only [text, String.toList_append, List.append_assoc]
      rw [scan_blank_append (isBlank_margin blank depth)]
      have line : "\n".toList = ['\n'] := rfl
      rw [line, List.singleton_append, scan_word_append isWord (by decide)]
      exact congrArg _ (scan_blank_cons (by decide) rest)
  | block name body, depth, rest, words => by
      have isWord : IsWord name := words name (by simp [names])
      have inside : ∀ name ∈ namesOfAll body, IsWord name :=
        fun name member => words name (by simp [names, member])
      have head : " \x7b\n".toList = [' ', '{', '\n'] := rfl
      have foot : "\x7d".toList = ['}'] := rfl
      simp only [text, String.toList_append, List.append_assoc, head, foot, List.cons_append,
        List.nil_append, tokens]
      rw [scan_blank_append (isBlank_margin blank depth), scan_word_append isWord (by decide),
        scan_blank_cons (by decide), scan_opening, scan_blank_cons (by decide),
        scan_textOfAll blank body _ _ inside,
        scan_blank_append (isBlank_margin blank depth), scan_closing,
        scan_blank_append isBlank_closingEnd]

theorem scan_textOfAll (blank : ∀ c ∈ unit.toList, Text.isBlank c = true) :
    ∀ (entries : List Selection) (depth : Nat) (rest : List Char),
      (∀ name ∈ namesOfAll entries, IsWord name) →
        scan [] ((textOfAll unit depth entries).toList ++ rest) =
          tokensOfAll entries ++ scan [] rest
  | [], _, _, _ => rfl
  | first :: others, depth, rest, words => by
      simp only [textOfAll, String.toList_append, List.append_assoc, tokensOfAll]
      rw [scan_text blank first depth _
          fun name member => words name (by simp [namesOfAll, member]),
        scan_textOfAll blank others depth rest
          fun name member => words name (by simp [namesOfAll, member])]

end

/-- **The text of a selection set of words spells it, in every blank layout.** -/
theorem ofText_textOfAll (blank : ∀ c ∈ unit.toList, Text.isBlank c = true) (depth : Nat)
    {entries : List Selection} (words : ∀ name ∈ namesOfAll entries, IsWord name) :
    ofText (textOfAll unit depth entries) = tokensOfAll entries := by
  have scanned := scan_textOfAll blank entries depth [] words
  rwa [List.append_nil, scan_nil, List.append_nil] at scanned

end Layout

end Selection

end GraphSelect
