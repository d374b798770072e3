import GraphSelect.Text.Braces
import Mathlib.Data.List.Basic

/-!
# Balanced braces

A text is balanced when no prefix has more closing braces than opening ones and the
whole text has as many of both. `Text.depthAfter?` reads a text and keeps the number of
open braces; it fails at a closing brace that has nothing to close. What it gives is
told by the counts of braces in the prefixes (`Text.depthAfter?_eq_some_iff`), so the
search for a brace without a partner finds none exactly in balanced text
(`Text.unmatchedBrace?_eq_none_iff`), and what it finds in other text tells in which way
the text fails to be balanced (`Text.unmatchedBrace?_decides`).

`Text.Nested` is text in which braces come in pairs by the way it is built. It leaves
the depth as it was (`Text.Nested.depthAfter?_eq`).
-/

set_option autoImplicit false

namespace GraphSelect

namespace Text

/-! ## The marks of a layout -/

theorem toList_opening : "\x7b".toList = ['{'] := rfl

theorem toList_closing : "\x7d".toList = ['}'] := rfl

theorem toList_newline : "\n".toList = ['\n'] := rfl

/-- What follows the name of a block. -/
theorem toList_blockHead : " \x7b\n".toList = [' ', '{', '\n'] := rfl

/-! ## Balance by counting -/

/-- Inside `around` open braces, no prefix closes more braces than are open, and at the
end the same braces are open again. -/
structure BalancedWithin (around : Nat) (chars : List Char) : Prop where
  prefixes : ∀ before, before <+: chars → before.count '}' ≤ around + before.count '{'
  totals : chars.count '{' = chars.count '}'

/-- No prefix has more closing braces than opening ones, and the totals are equal. -/
abbrev Balanced (chars : List Char) : Prop := BalancedWithin 0 chars

/-! ## Reading the depth -/

/-- The number of open braces after one more character. -/
def depthStep (depth : Nat) (c : Char) : Option Nat :=
  if c = '{' then some (depth + 1)
  else if c = '}' then if depth = 0 then none else some (depth - 1)
  else some depth

/-- The number of open braces after the characters. -/
def depthAfter? (depth : Nat) (chars : List Char) : Option Nat := chars.foldlM depthStep depth

@[simp] theorem depthAfter?_nil (depth : Nat) : depthAfter? depth [] = some depth := rfl

theorem depthAfter?_opening (depth : Nat) (rest : List Char) :
    depthAfter? depth ('{' :: rest) = depthAfter? (depth + 1) rest := rfl

theorem depthAfter?_closing (depth : Nat) (rest : List Char) :
    depthAfter? (depth + 1) ('}' :: rest) = depthAfter? depth rest := rfl

theorem depthAfter?_zero_closing (rest : List Char) : depthAfter? 0 ('}' :: rest) = none := rfl

theorem depthAfter?_cons_of_ne {c : Char} (notOpening : c ≠ '{') (notClosing : c ≠ '}')
    (depth : Nat) (rest : List Char) :
    depthAfter? depth (c :: rest) = depthAfter? depth rest := by
  simp only [depthAfter?, List.foldlM_cons, depthStep, if_neg notOpening, if_neg notClosing,
    Option.bind_eq_bind, Option.bind_some]

theorem depthAfter?_append (depth : Nat) (first second : List Char) :
    depthAfter? depth (first ++ second) =
      (depthAfter? depth first).bind (depthAfter? · second) :=
  List.foldlM_append

theorem forall_prefix_cons_iff {α : Type} {first : α} {rest : List α}
    {holds : List α → Prop} :
    (∀ before, before <+: first :: rest → holds before) ↔
      holds [] ∧ ∀ before, before <+: rest → holds (first :: before) := by
  constructor
  · intro all
    exact ⟨all [] List.nil_prefix, fun before isPrefix =>
      all _ (List.cons_prefix_cons.mpr ⟨rfl, isPrefix⟩)⟩
  · rintro ⟨atNil, atCons⟩ before isPrefix
    rcases List.prefix_cons_iff.mp isPrefix with rfl | ⟨front, rfl, inRest⟩
    · exact atNil
    · exact atCons front inRest

/-- **The depth that reading keeps is the one that counting gives.** -/
theorem depthAfter?_eq_some_iff {chars : List Char} {depth last : Nat} :
    depthAfter? depth chars = some last ↔
      (∀ before, before <+: chars → before.count '}' ≤ depth + before.count '{') ∧
        depth + chars.count '{' = last + chars.count '}' := by
  induction chars generalizing depth with
  | nil => simp [List.prefix_nil]
  | cons c rest ih =>
      rw [forall_prefix_cons_iff]
      by_cases opening : c = '{'
      · subst opening
        simp only [depthAfter?_opening, ih, List.count_cons]
        grind
      · by_cases closing : c = '}'
        · subst closing
          cases depth with
          | zero =>
              rw [depthAfter?_zero_closing]
              simp only [reduceCtorEq, false_iff, not_and]
              rintro ⟨-, starts⟩
              exact absurd (starts [] List.nil_prefix) (by decide)
          | succ outer =>
              simp only [depthAfter?_closing, ih, List.count_cons]
              grind
        · rw [depthAfter?_cons_of_ne opening closing, ih]
          simp [opening, closing]

theorem depthAfter?_eq_self_iff {around : Nat} {chars : List Char} :
    depthAfter? around chars = some around ↔ BalancedWithin around chars := by
  rw [depthAfter?_eq_some_iff]
  exact ⟨fun ⟨prefixes, totals⟩ => ⟨prefixes, Nat.add_left_cancel totals⟩,
    fun ⟨prefixes, totals⟩ => ⟨prefixes, congrArg (around + ·) totals⟩⟩

instance (around : Nat) (chars : List Char) : Decidable (BalancedWithin around chars) :=
  decidable_of_iff _ depthAfter?_eq_self_iff

/-! ## Braces without a partner -/

/-- The brace without a partner is told by the depth: a closing one where reading fails,
an opening one where something stays open. -/
theorem unmatchedBraceAt_eq (depth : Nat) (chars : List Char) :
    unmatchedBraceAt depth chars =
      match depthAfter? depth chars with
      | none => some .closing
      | some 0 => none
      | some (_ + 1) => some .opening := by
  induction chars generalizing depth with
  | nil => cases depth <;> rfl
  | cons c rest ih =>
      by_cases opening : c = '{'
      · subst opening
        rw [depthAfter?_opening, ← ih]
        rfl
      · by_cases closing : c = '}'
        · subst closing
          cases depth with
          | zero => rfl
          | succ outer =>
              rw [depthAfter?_closing, ← ih]
              rfl
        · rw [depthAfter?_cons_of_ne opening closing, ← ih]
          simp only [unmatchedBraceAt, if_neg opening, if_neg closing]

/-- **A text has a partner for every brace exactly when it is balanced.** -/
theorem unmatchedBrace?_eq_none_iff {text : String} :
    unmatchedBrace? text = none ↔ Balanced text.toList := by
  rw [Balanced, ← depthAfter?_eq_self_iff, unmatchedBrace?, unmatchedBraceAt_eq]
  cases depthAfter? 0 text.toList with
  | none => simp
  | some depth => cases depth <;> simp

/-! ## Braces alone -/

/-- The braces of a text, in order. -/
def bracesOf (chars : List Char) : List Char := chars.filter fun c => c = '{' ∨ c = '}'

theorem bracesOf_append (first second : List Char) :
    bracesOf (first ++ second) = bracesOf first ++ bracesOf second :=
  List.filter_append first second

/-- Only the braces of a text matter for the depth. -/
theorem depthAfter?_bracesOf (depth : Nat) (chars : List Char) :
    depthAfter? depth (bracesOf chars) = depthAfter? depth chars := by
  induction chars generalizing depth with
  | nil => rfl
  | cons c rest ih =>
      by_cases brace : c = '{' ∨ c = '}'
      · rw [bracesOf, List.filter_cons_of_pos (by simpa using brace), ← bracesOf]
        simp only [depthAfter?, List.foldlM_cons] at ih ⊢
        cases depthStep depth c with
        | none => rfl
        | some next => exact ih next
      · rw [bracesOf, List.filter_cons_of_neg (by simpa using brace), ← bracesOf, ih,
          depthAfter?_cons_of_ne (fun same => brace (.inl same)) fun same => brace (.inr same)]

theorem balancedWithin_bracesOf_iff {around : Nat} {chars : List Char} :
    BalancedWithin around (bracesOf chars) ↔ BalancedWithin around chars := by
  rw [← depthAfter?_eq_self_iff, ← depthAfter?_eq_self_iff, depthAfter?_bracesOf]

/-- The characters are no braces. -/
def BraceFree (chars : List Char) : Prop := ∀ c ∈ chars, c ≠ '{' ∧ c ≠ '}'

instance (chars : List Char) : Decidable (BraceFree chars) :=
  List.decidableBAll (fun c => c ≠ '{' ∧ c ≠ '}') chars

theorem BraceFree.bracesOf_eq_nil {chars : List Char} (free : BraceFree chars) :
    bracesOf chars = [] := by
  rw [bracesOf, List.filter_eq_nil_iff]
  intro c member
  simpa using free c member

/-- A separator without braces does not show among the braces of a list. -/
theorem bracesOf_intercalate {separator : List Char} (free : BraceFree separator)
    (texts : List (List Char)) :
    bracesOf (separator.intercalate texts) = texts.flatMap bracesOf := by
  induction texts with
  | nil => rfl
  | cons text rest ih =>
      cases rest with
      | nil => rw [List.intercalate_singleton, List.flatMap_singleton]
      | cons next others =>
          rw [List.intercalate_cons_cons, bracesOf_append, bracesOf_append, free.bracesOf_eq_nil,
            List.append_nil, ih, List.flatMap_cons (x := text)]

/-- What is balanced alone is balanced inside of any braces. -/
theorem Balanced.within {chars : List Char} (balanced : Balanced chars) (around : Nat) :
    BalancedWithin around chars where
  prefixes before isPrefix := by
    have enough := balanced.prefixes before isPrefix
    omega
  totals := balanced.totals

theorem BalancedWithin.nil (around : Nat) : BalancedWithin around [] :=
  depthAfter?_eq_self_iff.mp rfl

theorem BalancedWithin.append {around : Nat} {first second : List Char}
    (front : BalancedWithin around first) (back : BalancedWithin around second) :
    BalancedWithin around (first ++ second) := by
  rw [← depthAfter?_eq_self_iff] at front back ⊢
  rw [depthAfter?_append, front, Option.bind_some, back]

theorem BalancedWithin.flatMap {α : Type} {around : Nat} {items : List α}
    {charsOf : α → List Char} (each : ∀ item ∈ items, BalancedWithin around (charsOf item)) :
    BalancedWithin around (items.flatMap charsOf) := by
  induction items with
  | nil => exact .nil around
  | cons first rest ih =>
      rw [List.flatMap_cons]
      exact (each first List.mem_cons_self).append
        (ih fun item member => each item (List.mem_cons_of_mem first member))

theorem BalancedWithin.braces {around : Nat} {chars : List Char}
    (within : BalancedWithin (around + 1) chars) :
    BalancedWithin around ('{' :: (chars ++ ['}'])) := by
  rw [← depthAfter?_eq_self_iff] at within ⊢
  rw [depthAfter?_opening, depthAfter?_append, within, Option.bind_some, depthAfter?_closing,
    depthAfter?_nil]

/-! ## What the search finds -/

/-- Some prefix has more closing braces than opening ones. -/
def Overcloses (chars : List Char) : Prop :=
  ∃ before, before <+: chars ∧ before.count '{' < before.count '}'

theorem not_overcloses_iff {chars : List Char} :
    ¬Overcloses chars ↔ ∀ before, before <+: chars → before.count '}' ≤ before.count '{' := by
  simp only [Overcloses, not_exists, not_and, Nat.not_lt]

theorem balanced_iff {chars : List Char} :
    Balanced chars ↔ ¬Overcloses chars ∧ chars.count '{' = chars.count '}' := by
  rw [not_overcloses_iff, Balanced, ← depthAfter?_eq_self_iff, depthAfter?_eq_some_iff]
  simp only [Nat.zero_add]

/-- Reading the depth fails exactly where a closing brace has nothing to close. -/
theorem depthAfter?_eq_none_iff {chars : List Char} :
    depthAfter? 0 chars = none ↔ Overcloses chars := by
  constructor
  · intro fails
    by_contra never
    have enough := not_overcloses_iff.mp never
    have total := enough chars List.prefix_rfl
    have read : depthAfter? 0 chars = some (chars.count '{' - chars.count '}') := by
      rw [depthAfter?_eq_some_iff]
      exact ⟨by simpa only [Nat.zero_add] using enough, by omega⟩
    rw [fails] at read
    cases read
  · rintro ⟨before, isPrefix, more⟩
    rw [Option.eq_none_iff_forall_ne_some]
    intro last read
    have enough := (depthAfter?_eq_some_iff.mp read).1 before isPrefix
    omega

instance (chars : List Char) : Decidable (Overcloses chars) :=
  decidable_of_iff _ depthAfter?_eq_none_iff

/-- Something stays open exactly when nothing is closed too often and more is opened than
closed. -/
theorem unmatchedBrace?_eq_opening_iff {text : String} :
    unmatchedBrace? text = some .opening ↔
      ¬Overcloses text.toList ∧ text.toList.count '}' < text.toList.count '{' := by
  rw [← depthAfter?_eq_none_iff, unmatchedBrace?, unmatchedBraceAt_eq]
  cases read : depthAfter? 0 text.toList with
  | none => simp
  | some depth =>
      have totals := (depthAfter?_eq_some_iff.mp read).2
      cases depth with
      | zero => simp only [reduceCtorEq, not_false_eq_true, true_and, false_iff]; omega
      | succ outer => simp only [reduceCtorEq, not_false_eq_true, true_and, true_iff]; omega

theorem unmatchedBrace?_eq_closing_iff {text : String} :
    unmatchedBrace? text = some .closing ↔ Overcloses text.toList := by
  rw [← depthAfter?_eq_none_iff, unmatchedBrace?, unmatchedBraceAt_eq]
  cases depthAfter? 0 text.toList with
  | none => simp
  | some depth => cases depth <;> simp

/-- **The search for a brace without a partner decides balance.** It finds a closing brace
exactly when a prefix closes too much, an opening one when no prefix does and the whole
text opens too much, and none when the text is balanced. So two texts in which it finds
none can be put one after the other, and a pair of braces can be put around one. -/
theorem unmatchedBrace?_decides (text : String) :
    (unmatchedBrace? text = some .closing ↔ Overcloses text.toList) ∧
      (unmatchedBrace? text = some .opening ↔
        ¬Overcloses text.toList ∧ text.toList.count '}' < text.toList.count '{') ∧
      (unmatchedBrace? text = none ↔
        ¬Overcloses text.toList ∧ text.toList.count '{' = text.toList.count '}') ∧
      ∀ other, unmatchedBrace? text = none → unmatchedBrace? other = none →
        unmatchedBrace? (text ++ other) = none ∧
          unmatchedBrace? ("\x7b" ++ text ++ "\x7d") = none := by
  refine ⟨unmatchedBrace?_eq_closing_iff, unmatchedBrace?_eq_opening_iff,
    unmatchedBrace?_eq_none_iff.trans balanced_iff, fun other passes otherPasses => ?_⟩
  have balanced : Balanced text.toList := unmatchedBrace?_eq_none_iff.mp passes
  have otherBalanced : Balanced other.toList := unmatchedBrace?_eq_none_iff.mp otherPasses
  constructor
  · rw [unmatchedBrace?_eq_none_iff, String.toList_append]
    exact balanced.append otherBalanced
  · rw [unmatchedBrace?_eq_none_iff, String.toList_append, String.toList_append, toList_opening,
      toList_closing]
    exact (balanced.within 1).braces

theorem unmatchedBrace?_decides_siblings :
    unmatchedBrace? "\x7ba\x7d \x7bb \x7bc\x7d\x7d" = none ∧ unmatchedBrace? "d \x7b\x7d" = none ∧
      unmatchedBrace? ("\x7ba\x7d \x7bb \x7bc\x7d\x7d" ++ "d \x7b\x7d") = none ∧
      unmatchedBrace? ("\x7b" ++ "\x7ba\x7d \x7bb \x7bc\x7d\x7d" ++ "\x7d") = none := by
  have passes : unmatchedBrace? "\x7ba\x7d \x7bb \x7bc\x7d\x7d" = none := by decide
  have otherPasses : unmatchedBrace? "d \x7b\x7d" = none := by decide
  exact ⟨passes, otherPasses, (unmatchedBrace?_decides _).2.2.2 _ passes otherPasses⟩

-- A text with a closing brace too many and an opening one too many: the closing one counts.
example : unmatchedBrace? "a\x7d \x7bb\x7b" = some .closing ∧
    Overcloses "a\x7d \x7bb\x7b".toList := by
  decide

/-! ## Nested text -/

/-- Text that is made of pieces and of groups, where a group is such text inside a pair
of braces. -/
inductive Nested (piece : List Char → Prop) : List Char → Prop
  | nil : Nested piece []
  | piece {chars rest : List Char} (isPiece : piece chars) (after : Nested piece rest) :
      Nested piece (chars ++ rest)
  | group {inside rest : List Char} (within : Nested piece inside)
      (after : Nested piece rest) : Nested piece ('{' :: (inside ++ '}' :: rest))

namespace Nested

variable {piece : List Char → Prop} {first second : List Char}

theorem of_piece (isPiece : piece first) : Nested piece first := by
  simpa using Nested.piece isPiece .nil

theorem append (before : Nested piece first) (after : Nested piece second) :
    Nested piece (first ++ second) := by
  induction before with
  | nil => exact after
  | piece isPiece _ ih =>
      rw [List.append_assoc]
      exact .piece isPiece ih
  | group within _ _ ih =>
      simp only [List.cons_append, List.append_assoc]
      exact .group within ih

theorem braces (within : Nested piece first) : Nested piece ('{' :: (first ++ ['}'])) :=
  .group within .nil

/-- Nested texts with a separator between them are nested text. -/
theorem intercalate {separator : List Char} (between : Nested piece separator)
    {texts : List (List Char)} (each : ∀ text ∈ texts, Nested piece text) :
    Nested piece (separator.intercalate texts) := by
  induction texts with
  | nil => exact .nil
  | cons text rest ih =>
      have others := ih fun other member => each other (List.mem_cons_of_mem _ member)
      have here := each text List.mem_cons_self
      cases rest with
      | nil => rwa [List.intercalate_singleton]
      | cons next rest =>
          rw [List.intercalate_cons_cons]
          exact (here.append between).append others

/-- **Nested text leaves the depth as it was**, when its pieces have no braces. -/
theorem depthAfter?_eq (nested : Nested BraceFree first) (depth : Nat) :
    depthAfter? depth first = some depth := by
  induction nested generalizing depth with
  | nil => rfl
  | piece isPiece _ ih =>
      rw [depthAfter?_append, ← depthAfter?_bracesOf, isPiece.bracesOf_eq_nil, depthAfter?_nil,
        Option.bind_some, ih]
  | group _ _ inside after =>
      rw [depthAfter?_opening, depthAfter?_append, inside, Option.bind_some,
        depthAfter?_closing, after]

end Nested

end Text

end GraphSelect
