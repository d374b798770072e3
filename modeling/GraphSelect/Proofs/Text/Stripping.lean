import GraphSelect.Proofs.Text.Balance
import Mathlib.Data.List.TakeWhile

/-!
# Stripped fragments

A fragment is stripped in three steps: the blanks around it go, then one brace at the
very front together with one at the very end, then the blanks inside of them.

Text that begins and ends without a blank is what trimming leaves of it inside of any
blanks (`IsTrimmed.trim_eq`), so such text comes back from a pair of braces unchanged
(`stripOuterBraces_of_enclosed`).

Blanks are no braces, so trimming keeps the balance. The brace at the front of balanced
text and the one at the end need not belong together. Without them the text can close one
brace more than it has opened so far, and no more than that: stripped balanced text is
balanced inside of one open brace (`balancedWithin_stripOuterBraces`).
-/

set_option autoImplicit false

namespace GraphSelect

namespace Text

/-! ## Trimming -/

/-- The characters neither begin nor end with a blank. -/
structure IsTrimmed (chars : List Char) : Prop where
  starts : ∀ c ∈ chars.head?, isBlank c = false
  ends : ∀ c ∈ chars.getLast?, isBlank c = false

theorem trimFront_append {blanks : List Char} (blank : ∀ c ∈ blanks, isBlank c = true)
    (rest : List Char) : trimFront (blanks ++ rest) = trimFront rest :=
  List.dropWhile_append_of_pos blank

theorem trimFront_eq_self {chars : List Char} (starts : ∀ c ∈ chars.head?, isBlank c = false) :
    trimFront chars = chars := by
  cases chars with
  | nil => rfl
  | cons c rest =>
      apply List.dropWhile_cons_of_neg
      simpa using starts c rfl

/-- **Trimming removes the blanks around a text and nothing else.** -/
theorem IsTrimmed.trim_eq {front chars back : List Char} (trimmed : IsTrimmed chars)
    (before : ∀ c ∈ front, isBlank c = true) (behind : ∀ c ∈ back, isBlank c = true) :
    trim (front ++ chars ++ back) = chars := by
  have reversed : ∀ c ∈ back.reverse, isBlank c = true := by
    intro c member
    exact behind c (List.mem_reverse.mp member)
  rw [trim, List.append_assoc, trimFront_append before]
  cases chars with
  | nil =>
      have none := trimFront_append behind []
      rw [List.append_nil] at none
      rw [List.nil_append, none]
      rfl
  | cons c rest =>
      have starts : trimFront (c :: rest ++ back) = c :: rest ++ back :=
        trimFront_eq_self fun first member => trimmed.starts first member
      have ends : trimFront (c :: rest).reverse = (c :: rest).reverse := by
        apply trimFront_eq_self
        intro last member
        rw [List.head?_reverse] at member
        exact trimmed.ends last member
      rw [starts, trimBack, List.reverse_append, trimFront_append reversed, ends,
        List.reverse_reverse]

theorem IsTrimmed.trim_eq_self {chars : List Char} (trimmed : IsTrimmed chars) :
    trim chars = chars := by
  have whole : trim ([] ++ chars ++ []) = chars :=
    trimmed.trim_eq (fun _ member => nomatch member) fun _ member => nomatch member
  rwa [List.nil_append, List.append_nil] at whole

theorem head?_trimFront (chars : List Char) :
    ∀ c ∈ (trimFront chars).head?, isBlank c = false := by
  intro c member
  have first := List.head?_dropWhile_not isBlank chars
  rw [trimFront, Option.mem_def] at member
  rwa [member] at first

/-- What trimming leaves does not begin or end with a blank. -/
theorem isTrimmed_trim (chars : List Char) : IsTrimmed (trim chars) := by
  have front : trim chars <+: trimFront chars := by
    rw [trim, trimBack, trimFront, ← List.reverse_suffix, List.reverse_reverse]
    exact List.dropWhile_suffix isBlank
  constructor
  · intro c member
    obtain ⟨back, whole⟩ := front
    apply head?_trimFront chars
    rw [← whole, List.head?_append, Option.mem_def.mp member]
    rfl
  · intro c member
    rw [trim, trimBack, List.getLast?_reverse] at member
    exact head?_trimFront _ c member

/-! ## The outer braces -/

theorem insideBraces?_eq_some_iff {chars inside : List Char} :
    insideBraces? chars = some inside ↔ chars = '{' :: (inside ++ ['}']) := by
  constructor
  · intro found
    cases chars with
    | nil => cases found
    | cons first rest =>
        rw [insideBraces?] at found
        split at found
        · next braces =>
            obtain ⟨rfl, last⟩ := braces
            obtain ⟨front, rfl⟩ := List.getLast?_eq_some_iff.mp last
            rw [List.dropLast_concat] at found
            rw [Option.some.inj found]
        · cases found
  · rintro rfl
    simp [insideBraces?]

/-- **Trimmed text comes back from inside a pair of braces**, whatever blanks stand
between the text and the braces. -/
theorem stripOuterBraces_of_enclosed {text body : String} {front back : List Char}
    (enclosed : text.toList = '{' :: (front ++ body.toList ++ back ++ ['}']))
    (before : ∀ c ∈ front, isBlank c = true) (behind : ∀ c ∈ back, isBlank c = true)
    (trimmed : IsTrimmed body.toList) : stripOuterBraces text = body := by
  have whole : IsTrimmed text.toList := by
    rw [enclosed]
    constructor
    · intro c member
      obtain rfl : '{' = c := by simpa using member
      decide
    · intro c member
      rw [← List.cons_append, List.getLast?_concat] at member
      obtain rfl : '}' = c := by simpa using member
      decide
  rw [stripOuterBraces, whole.trim_eq_self,
    insideBraces?_eq_some_iff.mpr enclosed, Option.getD_some, trimmed.trim_eq before behind,
    String.ofList_toList]

/-! ## Balance -/

theorem bracesOf_trimFront (chars : List Char) :
    bracesOf (trimFront chars) = bracesOf chars := by
  have free : BraceFree (chars.takeWhile isBlank) := by
    intro c member
    have blank : isBlank c = true := List.mem_takeWhile_imp member
    constructor <;>
    · rintro rfl
      exact absurd blank (by decide)
  calc bracesOf (trimFront chars)
      = bracesOf (chars.takeWhile isBlank ++ trimFront chars) := by
        rw [bracesOf_append, free.bracesOf_eq_nil, List.nil_append]
    _ = bracesOf chars := congrArg bracesOf List.takeWhile_append_dropWhile

/-- Trimming removes no brace. -/
theorem bracesOf_trim (chars : List Char) : bracesOf (trim chars) = bracesOf chars := by
  have reversed : ∀ chars : List Char, bracesOf chars.reverse = (bracesOf chars).reverse :=
    fun chars => List.filter_reverse
  rw [trim, trimBack, reversed, bracesOf_trimFront, reversed, List.reverse_reverse,
    bracesOf_trimFront]

theorem balancedWithin_trim_iff {around : Nat} {chars : List Char} :
    BalancedWithin around (trim chars) ↔ BalancedWithin around chars := by
  rw [← balancedWithin_bracesOf_iff, bracesOf_trim, balancedWithin_bracesOf_iff]

/-- Without the braces at its ends, balanced text is balanced inside of one more. -/
theorem BalancedWithin.of_braces {around : Nat} {inside : List Char}
    (balanced : BalancedWithin around ('{' :: (inside ++ ['}']))) :
    BalancedWithin (around + 1) inside := by
  rw [← depthAfter?_eq_self_iff] at balanced ⊢
  rw [depthAfter?_opening, depthAfter?_append] at balanced
  obtain ⟨depth, read, closed⟩ := Option.bind_eq_some_iff.mp balanced
  cases depth with
  | zero => cases closed
  | succ outer =>
      rw [depthAfter?_closing, depthAfter?_nil] at closed
      cases closed
      exact read

/-- **Stripped balanced text is balanced inside of one open brace.** -/
theorem balancedWithin_stripOuterBraces {text : String} (balanced : Balanced text.toList) :
    BalancedWithin 1 (stripOuterBraces text).toList := by
  have trimmed : Balanced (trim text.toList) := balancedWithin_trim_iff.mpr balanced
  rw [stripOuterBraces, String.toList_ofList, balancedWithin_trim_iff]
  cases found : insideBraces? (trim text.toList) with
  | none => exact trimmed.within 1
  | some inside =>
      rw [insideBraces?_eq_some_iff.mp found] at trimmed
      exact trimmed.of_braces

end Text

end GraphSelect
