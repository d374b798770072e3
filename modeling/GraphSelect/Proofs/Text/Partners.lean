import GraphSelect.Proofs.Text.Stripping

/-!
# The partner of the first brace

In balanced text that starts with an opening brace exactly one closing brace belongs to
that brace: the one with balanced text between the two (`FirstGroup`). It is there
(`exists_firstGroup`), and there is no second one (`FirstGroup.unique`).

Taking the outer braces off a fragment only looks at its two ends. When the last character
is the partner of the first one, what is left is the inside; and when the fragment is not
between an opening and a closing brace at all, all of it is left. The third kind of
fragment is several groups side by side, of which the first starts the text and the last
ends it (`EndsApart`). It loses a brace of two different groups, and what is left is not
balanced (`stripOuterBraces_unwraps_iff`).
-/

set_option autoImplicit false

namespace GraphSelect

namespace Text

/-! ## Groups -/

/-- The text starts with an opening brace, and the closing brace behind `inside` is its
partner. -/
structure FirstGroup (chars inside after : List Char) : Prop where
  split : chars = '{' :: (inside ++ '}' :: after)
  /-- Between partners every brace has its own partner. -/
  within : Balanced inside

/-- Reading that starts above depth zero and ends there closes the outermost brace at some
place. In front of it, reading one level lower ends at depth zero. -/
theorem exists_closing_of_depthAfter? {depth : Nat} {chars : List Char}
    (read : depthAfter? (depth + 1) chars = some 0) :
    ∃ inside after, chars = inside ++ '}' :: after ∧ depthAfter? depth inside = some 0 ∧
      depthAfter? 0 after = some 0 := by
  induction chars generalizing depth with
  | nil => cases read
  | cons c rest ih =>
      by_cases opening : c = '{'
      · subst opening
        rw [depthAfter?_opening] at read
        obtain ⟨inside, after, rfl, within, behind⟩ := ih read
        exact ⟨'{' :: inside, after, rfl, within, behind⟩
      · by_cases closing : c = '}'
        · subst closing
          rw [depthAfter?_closing] at read
          cases depth with
          | zero => exact ⟨[], rest, rfl, rfl, read⟩
          | succ outer =>
              obtain ⟨inside, after, rfl, within, behind⟩ := ih read
              exact ⟨'}' :: inside, after, rfl, within, behind⟩
        · rw [depthAfter?_cons_of_ne opening closing] at read
          obtain ⟨inside, after, rfl, within, behind⟩ := ih read
          refine ⟨c :: inside, after, rfl, ?_, behind⟩
          rw [depthAfter?_cons_of_ne opening closing, within]

/-- **The first brace of balanced text has a partner**, and behind it the text is balanced
again. -/
theorem exists_firstGroup {rest : List Char} (balanced : Balanced ('{' :: rest)) :
    ∃ inside after, FirstGroup ('{' :: rest) inside after ∧ Balanced after := by
  rw [Balanced, ← depthAfter?_eq_self_iff, depthAfter?_opening] at balanced
  obtain ⟨inside, after, rfl, within, behind⟩ := exists_closing_of_depthAfter? balanced
  exact ⟨inside, after, ⟨rfl, depthAfter?_eq_self_iff.mp within⟩,
    depthAfter?_eq_self_iff.mp behind⟩

/-- Balanced text with a closing brace behind it starts no balanced text. -/
theorem Balanced.not_append_closing {inside : List Char} (balanced : Balanced inside)
    (rest : List Char) : ¬Balanced (inside ++ '}' :: rest) := by
  intro longer
  rw [Balanced, ← depthAfter?_eq_self_iff] at balanced longer
  rw [depthAfter?_append, balanced, Option.bind_some, depthAfter?_zero_closing] at longer
  cases longer

/-- **The first brace has one partner.** -/
theorem FirstGroup.unique {chars inside inside' after after' : List Char}
    (first : FirstGroup chars inside after) (second : FirstGroup chars inside' after') :
    inside = inside' ∧ after = after' := by
  have same : inside ++ '}' :: after = inside' ++ '}' :: after' :=
    (List.cons.inj (first.split.symm.trans second.split)).2
  rcases List.append_eq_append_iff.mp same with ⟨between, rfl, tail⟩ | ⟨between, rfl, tail⟩
  · cases between with
    | nil => exact ⟨(List.append_nil inside).symm, (List.cons.inj tail).2⟩
    | cons c rest =>
        obtain ⟨rfl, -⟩ := List.cons.inj tail
        exact absurd second.within (first.within.not_append_closing rest)
  · cases between with
    | nil => exact ⟨List.append_nil inside', (List.cons.inj tail).2.symm⟩
    | cons c rest =>
        obtain ⟨rfl, -⟩ := List.cons.inj tail
        exact absurd first.within (second.within.not_append_closing rest)

/-! ## The two ends of a text -/

/-- The text starts with an opening brace and ends with a closing one, and the two are no
partners. -/
def EndsApart (chars : List Char) : Prop :=
  ∃ inside between, FirstGroup chars inside (between ++ ['}'])

theorem FirstGroup.insideBraces?_eq {chars inside : List Char}
    (whole : FirstGroup chars inside []) : insideBraces? chars = some inside :=
  insideBraces?_eq_some_iff.mpr whole.split

theorem FirstGroup.insideBraces?_eq_of_apart {chars inside between : List Char}
    (apart : FirstGroup chars inside (between ++ ['}'])) :
    insideBraces? chars = some (inside ++ '}' :: between) := by
  rw [insideBraces?_eq_some_iff, apart.split, List.append_assoc, List.cons_append]

/-- A text between partners does not have its ends apart. -/
theorem EndsApart.not_firstGroup {chars : List Char} (apart : EndsApart chars) :
    ¬∃ inside, FirstGroup chars inside [] := by
  rintro ⟨inside, whole⟩
  obtain ⟨inside', between, group⟩ := apart
  have none := (whole.unique group).2
  exact absurd none.symm (List.concat_ne_nil '}' between)

/-- **Balanced text has no braces at its ends, or partners, or braces of two groups.** -/
theorem Balanced.ends_cases {chars : List Char} (balanced : Balanced chars) :
    insideBraces? chars = none ∨ (∃ inside, FirstGroup chars inside []) ∨ EndsApart chars := by
  cases found : insideBraces? chars with
  | none => exact .inl rfl
  | some inner =>
      obtain rfl := insideBraces?_eq_some_iff.mp found
      obtain ⟨inside, after, group, -⟩ := exists_firstGroup balanced
      rcases List.eq_nil_or_concat after with rfl | ⟨between, last, rfl⟩
      · exact .inr (.inl ⟨inside, group⟩)
      · have same : inner ++ ['}'] = inside ++ '}' :: between ++ [last] := by
          rw [(List.cons.inj group.split).2, List.concat_eq_append, List.append_assoc,
            List.cons_append]
        obtain rfl : '}' = last := (List.append_singleton_inj.mp same).2
        rw [List.concat_eq_append] at group
        exact .inr (.inr ⟨inside, between, group⟩)

/-! ## What stripping leaves -/

/-- What is left of trimmed text when only a pair of braces around all of it is taken
away. -/
structure Unwraps (chars stripped : List Char) : Prop where
  /-- The partner of the first brace is the last character: its trimmed inside is left. -/
  group : ∀ inside, FirstGroup chars inside [] → stripped = trim inside
  /-- Otherwise all of the text is left. -/
  other : (¬∃ inside, FirstGroup chars inside []) → stripped = chars

theorem toList_stripOuterBraces_of_some {text : String} {inner : List Char}
    (found : insideBraces? (trim text.toList) = some inner) :
    (stripOuterBraces text).toList = trim inner := by
  rw [stripOuterBraces, String.toList_ofList, found, Option.getD_some]

/-- All of a text is longer than what is left without the braces at its ends. -/
theorem trim_inside_ne {chars inner : List Char} (found : insideBraces? chars = some inner) :
    trim inner ≠ chars := by
  intro same
  have short : (trim inner).length ≤ inner.length := by
    rw [trim, trimBack, List.length_reverse]
    exact (List.dropWhile_suffix isBlank).length_le.trans
      ((List.length_reverse ..).trans_le (List.dropWhile_suffix isBlank).length_le)
  rw [same, insideBraces?_eq_some_iff.mp found, List.length_cons, List.length_append] at short
  omega

section Stripped

variable {text : String} {inside between : List Char}

theorem unwraps_of_bare (bare : insideBraces? (trim text.toList) = none) :
    Unwraps (trim text.toList) (stripOuterBraces text).toList := by
  constructor
  · intro inside whole
    rw [whole.insideBraces?_eq] at bare
    cases bare
  · intro _
    rw [stripOuterBraces, String.toList_ofList, bare, Option.getD_none,
      (isTrimmed_trim text.toList).trim_eq_self]

theorem unwraps_of_firstGroup (whole : FirstGroup (trim text.toList) inside []) :
    Unwraps (trim text.toList) (stripOuterBraces text).toList := by
  constructor
  · intro inside' whole'
    rw [toList_stripOuterBraces_of_some whole.insideBraces?_eq, (whole.unique whole').1]
  · intro none
    exact absurd ⟨inside, whole⟩ none

theorem not_unwraps_of_apart (apart : FirstGroup (trim text.toList) inside (between ++ ['}'])) :
    ¬Unwraps (trim text.toList) (stripOuterBraces text).toList := by
  intro unwraps
  have found := apart.insideBraces?_eq_of_apart
  have all := unwraps.other (EndsApart.not_firstGroup ⟨inside, between, apart⟩)
  exact trim_inside_ne found ((toList_stripOuterBraces_of_some found).symm.trans all)

/-- What only loses a pair of partners is balanced still. -/
theorem Unwraps.balanced {chars stripped : List Char} (unwraps : Unwraps chars stripped)
    (balanced : Balanced chars) : Balanced stripped := by
  by_cases whole : ∃ inside, FirstGroup chars inside []
  · obtain ⟨inside, group⟩ := whole
    rw [unwraps.group inside group]
    exact balancedWithin_trim_iff.mpr group.within
  · rwa [unwraps.other whole]

/-- Without the braces at its ends, a text whose ends are apart closes a brace that it has
not opened. -/
theorem unmatchedBrace?_stripOuterBraces_of_apart
    (apart : FirstGroup (trim text.toList) inside (between ++ ['}'])) :
    unmatchedBrace? (stripOuterBraces text) = some .closing := by
  have within := depthAfter?_eq_self_iff.mpr apart.within
  have fails : depthAfter? 0 (trim (inside ++ '}' :: between)) = none := by
    rw [← depthAfter?_bracesOf, bracesOf_trim, depthAfter?_bracesOf, depthAfter?_append, within,
      Option.bind_some, depthAfter?_zero_closing]
  rw [unmatchedBrace?, unmatchedBraceAt_eq,
    toList_stripOuterBraces_of_some apart.insideBraces?_eq_of_apart, fails]

end Stripped

/-- **Stripping takes only a pair of partners away, unless the ends are apart.** What is
left of a balanced fragment is what should be left and is balanced, except for a fragment
that starts with one group and ends with another. That one loses the first brace and the
last, and then a closing brace is without a partner. -/
theorem stripOuterBraces_unwraps_iff (text : String) (matched : unmatchedBrace? text = none) :
    (Unwraps (trim text.toList) (stripOuterBraces text).toList ↔ ¬EndsApart (trim text.toList)) ∧
      (unmatchedBrace? (stripOuterBraces text) = none ↔ ¬EndsApart (trim text.toList)) ∧
        ∀ inside between, FirstGroup (trim text.toList) inside (between ++ ['}']) →
          (stripOuterBraces text).toList = trim (inside ++ '}' :: between) ∧
            unmatchedBrace? (stripOuterBraces text) = some .closing := by
  have balanced : Balanced (trim text.toList) :=
    balancedWithin_trim_iff.mpr (unmatchedBrace?_eq_none_iff.mp matched)
  have unwraps_iff : Unwraps (trim text.toList) (stripOuterBraces text).toList ↔
      ¬EndsApart (trim text.toList) := by
    constructor
    · rintro unwraps ⟨inside, between, apart⟩
      exact not_unwraps_of_apart apart unwraps
    · intro together
      rcases balanced.ends_cases with bare | ⟨inside, whole⟩ | apart
      · exact unwraps_of_bare bare
      · exact unwraps_of_firstGroup whole
      · exact absurd apart together
  refine ⟨unwraps_iff, ⟨?_, fun together => ?_⟩, fun inside between apart => ⟨?_, ?_⟩⟩
  · rintro partnered ⟨inside, between, apart⟩
    rw [unmatchedBrace?_stripOuterBraces_of_apart apart] at partnered
    cases partnered
  · exact unmatchedBrace?_eq_none_iff.mpr ((unwraps_iff.mpr together).balanced balanced)
  · exact toList_stripOuterBraces_of_some apart.insideBraces?_eq_of_apart
  · exact unmatchedBrace?_stripOuterBraces_of_apart apart

/-- A fragment that starts with one group and ends with another. -/
def separateGroups : String := " \x7ba\x7d b \x7bc \x7bd\x7d\x7d\n"

theorem stripOuterBraces_unwraps_iff_separate :
    unmatchedBrace? separateGroups = none ∧
      FirstGroup (trim separateGroups.toList) ['a'] (" b \x7bc \x7bd\x7d".toList ++ ['}']) ∧
      (Unwraps (trim separateGroups.toList) (stripOuterBraces separateGroups).toList ↔
        ¬EndsApart (trim separateGroups.toList)) ∧
      (unmatchedBrace? (stripOuterBraces separateGroups) = none ↔
        ¬EndsApart (trim separateGroups.toList)) ∧
      (stripOuterBraces separateGroups).toList =
        trim (['a'] ++ '}' :: " b \x7bc \x7bd\x7d".toList) ∧
      unmatchedBrace? (stripOuterBraces separateGroups) = some .closing := by
  have matched : unmatchedBrace? separateGroups = none := by decide
  have apart : FirstGroup (trim separateGroups.toList) ['a']
      (" b \x7bc \x7bd\x7d".toList ++ ['}']) := ⟨by decide, by decide⟩
  obtain ⟨unwraps, balanced, falls⟩ := stripOuterBraces_unwraps_iff separateGroups matched
  exact ⟨matched, apart, unwraps, balanced, falls _ _ apart⟩

/-- **Two groups can lose a brace each.** The fragment is balanced, the braces at its ends
are no partners, and still it is not left as it is. -/
theorem stripOuterBraces_loses_partners :
    unmatchedBrace? "\x7b a \x7d \x7b b \x7d" = none ∧
      (¬∃ inside, FirstGroup (trim "\x7b a \x7d \x7b b \x7d".toList) inside []) ∧
      stripOuterBraces "\x7b a \x7d \x7b b \x7d" = "a \x7d \x7b b" ∧
      ¬Unwraps (trim "\x7b a \x7d \x7b b \x7d".toList)
        (stripOuterBraces "\x7b a \x7d \x7b b \x7d").toList ∧
      unmatchedBrace? (stripOuterBraces "\x7b a \x7d \x7b b \x7d") = some .closing := by
  have apart : FirstGroup (trim "\x7b a \x7d \x7b b \x7d".toList) " a ".toList
      (" \x7b b ".toList ++ ['}']) := ⟨by decide, by decide⟩
  exact ⟨by decide, EndsApart.not_firstGroup ⟨_, _, apart⟩, by decide,
    not_unwraps_of_apart apart, by decide⟩

end Text

end GraphSelect
