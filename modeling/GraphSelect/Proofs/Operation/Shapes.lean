import GraphSelect.Proofs.Operation.Acceptance

/-!
# The shapes of a call

A call is a named operation with parameters when it starts with a text, a value and a
selector. It is one without parameters when it starts with a text and a selector and its
third argument does not count: there is none, or it is a text or a falsy value. Every other
call is the list of all its texts.

`classify_shapes` says this as equivalences, so that no call is of two shapes and no value
in the place of the parameters is refused. No more than three arguments decide about a
named operation.
-/

set_option autoImplicit false

namespace GraphSelect

/-! ## Arguments that do not count -/

/-- Null, false, a number equal to zero, the empty text. -/
inductive Json.Falsy : Json → Prop where
  | null : Falsy .null
  | false : Falsy (.bool false)
  | integer {number : Integer} (zero : number.value = 0) : Falsy (.number (.integer number))
  | double {number : Double} (zero : number.units = 0) : Falsy (.number (.double number))
  | emptyText : Falsy (.string "")

theorem Json.isFalsy_iff {json : Json} : json.isFalsy = true ↔ json.Falsy := by
  constructor
  · intro falsy
    cases json with
    | null => exact .null
    | bool value =>
        cases value with
        | false => exact .false
        | true => cases falsy
    | number number =>
        cases number with
        | integer number => exact .integer (beq_iff_eq.mp falsy)
        | double number => exact .double (beq_iff_eq.mp falsy)
    | string text =>
        rw [isFalsy, String.isEmpty_iff] at falsy
        exact falsy ▸ .emptyText
    | array items => cases falsy
    | object members => cases falsy
  · intro falsy
    cases falsy with
    | null => rfl
    | false => rfl
    | integer zero => exact beq_iff_eq.mpr zero
    | double zero => exact beq_iff_eq.mpr zero
    | emptyText => rfl

/-- A third argument that does not count: a text or a falsy value. -/
inductive Argument.Discounted : Argument → Prop where
  | text (text : String) : Discounted (.text text)
  | falsy {value : Json} (falsy : value.Falsy) : Discounted (.value value)

namespace Request

/-- A selector for parameters is not looked for exactly when the third argument is missing
or does not count. -/
theorem takesParameters_eq_false_iff {rest : List Argument} :
    takesParameters rest = false ↔ ∀ third ∈ rest.head?, third.Discounted := by
  cases rest with
  | nil => exact ⟨fun _ _ member => (nomatch member), fun _ => rfl⟩
  | cons third others =>
      have first : (∀ argument ∈ (third :: others).head?, argument.Discounted) ↔
          third.Discounted := by
        simp
      rw [first]
      cases third with
      | text text => exact ⟨fun _ => .text text, fun _ => rfl⟩
      | value json =>
          have counts : takesParameters (.value json :: others) = !json.isFalsy := rfl
          rw [counts, Bool.not_eq_false', Json.isFalsy_iff]
          exact ⟨.falsy, fun (.falsy falsy) => falsy⟩
      | selector selector => exact ⟨nofun, nofun⟩

/-! ## What a call starts with -/

section Starts

variable {arguments : List Argument} {name : String} {selector : Selector}

theorem exists_named?_with_iff {parameters : Parameters} :
    (∃ used, named? arguments = some (.named name (some parameters) selector, used)) ↔
      ∃ value, [.text name, .value value, .selector selector] <+: arguments ∧
        parameters = .ofValue value := by
  constructor
  · rintro ⟨used, shape⟩
    obtain ⟨_, _, _, rfl, _, same⟩ | ⟨_, value, _, rest, rfl, same⟩ := named?_eq_some_iff.mp shape
    · cases same
    · cases same
      exact ⟨value, ⟨rest, rfl⟩, rfl⟩
  · rintro ⟨value, ⟨rest, rfl⟩, rfl⟩
    exact ⟨3, named?_eq_some_iff.mpr (.inr ⟨name, value, selector, rest, rfl, rfl⟩)⟩

theorem exists_named?_plain_iff :
    (∃ used, named? arguments = some (.named name none selector, used)) ↔
      [.text name, .selector selector] <+: arguments ∧
        ∀ third ∈ arguments[2]?, third.Discounted := by
  constructor
  · rintro ⟨used, shape⟩
    obtain ⟨_, _, rest, rfl, plain, same⟩ | ⟨_, _, _, _, rfl, same⟩ := named?_eq_some_iff.mp shape
    · cases same
      refine ⟨⟨rest, rfl⟩, fun third member => ?_⟩
      exact takesParameters_eq_false_iff.mp plain third (List.head?_eq_getElem? ▸ member)
    · cases same
  · rintro ⟨⟨rest, rfl⟩, discounted⟩
    have plain : takesParameters rest = false := by
      rw [takesParameters_eq_false_iff, List.head?_eq_getElem?]
      exact discounted
    exact ⟨2, named?_eq_some_iff.mpr (.inl ⟨name, selector, rest, rfl, plain, rfl⟩)⟩

/-- A call whose front is no named operation is one of neither shape. -/
theorem named?_eq_none_iff :
    named? arguments = none ↔
      (∀ name value selector, ¬[.text name, .value value, .selector selector] <+: arguments) ∧
        ∀ name selector, [.text name, .selector selector] <+: arguments →
          ∃ third ∈ arguments[2]?, ¬third.Discounted := by
  constructor
  · intro none
    constructor
    · intro name value selector starts
      obtain ⟨used, shape⟩ := exists_named?_with_iff.mpr ⟨value, starts, rfl⟩
      rw [none] at shape
      cases shape
    · intro name selector starts
      by_contra all
      push Not at all
      obtain ⟨used, shape⟩ := exists_named?_plain_iff.mpr ⟨starts, all⟩
      rw [none] at shape
      cases shape
  · rintro ⟨noneWith, nonePlain⟩
    rw [Option.eq_none_iff_forall_not_mem]
    rintro found shape
    obtain ⟨name, selector, _, rfl, plain, rfl⟩ | ⟨name, value, selector, rest, rfl, rfl⟩ :=
      named?_eq_some_iff.mp shape
    · obtain ⟨starts, discounted⟩ := exists_named?_plain_iff.mp ⟨2, shape⟩
      obtain ⟨third, member, counts⟩ := nonePlain name selector starts
      exact counts (discounted third member)
    · exact noneWith name value selector ⟨rest, rfl⟩

/-- Three arguments decide. -/
theorem named?_take (arguments : List Argument) : named? (arguments.take 3) = named? arguments := by
  match arguments with
  | [] => rfl
  | [_] => rfl
  | [_, _] => rfl
  | first :: second :: third :: rest =>
      cases first <;> cases second <;> cases third <;> rfl

end Starts

/-! ## The request of a call -/

section Classify

variable {arguments : List Argument}

theorem classify_eq_named_iff {name : String} {parameters : Option Parameters}
    {selector : Selector} :
    (classify arguments).1 = .named name parameters selector ↔
      ∃ used, named? arguments = some (.named name parameters selector, used) := by
  cases shape : named? arguments with
  | none =>
      rw [classify_of_none shape]
      exact ⟨nofun, nofun⟩
  | some found =>
      rw [classify_of_named shape]
      exact ⟨fun same => ⟨found.2, by rw [← same]⟩, fun ⟨used, same⟩ => by cases same; rfl⟩

theorem classify_eq_fragments_iff {texts : List String} :
    (classify arguments).1 = .fragments texts ↔
      texts = arguments.filterMap Argument.text? ∧ named? arguments = none := by
  cases shape : named? arguments with
  | none =>
      rw [classify_of_none shape]
      simp [eq_comm]
  | some found =>
      obtain ⟨_, _, _, rfl, _, rfl⟩ | ⟨_, _, _, _, rfl, rfl⟩ := named?_eq_some_iff.mp shape
      · rw [classify_of_named shape]
        exact ⟨nofun, nofun⟩
      · rw [classify_of_named shape]
        exact ⟨nofun, nofun⟩

end Classify

/-- **Calls are recognised by their shapes.** A call is a named operation with parameters
exactly when it starts with a text, a value and a selector, and the parameters are those of
the value. It is one without parameters exactly when it starts with a text and a selector
and its third argument is missing, a text or a falsy value. Otherwise, and only then, it is
the list of all its texts in order. Arguments behind the third do not change a named
operation, and do not make one. -/
theorem classify_shapes (arguments : List Argument) :
    (∀ name parameters selector,
      (classify arguments).1 = .named name (some parameters) selector ↔
        ∃ value, [.text name, .value value, .selector selector] <+: arguments ∧
          parameters = .ofValue value) ∧
    (∀ name selector,
      (classify arguments).1 = .named name none selector ↔
        [.text name, .selector selector] <+: arguments ∧
          ∀ third ∈ arguments[2]?, third.Discounted) ∧
    (∀ texts,
      (classify arguments).1 = .fragments texts ↔
        texts = arguments.filterMap Argument.text? ∧
          (∀ name value selector,
            ¬[.text name, .value value, .selector selector] <+: arguments) ∧
          ∀ name selector, [.text name, .selector selector] <+: arguments →
            ∃ third ∈ arguments[2]?, ¬third.Discounted) ∧
    ∀ name parameters selector,
      (classify arguments).1 = .named name parameters selector ↔
        (classify (arguments.take 3)).1 = .named name parameters selector := by
  refine ⟨?_, ?_, ?_, ?_⟩
  · intro name parameters selector
    rw [classify_eq_named_iff, exists_named?_with_iff]
  · intro name selector
    rw [classify_eq_named_iff, exists_named?_plain_iff]
  · intro texts
    rw [classify_eq_fragments_iff, named?_eq_none_iff]
  · intro name parameters selector
    rw [classify_eq_named_iff, classify_eq_named_iff, named?_take]

/-- A null in the place of the parameters is a value like any other, and a selector behind
the first one leaves only the text. -/
example (selector : Selector) :
    (classify [.text "q", .value .null, .selector selector, .text "a"]).1 =
        .named "q" (some (.entries [])) selector ∧
      (classify [.text "q", .selector selector, .selector selector]).1 = .fragments ["q"] := by
  exact ⟨rfl, rfl⟩

end Request

end GraphSelect
