import GraphSelect.Proofs.Number.Digits
import GraphSelect.Proofs.Operation.Acceptance
import Mathlib.Data.List.Nodup

/-!
# What becomes of each argument

A request takes up some of the arguments of its call: fragments take every text, and a
named operation takes the two or three arguments at the front. What it takes up, in order,
is what the request is made of (`Request.MadeOf`).

Every other argument has one diagnostic, with its position and its sort, in the order of
the positions. Before these there is one for the whole call, when its second argument is no
text and still it is only fragments. There are no others (`classify_accounts`). Arguments of
different sorts have different words in the diagnostics (`Argument.describe_eq_iff`).
-/

set_option autoImplicit false

namespace GraphSelect

/-! ## Sorts of arguments -/

/-- The sorts of arguments that a diagnostic tells apart. -/
inductive ArgumentKind where
  | text
  /-- A value with members. -/
  | object
  /-- Any other value. -/
  | value
  | selector
deriving DecidableEq

namespace ArgumentKind

/-- The word for a sort. -/
def word : ArgumentKind → String
  | text => "text"
  | object => "object"
  | value => "value"
  | selector => "selector"

theorem word_injective : Function.Injective word := by
  intro kind kind' same
  cases kind <;> cases kind' <;> first | rfl | exact absurd same (by decide)

end ArgumentKind

namespace Argument

/-- The sort of an argument. -/
def kind : Argument → ArgumentKind
  | .text _ => .text
  | .value (.object _) => .object
  | .value _ => .value
  | .selector _ => .selector

theorem describe_eq_word (argument : Argument) : argument.describe = argument.kind.word := by
  obtain text | (null | bool | number | string | array | members) | selector := argument <;> rfl

/-- **The word for an argument tells its sort.** -/
theorem describe_eq_iff (argument other : Argument) :
    argument.describe = other.describe ↔ argument.kind = other.kind := by
  rw [describe_eq_word, describe_eq_word, ArgumentKind.word_injective.eq_iff]

end Argument

namespace Request

/-! ## Arguments that a request takes up -/

/-- The arguments that a request is made of. -/
inductive MadeOf : Request → List Argument → Prop where
  | fragments (texts : List String) : MadeOf (.fragments texts) (texts.map .text)
  | plain (name : String) (selector : Selector) :
      MadeOf (.named name none selector) [.text name, .selector selector]
  | withParameters (name : String) (value : Json) (selector : Selector) :
      MadeOf (.named name (some (.ofValue value)) selector)
        [.text name, .value value, .selector selector]

/-- The request is a list of fragments. -/
def isFragments : Request → Bool
  | .fragments _ => true
  | .named .. => false

/-- The request takes up the argument at a position. -/
def takes : Request → Argument × Nat → Bool
  | .fragments _, place => place.1.isText
  | .named _ none _, place => place.2 < 2
  | .named _ (some _) _, place => place.2 < 3

/-- The arguments of a call that the request takes up, in order. -/
def taken (request : Request) (arguments : List Argument) : List Argument :=
  (arguments.zipIdx.filter request.takes).map Prod.fst

/-- The other arguments, each with its position, in order. -/
def left (request : Request) (arguments : List Argument) : List (Argument × Nat) :=
  arguments.zipIdx.filter fun place => !request.takes place

/-! ## Positions -/

section Positions

variable {α : Type} (front rest : List α)

theorem filter_zipIdx_front :
    ((front ++ rest).zipIdx.filter fun place => place.2 < front.length) = front.zipIdx := by
  have all : front.zipIdx.filter (fun place => place.2 < front.length) = front.zipIdx := by
    rw [List.filter_eq_self]
    intro place member
    simpa using List.snd_lt_add_of_mem_zipIdx member
  have none : (rest.zipIdx (0 + front.length)).filter (fun place => place.2 < front.length) =
      [] := by
    rw [List.filter_eq_nil_iff]
    intro place member
    simpa using List.le_snd_of_mem_zipIdx member
  rw [List.zipIdx_append, List.filter_append, all, none, List.append_nil]

theorem filter_zipIdx_behind :
    ((front ++ rest).zipIdx.filter fun place => !decide (place.2 < front.length)) =
      rest.zipIdx front.length := by
  have none : front.zipIdx.filter (fun place => !decide (place.2 < front.length)) = [] := by
    rw [List.filter_eq_nil_iff]
    intro place member
    simpa using List.snd_lt_add_of_mem_zipIdx member
  have all : (rest.zipIdx (0 + front.length)).filter
      (fun place => !decide (place.2 < front.length)) = rest.zipIdx (0 + front.length) := by
    rw [List.filter_eq_self]
    intro place member
    simpa using List.le_snd_of_mem_zipIdx member
  rw [List.zipIdx_append, List.filter_append, all, none, List.nil_append, Nat.zero_add]

end Positions

/-! ## Named operations -/

section Named

variable {arguments : List Argument} {request : Request} {used : Nat}

/-- A named operation is made of the arguments at the front of its call. -/
theorem exists_front (shape : named? arguments = some (request, used)) :
    ∃ front rest, arguments = front ++ rest ∧ front.length = used ∧ request.MadeOf front ∧
      request.isFragments = false ∧
        request.takes = fun place : Argument × Nat => place.2 < used := by
  obtain ⟨name, selector, rest, rfl, _, same⟩ | ⟨name, value, selector, rest, rfl, same⟩ :=
    named?_eq_some_iff.mp shape
  · cases same
    exact ⟨[.text name, .selector selector], rest, rfl, rfl, .plain name selector, rfl, rfl⟩
  · cases same
    exact ⟨[.text name, .value value, .selector selector], rest, rfl, rfl,
      .withParameters name value selector, rfl, rfl⟩

theorem ignoredAll_eq_map (index : Nat) (arguments : List Argument) :
    ignoredAll index arguments =
      (arguments.zipIdx index).map fun place => ignored place.2 place.1 := by
  induction arguments generalizing index with
  | nil => rfl
  | cons argument rest ih => rw [ignoredAll, ih, List.zipIdx_cons, List.map_cons]

end Named

/-! ## Fragments -/

theorem ignoredOthers_eq_map (index : Nat) (arguments : List Argument) :
    ignoredOthers index arguments =
      ((arguments.zipIdx index).filter fun place => !place.1.isText).map fun place =>
        ignored place.2 place.1 := by
  induction arguments generalizing index with
  | nil => rfl
  | cons argument rest ih =>
      rw [ignoredOthers, ih, List.zipIdx_cons, List.filter_cons]
      cases argument.isText <;> rfl

/-- Fragments are made of every text of the call. -/
theorem taken_fragments (texts : List String) (arguments : List Argument) :
    (fragments texts).taken arguments = (arguments.filterMap Argument.text?).map .text := by
  have general : ∀ index, ((arguments.zipIdx index).filter (fragments texts).takes).map Prod.fst =
      (arguments.filterMap Argument.text?).map .text := by
    induction arguments with
    | nil =>
        intro index
        rfl
    | cons argument rest ih =>
        intro index
        rw [List.zipIdx_cons, List.filter_cons]
        cases argument with
        | text text => exact congrArg (Argument.text text :: ·) (ih (index + 1))
        | value json => exact ih (index + 1)
        | selector selector => exact ih (index + 1)
  exact general 0

theorem looksNamed_eq (arguments : List Argument) :
    looksNamed arguments = arguments[1]?.any fun second => !second.isText := by
  match arguments with
  | [] => rfl
  | [_] => rfl
  | _ :: _ :: _ => rfl

/-! ## Diagnostics -/

theorem ignored_eq (index : Nat) (argument : Argument) :
    ignored index argument = ⟨.ignoredArgument, "args[" ++ index.repr ++ "]",
      argument.describe ++ " argument ignored", []⟩ := by
  have message : "" ++ argument.describe ++ " argument ignored" =
      argument.describe ++ " argument ignored" := by
    rw [String.empty_append]
  exact congrArg (Diagnostic.mk _ _ · _) message

theorem unrecognized_eq (arguments : List Argument) :
    unrecognized arguments = ⟨.unrecognizedCallShape, "args",
      "unrecognized call shape: (" ++ ", ".intercalate (arguments.map Argument.describe) ++ ")",
      ["expected (name, selector) or (name, params, selector); rendered as fragments instead"]⟩ := by
  have message : "unrecognized call shape: " ++
      ("(" ++ ", ".intercalate (arguments.map Argument.describe) ++ ")") ++ "" =
      "unrecognized call shape: (" ++ ", ".intercalate (arguments.map Argument.describe) ++
        ")" := by
    rw [String.append_empty, ← String.append_assoc, ← String.append_assoc]
    rfl
  exact congrArg (Diagnostic.mk _ _ · _) message

/-- The call looks like a named operation and means only fragments. -/
def isMistaken (arguments : List Argument) : Bool :=
  (arguments[1]?.any fun second => !second.isText) && (classify arguments).1.isFragments

/-- **The diagnostics of a call** are one for a mistaken shape and one for each argument that
is left. -/
theorem classify_diagnostics_eq (arguments : List Argument) :
    (classify arguments).2 =
      (if isMistaken arguments then [unrecognized arguments] else []) ++
        ((classify arguments).1.left arguments).map fun place => ignored place.2 place.1 := by
  cases shape : named? arguments with
  | some found =>
      obtain ⟨request, used⟩ := found
      obtain ⟨front, rest, rfl, rfl, _, noFragments, takes⟩ := exists_front shape
      have others : request.left (front ++ rest) = rest.zipIdx front.length := by
        rw [left, takes]
        exact filter_zipIdx_behind front rest
      rw [isMistaken, classify_of_named shape, noFragments, Bool.and_false, others,
        List.drop_left, ignoredAll_eq_map]
      rfl
  | none =>
      rw [isMistaken, classify_of_none shape, looksNamed_eq, ignoredOthers_eq_map, isFragments,
        Bool.and_true]
      rfl

theorem path_injective : Function.Injective fun index : Nat => "args[" ++ index.repr ++ "]" := by
  intro first second same
  have digits : first.repr = second.repr :=
    (String.append_right_inj "args[").mp ((String.append_left_inj "]").mp same)
  exact Text.natRepr_injective digits

/-- The path of an argument is longer than that of the whole call. -/
theorem path_ne_args (index : Nat) : "args[" ++ index.repr ++ "]" ≠ "args" := by
  intro same
  have lengths := congrArg String.length same
  have bracket : "args[".length = 5 := rfl
  have whole : "args".length = 4 := rfl
  rw [String.length_append, String.length_append] at lengths
  omega

/-- No two diagnostics are about the same place. -/
theorem nodup_paths (arguments : List Argument) :
    ((classify arguments).2.map Diagnostic.path).Nodup := by
  have ofLeft : (((classify arguments).1.left arguments).map fun place =>
      "args[" ++ place.2.repr ++ "]").Nodup := by
    have positions : (((classify arguments).1.left arguments).map Prod.snd).Nodup := by
      refine List.Nodup.sublist (List.filter_sublist.map Prod.snd) ?_
      rw [List.zipIdx_map_snd]
      exact List.nodup_range'
    have paths := positions.map path_injective
    rwa [List.map_map] at paths
  rw [classify_diagnostics_eq, List.map_append, List.map_map]
  split
  · refine List.nodup_cons.mpr ⟨fun listed => ?_, ofLeft⟩
    obtain ⟨place, _, same⟩ := List.mem_map.mp listed
    exact path_ne_args place.2 same
  · exact ofLeft

/-- **Every argument is accounted for once.** The request is made of the arguments that it
takes up. Each of the others has one diagnostic, with its position and its sort, in order;
before them the whole call has one, with the sorts of all arguments, when it has a second
argument that is no text and the request is only fragments. There is nothing else, no two
diagnostics have the same path, and different sorts have different words. -/
theorem classify_accounts (arguments : List Argument) :
    (classify arguments).1.MadeOf ((classify arguments).1.taken arguments) ∧
      (classify arguments).2 =
        (if (arguments[1]?.any fun second => !second.isText) &&
            (classify arguments).1.isFragments then
          [⟨.unrecognizedCallShape, "args", "unrecognized call shape: (" ++
              ", ".intercalate (arguments.map Argument.describe) ++ ")",
          ["expected (name, selector) or (name, params, selector); rendered as fragments instead"]⟩]
        else []) ++
        ((classify arguments).1.left arguments).map (fun place =>
          ⟨.ignoredArgument, "args[" ++ place.2.repr ++ "]",
            place.1.describe ++ " argument ignored", []⟩) ∧
      ((classify arguments).2.map Diagnostic.path).Nodup ∧
      ∀ argument other : Argument,
        argument.describe = other.describe ↔ argument.kind = other.kind := by
  refine ⟨?_, ?_, nodup_paths arguments, Argument.describe_eq_iff⟩
  · cases shape : named? arguments with
    | some found =>
        obtain ⟨request, used⟩ := found
        obtain ⟨front, rest, rfl, rfl, madeOf, _, takes⟩ := exists_front shape
        have inFront : request.taken (front ++ rest) = front := by
          rw [taken, takes, filter_zipIdx_front, List.zipIdx_map_fst]
        rw [classify_of_named shape, inFront]
        exact madeOf
    | none =>
        rw [classify_of_none shape, taken_fragments]
        exact .fragments _
  · simp only [← ignored_eq, ← unrecognized_eq]
    exact classify_diagnostics_eq arguments

end Request

end GraphSelect
