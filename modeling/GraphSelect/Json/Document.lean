import GraphSelect.Json.Lexeme
import GraphSelect.Json.Node

/-!
# Documents

A document is laid out from left to right with a stack of the containers that are
open (`Frame`). Three functions call each other: one where a value is due, one
where a member is due, and one where a value has just ended. Each consumes at
least one character before it calls the next, which is why they end.

The layout decides nothing about what a document means. `Document.read` reads it
as one JSON value, and `Json.parse` does so for a text.
-/

set_option autoImplicit false

namespace GraphSelect

/-- A container that is open. Its nodes are in reverse order. -/
inductive Frame where
  | list (start : Nat) (items : List Node)
  /-- The value of the key is being laid out. -/
  | object (start : Nat) (members : List (Key × Node)) (key : Key)

/-- A text laid out as a node. -/
structure Document where
  root : Node
  /-- Where the root ends. -/
  after : Cursor

/-- What stands in the place of a key. -/
inductive KeyPlace where
  /-- A key and its colon. -/
  | key (key : Key) (next : Cursor)
  /-- A key without a colon. The node stands for the missing value. -/
  | colonMissing (key : Key) (value : Node)
  /-- A string that is broken. -/
  | broken (reading skimming : Failure)
  /-- Something else than a string. -/
  | missing

namespace Node

/-- A node at which reading and skimming meet the same fault. -/
def faulty (fault : JsonFault) (offset : Nat) : Node :=
  .broken offset ⟨fault, offset⟩ ⟨fault, offset⟩

end Node

namespace Cursor

/-- What follows a key that ends at the cursor. -/
def afterKey (text : Except Failure String) (cursor : Cursor) : KeyPlace :=
  match cursor.skipBlanks with
  | ⟨offset, []⟩ => .colonMissing ⟨text, offset⟩ (.faulty (.textEnds .object) offset)
  | ⟨offset, c :: rest⟩ =>
    if c = ':' then .key ⟨text, offset⟩ ⟨offset + 1, rest⟩
    else
      .colonMissing ⟨text, if c = '}' then offset + 1 else offset⟩
        (.faulty .colonExpected (offset + 1))

/-- What stands at a cursor where a key is due. -/
def keyPlace (cursor : Cursor) : KeyPlace :=
  match cursor.rest with
  | '"' :: rest =>
    match stringLexeme ⟨cursor.offset + 1, rest⟩ with
    | .good text next => next.afterKey (.ok text)
    | .unreadable failure next => next.afterKey (.error failure)
    | .broken reading skimming => .broken reading skimming
  | _ => .missing

theorem length_lt_of_afterKey {text : Except Failure String} {cursor next : Cursor} {key : Key}
    (found : cursor.afterKey text = .key key next) :
    next.rest.length < cursor.rest.length := by
  have blanks := length_skipBlanks_le cursor
  unfold afterKey at found
  split at found
  · simp at found
  · rename_i offset c rest here
    rw [here] at blanks
    split at found
    · simp only [KeyPlace.key.injEq] at found
      simp only [← found.2, List.length_cons] at blanks ⊢
      omega
    · simp at found

theorem length_lt_of_keyPlace {cursor next : Cursor} {key : Key}
    (found : cursor.keyPlace = .key key next) : next.rest.length < cursor.rest.length := by
  unfold keyPlace at found
  split at found
  · rename_i rest atRest
    split at found
    · rename_i text middle lexeme
      have first := @length_le_of_stringLexeme ⟨cursor.offset + 1, rest⟩ middle
        (by rw [lexeme]; rfl)
      have second := length_lt_of_afterKey found
      simp only [atRest, List.length_cons] at first ⊢
      omega
    · rename_i failure middle lexeme
      have first := @length_le_of_stringLexeme ⟨cursor.offset + 1, rest⟩ middle
        (by rw [lexeme]; rfl)
      have second := length_lt_of_afterKey found
      simp only [atRest, List.length_cons] at first ⊢
      omega
    · simp at found
  · simp at found

/-- Blanks and the character after them leave a shorter rest. -/
theorem length_lt_of_skipBlanks {cursor : Cursor} {offset : Nat} {c : Char}
    {rest : List Char} (here : cursor.skipBlanks = ⟨offset, c :: rest⟩) :
    rest.length < cursor.rest.length := by
  have blanks := length_skipBlanks_le cursor
  rw [here] at blanks
  exact blanks

end Cursor

namespace Document

/-- The document when the text cannot be followed beyond the node, inside the open
containers. -/
def abandon (cursor : Cursor) (node : Node) : List Frame → Document
  | [] => ⟨node, cursor⟩
  | .list start items :: outer =>
    abandon cursor (.list start (node :: items).reverse .inside) outer
  | .object start members key :: outer =>
    abandon cursor (.object start ((key, node) :: members).reverse .inside) outer

mutual

/-- Lays out the value that is due at a cursor. -/
def value (stack : List Frame) (cursor : Cursor) : Document :=
  match _here : cursor.skipBlanks with
  | ⟨offset, []⟩ => abandon cursor (.faulty (.textEnds .value) offset) stack
  | ⟨offset, first :: rest⟩ =>
    if first = '[' then
      match inside : Cursor.skipBlanks ⟨offset + 1, rest⟩ with
      | ⟨stop, []⟩ => abandon cursor (.list offset [] (.textEnds stop)) stack
      | ⟨stop, c :: rest'⟩ =>
        if c = ']' then
          complete stack (.list offset [] (.closed (stop + 1))) ⟨stop + 1, rest'⟩
        else
          value (.list offset [] :: stack) ⟨stop, c :: rest'⟩
    else if first = '{' then
      match inside : Cursor.skipBlanks ⟨offset + 1, rest⟩ with
      | ⟨stop, []⟩ => abandon cursor (.object offset [] (.textEnds stop)) stack
      | ⟨stop, c :: rest'⟩ =>
        if c = '}' then
          complete stack (.object offset [] (.closed (stop + 1))) ⟨stop + 1, rest'⟩
        else
          member offset [] stack ⟨stop, c :: rest'⟩
    else
      match _found : Cursor.scalarLexeme offset first rest with
      | .good json next => complete stack (.scalar offset next.offset json) next
      | .unreadable failure next => complete stack (.unreadable offset failure) next
      | .broken reading skimming => abandon cursor (.broken offset reading skimming) stack
termination_by cursor.rest.length
decreasing_by
  all_goals have outside := Cursor.length_lt_of_skipBlanks _here
  · have := Cursor.length_lt_of_skipBlanks inside
    simp only at this ⊢
    omega
  · have := Cursor.length_skipBlanks_le ⟨offset + 1, rest⟩
    rw [inside] at this
    exact Nat.lt_of_le_of_lt this outside
  · have := Cursor.length_lt_of_skipBlanks inside
    simp only at this ⊢
    omega
  · have := Cursor.length_skipBlanks_le ⟨offset + 1, rest⟩
    rw [inside] at this
    exact Nat.lt_of_le_of_lt this outside
  · exact Nat.lt_of_le_of_lt (Cursor.length_le_of_scalarLexeme (by rw [_found]; rfl)) outside
  · exact Nat.lt_of_le_of_lt (Cursor.length_le_of_scalarLexeme (by rw [_found]; rfl)) outside

/-- Lays out the member that is due at a cursor, in the object that starts at
`start` and has the given members before it. -/
def member (start : Nat) (members : List (Key × Node)) (stack : List Frame)
    (cursor : Cursor) : Document :=
  match _found : cursor.keyPlace with
  | .key key next => value (.object start members key :: stack) next
  | .colonMissing key node =>
    abandon cursor (.object start ((key, node) :: members).reverse .inside) stack
  | .broken reading skimming =>
    abandon cursor (.object start members.reverse (.keyBroken reading skimming)) stack
  | .missing =>
    abandon cursor (.object start members.reverse (.keyMissing cursor.past)) stack
termination_by cursor.rest.length
decreasing_by exact Cursor.length_lt_of_keyPlace _found

/-- Goes on after a value that ends at a cursor. -/
def complete (stack : List Frame) (node : Node) (cursor : Cursor) : Document :=
  match stack with
  | [] => ⟨node, cursor⟩
  | .list start items :: outer =>
    let items := node :: items
    let ended (ending : Ending) := abandon cursor (.list start items.reverse ending) outer
    match here : cursor.skipBlanks with
    | ⟨offset, []⟩ => ended (.textEnds offset)
    | ⟨offset, c :: rest⟩ =>
      if c = ']' then
        complete outer (.list start items.reverse (.closed (offset + 1))) ⟨offset + 1, rest⟩
      else if c = ',' then
        match inside : Cursor.skipBlanks ⟨offset + 1, rest⟩ with
        | ⟨stop, []⟩ => ended (.commaThenTextEnds stop)
        | ⟨stop, c :: rest'⟩ =>
          if c = ']' then ended (.commaThenClosed (stop + 1))
          else value (.list start items :: outer) ⟨stop, c :: rest'⟩
      else
        ended (.separatorMissing (offset + 1))
  | .object start members key :: outer =>
    let members := (key, node) :: members
    let ended (ending : Ending) := abandon cursor (.object start members.reverse ending) outer
    match here : cursor.skipBlanks with
    | ⟨offset, []⟩ => ended (.textEnds offset)
    | ⟨offset, c :: rest⟩ =>
      if c = '}' then
        complete outer (.object start members.reverse (.closed (offset + 1))) ⟨offset + 1, rest⟩
      else if c = ',' then
        match inside : Cursor.skipBlanks ⟨offset + 1, rest⟩ with
        | ⟨stop, []⟩ => ended (.commaThenTextEnds stop)
        | ⟨stop, c :: rest'⟩ =>
          if c = '}' then ended (.commaThenClosed (stop + 1))
          else member start members outer ⟨stop, c :: rest'⟩
      else
        ended (.separatorMissing (offset + 1))
termination_by cursor.rest.length
decreasing_by
  all_goals have outside := Cursor.length_lt_of_skipBlanks here
  · exact outside
  · have := Cursor.length_skipBlanks_le ⟨offset + 1, rest⟩
    rw [inside] at this
    exact Nat.lt_of_le_of_lt this outside
  · exact outside
  · have := Cursor.length_skipBlanks_le ⟨offset + 1, rest⟩
    rw [inside] at this
    exact Nat.lt_of_le_of_lt this outside

end

/-- The text laid out as one node. -/
def ofText (text : String) : Document := value [] (.ofText text)

/-- Nothing but blanks may come after the root. -/
def checkEnd (document : Document) : Except Failure Unit :=
  match document.after.skipBlanks with
  | ⟨_, []⟩ => .ok ()
  | ⟨offset, _ :: _⟩ => .error ⟨.trailingCharacters, offset + 1⟩

/-- The document as one value, with its members as they are spelled. -/
def read (document : Document) : Except Failure Json := do
  let value ← document.root.read Node.nestingLimit
  document.checkEnd
  return value

end Document

/-- The value of a text. Of several members with one name the last one counts. -/
def Json.parse (text : String) : Except JsonError Json :=
  match (Document.ofText text).read with
  | .ok value => .ok value.distinct
  | .error failure => .error (failure.error text)

end GraphSelect
