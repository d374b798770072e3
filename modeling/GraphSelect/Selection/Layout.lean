import GraphSelect.Selection.Basic

/-!
# The text of a selection set

Every entry stands on a line of its own: a leaf is its name, a block its name
with an opening brace, then its entries, then the closing brace. A line starts
with the margin of its level, which is the indent unit repeated once for every
level. With an empty unit the text is compact: there is no margin, and a closing
brace does not end its line.
-/

set_option autoImplicit false

namespace GraphSelect

/-- The unit repeated `depth` times. An empty unit gives the empty margin at
every depth. The limits of allocation are outside the model: a program has to
stop when the repeated unit is longer than a text can be. -/
def margin (unit : String) (depth : Nat) : String :=
  if unit.isEmpty then "" else String.join (List.replicate depth unit)

namespace Selection

/-- What follows a closing brace: with a margin, the end of the line. -/
def closingEnd (unit : String) : String :=
  if unit.isEmpty then "" else "\n"

mutual

/-- The text of one entry at a level. -/
def text (unit : String) (depth : Nat) : Selection → String
  | leaf name => margin unit depth ++ name ++ "\n"
  | block name body =>
    margin unit depth ++ name ++ " \x7b\n" ++ textOfAll unit (depth + 1) body ++
      margin unit depth ++ "\x7d" ++ closingEnd unit

/-- The text of the entries of a level. -/
def textOfAll (unit : String) (depth : Nat) : List Selection → String
  | [] => ""
  | first :: rest => text unit depth first ++ textOfAll unit depth rest

end

end Selection

/-- How a selector is turned into text. The default is compact text with nothing
included. -/
structure CompileOptions where
  /-- The names requested at the root before its fields. -/
  included : List String := []
  /-- The indent unit. An empty unit means compact text. -/
  unit : String := ""
  /-- The level of the root. -/
  depth : Nat := 0
deriving DecidableEq, Repr, Inhabited

/-- Whether the text has margins and ends its lines after closing braces. -/
def CompileOptions.isPretty (options : CompileOptions) : Bool :=
  !options.unit.isEmpty

/-- The text of the selection set of a selector. As for a margin, it is taken to fit
into memory. -/
def Selector.compile (options : CompileOptions) (selector : Selector) : String :=
  Selection.textOfAll options.unit options.depth (selector.selections options.included)

end GraphSelect
