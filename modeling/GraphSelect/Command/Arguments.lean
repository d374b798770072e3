import GraphSelect.Command.Grammar

/-!
# Reading the arguments of a command

Arguments are read from left to right. A value is collected first and checked
later, when the next option or positional argument is taken in or at the end; a
value that is attached to its option is checked at once. So an argument that is
not known is reported before a collected value that is not valid.

`Collected.ofArguments` reads everything after the name of a command.
-/

set_option autoImplicit false

namespace GraphSelect

/-- The value of a decimal number with an optional plus sign. -/
def unsigned? (text : String) : Option Nat :=
  let digits := match text.toList with
    | '+' :: rest => rest
    | chars => chars
  if digits.isEmpty || !digits.all Char.isDigit then none
  else some (digits.foldl (fun value c => value * 10 + (c.toNat - '0'.toNat)) 0)

/-- When diagnostics are colored. -/
inductive ColorChoice where
  | auto
  | always
  | never
deriving DecidableEq, Repr, Inhabited

/-- The choice that a word names. -/
def ColorChoice.ofText? : String → Option ColorChoice
  | "auto" => some auto
  | "always" => some always
  | "never" => some never
  | _ => none

/-- The depth that a text names: a number of 64 bits. -/
def depth? (text : String) : Option Nat :=
  (unsigned? text).filter (· < 0x10000000000000000)

/-- A value may stand in a slot. -/
def Slot.validate (slot : Slot) (value : String) : Except UsageError Unit :=
  match slot with
  | .selectorPath => if value.isEmpty then .error .valueInvalid else .ok ()
  | .color => if (ColorChoice.ofText? value).isSome then .ok () else .error .valueInvalid
  | .depth => if (depth? value).isSome then .ok () else .error .valueMalformed
  | _ => .ok ()

/-- What has been read of the arguments of a command. -/
structure Collected where
  /-- The slots that are filled, with their values, in the order of the arguments. -/
  filled : List (Slot × List String) := []
  /-- The slot that is being filled. Its values are not checked yet. -/
  pending : Option (Slot × List String) := none
  /-- The only positional argument has been given. -/
  positionalGiven : Bool := false
  verbosity : Nat := 0
deriving DecidableEq, Repr, Inhabited

namespace Collected

/-- The slot is filled. -/
def has (collected : Collected) (slot : Slot) : Bool :=
  collected.filled.any fun entry => entry.1 = slot

/-- The values of a slot, in order. -/
def valuesOf (collected : Collected) (slot : Slot) : List String :=
  (collected.filled.filter fun entry => entry.1 = slot).flatMap Prod.snd

/-- The only value of a slot. -/
def valueOf? (collected : Collected) (slot : Slot) : Option String :=
  (collected.valuesOf slot).head?

/-- The slot filled with values, which are checked. Only fragments may be given in
several places. -/
def fill (collected : Collected) (slot : Slot) (values : List String) :
    Except UsageError Collected := do
  if collected.has slot && slot != .fragments then throw .conflict
  values.forM slot.validate
  return { collected with filled := collected.filled ++ [(slot, values)] }

/-- The pending slot filled. -/
def settle (collected : Collected) : Except UsageError Collected :=
  match collected.pending with
  | none => .ok collected
  | some (_, []) => .error .valueInvalid
  | some (slot, values) => { collected with pending := none }.fill slot values

/-- The greatest verbosity that is counted. -/
def greatestVerbosity : Nat := 255

/-- A flag taken in. -/
def flag (collected : Collected) (slot : Slot) : Except UsageError Collected := do
  let settled ← collected.settle
  match slot with
  | .help => throw .helpWanted
  | .verbose => return { settled with verbosity := min (settled.verbosity + 1) greatestVerbosity }
  | slot => settled.fill slot []

/-- An option taken in with the value that is attached to it. -/
def attached (collected : Collected) (slot : Slot) (value : String) :
    Except UsageError Collected := do
  let settled ← collected.settle
  settled.fill slot [value]

/-- An option taken in whose value comes next. -/
def awaiting (collected : Collected) (slot : Slot) : Except UsageError Collected := do
  let settled ← collected.settle
  return { settled with pending := some (slot, []) }

/-- A long option taken in, with the value after its equals sign if there is one. -/
def long (collected : Collected) (grammar : Grammar) (name : List Char)
    (value : Option (List Char)) : Except UsageError Collected :=
  match grammar.long? (.ofList name), value with
  | none, _ => .error .argumentUnknown
  | some rule, none =>
    if rule.takesValue then collected.awaiting rule.slot else collected.flag rule.slot
  | some rule, some value =>
    if rule.takesValue then collected.attached rule.slot (.ofList value)
    else .error .valueSurplus

/-- Joined letters taken in. Flags come one by one; what follows an option that
takes a value is its value, without an equals sign in front. -/
def letters (collected : Collected) (grammar : Grammar) :
    List Char → Except UsageError Collected
  | [] => .ok collected
  | letter :: rest =>
    match grammar.letter? letter with
    | none => .error .argumentUnknown
    | some rule =>
      if rule.takesValue then
        match rest with
        | [] => collected.awaiting rule.slot
        | '=' :: value => collected.attached rule.slot (.ofList value)
        | value => collected.attached rule.slot (.ofList value)
      else do
        let next ← collected.flag rule.slot
        next.letters grammar rest

/-- A positional argument taken in. -/
def positional (collected : Collected) (grammar : Grammar) (word : String) :
    Except UsageError Collected :=
  match grammar.positional with
  | .none => .error .argumentUnknown
  | .one slot =>
    if collected.positionalGiven then .error .argumentUnknown
    else do
      let settled ← collected.settle
      return { settled with pending := some (slot, [word]), positionalGiven := true }
  | .many slot =>
    match collected.pending with
    | some (other, values) =>
      if other = slot then .ok { collected with pending := some (slot, values ++ [word]) }
      else do
        let settled ← collected.settle
        return { settled with pending := some (slot, [word]) }
    | none => .ok { collected with pending := some (slot, [word]) }

/-- A word that is no option taken in: the value of an option that awaits one, or
else a positional argument. -/
def word (collected : Collected) (grammar : Grammar) (word : String) :
    Except UsageError Collected :=
  match collected.pending with
  | some (slot, []) => .ok { collected with pending := some (slot, [word]) }
  | _ => collected.positional grammar word

/-- The name of a long option and the value after its equals sign. -/
def splitLong (chars : List Char) : List Char × Option (List Char) :=
  match chars.dropWhile (· != '=') with
  | [] => (chars, none)
  | _ :: value => (chars.takeWhile (· != '='), some value)

/-- An argument taken in, if it is an option. A hyphen alone is none. -/
def option? (collected : Collected) (grammar : Grammar) (argument : String) :
    Option (Except UsageError Collected) :=
  match argument.toList with
  | '-' :: '-' :: chars =>
    let (name, value) := splitLong chars
    some (collected.long grammar name value)
  | '-' :: letter :: rest => some (collected.letters grammar (letter :: rest))
  | _ => none

/-- The arguments after a pair of hyphens, which are all positional. -/
def readPositional (grammar : Grammar) (collected : Collected) :
    List String → Except UsageError Collected
  | [] => .ok collected
  | first :: rest => do
    let next ← collected.positional grammar first
    readPositional grammar next rest

/-- The arguments of a command taken in. -/
def read (grammar : Grammar) (collected : Collected) :
    List String → Except UsageError Collected
  | [] => .ok collected
  | argument :: rest =>
    if argument = "--" then collected.readPositional grammar rest
    else do
      let next ← (collected.option? grammar argument).getD (collected.word grammar argument)
      read grammar next rest

/-- Nothing excludes anything else, and nothing is missing. -/
def check (command : CommandName) (collected : Collected) : Except UsageError Unit :=
  if Grammar.conflicts.any fun pair => collected.has pair.1 && collected.has pair.2 then
    .error .conflict
  else if (Grammar.required command).all collected.has then .ok ()
  else .error .argumentMissing

/-- Everything after the name of a command. -/
def ofArguments (command : CommandName) (arguments : List String) :
    Except UsageError Collected := do
  let collected ← read (.ofCommand command) {} arguments
  let settled ← collected.settle
  settled.check command
  return settled

end Collected

end GraphSelect
