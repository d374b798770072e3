import GraphSelect.Json.Cursor

/-!
# Strings in a document

Two ways to go over a string after its opening quote. `Cursor.string` reads it:
escapes are decoded, and a code above the basic plane is spelled by two escapes,
a high surrogate and a low one. `Cursor.skipString` only looks for the closing
quote. It checks the form of escapes but not which codes they spell, and it stops
before a control character, where reading stops after it.
-/

set_option autoImplicit false

namespace GraphSelect
namespace Cursor

/-- The value of a hexadecimal digit of either case. -/
def hexValue? (c : Char) : Option Nat :=
  if '0' ≤ c ∧ c ≤ '9' then some (c.toNat - '0'.toNat)
  else if 'a' ≤ c ∧ c ≤ 'f' then some (c.toNat - 'a'.toNat + 10)
  else if 'A' ≤ c ∧ c ≤ 'F' then some (c.toNat - 'A'.toNat + 10)
  else none

/-- The number that four hexadecimal digits spell. -/
def hexNumber? (a b c d : Char) : Option Nat := do
  return ((← hexValue? a) * 16 + (← hexValue? b)) * 256 + (← hexValue? c) * 16 + (← hexValue? d)

/-- Four hexadecimal digits have to come next and do not. They are reported after
four bytes, or at the end of the text when it has fewer. -/
def hexMissing (cursor : Cursor) : Failure :=
  if Text.byteLength cursor.rest < 4 then ⟨.textEnds .string, cursor.stop⟩
  else ⟨.invalidEscape, cursor.offset + 4⟩

/-- The number of four hexadecimal digits, and the cursor after them. -/
def hex (cursor : Cursor) : Except Failure (Nat × Cursor) :=
  match cursor.rest with
  | a :: b :: c :: d :: rest =>
    match hexNumber? a b c d with
    | some number => .ok (number, ⟨cursor.offset + 4, rest⟩)
    | none => .error cursor.hexMissing
  | _ => .error cursor.hexMissing

/-- The character that a letter after the backslash stands for. -/
def escapedChar? : Char → Option Char
  | '"' => some '"'
  | '\\' => some '\\'
  | '/' => some '/'
  | 'b' => some '\x08'
  | 'f' => some '\x0c'
  | 'n' => some '\n'
  | 'r' => some '\r'
  | 't' => some '\t'
  | _ => none

/-- The code is the first half of a pair. -/
def isHighSurrogate (code : Nat) : Bool := 0xD800 ≤ code && code ≤ 0xDBFF

/-- The code is the second half of a pair. -/
def isLowSurrogate (code : Nat) : Bool := 0xDC00 ≤ code && code ≤ 0xDFFF

/-- The beginning of the second escape of a pair: a backslash and the letter u. -/
def secondEscape (cursor : Cursor) : Except Failure Cursor :=
  match cursor.rest with
  | [] => .error ⟨.textEnds .string, cursor.offset⟩
  | '\\' :: rest =>
    match rest with
    | [] => .error ⟨.textEnds .string, cursor.offset + 1⟩
    | 'u' :: rest => .ok ⟨cursor.offset + 2, rest⟩
    | _ => .error ⟨.surrogateCutShort, cursor.offset + 2⟩
  | _ => .error ⟨.surrogateCutShort, cursor.offset + 1⟩

/-- The character spelled by its code, after the letter u. -/
def codeEscape (cursor : Cursor) : Except Failure (Char × Cursor) := do
  let (code, next) ← cursor.hex
  if isLowSurrogate code then
    throw ⟨.loneSurrogate, next.offset⟩
  else if isHighSurrogate code then
    let second ← next.secondEscape
    let (low, last) ← second.hex
    if isLowSurrogate low then
      return (Char.ofNat (0x10000 + (code - 0xD800) * 0x400 + (low - 0xDC00)), last)
    else
      throw ⟨.loneSurrogate, last.offset⟩
  else
    return (Char.ofNat code, next)

/-- The character of an escape, after its backslash. -/
def escape (cursor : Cursor) : Except Failure (Char × Cursor) :=
  match cursor.rest with
  | [] => .error ⟨.textEnds .string, cursor.offset⟩
  | 'u' :: rest => codeEscape ⟨cursor.offset + 1, rest⟩
  | c :: rest =>
    match escapedChar? c with
    | some char => .ok (char, ⟨cursor.offset + 1, rest⟩)
    | none => .error ⟨.invalidEscape, cursor.offset + 1⟩

/-- The cursor after an escape, of which only the form is checked. -/
def skipEscape (cursor : Cursor) : Except Failure Cursor :=
  match cursor.rest with
  | [] => .error ⟨.textEnds .string, cursor.offset⟩
  | 'u' :: rest => (hex ⟨cursor.offset + 1, rest⟩).map Prod.snd
  | c :: rest =>
    match escapedChar? c with
    | some _ => .ok ⟨cursor.offset + 1, rest⟩
    | none => .error ⟨.invalidEscape, cursor.offset + 1⟩

/-! ## Progress -/

theorem length_lt_of_hex {cursor next : Cursor} {number : Nat}
    (read : cursor.hex = .ok (number, next)) : next.rest.length < cursor.rest.length := by
  unfold hex at read
  split at read
  · rename_i a b c d rest atRest
    split at read
    · simp only [Except.ok.injEq, Prod.mk.injEq] at read
      simp only [← read.2, atRest, List.length_cons]
      omega
    · simp at read
  · simp at read

theorem length_lt_of_secondEscape {cursor next : Cursor}
    (read : cursor.secondEscape = .ok next) : next.rest.length < cursor.rest.length := by
  unfold secondEscape at read
  split at read
  · simp at read
  · rename_i rest atRest
    split at read
    · simp at read
    · rename_i rest'
      simp only [Except.ok.injEq] at read
      simp only [← read, atRest, List.length_cons]
      omega
    · simp at read
  · simp at read

theorem length_lt_of_codeEscape {cursor next : Cursor} {char : Char}
    (read : cursor.codeEscape = .ok (char, next)) :
    next.rest.length < cursor.rest.length := by
  unfold codeEscape at read
  cases first : cursor.hex with
  | error failure => simp [first, bind, Except.bind] at read
  | ok found =>
    obtain ⟨code, middle⟩ := found
    have shorter := length_lt_of_hex first
    simp only [first, bind, Except.bind] at read
    split at read
    · simp [throw, throwThe, MonadExceptOf.throw] at read
    · split at read
      · cases second : middle.secondEscape with
        | error failure => simp [second] at read
        | ok start =>
          have shorter' := length_lt_of_secondEscape second
          cases third : start.hex with
          | error failure => simp [second, third] at read
          | ok found' =>
            obtain ⟨low, last⟩ := found'
            have shorter'' := length_lt_of_hex third
            simp only [second, third] at read
            split at read
            · simp only [pure, Except.pure, Except.ok.injEq, Prod.mk.injEq] at read
              rw [← read.2]
              omega
            · simp [throw, throwThe, MonadExceptOf.throw] at read
      · simp only [pure, Except.pure, Except.ok.injEq, Prod.mk.injEq] at read
        rw [← read.2]
        exact shorter

theorem length_lt_of_escape {cursor next : Cursor} {char : Char}
    (read : cursor.escape = .ok (char, next)) : next.rest.length < cursor.rest.length := by
  unfold escape at read
  split at read
  · simp at read
  · rename_i rest atRest
    have := length_lt_of_codeEscape read
    simp only [atRest, List.length_cons] at this ⊢
    omega
  · rename_i c rest _ atRest
    split at read
    · simp only [Except.ok.injEq, Prod.mk.injEq] at read
      simp [← read.2, atRest]
    · simp at read

theorem length_lt_of_skipEscape {cursor next : Cursor}
    (read : cursor.skipEscape = .ok next) : next.rest.length < cursor.rest.length := by
  unfold skipEscape at read
  split at read
  · simp at read
  · rename_i rest atRest
    cases found : hex ⟨cursor.offset + 1, rest⟩ with
    | error failure => simp [found, Except.map] at read
    | ok pair =>
      obtain ⟨number, after⟩ := pair
      have := length_lt_of_hex found
      simp only [found, Except.map, Except.ok.injEq] at read
      simp only [← read, atRest, List.length_cons] at this ⊢
      omega
  · rename_i c rest _ atRest
    split at read
    · simp only [Except.ok.injEq] at read
      simp [← read, atRest]
    · simp at read

/-! ## Whole strings -/

/-- The characters of a string after its opening quote, and the cursor after the
closing one. -/
def string (cursor : Cursor) : Except Failure (List Char × Cursor) :=
  match atRest : cursor.rest with
  | [] => .error ⟨.textEnds .string, cursor.offset⟩
  | '"' :: rest => .ok ([], ⟨cursor.offset + 1, rest⟩)
  | '\\' :: rest =>
    match _read : escape ⟨cursor.offset + 1, rest⟩ with
    | .error failure => .error failure
    | .ok (c, next) =>
      match next.string with
      | .error failure => .error failure
      | .ok (chars, last) => .ok (c :: chars, last)
  | c :: rest =>
    if c.toNat < 0x20 then .error ⟨.controlCharacter, cursor.offset + 1⟩
    else
      match string ⟨cursor.offset + c.utf8Size, rest⟩ with
      | .error failure => .error failure
      | .ok (chars, last) => .ok (c :: chars, last)
termination_by cursor.rest.length
decreasing_by
  · have := length_lt_of_escape _read
    simp only [atRest, List.length_cons] at this ⊢
    omega
  · simp [atRest]

/-- The cursor after a string of which only the form is checked, from after its
opening quote. -/
def skipString (cursor : Cursor) : Except Failure Cursor :=
  match atRest : cursor.rest with
  | [] => .error ⟨.textEnds .string, cursor.offset⟩
  | '"' :: rest => .ok ⟨cursor.offset + 1, rest⟩
  | '\\' :: rest =>
    match _read : skipEscape ⟨cursor.offset + 1, rest⟩ with
    | .error failure => .error failure
    | .ok next => next.skipString
  | c :: rest =>
    if c.toNat < 0x20 then .error ⟨.controlCharacter, cursor.offset⟩
    else skipString ⟨cursor.offset + c.utf8Size, rest⟩
termination_by cursor.rest.length
decreasing_by
  · have := length_lt_of_skipEscape _read
    simp only [atRest, List.length_cons] at this ⊢
    omega
  · simp [atRest]

end Cursor
end GraphSelect
