import GraphSelect.Proofs.Selection.Outline
import GraphSelect.Proofs.Text.Balance

/-!
# Pretty text line by line

With an indent unit every line of a selection set has a margin: the unit, once for
every level above the root and once for every block that is open around the line. Then
comes a name, a name with an opening brace, or a closing brace. `LaidOut` reads the lines
of a text in this way. It counts the open blocks by the lines alone and keeps the text
that is left when the margins are removed, and with them the line ends that stand behind
closing braces.

The names and the unit are without braces and newlines, so a line can be read in one way
only (`LaidOut.unique`). What is left of pretty text is the compact text
(`compile_laidOut_iff`), and that has no margins, so it is the same at every depth.
-/

set_option autoImplicit false

namespace GraphSelect

open Selection Text

/-! ## Lines -/

/-- The text has no brace and stays on its line. -/
def Text.IsInline (chars : List Char) : Prop := BraceFree chars ∧ '\n' ∉ chars

instance (chars : List Char) : Decidable (IsInline chars) :=
  inferInstanceAs (Decidable (BraceFree chars ∧ '\n' ∉ chars))

/-- The unit, repeated. -/
def indent (unit : List Char) (count : Nat) : List Char := (List.replicate count unit).flatten

/-- One line inside of some open blocks: what stands on it, what is left of it without
its layout, and how many blocks are open behind it. -/
inductive LaidLine (names : List String) (unit : List Char) (depth : Nat) :
    Nat → List Char → List Char → Nat → Prop
  /-- A name. -/
  | leaf {blocks : Nat} {name : String} (listed : name ∈ names) :
      LaidLine names unit depth blocks (indent unit (depth + blocks) ++ name.toList)
        (name.toList ++ ['\n']) blocks
  /-- A name with a brace that opens a block. -/
  | header {blocks : Nat} {name : String} (listed : name ∈ names) :
      LaidLine names unit depth blocks (indent unit (depth + blocks) ++ (name.toList ++ [' ', '{']))
        (name.toList ++ [' ', '{', '\n']) (blocks + 1)
  /-- The brace that closes the innermost block. Its margin is that of the block. -/
  | closing {blocks : Nat} :
      LaidLine names unit depth (blocks + 1) (indent unit (depth + blocks) ++ ['}']) ['}'] blocks

/-- Lines inside of some open blocks, and what is left of them. The last of the lines is
what stands behind the last newline: nothing, and there no block is open. -/
inductive LaidOut (names : List String) (unit : List Char) (depth : Nat) :
    Nat → List (List Char) → List Char → Prop
  | done : LaidOut names unit depth 0 [[]] []
  | line {blocks next : Nat} {line left : List Char} {lines : List (List Char)}
      {plain : List Char} (first : LaidLine names unit depth blocks line left next)
      (after : LaidOut names unit depth next lines plain) :
      LaidOut names unit depth blocks (line :: lines) (left ++ plain)

/-- How a line inside of some open blocks reads: what is left of it, and how many blocks
are open behind it. Its braces tell which kind of line it is. -/
def readLine (unit : List Char) (depth blocks : Nat) (line : List Char) : List Char × Nat :=
  let unindented := line.drop (indent unit (depth + blocks)).length
  match bracesOf line with
  | [] => (unindented ++ ['\n'], blocks)
  | '{' :: _ => (unindented ++ ['\n'], blocks + 1)
  | _ => (['}'], blocks - 1)

section Reading

variable {names : List String} {unit : List Char} {depth : Nat}

theorem indent_succ (count : Nat) : indent unit (count + 1) = indent unit count ++ unit := by
  rw [indent, indent, List.replicate_succ', List.flatten_concat]

theorem mem_of_mem_indent {count : Nat} {c : Char} (member : c ∈ indent unit count) :
    c ∈ unit := by
  obtain ⟨part, repeated, inPart⟩ := List.mem_flatten.mp member
  rwa [List.eq_of_mem_replicate repeated] at inPart

/-- The braces of a line are those behind its margin and its name. -/
theorem bracesOf_line (bare : BraceFree unit) {name : List Char} (free : BraceFree name)
    (count : Nat) (mark : List Char) :
    bracesOf (indent unit count ++ (name ++ mark)) = bracesOf mark := by
  have margin : BraceFree (indent unit count) := by
    intro c member
    exact bare c (mem_of_mem_indent member)
  rw [bracesOf_append, bracesOf_append, margin.bracesOf_eq_nil, free.bracesOf_eq_nil,
    List.nil_append, List.nil_append]

/-- **A line can be read in one way only.** -/
theorem LaidLine.readLine_eq (bare : BraceFree unit)
    (free : ∀ name ∈ names, BraceFree name.toList) {blocks next : Nat} {line left : List Char}
    (laid : LaidLine names unit depth blocks line left next) :
    readLine unit depth blocks line = (left, next) := by
  have empty : BraceFree [] := fun _ member => nomatch member
  cases laid with
  | @leaf _ name listed =>
      have braces := bracesOf_line bare (free name listed) (depth + blocks) []
      rw [List.append_nil] at braces
      rw [readLine, braces, List.drop_left]
      rfl
  | @header _ name listed =>
      have braces := bracesOf_line bare (free name listed) (depth + blocks) [' ', '{']
      rw [readLine, braces, List.drop_left]
      simp [bracesOf]
  | closing =>
      have braces := bracesOf_line bare empty (depth + next) ['}']
      rw [List.nil_append] at braces
      rw [readLine, braces]
      rfl

/-- **What is left of the lines of a text is determined.** -/
theorem LaidOut.unique (bare : BraceFree unit) (free : ∀ name ∈ names, BraceFree name.toList)
    {blocks : Nat} {lines : List (List Char)} {plain plain' : List Char}
    (first : LaidOut names unit depth blocks lines plain)
    (second : LaidOut names unit depth blocks lines plain') : plain = plain' := by
  induction first generalizing plain' with
  | done =>
      cases second with
      | done => rfl
      | line _ after => cases after
  | line here after ih =>
      cases second with
      | done => cases after
      | line here' after' =>
          obtain ⟨rfl, rfl⟩ := Prod.mk.inj
            ((here.readLine_eq bare free).symm.trans (here'.readLine_eq bare free))
          rw [ih after']

end Reading

/-! ## The lines of a selection set -/

section Writing

variable {names : List String} {unit : String} {depth : Nat}

theorem margin_compact (depth : Nat) : margin "" depth = "" := rfl

theorem closingEnd_compact : closingEnd "" = "" := rfl

theorem toList_margin (unit : String) (depth : Nat) :
    (margin unit depth).toList = indent unit.toList depth := by
  unfold margin
  split
  · next empty =>
      have none : unit.toList = [] := by
        rw [String.isEmpty_iff.mp empty, String.toList_empty]
      simp [indent, none]
  · rw [String.toList_join, indent, List.flatMap_replicate]

/-- A line ends at the first newline. -/
theorem splitOn_line {line : List Char} (inline : '\n' ∉ line) (rest : List Char) :
    (line ++ '\n' :: rest).splitOn '\n' = line :: rest.splitOn '\n' := by
  apply List.splitOnP_append_cons_of_forall_mem
  · intro c member
    rw [beq_eq_false_iff_ne]
    rintro rfl
    exact inline member
  · rfl

/-- A margin, then text, then a newline: the line is laid out when its text is. -/
theorem LaidOut.line_splitOn (inline : '\n' ∉ unit.toList) {blocks next count : Nat}
    {text rest left plain : List Char} (inText : '\n' ∉ text)
    (first : LaidLine names unit.toList depth blocks (indent unit.toList count ++ text) left next)
    (after : LaidOut names unit.toList depth next (rest.splitOn '\n') plain) :
    LaidOut names unit.toList depth blocks
      (((margin unit count).toList ++ (text ++ '\n' :: rest)).splitOn '\n') (left ++ plain) := by
  rw [toList_margin, ← List.append_assoc, splitOn_line]
  · exact .line first after
  · rw [List.mem_append, not_or]
    exact ⟨fun member => inline (mem_of_mem_indent member), inText⟩

mutual

/-- An entry adds its lines to the lines of the text behind it. -/
theorem laidOut_text (pretty : unit ≠ "") (inline : '\n' ∉ unit.toList)
    (inNames : ∀ name ∈ names, '\n' ∉ name.toList) :
    ∀ (entry : Selection) (blocks : Nat) (rest plain : List Char),
      (∀ name ∈ Selection.names entry, name ∈ names) →
        LaidOut names unit.toList depth blocks (rest.splitOn '\n') plain →
          LaidOut names unit.toList depth blocks
            (((text unit (depth + blocks) entry).toList ++ rest).splitOn '\n')
            ((text "" (depth + blocks) entry).toList ++ plain)
  | leaf name, blocks, rest, plain, listed, after => by
      have named : name ∈ names := listed name (by simp [Selection.names])
      have line := LaidOut.line_splitOn inline (inNames name named) (.leaf named) after
      simpa [text, margin_compact, toList_newline] using line
  | block name body, blocks, rest, plain, listed, after => by
      have named : name ∈ names := listed name (by simp [Selection.names])
      have closing := LaidOut.line_splitOn inline (by decide) .closing after
      have inside := laidOut_textOfAll pretty inline inNames body (blocks + 1) _ _
        (fun inner member => listed inner (by simp [Selection.names, member])) closing
      have header := LaidOut.line_splitOn inline (by simp [inNames name named])
        (.header named) inside
      have ended : closingEnd unit = "\n" := by
        rw [closingEnd, if_neg (by simpa [String.isEmpty_iff] using pretty)]
      rw [← Nat.add_assoc] at header
      simpa [text, margin_compact, closingEnd_compact, ended, toList_newline, toList_blockHead,
        toList_closing] using header

theorem laidOut_textOfAll (pretty : unit ≠ "") (inline : '\n' ∉ unit.toList)
    (inNames : ∀ name ∈ names, '\n' ∉ name.toList) :
    ∀ (entries : List Selection) (blocks : Nat) (rest plain : List Char),
      (∀ name ∈ namesOfAll entries, name ∈ names) →
        LaidOut names unit.toList depth blocks (rest.splitOn '\n') plain →
          LaidOut names unit.toList depth blocks
            (((textOfAll unit (depth + blocks) entries).toList ++ rest).splitOn '\n')
            ((textOfAll "" (depth + blocks) entries).toList ++ plain)
  | [], _, _, _, _, after => after
  | first :: others, blocks, rest, plain, listed, after => by
      have back := laidOut_textOfAll pretty inline inNames others blocks rest plain
        (fun name member => listed name (by simp [namesOfAll, member])) after
      have front := laidOut_text pretty inline inNames first blocks _ _
        (fun name member => listed name (by simp [namesOfAll, member])) back
      simpa [textOfAll] using front

end

end Writing

mutual

/-- Compact text has no margins, so its depth does not show. -/
theorem text_compact (depth depth' : Nat) : ∀ entry : Selection,
    text "" depth entry = text "" depth' entry
  | leaf name => by rw [text, text, margin_compact, margin_compact]
  | block name body => by
      rw [text, text, margin_compact, margin_compact,
        textOfAll_compact (depth + 1) (depth' + 1) body]

theorem textOfAll_compact (depth depth' : Nat) : ∀ entries : List Selection,
    textOfAll "" depth entries = textOfAll "" depth' entries
  | [] => by rw [textOfAll, textOfAll]
  | first :: rest => by
      rw [textOfAll, textOfAll, text_compact depth depth' first,
        textOfAll_compact depth depth' rest]

end

/-- **Pretty text is compact text plus layout.** Each line of pretty text has its margin,
what is left of the lines is the compact text and nothing else, and the compact text is
the same at every depth. -/
theorem compile_laidOut_iff (selector : Selector) (included : List String) (unit : String)
    (depth : Nat) (pretty : unit ≠ "") (inline : IsInline unit.toList)
    (inNames : ∀ name ∈ included ++ selector.names, IsInline name.toList) :
    (∀ plain, LaidOut (included ++ selector.names) unit.toList depth 0
          ((selector.compile ⟨included, unit, depth⟩).toList.splitOn '\n') plain ↔
        plain = (selector.compile { included }).toList) ∧
      ∀ depth', selector.compile ⟨included, "", depth'⟩ = selector.compile { included } := by
  have compact : ∀ depth', selector.compile ⟨included, "", depth'⟩ =
      selector.compile { included } := by
    intro depth'
    exact textOfAll_compact depth' 0 _
  have laid : LaidOut (included ++ selector.names) unit.toList depth 0
      ((selector.compile ⟨included, unit, depth⟩).toList.splitOn '\n')
      (selector.compile { included }).toList := by
    have behind : LaidOut (included ++ selector.names) unit.toList depth 0
        (([] : List Char).splitOn '\n') [] := .done
    have lines := laidOut_textOfAll pretty inline.2 (fun name member => (inNames name member).2)
      (selector.selections included) 0 [] []
      (fun name member => List.mem_append.mpr (selector.mem_names_of_selections _ name member))
      behind
    rw [List.append_nil, List.append_nil] at lines
    rw [← compact depth]
    exact lines
  refine ⟨fun plain => ⟨fun other => ?_, ?_⟩, compact⟩
  · exact other.unique inline.1 (fun name member => (inNames name member).1) laid
  · rintro rfl
    exact laid

theorem compile_laidOut_iff_article :
    "\t " ≠ "" ∧ IsInline "\t ".toList ∧
      (∀ name ∈ ["version", "comments"] ++ articleSelector.names, IsInline name.toList) ∧
      (∀ plain, LaidOut (["version", "comments"] ++ articleSelector.names) "\t ".toList 1 0
            ((articleSelector.compile ⟨["version", "comments"], "\t ", 1⟩).toList.splitOn '\n')
            plain ↔
          plain = (articleSelector.compile { included := ["version", "comments"] }).toList) ∧
      (∀ depth', articleSelector.compile ⟨["version", "comments"], "", depth'⟩ =
        articleSelector.compile { included := ["version", "comments"] }) ∧
      articleSelector.compile { included := ["version", "comments"] } =
        "authorId\nauthor \x7b\nname\n\x7dcomments \x7b\nauthorId\nauthor \x7b\n\x7d" ++
          "postId\nbody\n\x7dversion\ntitle\n" := by
  have inline : IsInline "\t ".toList := by decide
  have inNames : ∀ name ∈ ["version", "comments"] ++ articleSelector.names,
      IsInline name.toList := by
    decide
  have read := compile_laidOut_iff articleSelector ["version", "comments"] "\t " 1 (by decide)
    inline inNames
  exact ⟨by decide, inline, inNames, read.1, read.2, by decide⟩

end GraphSelect
