import GraphSelect.Diagnostic.Printer
import Mathlib.Data.List.Basic

/-!
# Colors and hints in rendered diagnostics

Diagnostics are collected one by one: each is reported at a path, may be given details
and hints, and counts when it is emitted (`Diagnostics.ofFilings`).

A text is colored when codes are put into it that a reader of plain text can delete again
(`Text.withoutCodes`). Codes and plain texts are put together piece by piece
(`Text.Tints.append`), so the colored rendering of diagnostics without escape characters
is their plain rendering with codes in it. The hints are whole lines that start in a way no
other line does. Without these lines the rendering is the one without hints. Both are said
in `Diagnostics.render_colors_and_hints`.
-/

set_option autoImplicit false

namespace GraphSelect

/-! ## Collections -/

/-- A call on a diagnostic that is being filled in. -/
inductive Diagnostic.Call where
  | detail (text : String)
  | hint (text : String)
deriving DecidableEq, Repr

/-- The text that a call brings. -/
def Diagnostic.Call.text : Diagnostic.Call → String
  | detail text => text
  | hint text => text

/-- The diagnostic after one more call. -/
def Diagnostic.take (diagnostic : Diagnostic) : Diagnostic.Call → Diagnostic
  | .detail text => diagnostic.withDetail text
  | .hint text => diagnostic.withHint text

/-- A diagnostic as it is filed: reported, filled in by calls, and emitted or dropped. -/
structure Filing where
  kind : DiagnosticKind
  path : String
  calls : List Diagnostic.Call
  emitted : Bool
deriving DecidableEq, Repr

namespace Filing

/-- The texts that come with a filing. -/
def texts (filing : Filing) : List String := filing.path :: filing.calls.map Diagnostic.Call.text

/-- The diagnostic that a filing makes. -/
def diagnostic (filing : Filing) : Diagnostic :=
  filing.calls.foldl Diagnostic.take (.of filing.kind filing.path)

end Filing

/-- The diagnostics that are emitted, in order. -/
def Diagnostics.ofFilings (filings : List Filing) : Diagnostics :=
  (filings.filter Filing.emitted).map Filing.diagnostic

/-- The texts of a diagnostic that are not fixed: its message, its path, its hints. -/
def Diagnostic.texts (diagnostic : Diagnostic) : List String :=
  diagnostic.message :: diagnostic.path :: diagnostic.hints

namespace DiagnosticKind

/-- The texts that a kind brings to its diagnostics. -/
def texts (kind : DiagnosticKind) : List String :=
  kind.fallbackMessage :: kind.template.before :: kind.template.after :: kind.hint?.toList

/-- No kind brings an escape character or a newline. -/
theorem not_mem_of_mem_texts {kind : DiagnosticKind} {text : String} (member : text ∈ kind.texts) :
    '\x1b' ∉ text.toList ∧ '\n' ∉ text.toList := by
  have all : ∀ text ∈ kind.texts, '\x1b' ∉ text.toList ∧ '\n' ∉ text.toList := by
    cases kind <;> simp [texts, fallbackMessage, template, hint?]
  exact all text member

end DiagnosticKind

section Avoids

variable {c : Char}

/-- No text of the list has the character. -/
def Avoids (c : Char) (texts : List String) : Prop := ∀ text ∈ texts, c ∉ text.toList

instance (c : Char) (texts : List String) : Decidable (Avoids c texts) :=
  inferInstanceAs (Decidable (∀ text ∈ texts, c ∉ text.toList))

theorem Diagnostic.avoids_of (kind : DiagnosticKind) {path : String}
    (ofKind : Avoids c kind.texts) (ofPath : c ∉ path.toList) :
    Avoids c (Diagnostic.of kind path).texts := by
  simp only [Avoids, DiagnosticKind.texts, List.forall_mem_cons] at ofKind
  obtain ⟨message, -, -, hints⟩ := ofKind
  simp only [Avoids, texts, Diagnostic.of, List.forall_mem_cons]
  exact ⟨message, ofPath, hints⟩

/-- A call brings its own text and what the kind says around a detail. -/
theorem Diagnostic.avoids_take {diagnostic : Diagnostic} {call : Diagnostic.Call}
    (ofKind : Avoids c diagnostic.kind.texts) (ofCall : c ∉ call.text.toList)
    (here : Avoids c diagnostic.texts) : Avoids c (diagnostic.take call).texts := by
  simp only [Avoids, DiagnosticKind.texts, texts, List.forall_mem_cons] at ofKind here ⊢
  obtain ⟨-, before, after, -⟩ := ofKind
  obtain ⟨message, path, hints⟩ := here
  cases call with
  | detail text =>
      refine ⟨?_, path, hints⟩
      simp only [take, withDetail, DiagnosticKind.message, Template.fill, String.toList_append,
        List.mem_append, not_or]
      exact ⟨⟨before, ofCall⟩, after⟩
  | hint text =>
      refine ⟨message, path, ?_⟩
      simp only [take, withHint, List.forall_mem_append, List.forall_mem_singleton]
      exact ⟨hints, ofCall⟩

theorem Diagnostic.kind_take (diagnostic : Diagnostic) (call : Diagnostic.Call) :
    (diagnostic.take call).kind = diagnostic.kind := by
  cases call <;> rfl

theorem Diagnostic.avoids_foldl_take {diagnostic : Diagnostic} {calls : List Diagnostic.Call}
    (ofKind : Avoids c diagnostic.kind.texts) (ofCalls : Avoids c (calls.map Diagnostic.Call.text))
    (here : Avoids c diagnostic.texts) :
    Avoids c (calls.foldl Diagnostic.take diagnostic).texts := by
  induction calls generalizing diagnostic with
  | nil => exact here
  | cons call rest ih =>
      rw [List.map_cons, Avoids, List.forall_mem_cons] at ofCalls
      apply ih _ ofCalls.2 (avoids_take ofKind ofCalls.1 here)
      rwa [kind_take]

/-- **A collection avoids what the kinds and the filings that are emitted avoid.** -/
theorem Diagnostics.avoids_ofFilings (ofKinds : ∀ kind : DiagnosticKind, Avoids c kind.texts)
    {filings : List Filing}
    (ofFilings : ∀ filing ∈ filings, filing.emitted → Avoids c filing.texts) :
    Avoids c ((Diagnostics.ofFilings filings).flatMap Diagnostic.texts) := by
  intro text member
  obtain ⟨diagnostic, collected, inTexts⟩ := List.mem_flatMap.mp member
  obtain ⟨filing, listed, rfl⟩ := List.mem_map.mp collected
  obtain ⟨member, emitted⟩ := List.mem_filter.mp listed
  have filed := ofFilings filing member emitted
  rw [Filing.texts, Avoids, List.forall_mem_cons] at filed
  exact Diagnostic.avoids_foldl_take (ofKinds _) filed.2
    (Diagnostic.avoids_of filing.kind (ofKinds _) filed.1) text inTexts

end Avoids

namespace Text

/-! ## Codes -/

/-- What follows a color code at the front: an escape character, an opening bracket,
digits and the letter `m`. -/
def afterCode? : List Char → Option (List Char)
  | '\x1b' :: '[' :: rest =>
    match rest.takeWhile Char.isDigit, rest.dropWhile Char.isDigit with
    | _ :: _, 'm' :: after => some after
    | _, _ => none
  | _ => none

theorem length_lt_of_afterCode? {chars after : List Char} (found : afterCode? chars = some after) :
    after.length < chars.length := by
  unfold afterCode? at found
  split at found
  · next rest =>
      split at found
      · next rest' _ behind =>
          obtain rfl := Option.some.inj found
          have short := (List.dropWhile_suffix Char.isDigit (l := rest)).length_le
          rw [behind, List.length_cons] at short
          simp only [List.length_cons]
          omega
      · cases found
  · cases found

/-- The text without its color codes. -/
def withoutCodes : List Char → List Char
  | [] => []
  | c :: rest =>
    match _ : afterCode? (c :: rest) with
    | some after => withoutCodes after
    | none => c :: withoutCodes rest
termination_by chars => chars.length
decreasing_by
  · exact length_lt_of_afterCode? (by assumption)
  · exact Nat.lt_succ_self _

theorem withoutCodes_of_afterCode? {chars after : List Char}
    (found : afterCode? chars = some after) : withoutCodes chars = withoutCodes after := by
  cases chars with
  | nil => cases found
  | cons c rest =>
      rw [withoutCodes]
      split
      · next found' => rw [Option.some.inj (found.symm.trans found')]
      · next none => cases found.symm.trans none

theorem withoutCodes_cons_of_ne {c : Char} (other : c ≠ '\x1b') (rest : List Char) :
    withoutCodes (c :: rest) = c :: withoutCodes rest := by
  have none : afterCode? (c :: rest) = none := by
    unfold afterCode?
    split
    · next same => exact absurd (List.cons.inj same).1 other
    · rfl
  rw [withoutCodes]
  split
  · next found => cases none.symm.trans found
  · rfl

theorem withoutCodes_append {front : List Char} (plainly : '\x1b' ∉ front) (rest : List Char) :
    withoutCodes (front ++ rest) = front ++ withoutCodes rest := by
  induction front with
  | nil => rfl
  | cons c others ih =>
      rw [List.mem_cons, not_or] at plainly
      rw [List.cons_append, withoutCodes_cons_of_ne (Ne.symm plainly.1), ih plainly.2,
        List.cons_append]

/-- The second text is the first with codes in it: in front of any other text the codes
can be deleted again. The first has no escape character. -/
structure Tints (plain tinted : String) : Prop where
  withoutCodes_eq : ∀ rest,
    withoutCodes (tinted.toList ++ rest) = plain.toList ++ withoutCodes rest
  plainly : '\x1b' ∉ plain.toList

namespace Tints

theorem same (text : String) (plainly : '\x1b' ∉ text.toList) : Tints text text where
  withoutCodes_eq rest := withoutCodes_append plainly rest
  plainly := plainly

/-- A code stands for nothing. -/
theorem code {text : String} (isCode : ∀ rest, afterCode? (text.toList ++ rest) = some rest) :
    Tints "" text where
  withoutCodes_eq rest := by
    rw [withoutCodes_of_afterCode? (isCode rest), String.toList_empty, List.nil_append]
  plainly := List.not_mem_nil

theorem append {plain plain' tinted tinted' : String} (front : Tints plain tinted)
    (back : Tints plain' tinted') : Tints (plain ++ plain') (tinted ++ tinted') where
  withoutCodes_eq rest := by
    rw [String.toList_append, List.append_assoc, front.withoutCodes_eq, back.withoutCodes_eq,
      String.toList_append, List.append_assoc]
  plainly := by
    rw [String.toList_append, List.mem_append, not_or]
    exact ⟨front.plainly, back.plainly⟩

section Lists

variable {α : Type} {items : List α} {plain tinted : α → String}

theorem join (each : ∀ item ∈ items, Tints (plain item) (tinted item)) :
    Tints (String.join (items.map plain)) (String.join (items.map tinted)) := by
  induction items with
  | nil => exact .same "" List.not_mem_nil
  | cons item rest ih =>
      rw [List.forall_mem_cons] at each
      rw [List.map_cons, List.map_cons, String.join_cons, String.join_cons]
      exact each.1.append (ih each.2)

theorem intercalate {separator : String} (between : '\x1b' ∉ separator.toList)
    (each : ∀ item ∈ items, Tints (plain item) (tinted item)) :
    Tints (separator.intercalate (items.map plain)) (separator.intercalate (items.map tinted)) := by
  induction items with
  | nil => exact .same "" List.not_mem_nil
  | cons item rest ih =>
      rw [List.forall_mem_cons] at each
      cases rest with
      | nil =>
          rw [List.map_singleton, List.map_singleton, String.intercalate_singleton,
            String.intercalate_singleton]
          exact each.1
      | cons next others =>
          rw [List.map_cons, List.map_cons, List.map_cons, List.map_cons,
            String.intercalate_cons_cons, String.intercalate_cons_cons]
          exact (each.1.append (.same separator between)).append (ih each.2)

end Lists

end Tints

/-! ## Whole lines -/

/-- The text without the lines that start in a certain way. -/
def withoutLines (start chars : List Char) : List Char :=
  ['\n'].intercalate ((chars.splitOn '\n').filter fun line => !start.isPrefixOf line)

/-- Lines, each with its end. -/
def ended (lines : List String) : String := String.join (lines.map (· ++ "\n"))

theorem ended_append (first second : List String) :
    ended (first ++ second) = ended first ++ ended second := by
  rw [ended, List.map_append, String.join_append, ended, ended]

theorem ended_cons (line : String) (rest : List String) :
    ended (line :: rest) = line ++ "\n" ++ ended rest := by
  rw [ended, List.map_cons, String.join_cons, ended]

/-- Behind the last end of a line there is one more line, an empty one. -/
theorem toList_ended (lines : List String) :
    (ended lines).toList = ['\n'].intercalate (lines.map String.toList ++ [[]]) := by
  induction lines with
  | nil => rfl
  | cons line rest ih =>
      have newline : "\n".toList = ['\n'] := rfl
      rw [ended_cons, String.toList_append, String.toList_append, newline, ih, List.map_cons,
        List.cons_append]
      cases rest with
      | nil => simp
      | cons next others => exact List.intercalate_cons_cons.symm

/-- **Of whole lines, those that do not start in the given way are left.** -/
theorem withoutLines_ended {start : List Char} (some : start ≠ []) {lines : List String}
    (inline : Avoids '\n' lines) :
    withoutLines start (ended lines).toList =
      (ended (lines.filter fun line => !start.isPrefixOf line.toList)).toList := by
  have pieces : ∀ line ∈ lines.map String.toList ++ [[]], '\n' ∉ line := by
    rw [List.forall_mem_append, List.forall_mem_map, List.forall_mem_singleton]
    exact ⟨inline, List.not_mem_nil⟩
  have last : [[]].filter (fun line => !start.isPrefixOf line) = [[]] := by
    cases start with
    | nil => exact absurd rfl some
    | cons c rest => rfl
  rw [withoutLines, toList_ended, List.splitOn_intercalate _ pieces (by simp),
    List.filter_append, List.filter_map, last, toList_ended]
  rfl

end Text

open Text

/-! ## Renderings -/

theorem Colors.tints_ofSeverity (severity : Severity) :
    Tints (Colors.off.ofSeverity severity) (Colors.on.ofSeverity severity) := by
  cases severity <;> exact .code fun _ => rfl

theorem Colors.tints_dim : Tints Colors.off.dim Colors.on.dim := .code fun _ => rfl

theorem Colors.tints_blue : Tints Colors.off.blue Colors.on.blue := .code fun _ => rfl

theorem Colors.tints_reset : Tints Colors.off.reset Colors.on.reset := .code fun _ => rfl

namespace Diagnostic

open Colors

variable {diagnostic : Diagnostic}

theorem tints_headLine (message : '\x1b' ∉ diagnostic.message.toList) :
    Tints (diagnostic.headLine .off) (diagnostic.headLine .on) := by
  have severity : '\x1b' ∉ diagnostic.severity.text.toList := by
    cases diagnostic.severity <;> decide
  have word := ((tints_ofSeverity diagnostic.severity).append (.same _ severity)).append tints_reset
  exact ((word.append (.same ": " (by decide))).append (.same _ message)).append
    (.same "\n" (by decide))

theorem tints_pathLine (path : '\x1b' ∉ diagnostic.path.toList) :
    Tints (diagnostic.pathLine .off) (diagnostic.pathLine .on) := by
  have margin := (Tints.same "  " (by decide)).append tints_dim
  have arrow := (margin.append (.same "-->" (by decide))).append tints_reset
  have place := ((arrow.append (.same " " (by decide))).append tints_blue).append (.same _ path)
  exact (place.append tints_reset).append (.same "\n" (by decide))

theorem tints_hintLine {hint : String} (plainly : '\x1b' ∉ hint.toList) :
    Tints (hintLine .off hint) (hintLine .on hint) := by
  have margin := (Tints.same "  " (by decide)).append tints_dim
  have mark := (margin.append (.same "= help:" (by decide))).append tints_reset
  exact ((mark.append (.same " " (by decide))).append (.same _ plainly)).append
    (.same "\n" (by decide))

theorem tints_render (withHints : Bool) (clear : Avoids '\x1b' diagnostic.texts) :
    Tints (diagnostic.render .off withHints) (diagnostic.render .on withHints) := by
  rw [texts, Avoids, List.forall_mem_cons, List.forall_mem_cons] at clear
  obtain ⟨message, path, hints⟩ := clear
  refine ((tints_headLine message).append (tints_pathLine path)).append ?_
  cases withHints with
  | false => exact .same "" List.not_mem_nil
  | true => exact .join fun hint member => tints_hintLine (hints hint member)

/-- The lines of a diagnostic without colors. -/
def lines (withHints : Bool) (diagnostic : Diagnostic) : List String :=
  (diagnostic.severity.text ++ ": " ++ diagnostic.message) :: ("  --> " ++ diagnostic.path) ::
    if withHints then diagnostic.hints.map ("  = help: " ++ ·) else []

theorem headLine_off (diagnostic : Diagnostic) :
    diagnostic.headLine .off =
      diagnostic.severity.text ++ ": " ++ diagnostic.message ++ "\n" := by
  have word : Colors.off.ofSeverity diagnostic.severity = "" := by
    cases diagnostic.severity <;> rfl
  rw [headLine, word, String.empty_append]
  exact congrArg (· ++ ": " ++ diagnostic.message ++ "\n") (String.append_empty ..)

theorem pathLine_off (diagnostic : Diagnostic) :
    diagnostic.pathLine .off = "  --> " ++ diagnostic.path ++ "\n" := by
  have mark : "  " ++ Colors.off.dim ++ "-->" ++ Colors.off.reset ++ " " ++ Colors.off.blue =
      "  --> " := by
    decide
  rw [pathLine, mark]
  exact congrArg (· ++ "\n") (String.append_empty ..)

theorem hintLine_off (hint : String) : hintLine .off hint = "  = help: " ++ hint ++ "\n" := by
  have mark : "  " ++ Colors.off.dim ++ "= help:" ++ Colors.off.reset ++ " " = "  = help: " := by
    decide
  rw [hintLine, mark]

theorem render_off_eq (withHints : Bool) (diagnostic : Diagnostic) :
    diagnostic.render .off withHints = ended (diagnostic.lines withHints) := by
  have hints : (if withHints then String.join (diagnostic.hints.map (hintLine .off)) else "") =
      ended (if withHints then diagnostic.hints.map ("  = help: " ++ ·) else []) := by
    cases withHints with
    | false => rfl
    | true =>
        rw [if_pos rfl, if_pos rfl, ended, List.map_map]
        exact congrArg String.join (List.map_congr_left fun hint _ => hintLine_off hint)
  rw [render, hints, headLine_off, pathLine_off, lines, ended_cons, ended_cons]
  exact String.append_assoc ..

/-- What the line of a hint starts with. -/
def helpMark : List Char := "  = help:".toList

theorem helpMark_eq : helpMark = [' ', ' ', '=', ' ', 'h', 'e', 'l', 'p', ':'] := rfl

/-- The lines of a diagnostic that are not hints are those that it has without hints. -/
theorem filter_lines (diagnostic : Diagnostic) :
    (diagnostic.lines true).filter (fun line => !helpMark.isPrefixOf line.toList) =
      diagnostic.lines false := by
  have head : helpMark.isPrefixOf
      (diagnostic.severity.text ++ ": " ++ diagnostic.message).toList = false := by
    have error : Severity.error.text.toList = ['e', 'r', 'r', 'o', 'r'] := rfl
    have warning : Severity.warning.text.toList = ['w', 'a', 'r', 'n', 'i', 'n', 'g'] := rfl
    rw [String.toList_append, String.toList_append, helpMark_eq]
    cases diagnostic.severity with
    | error =>
        rw [error]
        rfl
    | warning =>
        rw [warning]
        rfl
  have place : helpMark.isPrefixOf ("  --> " ++ diagnostic.path).toList = false := by
    have arrow : "  --> ".toList = [' ', ' ', '-', '-', '>', ' '] := rfl
    rw [String.toList_append, arrow, helpMark_eq]
    rfl
  have hints : (diagnostic.hints.map ("  = help: " ++ ·)).filter
      (fun line => !helpMark.isPrefixOf line.toList) = [] := by
    rw [List.filter_eq_nil_iff, List.forall_mem_map]
    intro hint _
    have mark : "  = help: ".toList = helpMark ++ [' '] := rfl
    rw [String.toList_append, mark, List.append_assoc]
    simp
  simp only [lines, List.filter_cons, head, place, Bool.not_false, if_true, hints]
  rfl

theorem avoids_lines (withHints : Bool) (inline : Avoids '\n' diagnostic.texts) :
    Avoids '\n' (diagnostic.lines withHints) := by
  rw [texts, Avoids, List.forall_mem_cons, List.forall_mem_cons] at inline
  obtain ⟨message, path, hints⟩ := inline
  rw [lines, Avoids, List.forall_mem_cons, List.forall_mem_cons]
  refine ⟨?_, ?_, ?_⟩
  · have severity : '\n' ∉ diagnostic.severity.text.toList := by
      cases diagnostic.severity <;> decide
    simp [severity, message]
  · simp [path]
  · cases withHints with
    | false => exact List.forall_mem_nil _
    | true =>
        rw [if_pos rfl, List.forall_mem_map]
        intro hint member
        simp [hints hint member]

end Diagnostic

namespace Diagnostics

/-- The lines of diagnostics without colors: an empty line stands before each but the
first. -/
def lines (withHints : Bool) : Diagnostics → List String
  | [] => []
  | first :: rest =>
    first.lines withHints ++ rest.flatMap fun diagnostic => "" :: diagnostic.lines withHints

theorem render_off_eq (withHints : Bool) (diagnostics : Diagnostics) :
    diagnostics.render .off withHints = ended (diagnostics.lines withHints) := by
  induction diagnostics with
  | nil => rfl
  | cons first rest ih =>
      cases rest with
      | nil =>
          rw [render, List.map_singleton, String.intercalate_singleton, lines, List.flatMap_nil,
            List.append_nil, Diagnostic.render_off_eq]
      | cons next others =>
          rw [render, List.map_cons, List.map_cons, String.intercalate_cons_cons, ← List.map_cons,
            ← render, ih, Diagnostic.render_off_eq]
          simp only [lines, List.flatMap_cons, List.cons_append, ended_append, ended_cons,
            String.empty_append, String.append_assoc]

theorem filter_lines (diagnostics : Diagnostics) :
    (diagnostics.lines true).filter (fun line => !Diagnostic.helpMark.isPrefixOf line.toList) =
      diagnostics.lines false := by
  cases diagnostics with
  | nil => rfl
  | cons first rest =>
      have blank : Diagnostic.helpMark.isPrefixOf "".toList = false := rfl
      rw [lines, lines, List.filter_append, List.filter_flatMap, first.filter_lines]
      refine congrArg _ (List.flatMap_congr fun diagnostic _ => ?_)
      simp only [List.filter_cons, blank, Bool.not_false, if_true, diagnostic.filter_lines]

theorem avoids_lines {diagnostics : Diagnostics} (withHints : Bool)
    (inline : Avoids '\n' (diagnostics.flatMap Diagnostic.texts)) :
    Avoids '\n' (diagnostics.lines withHints) := by
  have each : ∀ diagnostic ∈ diagnostics, Avoids '\n' (diagnostic.lines withHints) :=
    fun diagnostic listed => Diagnostic.avoids_lines withHints fun text member =>
      inline text (List.mem_flatMap.mpr ⟨diagnostic, listed, member⟩)
  cases diagnostics with
  | nil => exact List.forall_mem_nil _
  | cons first rest =>
      rw [List.forall_mem_cons] at each
      rw [lines, Avoids, List.forall_mem_append]
      refine ⟨each.1, fun line member => ?_⟩
      obtain ⟨diagnostic, listed, inLines⟩ := List.mem_flatMap.mp member
      rcases List.mem_cons.mp inLines with rfl | inLines
      · exact List.not_mem_nil
      · exact each.2 diagnostic listed line inLines

theorem tints_render {diagnostics : Diagnostics} (withHints : Bool)
    (clear : Avoids '\x1b' (diagnostics.flatMap Diagnostic.texts)) :
    Tints (diagnostics.render .off withHints) (diagnostics.render .on withHints) := by
  refine .intercalate (by decide) fun diagnostic listed => ?_
  exact Diagnostic.tints_render withHints fun text member =>
    clear text (List.mem_flatMap.mpr ⟨diagnostic, listed, member⟩)

/-- **Colors only add codes, and hints only add lines.** A collection has no escape
character and no newline unless a filing that is emitted brings it. Without escape characters the
colored rendering is the plain one with codes in it, and the plain one has no escape
character. Without newlines the rendering without hints is the one with hints less the lines
that start as hints do. -/
theorem render_colors_and_hints (filings : List Filing) :
    (∀ c, c = '\x1b' ∨ c = '\n' →
        (∀ filing ∈ filings, filing.emitted → Avoids c filing.texts) →
          Avoids c ((ofFilings filings).flatMap Diagnostic.texts)) ∧
      (Avoids '\x1b' ((ofFilings filings).flatMap Diagnostic.texts) → ∀ withHints,
        withoutCodes ((ofFilings filings).render .on withHints).toList =
            ((ofFilings filings).render .off withHints).toList ∧
          '\x1b' ∉ ((ofFilings filings).render .off withHints).toList) ∧
      (Avoids '\n' ((ofFilings filings).flatMap Diagnostic.texts) →
        withoutLines Diagnostic.helpMark ((ofFilings filings).render .off true).toList =
          ((ofFilings filings).render .off false).toList) := by
  refine ⟨?_, fun clear withHints => ?_, fun inline => ?_⟩
  · rintro c (rfl | rfl) filed
    · exact avoids_ofFilings
        (fun _ _ member => (DiagnosticKind.not_mem_of_mem_texts member).1) filed
    · exact avoids_ofFilings
        (fun _ _ member => (DiagnosticKind.not_mem_of_mem_texts member).2) filed
  · have tints := tints_render withHints clear
    refine ⟨?_, tints.plainly⟩
    have whole := tints.withoutCodes_eq []
    rwa [List.append_nil, withoutCodes, List.append_nil] at whole
  · rw [render_off_eq, render_off_eq, withoutLines_ended (by decide) (avoids_lines true inline),
      filter_lines]

/-- Filings of both severities, with hints and with a detail that replaces another. One is
dropped. -/
def mixedFilings : List Filing :=
  [⟨.missingKeyId, "$.relationships[0]", [.detail "of an edge", .hint "add it"], true⟩,
    ⟨.ignoredArgument, "\x1b[31m", [], false⟩,
    ⟨.unbalancedBraces, "fragments[1]", [.detail "a", .hint "1", .detail "b", .hint "2"], true⟩]

theorem render_colors_and_hints_mixed :
    Avoids '\x1b' ((ofFilings mixedFilings).flatMap Diagnostic.texts) ∧
      Avoids '\n' ((ofFilings mixedFilings).flatMap Diagnostic.texts) ∧
      withoutCodes ((ofFilings mixedFilings).render .on true).toList =
        ((ofFilings mixedFilings).render .off true).toList ∧
      '\x1b' ∉ ((ofFilings mixedFilings).render .off true).toList ∧
      withoutLines Diagnostic.helpMark ((ofFilings mixedFilings).render .off true).toList =
        ((ofFilings mixedFilings).render .off false).toList := by
  obtain ⟨avoids, colors, hints⟩ := render_colors_and_hints mixedFilings
  have clear := avoids '\x1b' (.inl rfl) (by decide)
  have inline := avoids '\n' (.inr rfl) (by decide)
  exact ⟨clear, inline, (colors clear true).1, (colors clear true).2, hints inline⟩

end Diagnostics

end GraphSelect
