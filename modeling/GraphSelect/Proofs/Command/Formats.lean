import GraphSelect.Command.Run
import Mathlib.Data.List.Forall2

/-!
# How a log is written

What a line of the log looks like is up to the format: it may have the time in front and
colors in it. Only this is asked of a format (`LogFormat.Lawful`): an entry that has no
control characters is written on one line, and the line shows the words of the entry in
their order. A style without newlines gives such a format (`LogFormat.lawful_styled`), and
the plain format is one.

The names and texts of the input can have newlines and codes in them. They are quoted in
the entries of the log, so no entry of a command has a control character, and a lawful
format writes each record on a line of its own (`LogFormat.Lawful.isShownBy_record`).
-/

set_option autoImplicit false

namespace GraphSelect

/-! ## Control characters -/

namespace Text

/-- The text has no character of the sort. -/
def Lacks (sort : Char → Prop) (text : String) : Prop := ∀ c ∈ text.toList, ¬sort c

section Lacks

variable {sort : Char → Prop}

instance [DecidablePred sort] (text : String) : Decidable (Lacks sort text) :=
  List.decidableBAll (fun c => ¬sort c) text.toList

@[simp] theorem lacks_append {front back : String} :
    Lacks sort (front ++ back) ↔ Lacks sort front ∧ Lacks sort back := by
  rw [Lacks, String.toList_append, List.forall_mem_append]
  rfl

theorem Lacks.append {front back : String} (inFront : Lacks sort front)
    (inBack : Lacks sort back) : Lacks sort (front ++ back) := lacks_append.mpr ⟨inFront, inBack⟩

@[simp] theorem lacks_join {texts : List String} :
    Lacks sort (String.join texts) ↔ ∀ text ∈ texts, Lacks sort text := by
  rw [Lacks, String.toList_join, List.forall_mem_flatMap]
  rfl

theorem Lacks.intercalate {separator : String} {texts : List String}
    (between : Lacks sort separator) (each : ∀ text ∈ texts, Lacks sort text) :
    Lacks sort (separator.intercalate texts) := by
  induction texts with
  | nil => exact fun c member => (List.not_mem_nil member).elim
  | cons text rest ih =>
      obtain ⟨first, others⟩ := List.forall_mem_cons.mp each
      cases rest with
      | nil =>
          rw [String.intercalate_singleton]
          exact first
      | cons next remaining =>
          rw [String.intercalate_cons_cons]
          exact (first.append between).append (ih others)

end Lacks

/-- The text has no newline. -/
abbrev Inline : String → Prop := Lacks (· = '\n')

/-- A character that a terminal takes for a command. -/
def IsControl (c : Char) : Prop := c.toNat < 0x20 ∨ 0x7F ≤ c.toNat ∧ c.toNat < 0xA0

instance : DecidablePred IsControl := fun _ => inferInstanceAs (Decidable (_ ∨ _))

/-- The text has no control characters. -/
abbrev Printable : String → Prop := Lacks IsControl

theorem Printable.inline {text : String} (printable : Printable text) : Inline text := by
  rintro c member rfl
  exact printable _ member (by decide)

theorem not_isControl_of_mem_toDigits {base : Nat} (large : 1 < base) (small : base ≤ 16)
    (n : Nat) : ∀ c ∈ Nat.toDigits base n, ¬IsControl c := by
  have proper : ∀ digit < 16, ¬IsControl (Nat.digitChar digit) := by decide
  induction n using Nat.strongRecOn with
  | ind n ih =>
      by_cases single : n < base
      · rw [Nat.toDigits_of_lt_base single, List.forall_mem_singleton]
        exact proper n (by omega)
      · have smaller : n / base < n := Nat.div_lt_self (by omega) large
        have digit : n % base < base := Nat.mod_lt n (by omega)
        rw [Nat.toDigits_of_base_le large (by omega), List.forall_mem_append,
          List.forall_mem_singleton]
        exact ⟨ih (n / base) smaller, proper (n % base) (by omega)⟩

theorem printable_natRepr (n : Nat) : Printable n.repr := by
  rw [Printable, Lacks, Nat.toList_repr]
  exact not_isControl_of_mem_toDigits (by decide) (by decide) n

/-- The controls are in the first two ranges of characters without a shape. -/
theorem isShapeless_of_isControl {c : Char} (control : IsControl c) : isShapeless c = true := by
  have low (boundaries : List Nat) :
      isAfterOdd c.toNat (0x0 :: 0x20 :: 0x7F :: 0xA1 :: boundaries) = true := by
    rcases control with first | ⟨fromDelete, second⟩
    · simp [isAfterOdd, Nat.not_le.mpr first]
    · have below : ¬0xA1 ≤ c.toNat := by omega
      have above : 0x20 ≤ c.toNat := by omega
      simp [isAfterOdd, fromDelete, below, above]
  have outside : ¬(0x20 ≤ c.toNat ∧ c.toNat < 0x7F) := by
    rcases control with first | second <;> omega
  rw [isShapeless, if_neg (by simpa using outside)]
  exact low _

/-- A control character is shown as an escape. -/
theorem not_isControl_of_mem_visible {shape c : Char} (member : shape ∈ visible c) :
    ¬IsControl shape := by
  have pair {second : Char} (proper : ¬IsControl second) (member : shape ∈ ['\\', second]) :
      ¬IsControl shape := by
    rcases List.mem_pair.mp member with rfl | rfl
    · decide
    · exact proper
  unfold visible at member
  split_ifs at member with _ _ _ _ _ _ shapeless
  any_goals exact pair (by decide) member
  · simp only [List.mem_append, List.mem_cons, List.not_mem_nil, or_false] at member
    rcases member with ((rfl | rfl | rfl) | digit) | rfl
    any_goals decide
    exact not_isControl_of_mem_toDigits (by decide) (by decide) _ shape digit
  · rw [List.mem_singleton.mp member]
    exact fun control => shapeless (isShapeless_of_isControl control)

theorem printable_shown (text : String) : Printable (shown text) := by
  intro c member
  simp only [shown, String.toList_ofList, List.cons_append, List.mem_cons, List.mem_append,
    List.mem_flatMap, List.not_mem_nil, or_false] at member
  rcases member with rfl | ⟨hidden, -, member⟩ | rfl
  · decide
  · exact not_isControl_of_mem_visible member
  · decide

end Text

open Text

theorem SelectorPath.printable_text (path : SelectorPath) : Printable path.text := by
  have root : Printable "$" := by decide
  refine root.append (lacks_join.mpr fun step member => ?_)
  obtain ⟨index, -, rfl⟩ := List.mem_map.mp member
  have start : Printable ".relationships[" := by decide
  have stop : Printable "]" := by decide
  exact (start.append (printable_natRepr index)).append stop

/-! ## What a line shows -/

/-- The words stand in the characters, each one behind the one before it. -/
def Text.ShowsInOrder : List String → List Char → Prop
  | [], _ => True
  | word :: rest, chars =>
    ∃ front back, chars = front ++ word.toList ++ back ∧ ShowsInOrder rest back

theorem Text.ShowsInOrder.cons (between : List Char) (word : String) {rest : List String}
    {back : List Char} (shows : ShowsInOrder rest back) :
    ShowsInOrder (word :: rest) (between ++ (word.toList ++ back)) :=
  ⟨between, back, (List.append_assoc ..).symm, shows⟩

namespace LogEntry

/-- The words that a reader of the log is to see. -/
def words (entry : LogEntry) : List String :=
  entry.level.word :: entry.message :: entry.fields.flatMap fun field => [field.1, field.2.text]

/-- No word of the entry has a control character. -/
def IsPrintable (entry : LogEntry) : Prop := ∀ word ∈ entry.words, Printable word

/-- The text is one line, and shows the words of the entry. -/
structure IsShownBy (entry : LogEntry) (line : String) : Prop where
  singleLine : ∃ shown, Inline shown ∧ line = shown ++ "\n"
  inOrder : ShowsInOrder entry.words line.toList

end LogEntry

/-- What is asked of a format: it shows every entry without control characters on a line of
its own. -/
def LogFormat.Lawful (format : LogFormat) : Prop :=
  ∀ (moment : Nat) (entry : LogEntry),
    entry.IsPrintable → entry.IsShownBy (format.line moment entry)

/-! ## Styles -/

/-- Nothing in the style starts a new line. -/
structure LogStyle.IsInline (style : LogStyle) : Prop where
  stamp : ∀ moment, Inline (style.stamp moment)
  level : ∀ level, Inline (style.level level)
  name : Inline style.name
  sign : Inline style.sign
  reset : Inline style.reset

namespace LogStyle

variable (style : LogStyle)

theorem showsInOrder_fields (fields : List (String × LogValue)) (back : List Char) :
    ShowsInOrder (fields.flatMap fun field => [field.1, field.2.text])
      ((String.join (fields.map style.field)).toList ++ back) := by
  induction fields with
  | nil => exact trivial
  | cons field rest ih =>
      have spelled : (String.join ((field :: rest).map style.field)).toList ++ back =
          (" " ++ style.name).toList ++ (field.1.toList ++
            ((style.reset ++ style.sign ++ "=" ++ style.reset).toList ++ (field.2.text.toList ++
              ((String.join (rest.map style.field)).toList ++ back)))) := by
        simp only [List.map_cons, String.join_cons, LogStyle.field, String.toList_append,
          List.append_assoc]
      rw [spelled]
      exact .cons _ field.1 (.cons _ field.2.text ih)

theorem showsInOrder_line (moment : Nat) (entry : LogEntry) :
    ShowsInOrder entry.words (style.line moment entry).toList := by
  have spelled : (style.line moment entry).toList =
      (style.stamp moment ++ style.level entry.level).toList ++ (entry.level.word.toList ++
        ((style.reset ++ " ").toList ++ (entry.message.toList ++
          ((String.join (entry.fields.map style.field)).toList ++ "\n".toList)))) := by
    simp only [line, String.toList_append, List.append_assoc]
  rw [spelled]
  exact .cons _ entry.level.word (.cons _ entry.message (style.showsInOrder_fields _ _))

variable {style}

theorem IsInline.field (inline : style.IsInline) {field : String × LogValue}
    (name : Inline field.1) (value : Inline field.2.text) : Inline (style.field field) := by
  have gap : Inline " " := by decide
  have sign : Inline "=" := by decide
  simp only [LogStyle.field, lacks_append]
  exact ⟨⟨⟨⟨⟨⟨⟨gap, inline.name⟩, name⟩, inline.reset⟩, inline.sign⟩, sign⟩, inline.reset⟩, value⟩

theorem IsInline.singleLine (inline : style.IsInline) (moment : Nat) {entry : LogEntry}
    (printable : entry.IsPrintable) :
    ∃ shown, Inline shown ∧ style.line moment entry = shown ++ "\n" := by
  obtain ⟨level, told⟩ := List.forall_mem_cons.mp printable
  obtain ⟨message, words⟩ := List.forall_mem_cons.mp told
  have fields : ∀ text ∈ entry.fields.map style.field, Inline text := by
    intro text member
    obtain ⟨field, among, rfl⟩ := List.mem_map.mp member
    have pair := List.forall_mem_flatMap.mp words field among
    exact inline.field (pair _ (.head _)).inline (pair _ (.tail _ (.head _))).inline
  have gap : Inline " " := by decide
  refine ⟨_, ?_, rfl⟩
  simp only [lacks_append, lacks_join]
  exact ⟨⟨⟨⟨⟨⟨inline.stamp moment, inline.level entry.level⟩, level.inline⟩, inline.reset⟩, gap⟩,
    message.inline⟩, fields⟩

end LogStyle

namespace LogFormat

/-- **A style without newlines gives a lawful format.** -/
theorem lawful_styled {style : LogStyle} (inline : style.IsInline) : (styled style).Lawful :=
  fun moment entry printable =>
    ⟨inline.singleLine moment printable, style.showsInOrder_line moment entry⟩

/-- The program writes its log in a lawful format. -/
theorem lawful_plain : plain.Lawful :=
  have empty : Inline "" := by decide
  lawful_styled ⟨fun _ => empty, fun _ => empty, empty, empty, empty⟩

/-- A format with the time dimmed in front, a color for each level, and slanted names. -/
def timed (time : Nat → String) : LogFormat :=
  styled {
    stamp := fun moment => "\x1b[2m" ++ time moment ++ "\x1b[0m "
    level := fun
      | .debug => "\x1b[34m"
      | .trace => "\x1b[35m"
    name := "\x1b[3m"
    sign := "\x1b[2m"
    reset := "\x1b[0m" }

theorem lawful_timed {time : Nat → String} (inline : ∀ moment, Inline (time moment)) :
    (timed time).Lawful := by
  have slanted : Inline "\x1b[3m" := by decide
  have dimmed : Inline "\x1b[2m" := by decide
  have reset : Inline "\x1b[0m" := by decide
  refine lawful_styled ⟨fun moment => ?_, fun level => ?_, slanted, dimmed, reset⟩
  · have stop : Inline "\x1b[0m " := by decide
    exact (dimmed.append (inline moment)).append stop
  · have blue : Inline "\x1b[34m" := by decide
    have magenta : Inline "\x1b[35m" := by decide
    cases level with
    | debug => exact blue
    | trace => exact magenta

/-- A clock that goes on by a second with each line, from a minute of a day on. -/
def clock (minute : String) (second : Nat) : String :=
  "2026-01-05T" ++ minute ++ ":0" ++ second.repr ++ ".000000Z"

theorem lawful_clock {minute : String} (inline : Inline minute) :
    (timed (clock minute)).Lawful := by
  apply lawful_timed
  intro second
  have day : Inline "2026-01-05T" := by decide
  have colon : Inline ":0" := by decide
  have fraction : Inline ".000000Z" := by decide
  have seconds : Inline second.repr := (printable_natRepr second).inline
  exact (((day.append inline).append colon).append seconds).append fraction

example : (timed (clock "12:30")).line 0 (LogRecord.dispatching "check").entry =
    "\x1b[2m2026-01-05T12:30:00.000000Z\x1b[0m \x1b[34mDEBUG\x1b[0m dispatching " ++
      "\x1b[3mcommand\x1b[0m\x1b[2m=\x1b[0m\"check\"\n" := by
  decide

end LogFormat

/-! ## Records -/

/-- Only a text that is written as it stands can bring a control character in. -/
theorem LogValue.printable_text {value : LogValue}
    (clean : ∀ text, value = .plain text → Printable text) : Printable value.text := by
  cases value with
  | quoted text => exact printable_shown text
  | plain text => exact clean text rfl
  | number value => exact printable_natRepr value
  | list texts =>
      have start : Printable "[" := by decide
      have stop : Printable "]" := by decide
      have each : ∀ text ∈ texts.map shown, Printable text := by
        intro text member
        obtain ⟨hidden, -, rfl⟩ := List.mem_map.mp member
        exact printable_shown hidden
      exact (start.append (.intercalate (by decide) each)).append stop

theorem LogEntry.printable_of_fields {level : LogLevel} {message : String}
    {fields : List (String × LogValue)} (names : List String)
    (told : ∀ word ∈ message :: names, Printable word) (named : fields.map Prod.fst = names)
    (clean : ∀ field ∈ fields, ∀ text, field.2 = .plain text → Printable text) :
    LogEntry.IsPrintable ⟨level, message, fields⟩ := by
  obtain ⟨message, told⟩ := List.forall_mem_cons.mp told
  have leveled : Printable level.word := by
    cases level <;> decide
  refine List.forall_mem_cons.mpr ⟨leveled, List.forall_mem_cons.mpr ⟨message, ?_⟩⟩
  refine List.forall_mem_flatMap.mpr fun field among => ?_
  have name : Printable field.1 := told field.1 (named ▸ List.mem_map_of_mem among)
  have value := LogValue.printable_text (clean field among)
  exact List.forall_mem_cons.mpr ⟨name, List.forall_mem_singleton.mpr value⟩

/-- **Nothing in a record takes effect on a terminal**, whatever the texts in it are. -/
theorem LogRecord.printable_entry (record : LogRecord) : record.entry.IsPrintable := by
  obtain command | ⟨origin, relationships, depth⟩ | ⟨path, missing | field⟩ := record
  · exact LogEntry.printable_of_fields ["command"] (by decide) rfl (by simp)
  · exact LogEntry.printable_of_fields ["origin", "relationships", "depth"] (by decide) rfl
      (by simp)
  · exact LogEntry.printable_of_fields ["path"] (by decide) rfl (by simp)
  · -- The path is written as it stands.
    refine LogEntry.printable_of_fields ["path", "field"] (by decide) rfl ?_
    simpa using path.printable_text

/-- The lines show the records, one by one. -/
def LogRecord.AllShownBy (records : List LogRecord) (lines : List String) : Prop :=
  List.Forall₂ (fun record line => record.entry.IsShownBy line) records lines

namespace LogFormat.Lawful

variable {format : LogFormat}

/-- **A lawful format shows every record on a line of its own.** -/
theorem isShownBy_record (lawful : format.Lawful) (moment : Nat) (record : LogRecord) :
    record.entry.IsShownBy (format.line moment record.entry) :=
  lawful moment _ record.printable_entry

theorem allShownBy_lines (lawful : format.Lawful) (moment : Nat) (records : List LogRecord) :
    LogRecord.AllShownBy records (format.lines moment (records.map LogRecord.entry)) := by
  induction records generalizing moment with
  | nil => exact .nil
  | cons record rest ih => exact .cons (lawful.isShownBy_record moment record) (ih (moment + 1))

end LogFormat.Lawful

end GraphSelect
