import Mathlib
import FontScores.Proofs.Table.Taggings
import FontScores.Table.Rules

/-!
# A written rule table is read back

A rule can be written when its text and its description are fields, and its text holds no comma and
does not look like a comment.  The description is put between quotes and stands last, so it may hold
commas and quotes anywhere: the row is cut at two commas only, and one pair of quotes is taken off.

`WritesRules` says which texts write a list of rules.  Blanks around fields, blank lines, comments
and the two line endings are left open, and every such text is read as the same rules.
-/

namespace FontScores

open Text (isBlank trim cutFirst cutSome)

/-! ## Reading one line -/

/-- Blanks at the end of a text do not get into a piece of it, once that is trimmed. -/
theorem Text.map_trim_cutSome_concat {separator c : Char} (blank : isBlank c = true)
    (other : c ≠ separator) (extra : Nat) (text : List Char) :
    (cutSome separator extra (text ++ [c])).map trim = (cutSome separator extra text).map trim := by
  induction extra generalizing text with
  | zero => simp [cutSome, trim_concat blank]
  | succ extra ih =>
    rw [cutSome, cutSome, cutFirst_concat other]
    cases cutFirst separator text with
    | none => simp [trim_concat blank]
    | some pieces => simp [ih]

namespace Table

theorem Row.assign_congr (columns : List String) {fields others : List (List Char)}
    (same : fields.map trim = others.map trim) : assign columns fields = assign columns others := by
  induction columns generalizing fields others with
  | nil => rfl
  | cons column columns ih =>
    cases fields with
    | nil => rw [List.map_eq_nil_iff.mp same.symm]
    | cons field fields =>
      cases others with
      | nil => cases same
      | cons other others =>
        obtain ⟨first, rest⟩ := List.cons.inj same
        rw [assign, assign, first, ih rest]

/-- What a row says does not depend on a blank at its end. -/
theorem Row.ofLine_concat {c : Char} (blank : isBlank c = true) (columns : List String)
    (line : List Char) : ofLine columns (line ++ [c]) = ofLine columns line := by
  have comma : c ≠ ',' := by
    rintro rfl
    cases blank
  rw [ofLine, Row.assign_congr columns (Text.map_trim_cutSome_concat blank comma _ line), ofLine]

/-- The rule that stands on a line, if one does. -/
def readRule? (line : List Char) : Option LintRule :=
  if isSkipped line then none else ruleOfRow? (Row.ofLine ruleColumns line)

theorem readRules_eq (text : String) :
    readRules text = (Text.lines text.toList).filterMap readRule? := by
  rw [readRules, rows, rowLines, List.filterMap_map, List.filterMap_filter]
  congr 1
  funext line
  cases skipped : isSkipped line <;> simp [readRule?, skipped]

theorem readRule?_concat {c : Char} (blank : isBlank c = true) (line : List Char) :
    readRule? (line ++ [c]) = readRule? line := by
  rw [readRule?, isSkipped_concat blank, Row.ofLine_concat blank, readRule?]

theorem isSkipped_blanks {line : List Char} (blank : ∀ c ∈ line, isBlank c = true) :
    isSkipped line = true := by
  have nothing := Text.trim_append_blanks blank []
  rw [List.nil_append] at nothing
  rw [isSkipped, nothing]
  rfl

theorem isSkipped_comment {front : List Char} (blank : ∀ c ∈ front, isBlank c = true)
    (remark : List Char) : isSkipped (front ++ '#' :: remark) = true := by
  have first : (trim (front ++ '#' :: remark)).head? = some '#' := by
    rw [Text.head?_trim, List.find?_append, List.find?_eq_none.mpr fun c member => by
      simp [blank c member]]
    rfl
  obtain ⟨rest, shape⟩ := List.head?_eq_some_iff.mp first
  rw [isSkipped, shape]
  rfl

end Table

theorem Severity.read_name (severity : Severity) : read severity.name.toList = .ok severity := by
  cases severity <;> rfl

/-! ## Written rules -/

/-- What a rule needs so that its written form can be read. -/
structure LintRule.Writable (row : LintRule) : Prop where
  rule : Table.IsField row.rule.toList
  unseparated : ',' ∉ row.rule.toList
  uncommented : row.rule.toList.head? ≠ some '#'
  description : Table.IsField row.description.toList

namespace Table

/-- A description between quotes. -/
def quotedField (description : String) : List Char := '"' :: description.toList ++ ['"']

/-- The line has the rule, the severity and the quoted description between commas, each with blanks
around it. -/
inductive WritesRule (row : LintRule) : List Char → Prop
  | fields {rule severity description : List Char} (first : Text.Padded row.rule.toList rule)
      (second : Text.Padded row.severity.name.toList severity)
      (third : Text.Padded (quotedField row.description) description) :
      WritesRule row (rule ++ ',' :: (severity ++ ',' :: description))

/-- The lines hold the rules in their order, with blank lines and comments anywhere. -/
inductive WritesLines : List LintRule → List (List Char) → Prop
  | nil : WritesLines [] []
  | blank {rules : List LintRule} {line : List Char} {lines : List (List Char)}
      (blank : ∀ c ∈ line, isBlank c = true) (following : WritesLines rules lines) :
      WritesLines rules (line :: lines)
  | comment {rules : List LintRule} {front : List Char} {lines : List (List Char)}
      (blank : ∀ c ∈ front, isBlank c = true) (remark : List Char)
      (following : WritesLines rules lines) : WritesLines rules ((front ++ '#' :: remark) :: lines)
  | row {row : LintRule} {rules : List LintRule} {line : List Char} {lines : List (List Char)}
      (written : WritesRule row line) (following : WritesLines rules lines) :
      WritesLines (row :: rules) (line :: lines)

/-- The text writes the rules, with either line ending behind each line. -/
def WritesRules (rules : List LintRule) (text : String) : Prop :=
  ∃ lines, WritesLines rules lines ∧ Text.HasLines lines text.toList

/-- The row of a rule without anything around its fields. -/
def ruleLine (row : LintRule) : List Char :=
  row.rule.toList ++ ',' :: (row.severity.name.toList ++ ',' :: quotedField row.description)

/-- The rules in their order and nothing else. -/
def writeRules (rules : List LintRule) : String :=
  String.ofList (Text.joined '\n' (rules.map ruleLine))

/-! ### Reading a row back -/

/-- One pair of quotes is taken off, whatever quotes stand between them. -/
theorem unquote_quotedField {description : String} (single : '\n' ∉ description.toList) :
    unquote (quotedField description) = description.toList := by
  simp [unquote, quotedField, single]

theorem description_quotedField {text : String} (field : IsField text.toList) :
    description (String.ofList (quotedField text)) = text := by
  rw [description, String.toList_ofList, unquote_quotedField field.single, field.trimmed,
    String.ofList_toList]

theorem trim_quotedField (description : String) :
    trim (quotedField description) = quotedField description := by
  have start : Text.trimStart (quotedField description) = quotedField description :=
    Text.trimStart_cons rfl _
  rw [trim, start, Text.trimEnd_eq_rdropWhile, List.rdropWhile_eq_self_iff]
  intro nonempty
  simp [quotedField, isBlank]

theorem isField_name (severity : Severity) : IsField severity.name.toList := by
  cases severity <;> decide

theorem comma_not_mem_name (severity : Severity) : ',' ∉ severity.name.toList := by
  cases severity <;> decide

/-- A line with two commas is cut into three fields at the first two. -/
theorem ofLine_fields {first second : List Char} (one : ',' ∉ first) (two : ',' ∉ second)
    (third : List Char) :
    Row.ofLine ruleColumns (first ++ ',' :: (second ++ ',' :: third)) =
      ⟨[("rule", some (String.ofList (trim first))),
        ("severity", some (String.ofList (trim second))),
        ("description", some (String.ofList (trim third)))]⟩ := by
  have front : cutFirst ',' (first ++ ',' :: (second ++ ',' :: third)) =
      some (first, second ++ ',' :: third) := Text.cutFirst_eq_some_iff.mpr ⟨rfl, one⟩
  have back : cutFirst ',' (second ++ ',' :: third) = some (second, third) :=
    Text.cutFirst_eq_some_iff.mpr ⟨rfl, two⟩
  simp [Row.ofLine, ruleColumns, cutSome, front, back, Row.assign]

variable {row : LintRule}

/-- A line that writes a rule is neither blank nor a comment, as the rule is neither. -/
theorem isSkipped_row {rule : List Char} (writable : row.Writable)
    (padded : Text.Padded row.rule.toList rule) (rest : List Char) :
    isSkipped (rule ++ rest) = false := by
  obtain ⟨c, others, shape⟩ := List.exists_cons_of_ne_nil writable.rule.nonempty
  have uncommented := writable.uncommented
  rw [shape, List.head?_cons] at uncommented
  have first : rule.find? (!isBlank ·) = some c := by
    rw [← Text.head?_trim, padded.trim_eq writable.rule.trimmed, shape, List.head?_cons]
  exact isSkipped_eq_false_iff.mpr
    ⟨c, by rw [List.find?_append, first, Option.some_or], fun sign => uncommented (sign ▸ rfl)⟩

theorem ruleOfRow?_fields (writable : row.Writable) :
    ruleOfRow? ⟨[("rule", some row.rule), ("severity", some row.severity.name),
      ("description", some (String.ofList (quotedField row.description)))]⟩ = some row := by
  have named : row.rule ≠ "" := fun none => writable.rule.nonempty (none ▸ rfl)
  have leveled : row.severity.name ≠ "" := by cases row.severity <;> decide
  have described : String.ofList (quotedField row.description) ≠ "" := by
    simp [quotedField, ← String.toList_inj]
  simp [ruleOfRow?, Row.nonEmpty?, Row.get?, Option.filter, named, leveled, described,
    Severity.read_name, description_quotedField writable.description]

/-- The rule on a line is the one that the line was written for. -/
theorem readRule?_row {line : List Char} (writable : row.Writable) (written : WritesRule row line) :
    readRule? line = some row := by
  obtain @⟨rule, severity, description, first, second, third⟩ := written
  -- The first two commas of the line are those between its fields.
  have one : ',' ∉ rule := first.not_mem rfl writable.unseparated
  have two : ',' ∉ severity := second.not_mem rfl (comma_not_mem_name _)
  rw [readRule?, isSkipped_row writable first, ofLine_fields one two,
    first.trim_eq writable.rule.trimmed, second.trim_eq (isField_name _).trimmed,
    third.trim_eq (trim_quotedField _), String.ofList_toList, String.ofList_toList]
  exact ruleOfRow?_fields writable

/-! ### Reading a table back -/

theorem filterMap_readRule?_eq {written cut : List (List Char)}
    (same : List.Forall₂ (fun line cut => cut = line ∨ cut ++ ['\r'] = line) written cut) :
    cut.filterMap readRule? = written.filterMap readRule? := by
  induction same with
  | nil => rfl
  | @cons line piece _ _ first _ ih =>
    have equal : readRule? piece = readRule? line := by
      rcases first with rfl | rfl
      · rfl
      · exact (readRule?_concat rfl piece).symm
    rw [List.filterMap_cons, List.filterMap_cons, equal, ih]

theorem WritesLines.filterMap_eq {rules : List LintRule} {lines : List (List Char)}
    (written : WritesLines rules lines) (writable : ∀ row ∈ rules, row.Writable) :
    lines.filterMap readRule? = rules := by
  induction written with
  | nil => rfl
  | blank blank _ ih =>
    rw [List.filterMap_cons_none (by rw [readRule?, isSkipped_blanks blank, if_pos rfl])]
    exact ih writable
  | comment blank remark _ ih =>
    rw [List.filterMap_cons_none (by rw [readRule?, isSkipped_comment blank, if_pos rfl])]
    exact ih writable
  | row written _ ih =>
    obtain ⟨first, others⟩ := List.forall_mem_cons.mp writable
    rw [List.filterMap_cons_some (readRule?_row first written), ih others]

/-- A table is read as the rules that it writes. -/
theorem readRules_of_writesRules {rules : List LintRule} {text : String}
    (writable : ∀ row ∈ rules, row.Writable) (written : WritesRules rules text) :
    readRules text = rules := by
  obtain ⟨lines, held, cut⟩ := written
  rw [readRules_eq, filterMap_readRule?_eq cut.cut, held.filterMap_eq writable]

theorem writesRules_writeRules {rules : List LintRule} (writable : ∀ row ∈ rules, row.Writable) :
    WritesRules rules (writeRules rules) := by
  refine ⟨rules.map ruleLine, ?_, ?_⟩
  · clear writable
    induction rules with
    | nil => exact .nil
    | cons row rules ih => exact .row (.fields (.refl _) (.refl _) (.refl _)) ih
  · rw [writeRules, String.toList_ofList]
    refine Text.hasLines_joined ?_
    rintro _ member
    obtain ⟨row, present, rfl⟩ := List.mem_map.mp member
    have one := (writable row present).rule.single
    have two := (isField_name row.severity).single
    have three := (writable row present).description.single
    simp [ruleLine, quotedField, one, two, three]

/-- Every text that writes the rules is read as exactly these rules in their order, whatever blanks,
blank lines, comments and line endings it has besides; one such text has nothing besides. -/
theorem readRules_written (rules : List LintRule) (writable : ∀ row ∈ rules, row.Writable) :
    (∀ text, WritesRules rules text → readRules text = rules) ∧
      WritesRules rules (writeRules rules) :=
  ⟨fun _ => readRules_of_writesRules writable, writesRules_writeRules writable⟩

/-- Descriptions that hold a comma, that are a quote alone and that start and end with quotes. -/
def quotingRules : List LintRule :=
  [⟨"family == \"A\"", "Commas, kept", .info⟩, ⟨"tags[\"X\"] > 50", "\"", .error⟩,
    ⟨"!tags[\"Y\"]", "\"so\" it, \"is\"", .warn⟩]

/-- A table of them with both line endings, the last line without any. -/
def quotingTable : String :=
  "# rule,severity,description\r\n" ++
  "\n" ++
  "  family == \"A\" ,INFO\t, \"Commas, kept\" \r\n" ++
  "\t# blanks, and \"quotes\"\n" ++
  "tags[\"X\"] > 50,ERROR,\"\"\"\n" ++
  " \r\n" ++
  "!tags[\"Y\"],WARN,\"\"so\" it, \"is\"\""

theorem readRules_written_of_quoting :
    (∀ row ∈ quotingRules, row.Writable) ∧ WritesRules quotingRules quotingTable ∧
      readRules quotingTable = quotingRules := by
  have writable : ∀ row ∈ quotingRules, row.Writable := by
    rintro row member
    constructor
    all_goals
      revert row
      decide
  have cut : Text.lines quotingTable.toList =
      [[] ++ '#' :: " rule,severity,description".toList,
        [],
        [' ', ' '] ++ "family == \"A\"".toList ++ [' '] ++ ',' ::
          ([] ++ "INFO".toList ++ ['\t'] ++ ',' :: ([' '] ++ quotedField "Commas, kept" ++ [' '])),
        ['\t'] ++ '#' :: " blanks, and \"quotes\"".toList,
        ruleLine ⟨"tags[\"X\"] > 50", "\"", .error⟩,
        [' '],
        ruleLine ⟨"!tags[\"Y\"]", "\"so\" it, \"is\"", .warn⟩] := by
    decide +kernel
  have held : WritesLines quotingRules (Text.lines quotingTable.toList) := by
    rw [cut]
    refine .comment ?_ _ <| .blank ?_ <| .row (.fields ⟨_, _, rfl, ?_⟩ ⟨_, _, rfl, ?_⟩
      ⟨_, _, rfl, ?_⟩) <| .comment ?_ _ <| .row (.fields (.refl _) (.refl _) (.refl _)) <|
      .blank ?_ <| .row (.fields (.refl _) (.refl _) (.refl _)) .nil
    all_goals simp [isBlank]
  have written : WritesRules quotingRules quotingTable :=
    ⟨_, held, Text.hasLines_lines quotingTable.toList⟩
  exact ⟨writable, written, (readRules_written quotingRules writable).1 quotingTable written⟩

end Table

end FontScores
