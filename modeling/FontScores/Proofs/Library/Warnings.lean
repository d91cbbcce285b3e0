import Mathlib
import FontScores.Platform
import FontScores.Proofs.Library.Consistency
import FontScores.Proofs.Library.Independence
import FontScores.Proofs.Rule.Monotone

/-!
# A rule table checks its rules one by one

Every rule says about a font what it says alone, and a table says it for its rules in their order.
A table keeps its rows apart from what their rules say; the two lists stay aligned because a rule
that cannot be read has its place in the second one too.  It has a complaint of its own and leaves
the others as they are, wherever it stands.  A library checks a family against the table of its
registry, and checking all families is checking each of them.
-/

namespace FontScores

/-- The warning in place of a rule that cannot be read. -/
def LintRule.complaint (row : LintRule) : LintWarning :=
  ⟨"Rule could not be parsed: " ++ row.rule, .error⟩

section Engine

variable [PatternEngine]

/-! ## One rule -/

namespace LintRule

/-- What the rule says about a font when its text is evaluated for that font alone. -/
def warnings (row : LintRule) (font : Font) : List LintWarning :=
  match Rule.evaluate row.rule (RuleContext.ofFont font) with
  | .ok false => []
  | .ok true => [⟨row.description, row.severity⟩]
  | .error _ => [row.complaint]

variable {row : LintRule}

theorem warnings_of_malformed {error : Rule.Error}
    (malformed : Rule.compile row.rule = .error error) (font : Font) :
    row.warnings font = [row.complaint] := by
  rw [warnings, Rule.evaluate, malformed]
  rfl

/-- Reading the rule beforehand makes no difference. -/
theorem toList_warning? (row : LintRule) (font : Font) :
    (row.warning? (RuleContext.ofFont font) (Rule.compile row.rule)).toList =
      row.warnings font := by
  rw [warnings, Rule.evaluate]
  cases Rule.compile row.rule with
  | error error => rfl
  | ok expr =>
    cases value : expr.eval (RuleContext.ofFont font) <;>
      simp [warning?, value, bind, Except.bind, pure, Except.pure]

end LintRule

/-! ## Tables of rules -/

/-- Beside every row stands what its own rule says, or the error in it, and nothing else. -/
def RuleTable.Aligned (table : RuleTable) : Prop :=
  List.Forall₂ (fun row condition => condition = Rule.compile row.rule) table.rows table.conditions

theorem RuleTable.aligned_ofRows (rows : List LintRule) : (ofRows rows).Aligned :=
  List.forall₂_map_right_iff.mpr (List.forall₂_same.mpr fun _ _ => rfl)

/-- A table whose lists are aligned says what its rules say, one after the other. -/
theorem RuleTable.Aligned.lint_eq_flatMap {table : RuleTable} (aligned : table.Aligned)
    (font : Font) : table.lint font = table.rows.flatMap (·.warnings font) := by
  obtain ⟨rows, conditions⟩ := table
  rw [RuleTable.lint, List.filterMap_eq_flatMap_toList]
  change List.Forall₂ _ rows conditions at aligned
  -- Both lists lose a member at once, and the two belong together.
  induction aligned with
  | nil => rfl
  | cons compiled _ ih =>
    subst compiled
    rw [List.zip_cons_cons, List.flatMap_cons, List.flatMap_cons, LintRule.toList_warning?, ih]

theorem lint_eq_flatMap (rows : List LintRule) (font : Font) :
    lint rows font = rows.flatMap (·.warnings font) :=
  (RuleTable.aligned_ofRows rows).lint_eq_flatMap font

theorem lint_append (front back : List LintRule) (font : Font) :
    lint (front ++ back) font = lint front font ++ lint back font := by
  simp only [lint_eq_flatMap, List.flatMap_append]

/-- A rule that cannot be read adds its complaint between the warnings of the rules before it and
those of the rules behind it. -/
theorem lint_malformed {row : LintRule} {error : Rule.Error}
    (malformed : Rule.compile row.rule = .error error) (front back : List LintRule) (font : Font) :
    lint (front ++ row :: back) font = lint front font ++ row.complaint :: lint back font := by
  rw [lint_append, lint_eq_flatMap (row :: back), List.flatMap_cons,
    LintRule.warnings_of_malformed malformed, ← lint_eq_flatMap, List.singleton_append]

theorem ReferenceData.rules_of_build {data : ReferenceData} {registry : Registry}
    (built : data.build = .ok registry) :
    registry.rules = RuleTable.ofRows registry.rules.rows := by
  obtain ⟨tags, families, embeddings, _, _, _, rfl⟩ := build_eq_ok_iff.mp built
  rfl

/-! ### More taggings -/

/-- The rule has no `!`. -/
def LintRule.Plain (row : LintRule) : Prop :=
  ∀ lexed, Rule.lexemes 0 row.rule.toList = .ok lexed → .bang ∉ lexed.map Rule.Lexeme.token

theorem LintRule.Plain.warnings_sublist {row : LintRule} (plain : row.Plain) {font more : Font}
    (extended : (RuleContext.ofFont font).ExtendedBy (RuleContext.ofFont more)) :
    (row.warnings font).Sublist (row.warnings more) := by
  rw [warnings, warnings, Rule.evaluate, Rule.evaluate]
  generalize read : Rule.compile row.rule = compiled
  cases compiled with
  -- The complaint is the same for every font.
  | error error => exact .refl _
  | ok expr =>
    obtain ⟨lexed, cut, _⟩ := bind_eq_ok_iff.mp read
    have still := Rule.eval_mono_of_compile cut read (plain lexed cut) extended
    simp only [bind, Except.bind, pure, Except.pure]
    cases before : expr.eval (RuleContext.ofFont font) with
    | false => exact List.nil_sublist _
    | true => rw [still before]

/-- Rules without a `!` keep their warnings when a font gets further taggings, and what these bring
up stands between them. -/
theorem lint_sublist {rows : List LintRule} (plain : ∀ row ∈ rows, row.Plain) (font : Font)
    (taggings : List Tagging) :
    (lint rows font).Sublist
      (lint rows { font with taggings := font.taggings ++ taggings }) := by
  rw [lint_eq_flatMap, lint_eq_flatMap]
  induction rows with
  | nil => exact .refl _
  | cons row rows ih =>
    obtain ⟨first, others⟩ := List.forall_mem_cons.mp plain
    have extended := RuleContext.extendedBy_ofFont font taggings
    exact (first.warnings_sublist extended).append (ih others)

end Engine

/-! ## Libraries -/

namespace Library

/-- The warnings for a family with its name, if there are any. -/
def report? (library : Library) (family : String) : Option (String × List LintWarning) :=
  ((library.lint? family).filter (· ≠ [])).map fun warnings => (family, warnings)

variable {library : Library}

/-- Where no name occurs twice, every font is found under its name. -/
theorem Arranged.font?_eq_some_iff_mem (arranged : library.Arranged)
    (distinct : (library.fonts.map Font.name).Nodup) (family : String) (font : Font) :
    library.font? family = some font ↔ font ∈ library.fonts ∧ font.name = family := by
  have indexed := indexed_of_nodup distinct family
  rw [← arranged.positions] at indexed
  constructor
  · intro found
    obtain ⟨⟨position, _⟩, placed, rfl⟩ := Option.map_eq_some_iff.mp found
    exact ⟨List.mem_of_getElem? (placed?_eq_some_iff.mp placed).2, arranged.name_of_placed placed⟩
  · rintro ⟨member, named⟩
    obtain ⟨position, at_⟩ := List.getElem?_of_mem member
    have placed := placed?_eq_some_iff.mpr ⟨(indexed position).mpr ⟨font, at_, named⟩, at_⟩
    rw [font?, placed, Option.map_some]

/-- Where the name of every font leads to it, checking all fonts is checking each family. -/
theorem lintAll_eq_filterMap (found : ∀ font ∈ library.fonts, library.font? font.name = some font) :
    library.lintAll = (library.fonts.map Font.name).filterMap library.report? := by
  rw [lintAll, List.filter_map, ← List.filterMap_eq_map, List.filterMap_filter, List.filterMap_map]
  refine List.filterMap_congr fun font member => ?_
  simp only [Function.comp_apply, report?, lint?, found font member, Option.map_some]
  by_cases quiet : library.registry.rules.lint font = [] <;> simp [quiet, Option.filter]

/-- What a library says about its families is what the rules of its registry say about their fonts,
one by one. -/
theorem rules_one_by_one [PatternEngine] (data : ReferenceData) (registry : Registry)
    (built : data.build = .ok registry) (operations : List Operation) :
    (∀ rows font, lint rows font = rows.flatMap (·.warnings font)) ∧
    (∀ row error, Rule.compile row.rule = .error error → ∀ front back font,
      lint (front ++ row :: back) font = lint front font ++ row.complaint :: lint back font ∧
      lint (front ++ back) font = lint front font ++ lint back font) ∧
    let library := (ofRegistry registry).run operations
    let families := registry.families.map Font.name
    library.registry.rules.Aligned ∧
    (∀ family, library.lint? family = (library.font? family).map (lint registry.rules.rows)) ∧
    (∀ family, (library.lint? family).isSome ↔ family ∈ families) ∧
    library.lintAll = families.filterMap library.report? := by
  refine ⟨lint_eq_flatMap, fun row error malformed front back font => ?_, ?_⟩
  · exact ⟨lint_malformed malformed front back font, lint_append front back font⟩
  intro library families
  -- A session leaves the rules and the names of the families as they were built.
  have table : library.registry.rules = RuleTable.ofRows registry.rules.rows := by
    rw [← ReferenceData.rules_of_build built, registry_run, ofRegistry]
  have rules : library.registry.rules.lint = lint registry.rules.rows := by
    funext font
    rw [lint, table]
  have names : library.fonts.map Font.name = families := by
    rw [names_run]
    simp [ofRegistry, Font.untagged, families]
  have distinct : (library.fonts.map Font.name).Nodup :=
    names ▸ ReferenceData.nodup_families_of_build built
  have known := (arranged_run registry operations).font?_eq_some_iff_mem distinct
  refine ⟨table ▸ RuleTable.aligned_ofRows _, fun family => ?_, fun family => ?_, ?_⟩
  · rw [lint?, rules]
  · rw [lint?, Option.isSome_map, Option.isSome_iff_exists, ← names, List.mem_map]
    exact exists_congr (known family)
  · rw [← names]
    exact lintAll_eq_filterMap fun font member => (known _ font).mpr ⟨member, rfl⟩

/-- A table with a rule in the middle that cannot be read, and a session that tags one of two
families. -/
theorem rules_one_by_one_of_malformed :
    let loud : LintRule := ⟨"tags['/Loud'] > 50", "loud", .warn⟩
    let broken : LintRule := ⟨"tags[", "broken", .info⟩
    let named : LintRule := ⟨"family == 'Inter'", "named", .fail⟩
    let data : ReferenceData := {
      extraTags := [TagDefinition.named "/Loud"]
      extraFamilies := [.untagged "Roboto" [], .untagged "Inter" []]
      extraRules := [loud, broken, named] }
    let registry : Registry := ⟨TagCatalogue.empty.register (TagDefinition.named "/Loud"),
      [.untagged "Roboto" [], .untagged "Inter" []], RuleTable.ofRows [loud, broken, named],
      EmbeddingIndex.empty⟩
    let library := (ofRegistry registry).run [.add (.fixed ⟨"Inter", "/Loud", .ofNat _ false 95⟩)]
    data.build = .ok registry ∧ Rule.compile broken.rule = .error ⟨5, .expected .text none⟩ ∧
      (∀ font, lint [loud, broken, named] font =
        lint [loud] font ++ broken.complaint :: lint [named] font) ∧
      library.lintAll = [("Roboto", [broken.complaint]),
        ("Inter", [⟨"loud", .warn⟩, broken.complaint, ⟨"named", .fail⟩])] := by
  have malformed : Rule.compile "tags[" = .error ⟨5, .expected .text none⟩ := by
    with_unfolding_all rfl
  intro loud broken named data registry library
  have built : data.build = .ok registry := by rfl
  -- The broken rule is put between the others, so their warnings are those they give alone.
  obtain ⟨_, inserted, _, _, _, all⟩ := rules_one_by_one data registry built
    [.add (.fixed ⟨"Inter", "/Loud", .ofNat _ false 95⟩)]
  refine ⟨built, malformed, fun font => (inserted broken _ malformed [loud] [named] font).1, ?_⟩
  rw [all]
  decide +kernel

end Library

end FontScores
