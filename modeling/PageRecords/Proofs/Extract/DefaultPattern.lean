import PageRecords.Proofs.Document.RuleGrammar
import PageRecords.Proofs.Extract.Placeholders
import PageRecords.Proofs.Names
import PageRecords.Proofs.Regex.LongestRun
import PageRecords.Proofs.Regex.Words

/-!
# Replacements without a pattern

A replacement that has an output only finds the first line of a value, which every value has:
the default pattern takes any characters but a line feed. So `$0` is the whole value just when
it has one line, and what comes after the first line is not in the result
(`output_alone_finds_first_line`). No other group takes part.
-/

namespace PageRecords

open Json (Members)
open Unicode (CharSet)

-- --------------------------------------------------------------------
-- The first line
-- --------------------------------------------------------------------

/-- The text before the first line feed. -/
def firstLine (v : String) : String := String.ofList (v.toList.takeWhile (· ≠ '\n'))

variable {v output : String} {item value : Json}

theorem firstLine_eq_iff : firstLine v = v ↔ '\n' ∉ v.toList := by
  rw [firstLine, ← String.toList_inj, String.toList_ofList, List.takeWhile_eq_self_iff]
  simp only [decide_eq_true_eq]
  exact ⟨fun h hmem => h '\n' hmem rfl, fun h c hc => fun heq => h (heq ▸ hc)⟩

theorem contains_inLine (c : Char) :
    (CharSet.singleton '\n').complement.contains c = decide (c ≠ '\n') := by
  rw [Bool.eq_iff_iff, CharSet.contains_complement_singleton, decide_eq_true_iff]

theorem compile?_matchAll :
    Regex.compile? matchAll =
      some ⟨matchAll, .rep 0 none true (.set (CharSet.singleton '\n').complement)⟩ := by
  rfl

/-- The default pattern matches any text at its start, up to the end of the first line. -/
theorem captures?_matchAll {find : Regex} (h : Regex.compile? matchAll = some find) (v : String) :
    ∃ c, find.captures? v = some c ∧ ∀ n, c.get? n = if n = 0 then some (firstLine v) else none := by
  cases compile?_matchAll.symm.trans h
  refine ⟨_, Regex.captures?_star_set matchAll _ v, fun n => ?_⟩
  rw [Regex.Captures.get?, lookup_cons_if]
  split
  · rw [Option.map_some, Regex.Span.text_past, firstLine, funext contains_inLine]
  · rfl

namespace Replacement

/-- What stands for a piece of an output where a text is all that there is to put in. -/
def filledWith (whole : String) : Piece → List Char
  | .plain text => text
  | .dollar digits =>
    if digits.isEmpty then ['$'] else if groupNumber? digits = some 0 then whole.toList else []

theorem filled_eq_filledWith {c : Regex.Captures} {whole : String}
    (h : ∀ n, c.get? n = if n = 0 then some whole else none) (p : Piece) :
    filled c p = filledWith whole p := by
  cases p with
  | plain text => rfl
  | dollar digits =>
    rw [filled, filledWith, groupText]
    cases groupNumber? digits with
    | none => simp
    | some n => by_cases hn : n = 0 <;> simp [h, hn]

theorem run?_matchAll {find : Regex} (h : Regex.compile? matchAll = some find)
    (output v : String) :
    run? ⟨find, output⟩ v =
      some (String.ofList ((pieces output.toList).flatMap (filledWith (firstLine v)))) := by
  obtain ⟨c, hc, hgroups⟩ := captures?_matchAll h v
  rw [run?, hc, Option.map_some, fill_of_splits (splits_pieces _),
    funext (filled_eq_filledWith hgroups)]

-- --------------------------------------------------------------------
-- Reading
-- --------------------------------------------------------------------

/-- A replacement that is given as an output without a pattern. -/
inductive OutputAlone : Json → String → Prop
  | text (output : String) : OutputAlone (.string output) output
  | object {o : Members} {output : String} (houtput : o.Has ["output"] (.string output))
      (hfind : o.Lacks ["find"]) : OutputAlone (.object o) output

theorem read_outputAlone {field : Field} {r : Replacement} (h : OutputAlone value output)
    (hread : Replacement.read value field false = .ok r) :
    Regex.compile? matchAll = some r.find ∧ r.output = output := by
  have hcompile : ∀ {f : Field} {find : Regex}, compilePattern matchAll f = .ok find →
      Regex.compile? matchAll = some find := by
    intro f find hfind
    rw [compilePattern] at hfind
    split at hfind
    · next hsome =>
      cases hfind
      exact hsome
    · cases hfind
  cases h with
  | text output =>
    simp only [Replacement.read, Bool.false_eq_true, if_false, bind_ok, pure_ok] at hread
    obtain ⟨find, hfind, rfl⟩ := hread
    exact ⟨hcompile hfind, rfl⟩
  | object houtput hlacks =>
    simp only [Replacement.read, Bool.false_eq_true, if_false, bind_ok, pure_ok] at hread
    obtain ⟨found, hfound, pattern, hpattern, find, hfind, rfl⟩ := hread
    cases hfound.symm.trans (Json.requireString_ok_iff.mpr houtput)
    cases hpattern.symm.trans (Json.optionalString_none_iff.mpr hlacks)
    exact ⟨hcompile hfind, rfl⟩

end Replacement

/-- A rule gives its replacement as an output without a pattern. -/
inductive Json.RewritesTo : Json → String → Prop
  | mk {o : Members} {value : Json} {output : String} (hvalue : o.Has ["rewrite"] value)
      (h : Replacement.OutputAlone value output) : RewritesTo (.object o) output

theorem Rule.replacement_of_rewritesTo {r : Rule} (hread : ReadFrom item r)
    (h : item.RewritesTo output) :
    ∃ find, Regex.compile? matchAll = some find ∧ r.replacement = some ⟨find, output⟩ := by
  obtain ⟨field, hread⟩ := hread
  cases h with | mk hvalue halone
  obtain ⟨-, -, -, -, -, -, hrep⟩ := read_object_ok_iff.mp hread
  obtain ⟨key, hlookup⟩ := Json.has_iff.mp hvalue
  rcases readReplacement_ok_iff.mp hrep with ⟨hnone, -⟩ | ⟨_, _, found, hsome, hfound, hr⟩
  · cases hnone.symm.trans hlookup
  cases hsome.symm.trans hlookup
  cases hsub : r.hasSubRules with
  | true => rw [hsub] at hfound; cases hfound
  | false =>
    rw [hsub] at hfound
    obtain ⟨hfind, rfl⟩ := Replacement.read_outputAlone halone hfound
    exact ⟨found.find, hfind, hr⟩

/-- A literal value of two lines, to be put between brackets. -/
def bracketRule : Json :=
  .object [("name", .string "x"), ("value", .string "a\nb"), ("rewrite", .string "[$0]")]

theorem bracketRule_rewritesTo : bracketRule.RewritesTo "[$0]" := by
  refine .mk (.here rfl ?_) (.text "[$0]")
  rw [← Json.isPresent_eq_false_iff]
  decide

theorem bracket_rule_is_read :
    ∃ rules r find, Rule.readAll (.array [bracketRule]) (.at_ "rules") = .ok rules ∧
      Rule.at? rules 0 [] = some r ∧ Regex.compile? matchAll = some find ∧
      r.replacement = some ⟨find, "[$0]"⟩ := by
  have hsome : (Rule.readAll (.array [bracketRule]) (.at_ "rules")).toOption.isSome := by
    decide +kernel
  cases hread : Rule.readAll (.array [bracketRule]) (.at_ "rules") with
  | error e => simp [hread, Except.toOption] at hsome
  | ok rules =>
    obtain ⟨items, hitems, -, hrules⟩ := Rule.readAll_ok hread
    obtain rfl := Json.array.inj hitems
    cases hrules with | cons hfrom hnil
    cases hnil
    obtain ⟨find, hfind, hreplacement⟩ := Rule.replacement_of_rewritesTo hfrom bracketRule_rewritesTo
    exact ⟨_, _, find, rfl, rfl, hfind, hreplacement⟩

/-- Of rules that are read, at every depth, one that has an output and no pattern replaces every
value: `$0` is the value's first line, the other placeholders are empty and the rest of the
output stays. The first line is the whole value just when no line feed is in it. -/
theorem output_alone_finds_first_line {listed : Json} {field : Field} {rules : List Rule}
    (h : Rule.readAll listed field = .ok rules) :
    ∃ items, listed = .array items ∧
      ∀ (i : Nat) (path : List Nat) (r : Rule), Rule.at? rules i path = some r →
        ∃ item, Json.ruleItem? items i path = some item ∧
          ∀ output, item.RewritesTo output → ∃ replacement, r.replacement = some replacement ∧
            ∀ v, (∃ c, replacement.find.captures? v = some c ∧ c.get? 0 = some (firstLine v)) ∧
              replacement.run? v = some (String.ofList
                ((Replacement.pieces output.toList).flatMap
                  (Replacement.filledWith (firstLine v)))) ∧
              (firstLine v = v ↔ '\n' ∉ v.toList) := by
  obtain ⟨items, rfl, -, hitems⟩ := Rule.readAll_ok h
  refine ⟨items, rfl, fun i path r hr => ?_⟩
  obtain ⟨item, hitem, hread⟩ :=
    descend_related (fun _ _ hread => (Rule.read_ok hread).2.1) hitems path hr
  refine ⟨item, hitem, fun output houtput => ?_⟩
  obtain ⟨find, hfind, hreplacement⟩ := Rule.replacement_of_rewritesTo hread houtput
  refine ⟨_, hreplacement, fun v => ⟨?_, Replacement.run?_matchAll hfind output v,
    firstLine_eq_iff⟩⟩
  obtain ⟨c, hc, hgroups⟩ := captures?_matchAll hfind v
  exact ⟨c, hc, by rw [hgroups, if_pos rfl]⟩

theorem pieces_brackets :
    Replacement.pieces "[$0]".toList = [.plain ['['], .dollar ['0'], .plain [']']] := by
  cbv

/-- Whatever the value, its first line stands between the brackets. -/
theorem brackets_stand_around_first_line :
    ∃ rules r replacement, Rule.readAll (.array [bracketRule]) (.at_ "rules") = .ok rules ∧
      Rule.at? rules 0 [] = some r ∧ r.replacement = some replacement ∧
      ∀ v, replacement.run? v = some (String.ofList ('[' :: (firstLine v).toList ++ [']'])) := by
  obtain ⟨rules, r, find, hread, hr, -, -⟩ := bracket_rule_is_read
  obtain ⟨items, hitems, hrules⟩ := output_alone_finds_first_line hread
  obtain ⟨item, hitem, houtput⟩ := hrules 0 [] r hr
  obtain rfl := Json.array.inj hitems
  obtain rfl := Option.some.inj hitem
  obtain ⟨replacement, hreplacement, hvalues⟩ := houtput _ bracketRule_rewritesTo
  refine ⟨rules, r, replacement, hread, hr, hreplacement, fun v => ?_⟩
  rw [(hvalues v).2.1, pieces_brackets]
  rfl

/-- Without a pattern the second line of a value is not found, and so it is left out. -/
theorem second_line_is_left_out :
    ∃ rules r replacement, Rule.readAll (.array [bracketRule]) (.at_ "rules") = .ok rules ∧
      Rule.at? rules 0 [] = some r ∧ r.replacement = some replacement ∧
      replacement.run? "a\nb" = some "[a]" := by
  obtain ⟨rules, r, find, hread, hr, hfind, hreplacement⟩ := bracket_rule_is_read
  refine ⟨rules, r, _, hread, hr, hreplacement, ?_⟩
  rw [Replacement.run?_matchAll hfind, pieces_brackets]
  decide +kernel

end PageRecords
