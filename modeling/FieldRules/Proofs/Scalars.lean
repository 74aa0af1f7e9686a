import FieldRules.Proofs.Referenced

/-! Rules that look at the text of a value.

The text of a string is the string, and that of any other value its compact text
(`Json.HasText`), as an argument too (`Element.hasText_iff`). Rules look at it of strings,
numbers and truth values only (`Builtin.scalarText?_eq_some_iff`). So a value is one of the
arguments if it is a scalar whose text is among theirs (`Builtin.isIn_iff`), and a rule on a
pattern holds of it if the pattern matches its text (`Builtin.regex_iff`). Commas divide the
arguments of a token, and the pattern is put together again from what they divided
(`Text.Pieces.intercalate`).

`Element.rule?_membership`: membership is that of texts, and not to be a member is the contrary,
of every value. `Declaration.rules_regex`: however a pattern is declared, it is the same
pattern, and judges as a custom rule of it does. -/
namespace FieldRules

namespace Json

/-- A value that rules on texts look at. -/
inductive Scalar : Json → Prop where
  | string (s : String) : Scalar (.string s)
  | number (n : Number) : Scalar (.number n)
  | bool (b : Bool) : Scalar (.bool b)

/-- The text of a string is the string itself, that of any other value its compact text. -/
inductive HasText : Json → String → Prop where
  | string (s : String) : HasText (.string s) s
  | other {v : Json} : (∀ s, v ≠ .string s) → HasText v v.text

end Json

/-! ### Texts of values -/

/-- As an argument a value is its text. -/
theorem Element.hasText_iff (v : Json) (text : String) : v.HasText text ↔ argText v = text := by
  constructor
  · intro h
    cases h with
    | string => rfl
    | other hother =>
      cases v with
      | string s => exact absurd rfl (hother s)
      | _ => rfl
  · rintro rfl
    cases v with
    | string s => exact .string s
    | _ => exact .other fun _ => nofun

namespace Builtin

/-- As a value a scalar has the same text. -/
theorem scalarText?_eq_some_iff (v : Json) (text : String) :
    scalarText? v = some text ↔ v.Scalar ∧ v.HasText text := by
  have hscalar (h : v.Scalar) : scalarText? v = some (Element.argText v) := by
    cases h with
    | string s => rfl
    | number n => rfl
    | bool b => cases b <;> rfl
  rw [Element.hasText_iff]
  constructor
  · intro h
    have hv : v.Scalar := by
      cases v with
      | string s => exact .string s
      | number n => exact .number n
      | bool b => exact .bool b
      | null => cases h
      | array items => cases h
      | object entries => cases h
    exact ⟨hv, Option.some.inj ((hscalar hv).symm.trans h)⟩
  · rintro ⟨hv, rfl⟩
    exact hscalar hv

theorem any_scalarText?_iff (v : Json) (test : String → Bool) :
    (scalarText? v).any test = true ↔ v.Scalar ∧ ∃ text, v.HasText text ∧ test text = true := by
  simp only [Option.any_eq_true, scalarText?_eq_some_iff, and_assoc, exists_and_left]

theorem isIn_iff (v : Json) (args : List String) :
    isIn v args = true ↔ v.Scalar ∧ ∃ text, v.HasText text ∧ text ∈ args := by
  rw [isIn, any_scalarText?_iff]
  simp only [List.contains_iff_mem]

/-- Of a value without a text it holds that it is none of the arguments. -/
theorem notIn_iff (v : Json) (args : List String) :
    notIn v args = true ↔ isIn v args = false := by
  rw [notIn, isIn, Bool.not_eq_true']

theorem hasMatch_iff (pattern : Pattern) (v : Json) :
    hasMatch pattern v = true ↔
      v.Scalar ∧ ∃ text, v.HasText text ∧ pattern.matchesText text = true :=
  any_scalarText?_iff v pattern.matchesText

/-- The arguments are read as what they are with commas between them. -/
theorem regex_iff {args : List String} (hne : args ≠ []) (v : Json) :
    regex v args = true ↔
      ∃ pattern, Pattern.ofText? (",".intercalate args) = some pattern ∧
        v.Scalar ∧ ∃ text, v.HasText text ∧ pattern.matchesText text = true := by
  simp [regex, hne, Option.any_eq_true, hasMatch_iff]

end Builtin

/-! ### Rules under built-in names -/

/-- The rule that a built-in name declares with arguments. -/
def Builtin.rule (b : Builtin) (args : List String) (modifier : Modifier) : Rule :=
  ⟨b.validator, args, some b.name, modifier⟩

section
variable {b : Builtin} (hb : b ∈ Builtin.all) {written : String} {modifier : Modifier}
  (hresolve : RuleName.resolve written = (b.name, modifier))
include hb hresolve

theorem Element.rule?_sequence_builtin (args : List String) :
    (sequence (.name written) args).rule? Registry.builtins.lookup =
      .ok (some (b.rule args modifier)) :=
  Config.rule?_sequence_of_get? hresolve
    ((Registry.get?_builtins b.name _).mpr ⟨b, hb, rfl, rfl⟩) args

theorem Element.rule?_token_builtin {text : String} {args : List String}
    (hreads : Reads text written args) :
    (token text).rule? Registry.builtins.lookup = .ok (some (b.rule args modifier)) :=
  Config.rule?_token_of_get? hresolve
    ((Registry.get?_builtins b.name _).mpr ⟨b, hb, rfl, rfl⟩) hreads

end

/-! ### Membership -/

namespace Element

theorem forall₂_hasText_iff (items : List Json) (texts : List String) :
    List.Forall₂ Json.HasText items texts ↔ items.map argText = texts := by
  have hsame : Json.HasText = fun v text => argText v = text := by
    funext v text
    exact propext (hasText_iff v text)
  rw [← List.forall₂_eq_eq_eq, List.forall₂_map_left_iff, hsame]

/-- **A value is a member if its text is that of an argument**, where only scalars have a text
to compare; and it is none of the arguments exactly if it is not a member. With arguments
whose texts have no comma, the token of these texts declares the same rule. -/
theorem rule?_membership (items : List Json) :
    ∃ inside outside : Rule,
      (ofJson (.array (.string "in" :: items))).rule? Registry.builtins.lookup =
          .ok (some inside) ∧
        (ofJson (.array (.string "not_in" :: items))).rule? Registry.builtins.lookup =
          .ok (some outside) ∧
        (∀ v, inside.check v = true ↔
          v.Scalar ∧ ∃ a ∈ items, ∃ text, v.HasText text ∧ a.HasText text) ∧
        (∀ v, outside.check v = true ↔ inside.check v = false) ∧
        ∀ texts, List.Forall₂ Json.HasText items texts → items ≠ [] →
          (∀ text ∈ texts, ',' ∉ text.toList) →
          (token ("in:" ++ ",".intercalate texts)).rule? Registry.builtins.lookup =
              .ok (some inside) ∧
            (token ("not_in:" ++ ",".intercalate texts)).rule? Registry.builtins.lookup =
              .ok (some outside) := by
  have hin : (⟨"in", "Value is one of the arguments", Builtin.isIn⟩ : Builtin) ∈ Builtin.all := by
    simp [Builtin.all]
  have hnotIn : (⟨"notIn", "Value is none of the arguments", Builtin.notIn⟩ : Builtin) ∈
      Builtin.all := by
    simp [Builtin.all]
  have hinName : RuleName.resolve "in" = ("in", .plain) := by decide +kernel
  have hnotInName : RuleName.resolve "not_in" = ("notIn", .plain) := by decide +kernel
  refine ⟨_, _, rule?_sequence_builtin hin hinName (items.map argText),
    rule?_sequence_builtin hnotIn hnotInName (items.map argText), ?_, ?_, ?_⟩
  · intro v
    show Builtin.isIn v (items.map argText) = true ↔ _
    rw [Builtin.isIn_iff]
    simp only [List.mem_map, ← hasText_iff]
    constructor
    · rintro ⟨hv, text, htext, a, ha, hsame⟩
      exact ⟨hv, a, ha, text, htext, hsame⟩
    · rintro ⟨hv, a, ha, text, htext, hsame⟩
      exact ⟨hv, text, htext, a, ha, hsame⟩
  · exact fun v => Builtin.notIn_iff v (items.map argText)
  · intro texts htexts hne hfree
    obtain rfl := (forall₂_hasText_iff items texts).mp htexts
    have hreads (written : String) (hname : ':' ∉ written.toList) :
        Reads (written ++ ":" ++ ",".intercalate (items.map argText)) written
          (items.map argText) :=
      .applied hname rfl ⟨by simpa using hne, hfree, String.toList_intercalate⟩
    exact ⟨rule?_token_builtin hin hinName (hreads "in" (by decide)),
      rule?_token_builtin hnotIn hnotInName (hreads "not_in" (by decide))⟩

/-- An array, an object, a number and null have texts that strings may have. A number has its
own as a value too, and the others have none. -/
theorem rule?_membership_containers :
    let one := Json.ofNat 1
    let items := [Json.array [one], .object [("a", .bool true)], one, .null]
    let texts := ["[1]", "\x7b\"a\":true\x7d", "1", "null"]
    List.Forall₂ Json.HasText items texts ∧ items ≠ [] ∧ (∀ text ∈ texts, ',' ∉ text.toList) ∧
      ∃ inside outside : Rule,
        (ofJson (.array (.string "in" :: items))).rule? Registry.builtins.lookup =
            .ok (some inside) ∧
          (token "not_in:[1],\x7b\"a\":true\x7d,1,null").rule? Registry.builtins.lookup =
            .ok (some outside) ∧
          (∀ text ∈ texts, inside.check (.string text) = true) ∧ inside.check one = true ∧
          inside.check (.string "") = false ∧
          ∀ v ∈ [Json.array [one], .object [("a", .bool true)], .null],
            inside.check v = false ∧ outside.check v = true := by
  intro one items texts
  have htexts : List.Forall₂ Json.HasText items texts := by
    rw [forall₂_hasText_iff]
    decide +kernel
  have hfree : ∀ text ∈ texts, ',' ∉ text.toList := by decide
  have hsome : ∀ a ∈ items, argText a ≠ "" := by decide +kernel
  obtain ⟨inside, outside, hinside, -, hmember, hother, htoken⟩ := rule?_membership items
  have hstring : ∀ text ∈ texts, inside.check (.string text) = true := by
    rw [← (forall₂_hasText_iff ..).mp htexts]
    refine List.forall_mem_map.mpr fun a ha => (hmember _).mpr ?_
    exact ⟨.string _, a, ha, argText a, .string _, (hasText_iff ..).mpr rfl⟩
  have hone : inside.check one = true :=
    (hmember one).mpr ⟨.number _, one, by simp [items], one.text, .other nofun, .other nofun⟩
  have hempty : inside.check (.string "") = false := by
    refine Bool.eq_false_iff.mpr fun h => ?_
    obtain ⟨-, a, ha, text, htext, hsame⟩ := (hmember _).mp h
    rw [← (hasText_iff ..).mp htext] at hsame
    exact hsome a ha ((hasText_iff ..).mp hsame)
  have hcontainer {v : Json} (hv : ¬v.Scalar) :
      inside.check v = false ∧ outside.check v = true := by
    have hrejected : inside.check v = false :=
      Bool.eq_false_iff.mpr fun h => hv ((hmember v).mp h).1
    exact ⟨hrejected, (hother v).mpr hrejected⟩
  refine ⟨htexts, by simp [items], hfree, inside, outside, hinside,
    (htoken texts htexts (by simp [items]) hfree).2, hstring, hone, hempty, ?_⟩
  exact List.forall_mem_cons.mpr ⟨hcontainer nofun, List.forall_mem_cons.mpr
    ⟨hcontainer nofun, List.forall_mem_singleton.mpr (hcontainer nofun)⟩⟩

end Element

/-! ### Patterns -/

namespace Rule

/-- A scalar is accepted, and no other value, if the source is a pattern that matches its
text. -/
def Matches (r : Rule) (source : String) : Prop :=
  ∀ v, r.check v = true ↔ ∃ pattern, Pattern.ofText? source = some pattern ∧
    v.Scalar ∧ ∃ text, v.HasText text ∧ pattern.matchesText text = true

variable {r : Rule} {source : String}

/-- The arguments are the source, cut or in one piece. -/
theorem matches_regex {b : Builtin} (hb : b.accepts = Builtin.regex) {args : List String}
    (hne : args ≠ []) (hjoined : ",".intercalate args = source) (modifier : Modifier) :
    (b.rule args modifier).Matches source := by
  intro v
  show b.accepts v args = true ↔ _
  rw [hb, Builtin.regex_iff hne, hjoined]

theorem Matches.check_eq (h : r.Matches source) {pattern : Pattern}
    (hpattern : Pattern.ofText? source = some pattern) (v : Json) :
    r.check v = Builtin.hasMatch pattern v := by
  rw [Bool.eq_iff_iff, h v, Builtin.hasMatch_iff, hpattern]
  simp

end Rule

/-- Under a new name a source that is a pattern makes a custom rule. -/
theorem Registry.define_of_readable {source : String} {pattern : Pattern}
    (hpattern : Pattern.ofText? source = some pattern) {r : Registry} {written : String}
    (hne : written ≠ "") (hnew : r.contains (RuleName.camelize written) = false)
    (description : Option String) :
    ∃ made, r.define written ⟨source, description⟩ = .ok made ∧
      made.lookup (RuleName.camelize written) =
        some ⟨.configured (RuleName.camelize written) source,
          fun v _ => Builtin.hasMatch pattern v⟩ := by
  have hname : RuleName.camelize written ≠ "" := fun he =>
    hne ((RuleName.camelize_eq_empty_iff written).mp he)
  obtain ⟨rule, hrule, read, hread, rfl⟩ :
      ∃ rule, customRule? (written, ⟨source, description⟩) = some rule ∧
        Config.Defines (written, ⟨source, description⟩) rule :=
    Config.customRule?_of_readable hname hpattern
  cases hpattern.symm.trans hread
  have hdefine := define_of_customRule? hrule r
  rw [hnew, if_neg Bool.false_ne_true] at hdefine
  refine ⟨_, hdefine, ?_⟩
  rw [lookup, get?_register, if_pos rfl]
  rfl

namespace Declaration

theorem rules_list_single {lookup : String → Option Validator} {e : Element} {r : Rule}
    (h : e.rule? lookup = .ok (some r)) : (list [e]).rules lookup = .ok [r] :=
  Element.rules_cons_ok lookup h []

theorem rules_pipe_single {lookup : String → Option Validator} {text : String} {r : Rule}
    (hne : text ≠ "") (hfree : '|' ∉ text.toList)
    (h : (Element.token text).rule? lookup = .ok (some r)) :
    (pipe text).rules lookup = .ok [r] :=
  (rules_pipe_iff hne (pieces_single hfree) _).mpr (.cons ((Element.declares_iff ..).mpr h) .nil)

/-- **A pattern is the same pattern however it is declared**: as a token, cut at its commas, as
a sequence, and as a text of its own, if no pipe is in it. The rule accepts the scalars whose
text it matches, and nothing if it is no pattern; and if it is one, a custom rule of it, in
any registry where its name is new, accepts the same values. -/
theorem rules_regex (source : String) :
    ∃ asToken asSequence : Rule,
      (list [.token ("regex:" ++ source)]).rules Registry.builtins.lookup = .ok [asToken] ∧
        (list [.sequence (.name "regex") [source]]).rules Registry.builtins.lookup =
          .ok [asSequence] ∧
        ('|' ∉ source.toList →
          (pipe ("regex:" ++ source)).rules Registry.builtins.lookup = .ok [asToken]) ∧
        asToken.Matches source ∧ asSequence.Matches source ∧
        ∀ pattern, Pattern.ofText? source = some pattern →
          ∀ (r : Registry) (written : String), written ≠ "" →
            r.contains (RuleName.camelize written) = false →
            ∀ description, ∃ made custom,
              r.define written ⟨source, description⟩ = .ok made ∧
                made.lookup (RuleName.camelize written) = some custom ∧
                ∀ v args, custom.accepts v args = asToken.check v ∧
                  custom.accepts v args = asSequence.check v := by
  obtain ⟨b, hb, hcalled, haccepts⟩ : ∃ b ∈ Builtin.all, b.name = "regex" ∧
      b.accepts = Builtin.regex :=
    ⟨⟨"regex", "Value matches the pattern argument", Builtin.regex⟩, by simp [Builtin.all],
      rfl, rfl⟩
  have hname : RuleName.resolve "regex" = (b.name, .plain) := by
    rw [hcalled]
    decide +kernel
  obtain ⟨args, hargs⟩ : ∃ args, Text.Pieces ',' source args :=
    ⟨_, (Text.pieces_iff ..).mpr rfl⟩
  have htoken := Element.rule?_token_builtin hb hname (.applied (by decide) rfl hargs)
  have hsequence := Element.rule?_sequence_builtin hb hname [source]
  have htokenMatches := Rule.matches_regex haccepts hargs.ne_nil hargs.intercalate .plain
  have hsequenceMatches := Rule.matches_regex haccepts (List.cons_ne_nil source [])
    String.intercalate_singleton .plain
  refine ⟨_, _, rules_list_single htoken, rules_list_single hsequence,
    fun hfree => rules_pipe_single (by simp) (by simpa using hfree) htoken,
    htokenMatches, hsequenceMatches, ?_⟩
  intro pattern hpattern r written hne hnew description
  obtain ⟨made, hmade, hlookup⟩ := Registry.define_of_readable hpattern hne hnew description
  exact ⟨made, _, hmade, hlookup, fun v _ =>
    ⟨(htokenMatches.check_eq hpattern v).symm, (hsequenceMatches.check_eq hpattern v).symm⟩⟩

/-- Commas in front, at the end and next to each other, and a colon. -/
theorem rules_regex_commas :
    '|' ∉ ",a:,,".toList ∧ "x_y" ≠ "" ∧
      Registry.builtins.contains (RuleName.camelize "x_y") = false ∧
      ∃ asToken pattern made custom,
        (pipe "regex:,a:,,").rules Registry.builtins.lookup = .ok [asToken] ∧
          Pattern.ofText? ",a:,," = some pattern ∧
          asToken.check (.string "x,a:,,y") = true ∧ asToken.check (.string ",a:,") = false ∧
          asToken.check .null = false ∧
          Registry.builtins.define "x_y" ⟨",a:,,", none⟩ = .ok made ∧
          made.lookup "xY" = some custom ∧ custom.accepts (.string "x,a:,,y") [] = true := by
  have hfree : '|' ∉ ",a:,,".toList := by decide
  have hnew : Registry.builtins.contains (RuleName.camelize "x_y") = false := by decide +kernel
  have hname : RuleName.camelize "x_y" = "xY" := by decide +kernel
  obtain ⟨asToken, _, -, -, hpipe, hmatches, -, hcustom⟩ := rules_regex ",a:,,"
  obtain ⟨pattern, hpattern, htests⟩ := (Option.any_eq_true ..).mp
    (show (Pattern.ofText? ",a:,,").any (fun pattern =>
      pattern.matchesText "x,a:,,y" && !pattern.matchesText ",a:,") = true by decide +kernel)
  obtain ⟨hfound, hother⟩ : pattern.matchesText "x,a:,,y" = true ∧
      pattern.matchesText ",a:," = false := by simpa using htests
  obtain ⟨made, custom, hmade, hlookup, hverdict⟩ :=
    hcustom pattern hpattern .builtins "x_y" (by decide) hnew none
  have haccepted := (hmatches (.string "x,a:,,y")).mpr
    ⟨pattern, hpattern, .string _, _, .string _, hfound⟩
  have hrejected : asToken.check (.string ",a:,") = false := by
    refine Bool.eq_false_iff.mpr fun h => ?_
    obtain ⟨read, hread, -, text, htext, hread'⟩ := (hmatches _).mp h
    cases hpattern.symm.trans hread
    rw [← (Element.hasText_iff ..).mp htext] at hread'
    exact absurd hread' (Bool.eq_false_iff.mp hother)
  have hnull : asToken.check .null = false := by
    refine Bool.eq_false_iff.mpr fun h => ?_
    obtain ⟨_, -, hscalar, -⟩ := (hmatches _).mp h
    cases hscalar
  exact ⟨hfree, by decide, hnew, asToken, pattern, made, custom, hpipe hfree, hpattern,
    haccepted, hrejected, hnull, hmade, hname ▸ hlookup, ((hverdict _ []).1).trans haccepted⟩

end Declaration
end FieldRules
