import FieldRules.Proofs.CamelCase
import FieldRules.Proofs.Declared
import FieldRules.Rule.Rendering
import Mathlib.Data.List.Forall2

/-! Rules are declared again by the text that they are written as.

A rule can be written if it is registered under its name, the name is in camel case,
and no mark stands where it would divide the text in another way
(`Rule.Expressible`). Every rule that a text declares is of this kind
(`Rule.expressible_of_declares`): its name is camel case already, and what divides a
text is neither in a name nor in an argument.

`Declaration.rules_render`: so the text of such rules declares them and no others. Only
an empty text is left out, which declares nothing.

`Declaration.rule?_sequence_token`: a list may hold a rule as a sequence, its name and
arguments apart, or as the token put together of them, and declares the same rule. -/
namespace FieldRules

variable {lookup : String → Option Validator}

/-! ### One rule -/

namespace Rule

/-- A rule under a registered name, with no mark where it would mean something else. -/
structure Expressible (lookup : String → Option Validator) (r : Rule) (name : String) : Prop where
  named : r.name = some name
  registered : lookup name = some r.validator
  camel : RuleName.camelize name = name
  name_free : ':' ∉ name.toList ∧ '|' ∉ name.toList
  unmarked : r.modifier = .plain → name.toList.head? ≠ some '^'
  args_free : ∀ arg ∈ r.args, ',' ∉ arg.toList ∧ '|' ∉ arg.toList

end Rule

namespace RuleName

theorem resolve_of_unmarked {written : String} (h : written.toList.head? ≠ some '^') :
    resolve written = (camelize written, .plain) := by
  unfold resolve
  split
  · rename_i heq
    rw [heq] at h
    exact absurd rfl h
  · rfl

theorem resolve_marked (name : String) : resolve ("^" ++ name) = (camelize name, .bailPrefix) := by
  have hlist : ("^" ++ name).toList = '^' :: name.toList := by simp
  rw [resolve, hlist]
  simp

/-- A name and its modifier are what the two resolve to when they are written. -/
theorem resolve_mark (name : String) (modifier : Modifier)
    (h : modifier = .plain → name.toList.head? ≠ some '^') :
    resolve (modifier.mark ++ name) = (camelize name, modifier) := by
  cases modifier with
  | plain =>
    rw [Modifier.mark, String.empty_append]
    exact resolve_of_unmarked (h rfl)
  | bailPrefix => exact resolve_marked name

/-- What a name resolves to is in camel case, has no separator that was not in it, and
has a mark in front only behind another one. -/
theorem resolve_spec (written : String) :
    camelize (resolve written).1 = (resolve written).1 ∧
      (∀ c, ¬Text.Capital c → c ∉ written.toList → c ∉ (resolve written).1.toList) ∧
      ((resolve written).2 = .plain → (resolve written).1.toList.head? ≠ some '^' ∧
        ((resolve written).1 = "" → written = "")) := by
  by_cases h : written.toList.head? = some '^'
  · obtain ⟨rest, hrest⟩ := List.head?_eq_some_iff.mp h
    have hwritten : written = "^" ++ String.ofList rest :=
      String.toList_inj.mp (by simp [hrest])
    rw [hwritten, resolve_marked]
    refine ⟨camelize_camelize _, fun c hc hfree => not_mem_camelize hc fun hmem => hfree ?_,
      fun he => nomatch he⟩
    simpa using Or.inr hmem
  · rw [resolve_of_unmarked h]
    refine ⟨camelize_camelize _, fun c hc hfree => not_mem_camelize hc hfree, fun _ => ⟨?_, ?_⟩⟩
    · rwa [head?_camelize]
    · exact (camelize_eq_empty_iff written).mp

end RuleName

namespace Element

/-- A token is divided into the name and the arguments that it was put together of. -/
theorem reads_applied {written : String} (hname : ':' ∉ written.toList) {args : List String}
    (hargs : ∀ arg ∈ args, ',' ∉ arg.toList) : Reads (applied written args) written args := by
  by_cases hnil : args = []
  · subst hnil
    exact .bare hname
  · rw [applied, if_neg (by simpa using hnil)]
    exact .applied hname rfl ⟨hnil, hargs, String.toList_intercalate⟩

theorem not_mem_applied {c : Char} (hcolon : c ≠ ':') (hcomma : c ≠ ',') {written : String}
    (hname : c ∉ written.toList) {args : List String} (hargs : ∀ arg ∈ args, c ∉ arg.toList) :
    c ∉ (applied written args).toList := by
  have hjoined : c ∉ (",".intercalate args).toList := by
    rw [String.toList_intercalate]
    exact Text.not_mem_intercalate_map (mt List.mem_singleton.mp hcomma) hargs
  unfold applied
  split
  · exact hname
  · simpa [hname, hcolon] using hjoined

theorem applied_eq_empty_iff (written : String) (args : List String) :
    applied written args = "" ↔ written = "" ∧ args = [] := by
  by_cases hnil : args = []
  · simp [applied, hnil]
  · simp [applied, hnil]

theorem Reads.args_free {text written : String} {args : List String}
    (h : Reads text written args) : ∀ arg ∈ args, ',' ∉ arg.toList := by
  cases h with
  | bare => exact List.forall_mem_nil _
  | applied _ _ hpieces => exact hpieces.free

/-- What is not in a token is neither in its name nor in its arguments. -/
theorem Reads.not_mem {text written : String} {args : List String} (h : Reads text written args)
    {c : Char} (hcomma : c ≠ ',') (hc : c ∉ text.toList) :
    c ∉ written.toList ∧ ∀ arg ∈ args, c ∉ arg.toList := by
  cases h with
  | bare => exact ⟨hc, List.forall_mem_nil _⟩
  | @applied _ rest _ _ htext hpieces =>
    subst htext
    simp only [String.toList_append, List.mem_append, not_or] at hc
    exact ⟨hc.1.1, fun arg harg hmem => hc.2 ((hpieces.mem_iff hcomma).mpr ⟨arg, harg, hmem⟩)⟩

theorem Reads.colon_not_mem {text written : String} {args : List String}
    (h : Reads text written args) : ':' ∉ written.toList := by
  cases h with
  | bare hcolon => exact hcolon
  | applied hcolon => exact hcolon

theorem Reads.eq_empty {text : String} (h : Reads text "" []) : text = "" := by
  cases h with
  | bare => rfl
  | applied _ _ hpieces => exact absurd rfl hpieces.ne_nil

/-- Tokens declare a rule each. -/
theorem rules_tokens_iff (lookup : String → Option Validator) (tokens : List String)
    (declared : List Rule) :
    rules lookup (tokens.map .token) = .ok declared ↔
      List.Forall₂ (fun text r => (token text).Declares lookup r) tokens declared := by
  induction tokens generalizing declared with
  | nil =>
    cases declared with
    | nil => exact iff_of_true rfl .nil
    | cons r declared => exact iff_of_false (fun h => nomatch h) (fun h => nomatch h)
  | cons text tokens ih =>
    rw [List.map_cons, List.forall₂_cons_left_iff]
    simp only [← ih]
    simp only [declares_iff]
    cases hl : lookup (RuleName.resolve (parts text).1).1 with
    | none =>
      have hrule := rule?_token_of_none lookup (reads_parts text) hl
      rw [rules_cons_error lookup hrule, hrule]
      simp
    | some validator =>
      have hrule := rule?_token_of_some lookup (reads_parts text) hl
      rw [rules_cons_ok lookup hrule, hrule]
      cases rules lookup (tokens.map .token) with
      | error problem => simp [Except.map]
      | ok later => simp [Except.map, eq_comm]

theorem exists_token_of_mem {tokens : List String} {declared : List Rule}
    (h : List.Forall₂ (fun text r => (token text).Declares lookup r) tokens declared) {r : Rule}
    (hr : r ∈ declared) : ∃ text ∈ tokens, (token text).Declares lookup r := by
  induction h with
  | nil => cases hr
  | cons htext _ ih =>
    rcases List.mem_cons.mp hr with rfl | hlater
    · exact ⟨_, List.mem_cons_self .., htext⟩
    · obtain ⟨text, hmem, hdeclares⟩ := ih hlater
      exact ⟨text, List.mem_cons_of_mem _ hmem, hdeclares⟩

end Element

/-! ### What a token declares -/

namespace Rule

theorem expressible_of_declares {text : String} {r : Rule} (hfree : '|' ∉ text.toList)
    (h : (Element.token text).Declares lookup r) : ∃ name, r.Expressible lookup name := by
  cases h with
  | @token _ written args validator hreads hlookup =>
    obtain ⟨hname, hargs⟩ := hreads.not_mem (by decide) hfree
    obtain ⟨hcamel, hcome, hplain⟩ := RuleName.resolve_spec written
    exact ⟨_, rfl, hlookup, hcamel,
      ⟨hcome ':' (by decide) hreads.colon_not_mem, hcome '|' (by decide) hname⟩,
      fun he => (hplain he).1, fun arg harg => ⟨hreads.args_free arg harg, hargs arg harg⟩⟩

variable {r : Rule} {name : String}

theorem written_of_expressible (h : r.Expressible lookup name) :
    r.written = r.modifier.mark ++ name := by
  rw [written, displayName, h.named, Option.getD_some]

theorem not_mem_written (h : r.Expressible lookup name) :
    ':' ∉ r.written.toList ∧ '|' ∉ r.written.toList := by
  rw [written_of_expressible h]
  cases r.modifier <;> simpa [Modifier.mark] using h.name_free

theorem not_mem_render (h : r.Expressible lookup name) : '|' ∉ r.render.toList :=
  Element.not_mem_applied (by decide) (by decide) (not_mem_written h).2
    fun arg harg => (h.args_free arg harg).2

/-- A rule is declared by its text. -/
theorem declares_render (h : r.Expressible lookup name) :
    (Element.token r.render).Declares lookup r := by
  have hreads : Element.Reads r.render r.written r.args :=
    Element.reads_applied (not_mem_written h).1 fun arg harg => (h.args_free arg harg).1
  have hresolve : RuleName.resolve r.written = (name, r.modifier) := by
    rw [written_of_expressible h, RuleName.resolve_mark name r.modifier h.unmarked, h.camel]
  have hregistered : lookup (RuleName.resolve r.written).1 = some r.validator := by
    rw [hresolve]
    exact h.registered
  have hdeclares := Element.Declares.token hreads hregistered
  rw [hresolve, ← h.named] at hdeclares
  exact hdeclares

/-- Of what a token declares nothing is left to be written only if it is empty. -/
theorem eq_empty_of_render {text : String} (h : (Element.token text).Declares lookup r)
    (hr : r.render = "") : text = "" := by
  cases h with
  | @token _ written args validator hreads hlookup =>
    obtain ⟨hwritten, hargs⟩ := (Element.applied_eq_empty_iff ..).mp hr
    obtain ⟨hmark, hname⟩ := String.append_eq_empty_iff.mp hwritten
    have hplain : (RuleName.resolve written).2 = .plain := by
      cases hm : (RuleName.resolve written).2 with
      | plain => rfl
      | bailPrefix =>
        have hnone : Modifier.mark .bailPrefix = "" := hm ▸ hmark
        exact absurd hnone (by decide)
    obtain rfl : args = [] := hargs
    obtain rfl : written = "" := ((RuleName.resolve_spec written).2.2 hplain).2 hname
    exact hreads.eq_empty

end Rule

/-! ### Texts -/

namespace Declaration

/-- The rules of a text are those of its tokens, one of each. -/
theorem rules_pipe_iff {text : String} (hne : text ≠ "") {tokens : List String}
    (htokens : Text.Pieces '|' text tokens) (declared : List Rule) :
    (pipe text).rules lookup = .ok declared ↔
      List.Forall₂ (fun token r => (Element.token token).Declares lookup r) tokens declared := by
  have helements := (lists_iff ..).mp (.pipe hne htokens)
  rw [rules, ← helements]
  exact Element.rules_tokens_iff lookup tokens declared

theorem pieces_render {rules : List Rule} (hne : rules ≠ [])
    (hfree : ∀ r ∈ rules, '|' ∉ r.render.toList) :
    Text.Pieces '|' (render rules) (rules.map Rule.render) :=
  ⟨by simpa using hne, List.forall_mem_map.mpr hfree, String.toList_intercalate⟩

theorem rules_render_of_expressible {rules : List Rule} (hne : render rules ≠ "")
    (h : ∀ r ∈ rules, ∃ name, r.Expressible lookup name) :
    (pipe (render rules)).rules lookup = .ok rules := by
  have hnil : rules ≠ [] := by
    rintro rfl
    exact hne rfl
  have hpieces := pieces_render hnil fun r hr =>
    let ⟨_, hname⟩ := h r hr
    Rule.not_mem_render hname
  rw [rules_pipe_iff hne hpieces, List.forall₂_map_left_iff, List.forall₂_same]
  intro r hr
  obtain ⟨name, hname⟩ := h r hr
  exact Rule.declares_render hname

/-- Only a rule that is written as nothing is lost between pipes, and only when it is alone. -/
theorem render_ne_empty {rules : List Rule} (hne : rules ≠ [])
    (h : ∀ r, rules = [r] → r.render ≠ "") : render rules ≠ "" := by
  cases rules with
  | nil => exact absurd rfl hne
  | cons r others =>
    cases others with
    | nil => simpa [render] using h r rfl
    | cons s others => simp [render, String.intercalate_cons_cons]

/-- **The text of rules declares them.** It does so for all rules that some text declares,
and for all that can be written: those that are registered under their names, which are
in camel case, with no mark where it would mean something else. -/
theorem rules_render (lookup : String → Option Validator) :
    (∀ text rules, text ≠ "" → (pipe text).rules lookup = .ok rules →
      (pipe (render rules)).rules lookup = .ok rules) ∧
    ∀ rules : List Rule, rules ≠ [] →
      (∀ r ∈ rules, ∃ name, name ≠ "" ∧ r.Expressible lookup name) →
      (pipe (render rules)).rules lookup = .ok rules := by
  constructor
  · intro text rules hne h
    have hpieces := (Text.pieces_iff '|' text _).mpr rfl
    have hdeclares := (rules_pipe_iff hne hpieces rules).mp h
    refine rules_render_of_expressible (render_ne_empty ?_ ?_) fun r hr => ?_
    · rintro rfl
      exact hpieces.ne_nil (List.forall₂_nil_right_iff.mp hdeclares)
    · rintro r rfl hr
      obtain ⟨token, tokens, htoken, hnil, htokens⟩ := List.forall₂_cons_right_iff.mp hdeclares
      obtain rfl := List.forall₂_nil_right_iff.mp hnil
      have htext : text = token := String.toList_inj.mp (by rw [hpieces.joined, htokens]; simp)
      exact hne (htext.trans (Rule.eq_empty_of_render htoken hr))
    · obtain ⟨token, htokens, htoken⟩ := Element.exists_token_of_mem hdeclares hr
      exact Rule.expressible_of_declares (hpieces.free token htokens) htoken
  · intro rules hne h
    refine rules_render_of_expressible (render_ne_empty hne fun r hr => ?_) fun r hr =>
      (h r hr).imp fun _ hname => hname.2
    obtain ⟨name, hname, hexpressible⟩ := h r (by simp [hr])
    rw [Rule.render, ne_eq, Element.applied_eq_empty_iff, Rule.written_of_expressible hexpressible]
    simp [hname]

/-- A name that begins with the mark, empty arguments, nothing between two pipes, and a
name that camel case changes. -/
theorem rules_render_marks :
    let validator := fun name => (⟨.supplied name, fun _ _ => true⟩ : Validator)
    let lookup := fun name => some (validator name)
    let marked : Rule := ⟨validator "^notIn", ["a:b", ""], some "^notIn", .bailPrefix⟩
    let rules := [marked, ⟨validator "", [], some "", .plain⟩,
      ⟨validator "min", [""], some "min", .plain⟩]
    "^^not_in:a:b,||min:" ≠ "" ∧ (pipe "^^not_in:a:b,||min:").rules lookup = .ok rules ∧
      render rules = "^^notIn:a:b,||min:" ∧ (pipe (render rules)).rules lookup = .ok rules ∧
      marked.Expressible lookup "^notIn" ∧ (pipe (render [marked])).rules lookup = .ok [marked] := by
  intro validator lookup marked rules
  have hne : "^^not_in:a:b,||min:" ≠ "" := by decide
  have hrules : (pipe "^^not_in:a:b,||min:").rules lookup = .ok rules := rfl
  have hmarked : marked.Expressible lookup "^notIn" :=
    ⟨rfl, rfl, rfl, by decide, fun h => (nomatch h), by decide⟩
  have halone : ∀ r ∈ [marked], ∃ name, name ≠ "" ∧ r.Expressible lookup name := by
    intro r hr
    obtain rfl := List.mem_singleton.mp hr
    exact ⟨"^notIn", by decide, hmarked⟩
  exact ⟨hne, hrules, by decide, (rules_render lookup).1 _ rules hne hrules, hmarked,
    (rules_render lookup).2 [marked] (List.cons_ne_nil _ _) halone⟩

/-! ### A token and a sequence -/

/-- A text without a pipe is one token. -/
theorem pieces_single {text : String} (h : '|' ∉ text.toList) : Text.Pieces '|' text [text] :=
  ⟨by simp, by simpa using h, by simp⟩

/-- **A sequence and the token of its name and arguments declare one rule**, in a list and,
when no pipe is in the token and it is not empty, as a text of its own. Where the name is
not registered the sequence is dropped and the token refused. -/
theorem rule?_sequence_token (lookup : String → Option Validator) {written : String}
    (hname : ':' ∉ written.toList) {args : List String} (hargs : ∀ arg ∈ args, ',' ∉ arg.toList) :
    (∀ validator, lookup (RuleName.resolve written).1 = some validator →
      ∃ rule : Rule,
        rule = ⟨validator, args, some (RuleName.resolve written).1, (RuleName.resolve written).2⟩ ∧
        (Element.sequence (.name written) args).rule? lookup = .ok (some rule) ∧
        (Element.token (Element.applied written args)).rule? lookup = .ok (some rule) ∧
        ('|' ∉ written.toList → (∀ arg ∈ args, '|' ∉ arg.toList) →
          Element.applied written args ≠ "" →
          (pipe (Element.applied written args)).rules lookup = .ok [rule])) ∧
    (lookup (RuleName.resolve written).1 = none →
      (Element.sequence (.name written) args).rule? lookup = .ok none ∧
        (Element.token (Element.applied written args)).rule? lookup =
          .error (.unknownRule written)) := by
  have hreads := Element.reads_applied hname hargs
  constructor
  · intro validator hregistered
    have htoken := Element.rule?_token_of_some lookup hreads hregistered
    refine ⟨_, rfl, Element.rule?_named_of_some lookup hregistered, htoken, ?_⟩
    intro hpipe hpipes hne
    have hpieces := pieces_single (Element.not_mem_applied (by decide) (by decide) hpipe hpipes)
    apply (rules_pipe_iff hne hpieces _).mpr
    exact .cons ((Element.declares_iff ..).mpr htoken) .nil
  · intro hmissing
    exact ⟨Element.rule?_named_of_none lookup hmissing,
      Element.rule?_token_of_none lookup hreads hmissing⟩

/-- A mark, a name that camel case changes, a colon in an argument and an empty one; and a
name that is not registered, without arguments. -/
theorem rule?_sequence_token_marked :
    let validator : Validator := ⟨.supplied "v", fun _ _ => true⟩
    let lookup := fun name => if name = "notIn" then some validator else none
    let rule : Rule := ⟨validator, ["a:b", ""], some "notIn", .bailPrefix⟩
    ':' ∉ "^not_in".toList ∧ (∀ arg ∈ ["a:b", ""], ',' ∉ arg.toList) ∧
      lookup (RuleName.resolve "^not_in").1 = some validator ∧
      (Element.sequence (.name "^not_in") ["a:b", ""]).rule? lookup = .ok (some rule) ∧
      (Element.token "^not_in:a:b,").rule? lookup = .ok (some rule) ∧
      (pipe "^not_in:a:b,").rules lookup = .ok [rule] ∧
      (Element.sequence (.name "in") []).rule? lookup = .ok none ∧
      (Element.token "in").rule? lookup = .error (.unknownRule "in") := by
  intro validator lookup rule
  have hname : ':' ∉ "^not_in".toList := by decide
  have hargs : ∀ arg ∈ ["a:b", ""], ',' ∉ arg.toList := by decide
  have hregistered : lookup (RuleName.resolve "^not_in").1 = some validator := rfl
  have hmissing : lookup (RuleName.resolve "in").1 = none := rfl
  obtain ⟨_, rfl, hsequence, htoken, hpipe⟩ :=
    (rule?_sequence_token lookup hname hargs).1 validator hregistered
  obtain ⟨hdropped, hrefused⟩ :=
    (@rule?_sequence_token lookup "in" (by decide) [] (by simp)).2 hmissing
  exact ⟨hname, hargs, hregistered, hsequence, htoken,
    hpipe (by decide) (by decide) (by decide), hdropped, hrefused⟩

end Declaration
end FieldRules
