import FieldRules.Rule.Declaration
import FieldRules.Text.Pieces
import Mathlib.Data.List.TakeWhile

/-! What a declaration declares.

Four things are said here without the reader: how a token is divided
(`Element.Reads`), which rule an element declares (`Element.Declares`), when it
declares a rule that there is not (`Element.Unknown`), and which elements a
declaration stands for (`Declaration.Lists`).

`rules_of_elements`: the rules of a declaration are those that its elements declare,
in their order. If the name in a token is unknown there are none, and the first such
name is the error. An unknown name in a sequence neither refuses nor hides anything. -/
namespace FieldRules

namespace Element

/-! ### Tokens -/

/-- A token without a colon is a name. In any other one the name ends at the first
colon, and what follows are arguments with commas between them. -/
inductive Reads (token : String) : String → List String → Prop where
  | bare : ':' ∉ token.toList → Reads token token []
  | applied {written rest : String} {args : List String} : ':' ∉ written.toList →
      token = written ++ ":" ++ rest → Text.Pieces ',' rest args → Reads token written args

theorem all_ne_of_not_mem {c : Char} {text : List Char} (h : c ∉ text) :
    ∀ d ∈ text, decide (d ≠ c) = true :=
  fun _ hd => decide_eq_true fun he => h (he ▸ hd)

theorem parts_of_not_mem {token : String} (h : ':' ∉ token.toList) :
    parts token = (token, []) := by
  have hname := List.takeWhile_eq_self_iff.mpr (all_ne_of_not_mem h)
  have hrest := List.dropWhile_eq_nil_iff.mpr (all_ne_of_not_mem h)
  rw [parts, hname, hrest, String.ofList_toList]

theorem parts_append {written : String} (h : ':' ∉ written.toList) (rest : String) :
    parts (written ++ ":" ++ rest) =
      (written, (rest.toList.splitOn ',').map String.ofList) := by
  have htoken : (written ++ ":" ++ rest).toList = written.toList ++ ':' :: rest.toList := by simp
  have hname : (written.toList ++ ':' :: rest.toList).takeWhile (· ≠ ':') = written.toList := by
    rw [List.takeWhile_append_of_pos (all_ne_of_not_mem h)]
    simp
  have hrest : (written.toList ++ ':' :: rest.toList).dropWhile (· ≠ ':') =
      ':' :: rest.toList := by
    rw [List.dropWhile_append_of_pos (all_ne_of_not_mem h)]
    simp
  rw [parts, htoken, hname, hrest, String.ofList_toList]

/-- A token is divided in one way only. -/
theorem reads_iff (token written : String) (args : List String) :
    Reads token written args ↔ parts token = (written, args) := by
  constructor
  · rintro (h | ⟨h, rfl, hargs⟩)
    · exact parts_of_not_mem h
    · rw [parts_append h, (Text.pieces_iff ..).mp hargs]
  · intro h
    by_cases hcolon : ':' ∈ token.toList
    · obtain ⟨name, rest, htoken, hname⟩ := List.eq_append_cons_of_mem hcolon
      have hfree : ':' ∉ (String.ofList name).toList := by simpa using hname
      have heq : token = String.ofList name ++ ":" ++ String.ofList rest := by
        apply String.toList_inj.mp
        simp [htoken]
      rw [heq, parts_append hfree] at h
      cases h
      exact .applied hfree heq ((Text.pieces_iff ..).mpr rfl)
    · rw [parts_of_not_mem hcolon] at h
      cases h
      exact .bare hcolon

theorem reads_parts (token : String) : Reads token (parts token).1 (parts token).2 :=
  (reads_iff ..).mpr rfl

/-! ### Elements -/

section
variable (lookup : String → Option Validator)

/-- The rule that an element declares. The name of a rule and its modifier are what
the name as written resolves to, and its validator is the one registered for it. -/
inductive Declares : Element → Rule → Prop where
  | token {text written : String} {args : List String} {validator : Validator} :
      Reads text written args → lookup (RuleName.resolve written).1 = some validator →
      Declares (token text)
        ⟨validator, args, some (RuleName.resolve written).1, (RuleName.resolve written).2⟩
  | named {written : String} {args : List String} {validator : Validator} :
      lookup (RuleName.resolve written).1 = some validator →
      Declares (sequence (.name written) args)
        ⟨validator, args, some (RuleName.resolve written).1, (RuleName.resolve written).2⟩
  | given (validator : Validator) (args : List String) :
      Declares (sequence (.callable validator) args) ⟨validator, args, none, .plain⟩
  | callable (validator : Validator) :
      Declares (callable validator) ⟨validator, [], none, .plain⟩

/-- A token with a name, as written, that resolves to none that is registered. -/
def Unknown (e : Element) (written : String) : Prop :=
  ∃ text args, e = token text ∧ Reads text written args ∧
    lookup (RuleName.resolve written).1 = none

section
variable {text written : String} {args : List String} {validator : Validator}

theorem rule?_token_of_some (hreads : Reads text written args)
    (hl : lookup (RuleName.resolve written).1 = some validator) :
    (token text).rule? lookup = .ok (some
      ⟨validator, args, some (RuleName.resolve written).1, (RuleName.resolve written).2⟩) := by
  simp [rule?, (reads_iff ..).mp hreads, named?, hl]

theorem rule?_token_of_none (hreads : Reads text written args)
    (hl : lookup (RuleName.resolve written).1 = none) :
    (token text).rule? lookup = .error (.unknownRule written) := by
  simp [rule?, (reads_iff ..).mp hreads, named?, hl]

theorem rule?_named_of_some (hl : lookup (RuleName.resolve written).1 = some validator) :
    (sequence (.name written) args).rule? lookup = .ok (some
      ⟨validator, args, some (RuleName.resolve written).1, (RuleName.resolve written).2⟩) := by
  simp [rule?, named?, hl]

theorem rule?_named_of_none (hl : lookup (RuleName.resolve written).1 = none) :
    (sequence (.name written) args).rule? lookup = .ok none := by
  simp [rule?, named?, hl]

end

theorem declares_iff (e : Element) (r : Rule) :
    e.Declares lookup r ↔ e.rule? lookup = .ok (some r) := by
  constructor
  · rintro (⟨hreads, hl⟩ | hl | _ | _)
    · exact rule?_token_of_some lookup hreads hl
    · exact rule?_named_of_some lookup hl
    · rfl
    · rfl
  · intro h
    cases e with
    | token text =>
      cases hl : lookup (RuleName.resolve (parts text).1).1 with
      | some validator =>
        rw [rule?_token_of_some lookup (reads_parts text) hl] at h
        cases h
        exact .token (reads_parts text) hl
      | none =>
        rw [rule?_token_of_none lookup (reads_parts text) hl] at h
        cases h
    | sequence head args =>
      cases head with
      | callable validator =>
        cases h
        exact .given validator args
      | name written =>
        cases hl : lookup (RuleName.resolve written).1 with
        | some validator =>
          rw [rule?_named_of_some lookup hl] at h
          cases h
          exact .named hl
        | none =>
          rw [rule?_named_of_none lookup hl] at h
          cases h
    | callable validator =>
      cases h
      exact .callable validator
    | other => cases h

/-- Nothing but an unknown name can be wrong with an element. -/
theorem unknown_of_error {e : Element} {problem : RuleError} (h : e.rule? lookup = .error problem) :
    ∃ written, e.Unknown lookup written ∧ problem = .unknownRule written := by
  cases e with
  | token text =>
    cases hl : lookup (RuleName.resolve (parts text).1).1 with
    | some validator =>
      rw [rule?_token_of_some lookup (reads_parts text) hl] at h
      cases h
    | none =>
      rw [rule?_token_of_none lookup (reads_parts text) hl] at h
      cases h
      exact ⟨(parts text).1, ⟨text, (parts text).2, rfl, reads_parts text, hl⟩, rfl⟩
  | sequence head args => cases head <;> cases h
  | callable validator => cases h
  | other => cases h

theorem unknown_iff (e : Element) (written : String) :
    e.Unknown lookup written ↔ e.rule? lookup = .error (.unknownRule written) := by
  constructor
  · rintro ⟨text, args, rfl, hreads, hl⟩
    exact rule?_token_of_none lookup hreads hl
  · intro h
    obtain ⟨other, hunknown, he⟩ := unknown_of_error lookup h
    cases he
    exact hunknown

/-! ### Elements in order -/

/-- The rules that elements declare, one for each element that declares one. -/
inductive InOrder : List Element → List Rule → Prop where
  | nil : InOrder [] []
  | declared {e : Element} {r : Rule} {rest : List Element} {rules : List Rule} :
      e.Declares lookup r → InOrder rest rules → InOrder (e :: rest) (r :: rules)
  | silent {e : Element} {rest : List Element} {rules : List Rule} :
      (∀ r, ¬e.Declares lookup r) → InOrder rest rules → InOrder (e :: rest) rules

/-- The first unknown name of tokens among the elements. -/
def FirstUnknown (es : List Element) (written : String) : Prop :=
  ∃ before e after, es = before ++ e :: after ∧
    (∀ earlier ∈ before, ∀ other, ¬earlier.Unknown lookup other) ∧ e.Unknown lookup written

theorem firstUnknown_cons (e : Element) (rest : List Element) (written : String) :
    FirstUnknown lookup (e :: rest) written ↔
      e.Unknown lookup written ∨
        (∀ other, ¬e.Unknown lookup other) ∧ FirstUnknown lookup rest written := by
  constructor
  · rintro ⟨before, next, after, hes, hbefore, hunknown⟩
    cases before with
    | nil =>
      cases hes
      exact .inl hunknown
    | cons first before =>
      cases hes
      obtain ⟨hfirst, hbefore⟩ := List.forall_mem_cons.mp hbefore
      exact .inr ⟨hfirst, before, next, after, rfl, hbefore, hunknown⟩
  · rintro (hunknown | ⟨hknown, before, next, after, rfl, hbefore, hunknown⟩)
    · exact ⟨[], e, rest, rfl, List.forall_mem_nil _, hunknown⟩
    · exact ⟨e :: before, next, after, rfl, List.forall_mem_cons.mpr ⟨hknown, hbefore⟩, hunknown⟩

theorem exists_firstUnknown_iff (es : List Element) :
    (∃ written, FirstUnknown lookup es written) ↔ ∃ e ∈ es, ∃ written, e.Unknown lookup written := by
  constructor
  · rintro ⟨written, before, e, after, rfl, -, hunknown⟩
    exact ⟨e, List.mem_append_right before (List.mem_cons_self ..), written, hunknown⟩
  · rintro ⟨e, he, hunknown⟩
    induction es with
    | nil => cases he
    | cons first rest ih =>
      by_cases hfirst : ∃ other, first.Unknown lookup other
      · obtain ⟨other, hother⟩ := hfirst
        exact ⟨other, (firstUnknown_cons ..).mpr (.inl hother)⟩
      · have hrest : e ∈ rest := by
          rcases List.mem_cons.mp he with rfl | hrest
          · exact absurd hunknown hfirst
          · exact hrest
        obtain ⟨written, hwritten⟩ := ih hrest
        exact ⟨written, (firstUnknown_cons ..).mpr (.inr ⟨not_exists.mp hfirst, hwritten⟩)⟩

theorem rules_cons_error {e : Element} {problem : RuleError} (h : e.rule? lookup = .error problem)
    (rest : List Element) : rules lookup (e :: rest) = .error problem := by
  rw [rules, h]

theorem rules_cons_ok {e : Element} {rule : Option Rule} (h : e.rule? lookup = .ok rule)
    (rest : List Element) :
    rules lookup (e :: rest) = (rules lookup rest).map (rule.toList ++ ·) := by
  rw [rules, h]

/-- What elements are refused for is the first unknown name. -/
theorem rules_eq_error_iff (es : List Element) (problem : RuleError) :
    rules lookup es = .error problem ↔
      ∃ written, FirstUnknown lookup es written ∧ problem = .unknownRule written := by
  induction es with
  | nil =>
    refine ⟨fun h => (nomatch h), ?_⟩
    rintro ⟨written, ⟨before, e, after, hes, -⟩, -⟩
    simp at hes
  | cons e rest ih =>
    simp only [firstUnknown_cons, unknown_iff]
    cases hr : e.rule? lookup with
    | error first =>
      obtain ⟨name, -, rfl⟩ := unknown_of_error lookup hr
      rw [rules_cons_error lookup hr]
      simp [eq_comm]
    | ok rule =>
      -- Whether it declares a rule or is dropped, the error is left to the rest.
      rw [rules_cons_ok lookup hr]
      cases hrest : rules lookup rest with
      | error later => simp [← ih, hrest, Except.map]
      | ok declared => simp [← ih, hrest, Except.map]

theorem inOrder_cons {e : Element} {rule : Option Rule} (h : e.rule? lookup = .ok rule)
    (rest : List Element) (declared : List Rule) :
    InOrder lookup (e :: rest) declared ↔
      ∃ later, InOrder lookup rest later ∧ declared = rule.toList ++ later := by
  have hrule : ∀ r, e.Declares lookup r ↔ rule = some r := by
    intro r
    rw [declares_iff, h, Except.ok.injEq]
  constructor
  · rintro (_ | ⟨hr, hrest⟩ | ⟨hnone, hrest⟩)
    · obtain rfl := (hrule _).mp hr
      exact ⟨_, hrest, rfl⟩
    · obtain rfl : rule = none := Option.eq_none_iff_forall_ne_some.mpr fun r he =>
        hnone r ((hrule r).mpr he)
      exact ⟨declared, hrest, rfl⟩
  · rintro ⟨later, hrest, rfl⟩
    cases rule with
    | none => exact .silent (fun r hr => nomatch (hrule r).mp hr) hrest
    | some r => exact .declared ((hrule r).mpr rfl) hrest

/-- Without an unknown name the rules are those declared. -/
theorem rules_eq_ok_iff (es : List Element) (declared : List Rule) :
    rules lookup es = .ok declared ↔
      (∀ e ∈ es, ∀ written, ¬e.Unknown lookup written) ∧ InOrder lookup es declared := by
  induction es generalizing declared with
  | nil =>
    constructor
    · rintro ⟨⟩
      exact ⟨List.forall_mem_nil _, .nil⟩
    · rintro ⟨-, ⟨⟩⟩
      rfl
  | cons e rest ih =>
    rw [List.forall_mem_cons]
    cases hr : e.rule? lookup with
    | error problem =>
      obtain ⟨written, hunknown, rfl⟩ := unknown_of_error lookup hr
      rw [rules_cons_error lookup hr]
      exact ⟨fun h => (nomatch h), fun h => absurd hunknown (h.1.1 written)⟩
    | ok rule =>
      have hknown : ∀ written, ¬e.Unknown lookup written := by
        intro written hunknown
        rw [unknown_iff, hr] at hunknown
        cases hunknown
      have hmap : (rules lookup rest).map (rule.toList ++ ·) = .ok declared ↔
          ∃ later, rules lookup rest = .ok later ∧ declared = rule.toList ++ later := by
        cases rules lookup rest <;> simp [Except.map, eq_comm]
      rw [rules_cons_ok lookup hr, hmap, inOrder_cons lookup hr]
      simp only [ih, hknown, not_false_eq_true, implies_true, true_and, and_assoc, exists_and_left]

end

end Element

namespace Declaration

/-- The elements that a declaration stands for: in a text that is not empty, the
tokens between its pipes. -/
inductive Lists : Declaration → List Element → Prop where
  | empty : Lists empty []
  | blank : Lists (pipe "") []
  | pipe {text : String} {tokens : List String} : text ≠ "" → Text.Pieces '|' text tokens →
      Lists (pipe text) (tokens.map .token)
  | list (es : List Element) : Lists (list es) es

theorem lists_iff (d : Declaration) (es : List Element) : d.Lists es ↔ es = d.elements := by
  constructor
  · rintro (_ | _ | ⟨hne, htokens⟩ | _)
    · rfl
    · rfl
    · simp [elements, hne, (Text.pieces_iff ..).mp htokens, Function.comp_def]
    · rfl
  · rintro rfl
    cases d with
    | empty => exact .empty
    | list es => exact .list es
    | pipe text =>
      by_cases hne : text = ""
      · subst hne
        exact .blank
      · have htokens := (Text.pieces_iff '|' text _).mpr rfl
        have helements : (pipe text).elements =
            ((text.toList.splitOn '|').map String.ofList).map .token := by
          simp [elements, hne, Function.comp_def]
        rw [helements]
        exact .pipe hne htokens

/-- **A declaration has the rules that its elements declare, in their order**; but if
the name in some token is unknown it has none, and the first such name for its error. -/
theorem rules_of_elements (lookup : String → Option Validator) (d : Declaration) :
    ∃ es, (∀ other, d.Lists other ↔ other = es) ∧
      ((∃ problem, d.rules lookup = .error problem) ↔
        ∃ e ∈ es, ∃ written, e.Unknown lookup written) ∧
      (∀ written, Element.FirstUnknown lookup es written →
        d.rules lookup = .error (.unknownRule written)) ∧
      ((∀ e ∈ es, ∀ written, ¬e.Unknown lookup written) →
        ∃ declared, d.rules lookup = .ok declared ∧
          ∀ other, Element.InOrder lookup es other ↔ other = declared) := by
  refine ⟨d.elements, d.lists_iff, ?_, ?_, ?_⟩
  · rw [← Element.exists_firstUnknown_iff]
    constructor
    · rintro ⟨problem, h⟩
      obtain ⟨written, hfirst, -⟩ := (Element.rules_eq_error_iff ..).mp h
      exact ⟨written, hfirst⟩
    · rintro ⟨written, hfirst⟩
      exact ⟨_, (Element.rules_eq_error_iff ..).mpr ⟨written, hfirst, rfl⟩⟩
  · intro written hfirst
    exact (Element.rules_eq_error_iff ..).mpr ⟨written, hfirst, rfl⟩
  · intro hknown
    have hinOrder : ∀ other, Element.InOrder lookup d.elements other ↔
        d.rules lookup = .ok other := by
      intro other
      rw [Declaration.rules, Element.rules_eq_ok_iff]
      exact (and_iff_right hknown).symm
    cases hd : d.rules lookup with
    | error problem =>
      obtain ⟨written, hfirst, -⟩ := (Element.rules_eq_error_iff ..).mp hd
      obtain ⟨e, he, other, hunknown⟩ := (Element.exists_firstUnknown_iff ..).mp ⟨written, hfirst⟩
      exact absurd hunknown (hknown e he other)
    | ok declared =>
      refine ⟨declared, rfl, fun other => ?_⟩
      rw [hinOrder, hd, Except.ok.injEq, eq_comm]

/-- A sequence with an unknown name does not hide the token after it. -/
example : (list [.sequence (.name "a") [], .token "^b_c:1:2,", .token "d"]).rules (fun _ => none) =
    .error (.unknownRule "^b_c") := rfl

end Declaration
end FieldRules
