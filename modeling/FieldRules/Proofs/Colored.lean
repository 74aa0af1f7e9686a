import FieldRules.Output.Human
import FieldRules.Text.Digit
import FieldRules.Text.Pieces

/-! Colors.

What spans look like is a list of pieces, each of one style (`Span.pieces`), and a style that is
left in force at the end (`Span.last`). A terminal that follows the escape sequences shows just
that (`Span.shown_terminal`), and without the escape sequences its text is the plain one
(`Span.stripped_terminal`), as long as no text has an escape character in it.

`Human.terminal_plans`: so plans look the way `Human.look` lists them, piece by piece. Every block
of them leaves no style in force, so none runs over into the next one, whatever blocks there are. -/
namespace FieldRules

/-- Text of one style. -/
structure Piece where
  chars : List Char
  style : Style
deriving DecidableEq, Repr

def Piece.marked (p : Piece) : List (Char × Style) := p.chars.map fun c => (c, p.style)

/-! ### Characters and switches -/

section
variable {s : Style} {chars : List Char}

theorem shown_append (h : '\x1b' ∉ chars) (rest : List Char) :
    shown s none (chars ++ rest) =
      ((Piece.mk chars s).marked ++ (shown s none rest).1, (shown s none rest).2) := by
  induction chars with
  | nil => rfl
  | cons c others ih =>
    have hc : c ≠ '\x1b' := (List.ne_of_not_mem_cons h).symm
    rw [List.cons_append, shown]
    simp only [if_neg hc, ih (List.not_mem_of_not_mem_cons h)]
    rfl

theorem shown_dropAll (rest : List Char) :
    shown s none (Style.dropAll ++ rest) = shown .none none rest := rfl

/-- Whatever style was in force. -/
theorem shown_escapes (t : Style) (rest : List Char) :
    shown s none (t.escapes ++ rest) = shown t none rest := by
  obtain ⟨bold, color⟩ := t
  cases bold <;> rcases color with _ | ⟨⟨⟩⟩ <;> rfl

theorem stripped_append (h : '\x1b' ∉ chars) (rest : List Char) :
    stripped false (chars ++ rest) = chars ++ stripped false rest := by
  induction chars with
  | nil => rfl
  | cons c others ih =>
    have hc : c ≠ '\x1b' := (List.ne_of_not_mem_cons h).symm
    simp [stripped, hc, ih (List.not_mem_of_not_mem_cons h)]

theorem stripped_dropAll (rest : List Char) :
    stripped false (Style.dropAll ++ rest) = stripped false rest := by
  simp [Style.dropAll, stripped]

theorem stripped_escapes (t : Style) (rest : List Char) :
    stripped false (t.escapes ++ rest) = stripped false rest := by
  obtain ⟨bold, color⟩ := t
  cases bold <;> rcases color with _ | ⟨⟨⟩⟩ <;>
    simp [Style.escapes, Style.dropAll, Color.digit, stripped]

end

namespace Span

/-! ### Spans -/

def pieces (s : Style) : List Span → List Piece
  | [] => []
  | .text chars :: rest => ⟨chars, s⟩ :: pieces s rest
  | .style t :: rest => pieces t rest
  | .reset :: rest => pieces .none rest

/-- The style in force at the end. -/
def last (s : Style) : List Span → Style
  | [] => s
  | .text _ :: rest => last s rest
  | .style t :: rest => last t rest
  | .reset :: rest => last .none rest

/-- No text has an escape character in it. -/
def Unescaped (spans : List Span) : Prop := '\x1b' ∉ spans.flatMap plainChars

theorem unescaped_cons {span : Span} {rest : List Span} :
    Unescaped (span :: rest) ↔ '\x1b' ∉ span.plainChars ∧ Unescaped rest := by
  rw [Unescaped, List.flatMap_cons, List.mem_append, not_or]
  rfl

theorem unescaped_append {a b : List Span} : Unescaped (a ++ b) ↔ Unescaped a ∧ Unescaped b := by
  rw [Unescaped, List.flatMap_append, List.mem_append, not_or]
  rfl

theorem unescaped_flatMap {α : Type} {spans : α → List Span} {items : List α} :
    Unescaped (items.flatMap spans) ↔ ∀ item ∈ items, Unescaped (spans item) := by
  induction items with
  | nil => simp [Unescaped]
  | cons item others ih => rw [List.flatMap_cons, unescaped_append, ih, List.forall_mem_cons]

/-- A terminal shows the pieces in their styles. -/
theorem shown_terminal {spans : List Span} (h : Unescaped spans) (s : Style) :
    shown s none (spans.flatMap terminalChars) =
      ((pieces s spans).flatMap Piece.marked, last s spans) := by
  induction spans generalizing s with
  | nil => rfl
  | cons span rest ih =>
    obtain ⟨hspan, hrest⟩ := unescaped_cons.mp h
    rw [List.flatMap_cons]
    cases span with
    | text chars =>
      have hchars : '\x1b' ∉ chars := hspan
      rw [terminalChars, shown_append hchars, ih hrest]
      rfl
    | style t =>
      rw [terminalChars, shown_escapes, ih hrest]
      rfl
    | reset =>
      rw [terminalChars, shown_dropAll, ih hrest]
      rfl

/-- Without escape sequences it is the plain text. -/
theorem stripped_terminal {spans : List Span} (h : Unescaped spans) :
    stripped false (spans.flatMap terminalChars) = spans.flatMap plainChars := by
  induction spans with
  | nil => rfl
  | cons span rest ih =>
    obtain ⟨hspan, hrest⟩ := unescaped_cons.mp h
    rw [List.flatMap_cons, List.flatMap_cons]
    cases span with
    | text chars =>
      have hchars : '\x1b' ∉ chars := hspan
      rw [terminalChars, stripped_append hchars, ih hrest]
      rfl
    | style t =>
      rw [terminalChars, stripped_escapes, ih hrest]
      rfl
    | reset =>
      rw [terminalChars, stripped_dropAll, ih hrest]
      rfl

/-! ### Blocks -/

theorem pieces_append (s : Style) (a b : List Span) :
    pieces s (a ++ b) = pieces s a ++ pieces (last s a) b := by
  induction a generalizing s with
  | nil => rfl
  | cons span rest ih => cases span <;> simp [pieces, last, ih]

theorem last_append (s : Style) (a b : List Span) : last s (a ++ b) = last (last s a) b := by
  induction a generalizing s with
  | nil => rfl
  | cons span rest ih => cases span <;> exact ih _

/-- Where no style is in force the spans look like that, and they leave none in force. -/
structure LooksLike (spans : List Span) (look : List Piece) : Prop where
  pieces : pieces .none spans = look
  last : last .none spans = .none

namespace LooksLike

theorem append {a b : List Span} {look look' : List Piece} (h : LooksLike a look)
    (h' : LooksLike b look') : LooksLike (a ++ b) (look ++ look') where
  pieces := by rw [pieces_append, h.pieces, h.last, h'.pieces]
  last := by rw [last_append, h.last, h'.last]

theorem flatMap {α : Type} {spans : α → List Span} {look : α → List Piece}
    (h : ∀ item, LooksLike (spans item) (look item)) (items : List α) :
    LooksLike (items.flatMap spans) (items.flatMap look) := by
  induction items with
  | nil => exact ⟨rfl, rfl⟩
  | cons item others ih => exact (h item).append ih

end LooksLike
end Span

namespace Human

/-! ### What plans look like -/

def groupLook (number : Nat) (g : Group) : List Piece :=
  [⟨"  [".toList ++ Nat.toDigits 10 number ++ "] ".toList, .none⟩,
    if g.bail then ⟨"bail ".toList, .colored .yellow⟩ else ⟨"     ".toList, .none⟩,
    ⟨described g ++ ['\n'], .none⟩]

def planLook (p : FieldPlan) : List Piece :=
  [⟨p.field.toList ++ ['\n'], .boldface⟩] ++
    (if p.groups.isEmpty then [⟨"  (no rules)\n".toList, .none⟩] else []) ++
    p.groups.zipIdx.flatMap fun (g, index) => groupLook (index + 1) g

def errorLook (e : FieldError) : List Piece :=
  [⟨e.field.toList ++ ['\n'], .boldface⟩,
    ⟨"  error: ".toList ++ e.error.message.toList ++ ['\n'], .colored .red⟩]

def summaryLook (c : Compilation) : List Piece :=
  let compiled := "Compiled ".toList ++ Nat.toDigits 10 c.plans.length ++ " field(s)".toList
  if c.succeeded then [⟨compiled ++ ['\n'], .colored .green⟩]
  else
    [⟨compiled ++ ", ".toList ++ Nat.toDigits 10 c.errors.length ++ " failed".toList ++ ['\n'],
      .colored .red⟩]

/-- Names of fields are bold, marks of halting groups yellow, errors red, and the summary is green
or red. Nothing else has a style. -/
def look (c : Compilation) : List Piece :=
  c.plans.flatMap planLook ++ c.errors.flatMap errorLook ++ [⟨['\n'], .none⟩] ++ summaryLook c

theorem groupSpans_looksLike (number : Nat) (g : Group) :
    Span.LooksLike (groupSpans number g) (groupLook number g) := by
  obtain ⟨rules, bail⟩ := g
  cases bail <;> exact ⟨rfl, rfl⟩

theorem planSpans_looksLike (p : FieldPlan) : Span.LooksLike (planSpans p) (planLook p) := by
  have hfield : Span.LooksLike [.style .boldface, .line p.field.toList, .reset]
      [⟨p.field.toList ++ ['\n'], .boldface⟩] := ⟨rfl, rfl⟩
  have hempty : Span.LooksLike (if p.groups.isEmpty then [.line "  (no rules)".toList] else [])
      (if p.groups.isEmpty then [⟨"  (no rules)\n".toList, .none⟩] else []) := by
    cases p.groups.isEmpty <;> exact ⟨rfl, rfl⟩
  exact (hfield.append hempty).append
    (.flatMap (fun (g, index) => groupSpans_looksLike (index + 1) g) _)

theorem errorSpans_looksLike (e : FieldError) : Span.LooksLike (errorSpans e) (errorLook e) :=
  ⟨rfl, rfl⟩

theorem summarySpans_looksLike (c : Compilation) :
    Span.LooksLike (summarySpans c) (summaryLook c) := by
  unfold summarySpans summaryLook
  cases c.succeeded <;> exact ⟨rfl, rfl⟩

theorem plans_looksLike (c : Compilation) : Span.LooksLike (plans c) (look c) :=
  (((Span.LooksLike.flatMap planSpans_looksLike _).append (.flatMap errorSpans_looksLike _)).append
    ⟨rfl, rfl⟩).append (summarySpans_looksLike c)

end Human

/-! ### Texts without escape characters -/

structure Rule.Unescaped (r : Rule) : Prop where
  name : '\x1b' ∉ r.displayName.toList
  args : ∀ arg ∈ r.args, '\x1b' ∉ arg.toList

instance (r : Rule) : Decidable r.Unescaped :=
  decidable_of_iff (_ ∧ _) ⟨fun h => ⟨h.1, h.2⟩, fun h => ⟨h.name, h.args⟩⟩

/-- No name of a field or of a rule, no argument and no error has an escape character in it. -/
structure Compilation.Unescaped (c : Compilation) : Prop where
  plan : ∀ p ∈ c.plans, '\x1b' ∉ p.field.toList
  rule : ∀ p ∈ c.plans, ∀ g ∈ p.groups, ∀ r ∈ g.rules, r.Unescaped
  failed : ∀ e ∈ c.errors, '\x1b' ∉ e.field.toList
  error : ∀ e ∈ c.errors, '\x1b' ∉ e.error.message.toList

instance (c : Compilation) : Decidable c.Unescaped :=
  decidable_of_iff (_ ∧ _ ∧ _ ∧ _)
    ⟨fun h => ⟨h.1, h.2.1, h.2.2.1, h.2.2.2⟩, fun h => ⟨h.plan, h.rule, h.failed, h.error⟩⟩

namespace Human

theorem escape_not_mem_describe {r : Rule} (h : r.Unescaped) : '\x1b' ∉ describe r := by
  have hargs : '\x1b' ∉ [',', ' '].intercalate (r.args.map String.toList) :=
    Text.not_mem_intercalate_map (by decide) h.args
  have hname := h.name
  unfold describe
  cases r.modifier.isBail <;> cases r.args.isEmpty <;> simp [hname, hargs]

theorem escape_not_mem_described {g : Group} (h : ∀ r ∈ g.rules, r.Unescaped) :
    '\x1b' ∉ described g :=
  Text.not_mem_intercalate_map (by decide) fun r hr => escape_not_mem_describe (h r hr)

theorem groupSpans_unescaped (number : Nat) {g : Group} (h : ∀ r ∈ g.rules, r.Unescaped) :
    Span.Unescaped (groupSpans number g) := by
  have hnumber : '\x1b' ∉ Nat.toDigits 10 number := Text.not_mem_toDigits (by decide) number
  have hrules := escape_not_mem_described h
  unfold groupSpans
  cases g.bail <;> simp [Span.Unescaped, Span.plainChars, Span.line, hnumber, hrules]

theorem planSpans_unescaped {p : FieldPlan} (hfield : '\x1b' ∉ p.field.toList)
    (hrules : ∀ g ∈ p.groups, ∀ r ∈ g.rules, r.Unescaped) : Span.Unescaped (planSpans p) := by
  have hgroups : Span.Unescaped
      (p.groups.zipIdx.flatMap fun (g, index) => groupSpans (index + 1) g) :=
    Span.unescaped_flatMap.mpr fun _ hg =>
      groupSpans_unescaped _ (hrules _ (List.fst_mem_of_mem_zipIdx hg))
  unfold planSpans
  refine Span.unescaped_append.mpr ⟨?_, hgroups⟩
  cases p.groups.isEmpty <;> simp [Span.Unescaped, Span.plainChars, Span.line, hfield]

theorem errorSpans_unescaped {e : FieldError} (hfield : '\x1b' ∉ e.field.toList)
    (herror : '\x1b' ∉ e.error.message.toList) : Span.Unescaped (errorSpans e) := by
  simp [errorSpans, Span.Unescaped, Span.plainChars, Span.line, hfield, herror]

theorem summarySpans_unescaped (c : Compilation) : Span.Unescaped (summarySpans c) := by
  have hcount (n : Nat) : '\x1b' ∉ Nat.toDigits 10 n := Text.not_mem_toDigits (by decide) n
  unfold summarySpans
  cases c.succeeded <;> simp [Span.Unescaped, Span.plainChars, Span.line, hcount]

theorem plans_unescaped {c : Compilation} (h : c.Unescaped) : Span.Unescaped (plans c) := by
  have hplans : Span.Unescaped (c.plans.flatMap planSpans) :=
    Span.unescaped_flatMap.mpr fun p hp => planSpans_unescaped (h.plan p hp) (h.rule p hp)
  have herrors : Span.Unescaped (c.errors.flatMap errorSpans) :=
    Span.unescaped_flatMap.mpr fun e he => errorSpans_unescaped (h.failed e he) (h.error e he)
  have hblank : Span.Unescaped [.line []] := by simp [Span.Unescaped, Span.plainChars, Span.line]
  exact Span.unescaped_append.mpr ⟨Span.unescaped_append.mpr
    ⟨Span.unescaped_append.mpr ⟨hplans, herrors⟩, hblank⟩, summarySpans_unescaped c⟩

/-- **Plans on a terminal** are the plain ones with escape sequences, and these give every piece of
them its style and leave none in force. -/
theorem terminal_plans {c : Compilation} (h : c.Unescaped) :
    stripped false (Span.terminal (plans c)).toList = (Span.plain (plans c)).toList ∧
      shown .none none (Span.terminal (plans c)).toList =
        ((look c).flatMap Piece.marked, .none) := by
  have hplans := plans_unescaped h
  rw [Span.terminal, Span.plain, String.toList_ofList, String.toList_ofList]
  refine ⟨Span.stripped_terminal hplans, ?_⟩
  rw [Span.shown_terminal hplans, (plans_looksLike c).pieces, (plans_looksLike c).last]

/-- A halting group, another one, a field without rules, and one that is refused. -/
def mixed : Compilation where
  plans :=
    [⟨"age",
        [⟨[⟨⟨.builtin "min", Builtin.min⟩, ["1"], "min", .bailPrefix⟩], true⟩,
          ⟨[⟨⟨.builtin "between", Builtin.between⟩, ["1", "150"], "between", .plain⟩], false⟩]⟩,
      ⟨"name", []⟩]
  errors := [⟨"email", .unknownRule "mail"⟩]

theorem terminal_plans_mixed :
    mixed.Unescaped ∧
      stripped false (Span.terminal (plans mixed)).toList =
        ("age\n  [1] bail ^min(1)\n  [2]      between(1, 150)\nname\n  (no rules)\n" ++
          "email\n  error: Unknown rule: mail\n\nCompiled 2 field(s), 1 failed\n").toList ∧
      shown .none none (Span.terminal (plans mixed)).toList =
        (([("age\n", .boldface), ("  [1] ", .none), ("bail ", .colored .yellow),
            ("^min(1)\n", .none), ("  [2] ", .none), ("     ", .none),
            ("between(1, 150)\n", .none), ("name\n", .boldface), ("  (no rules)\n", .none),
            ("email\n", .boldface), ("  error: Unknown rule: mail\n", .colored .red),
            ("\n", .none), ("Compiled 2 field(s), 1 failed\n", .colored .red)] :
          List (String × Style)).flatMap fun (text, style) => text.toList.map (·, style),
          .none) := by
  have hmixed : mixed.Unescaped := by decide
  obtain ⟨hplain, hshown⟩ := terminal_plans hmixed
  refine ⟨hmixed, hplain.trans (congrArg String.toList ?_), hshown.trans ?_⟩
  · decide +kernel
  · decide +kernel

end Human
end FieldRules
