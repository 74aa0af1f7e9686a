import FieldRules.Json.Writer
import FieldRules.Proofs.Reread

/-! What is read of the text of a document.

Printing knows no limit on how deep arrays and objects nest, and reading does: it stops at
`nestingLimit`. Short of that nothing is lost of strings, nor of the order of entries, and of
the numbers what is read is what each says alone (`Json.reread?`).

Both ways of printing lay the same things out with different blanks (`Json.LaysOut`),
and blanks do not count: `Json.ofText?_pretty` and `Json.ofText?_text` are the same of either
text. -/
namespace FieldRules.Json

/-! ### Strings -/

theorem hexUnit?_digits : ∀ n < 32,
    hexUnit? '0' '0' (n / 16).digitChar (n % 16).digitChar = some n := by
  decide

theorem stringRest_cons (done rest : List Char) {c : Char} (hquote : c ≠ '"') (hslash : c ≠ '\\')
    (hcontrol : ¬c.toNat < 32) : stringRest done (c :: rest) = stringRest (c :: done) rest := by
  have hkept : (c.toNat < 32 || decide (c = '\\')) = false := by simp [hcontrol, hslash]
  rw [stringRest, hkept]
  · rfl
  · exact fun he => absurd he hquote
  · exact fun _ _ _ _ _ he => absurd he hslash
  · exact fun _ _ he => absurd he hslash

/-- A character is read back from the way it stands in a string. -/
theorem stringRest_escaped (done : List Char) (c : Char) (rest : List Char) :
    stringRest done (escaped c ++ rest) = stringRest (c :: done) rest := by
  have hc : Char.ofNat c.toNat = c := Char.ofNat_toNat c
  unfold escaped
  split_ifs with hquote hslash hb ht hn hf hr hcontrol
  · subst hquote
    rfl
  · subst hslash
    rfl
  · rw [← hc, hb]
    rfl
  · rw [← hc, ht]
    rfl
  · rw [← hc, hn]
    rfl
  · rw [← hc, hf]
    rfl
  · rw [← hc, hr]
    rfl
  · have hlead : leadsPair c.toNat = false := by
      simp only [leadsPair, Bool.and_eq_false_iff, decide_eq_false_iff_not]
      omega
    have htail : endsPair c.toNat = false := by
      simp only [endsPair, Bool.and_eq_false_iff, decide_eq_false_iff_not]
      omega
    simp only [List.cons_append, List.nil_append, stringRest, hexUnit?_digits _ hcontrol, hlead,
      htail, hc]
    rfl
  · exact stringRest_cons done rest hquote hslash hcontrol

theorem stringRest_flatMap (done chars rest : List Char) :
    stringRest done (chars.flatMap escaped ++ '"' :: rest) =
      some (done.reverse ++ chars, rest) := by
  induction chars generalizing done with
  | nil => simp [stringRest]
  | cons c chars ih =>
    rw [List.flatMap_cons, List.append_assoc, stringRest_escaped, ih]
    simp

theorem stringRest_quoted (s : String) (rest : List Char) :
    ∃ text, quoted s ++ rest = '"' :: text ∧ stringRest [] text = some (s.toList, rest) := by
  refine ⟨s.toList.flatMap escaped ++ '"' :: rest, ?_, stringRest_flatMap [] _ _⟩
  simp [quoted]

/-! ### Blanks -/

/-- Blanks only. -/
def Blank (gap : List Char) : Prop := ∀ c ∈ gap, isSpace c = true

theorem blank_nil : Blank [] := fun _ hc => nomatch hc

theorem blank_newLine (depth : Nat) : Blank (newLine depth) := by
  intro c hc
  rcases List.mem_cons.mp hc with rfl | hc
  · rfl
  · rw [List.eq_of_mem_replicate hc]
    rfl

theorem skip_blank {gap : List Char} (h : Blank gap) (text : List Char) :
    skip (gap ++ text) = skip text := List.dropWhile_append_of_pos h

theorem ends_of_isSpace {c : Char} (h : isSpace c = true) (rest : List Char) :
    Ends (c :: rest) := by
  intro first hfirst
  cases hfirst
  simp only [isSpace, Bool.or_eq_true, decide_eq_true_eq] at h
  rcases h with ((rfl | rfl) | rfl) | rfl <;> decide

theorem skip_of_not_space {c : Char} (h : isSpace c = false) (text : List Char) :
    skip (c :: text) = c :: text := by
  rw [skip, List.dropWhile_cons_of_neg (by simp [h])]

/-- Blanks in front of a value do not count. -/
theorem valueOver_of_skip_eq (inner : Option (Reader Json)) {a b : List Char}
    (h : skip a = skip b) : valueOver inner a = valueOver inner b := by
  rw [valueOver, h, valueOver]

theorem value_of_skip_eq (levels : Nat) {a b : List Char} (h : skip a = skip b) :
    value levels a = value levels b := by
  cases levels <;> exact valueOver_of_skip_eq _ h

/-! ### How a value begins -/

/-- A blank ends no value, and a bracket that closes begins none. -/
def Opens (c : Char) : Prop := isSpace c = false ∧ c ≠ ']' ∧ c ≠ '\x7d'

instance (c : Char) : Decidable (Opens c) := inferInstanceAs (Decidable (_ ∧ _))

theorem opens_of_isDigit {c : Char} (h : c.isDigit = true) : Opens c := by
  refine ⟨?_, ?_, ?_⟩
  · rw [isSpace, decide_eq_false, decide_eq_false, decide_eq_false, decide_eq_false]
    · rfl
    all_goals
      rintro rfl
      exact absurd h (by decide)
  all_goals
    rintro rfl
    exact absurd h (by decide)

theorem chars_begins (n : Number) :
    ∃ c text, n.chars = c :: text ∧ (c = '-' ∨ c.isDigit = true) := by
  obtain ⟨negative, body, whole, fraction, power, hchars, hspells⟩ := exists_spells n
  obtain ⟨c, others, rfl, hc⟩ := hspells.begins
  cases negative with
  | true => exact ⟨'-', _, hchars, .inl rfl⟩
  | false => exact ⟨c, others, hchars, .inr hc⟩

theorem valueOver_numeral (inner : Option (Reader Json)) {c : Char} {text : List Char}
    (h : c = '-' ∨ c.isDigit = true) :
    valueOver inner (c :: text) =
      (numeral (c :: text)).map fun (n, rest) => (number n, rest) := by
  have hspace : isSpace c = false := by
    rcases h with rfl | hdigit
    · rfl
    · exact (opens_of_isDigit hdigit).1
  rw [valueOver, skip_of_not_space hspace]
  split <;> first
    | rfl
    | cases (List.cons.inj (by assumption)).1
      simp at h

/-! ### Lists between brackets -/

/-- From the text of a thing a reader reads what it stands for, if it stands for anything. -/
def ReadsBack {α β : Type} (item : Reader β) (chars : α → List Char) (meaning? : α → Option β)
    (x : α) : Prop :=
  ∀ rest, Ends rest → item (chars x ++ rest) = (meaning? x).map (·, rest)

/-- Things each after a comma, the closing bracket after blanks, and the rest. -/
def remaining {α : Type} (chars : α → List Char) (gap : List Char) (close : Char)
    (rest : List Char) (others : List α) : List Char :=
  others.flatMap (fun x => ',' :: chars x) ++ (gap ++ close :: rest)

section
variable {α β : Type} {item : Reader β} {chars : α → List Char} {meaning? : α → Option β}
  {gap : List Char} {close : Char} (rest : List Char)

theorem remaining_cons (x : α) (others : List α) :
    remaining chars gap close rest (x :: others) =
      ',' :: (chars x ++ remaining chars gap close rest others) := by
  simp [remaining]

theorem length_lt_remaining (others : List α) :
    others.length < (remaining chars gap close rest others).length := by
  induction others with
  | nil =>
    rw [remaining, List.flatMap_nil, List.nil_append, List.length_append, List.length_cons]
    exact Nat.add_pos_right _ (Nat.succ_pos _)
  | cons x others ih =>
    rw [remaining_cons, List.length_cons, List.length_cons, List.length_append]
    omega

variable (hgap : Blank gap) (hclose : close = ']' ∨ close = '\x7d')
include hgap hclose

theorem ends_remaining (others : List α) : Ends (remaining chars gap close rest others) := by
  cases others with
  | cons x others =>
    intro c hc
    cases hc
    decide
  | nil =>
    cases gap with
    | cons blank gap => exact ends_of_isSpace (hgap blank (List.mem_cons_self ..)) _
    | nil =>
      intro c hc
      rcases hclose with rfl | rfl <;> cases hc <;> decide

theorem skip_remaining_nil :
    skip (remaining chars gap close rest []) = close :: rest := by
  rw [remaining, List.flatMap_nil, List.nil_append, skip_blank hgap]
  rcases hclose with rfl | rfl <;> rfl

theorem more_remaining {others : List α}
    (h : ∀ x ∈ others, ReadsBack item chars meaning? x) (done : List β) {fuel : Nat}
    (hfuel : others.length < fuel) :
    more item close fuel done (remaining chars gap close rest others) =
      (others.mapM meaning?).map fun read => (done.reverse ++ read, rest) := by
  induction others generalizing done fuel with
  | nil =>
    obtain ⟨fuel, rfl⟩ := Nat.exists_eq_succ_of_ne_zero (Nat.ne_of_gt hfuel)
    simp [more, skip_remaining_nil rest hgap hclose]
  | cons x others ih =>
    obtain ⟨fuel, rfl⟩ := Nat.exists_eq_succ_of_ne_zero (Nat.ne_zero_of_lt hfuel)
    obtain ⟨hx, hothers⟩ := List.forall_mem_cons.mp h
    have hcomma : ',' ≠ close := by rcases hclose with rfl | rfl <;> decide
    have hitem := hx (remaining chars gap close rest others)
      (ends_remaining rest hgap hclose others)
    have hlater (y : β) := ih hothers (y :: done) (Nat.lt_of_succ_lt_succ hfuel)
    rw [remaining_cons, more, skip_of_not_space (by decide)]
    show (if ',' = close then _ else _) = _
    rw [if_neg hcomma, if_pos rfl, hitem, List.mapM_cons]
    cases meaning? x with
    | none => rfl
    | some y =>
      show more item close fuel (y :: done) _ = _
      rw [hlater]
      cases others.mapM meaning? <;> simp

theorem bracketed_items {first : α} {others : List α}
    (h : ∀ x ∈ first :: others, ReadsBack item chars meaning? x)
    (hopens : ∀ later, ∃ c text, skip (chars first ++ later) = c :: text ∧ Opens c) :
    bracketed item close (chars first ++ remaining chars gap close rest others) =
      ((first :: others).mapM meaning?).map (·, rest) := by
  obtain ⟨hfirst, hothers⟩ := List.forall_mem_cons.mp h
  obtain ⟨c, text, hskip, -, hbracket, hbrace⟩ := hopens (remaining chars gap close rest others)
  have hc : c ≠ close := by rcases hclose with rfl | rfl <;> assumption
  have hfuel : others.length <
      (chars first ++ remaining chars gap close rest others).length := by
    rw [List.length_append]
    exact Nat.lt_add_left _ (length_lt_remaining rest others)
  have hitem := hfirst (remaining chars gap close rest others)
    (ends_remaining rest hgap hclose others)
  have hmore (y : β) := more_remaining rest hgap hclose hothers [y] hfuel
  rw [bracketed, hskip]
  show (if c = close then _ else _) = _
  rw [if_neg hc, hitem, List.mapM_cons]
  cases meaning? first with
  | none => rfl
  | some y =>
    show more item close _ [y] _ = _
    rw [hmore]
    cases others.mapM meaning? <;> rfl

end

/-- The entry of an object, with blanks around what it is made of. -/
theorem entry_quoted (levels : Nat) {gap behind : List Char} (hgap : Blank gap)
    (hbehind : Blank behind) (key : String) (text : List Char) :
    entry (value levels) (gap ++ (quoted key ++ ':' :: (behind ++ text))) =
      (value levels text).map fun read => ((key, read.1), read.2) := by
  obtain ⟨inside, hinside, hkey⟩ := stringRest_quoted key (':' :: (behind ++ text))
  rw [entry, skip_blank hgap, hinside, skip_of_not_space (by decide)]
  simp only [hkey]
  rw [skip_of_not_space (by decide)]
  simp only [value_of_skip_eq levels (skip_blank hbehind text), String.ofList_toList]

/-! ### Layout -/

/-- How a printer lays out a document: blanks in front of every item and of the bracket that
closes, and blanks behind every colon. -/
structure LaysOut (print : Nat → Json → List Char) (gap : Nat → List Char)
    (behind : List Char) : Prop where
  blank_gap : ∀ depth, Blank (gap depth)
  blank_behind : Blank behind
  scalar : ∀ depth v, v.nesting = 0 → print depth v = v.chars
  no_items : ∀ depth, print depth (array []) = ['[', ']']
  no_entries : ∀ depth, print depth (object []) = ['\x7b', '\x7d']
  items : ∀ depth first others, print depth (array (first :: others)) =
    let itemText := fun item => gap (depth + 1) ++ print (depth + 1) item
    '[' :: (itemText first ++ others.flatMap (fun item => ',' :: itemText item) ++
      (gap depth ++ [']']))
  entries : ∀ depth first others, print depth (object (first :: others)) =
    let entryText := fun entry : String × Json =>
      gap (depth + 1) ++ (quoted entry.1 ++ ':' :: (behind ++ print (depth + 1) entry.2))
    '\x7b' :: (entryText first ++ others.flatMap (fun entry => ',' :: entryText entry) ++
      (gap depth ++ ['\x7d']))

theorem prettyItems_eq (depth : Nat) (others : List Json) :
    prettyItems depth others =
      others.flatMap fun item => ',' :: (newLine depth ++ item.prettyChars depth) := by
  induction others with
  | nil => rfl
  | cons item others ih => simp [prettyItems, ih]

theorem prettyEntries_eq (depth : Nat) (others : List (String × Json)) :
    prettyEntries depth others = others.flatMap fun entry =>
      ',' :: (newLine depth ++ (quoted entry.1 ++ ':' :: ' ' :: entry.2.prettyChars depth)) := by
  induction others with
  | nil => rfl
  | cons entry others ih => simp [prettyEntries, ih]

theorem otherItems_eq (others : List Json) :
    otherItems others = others.flatMap fun item => ',' :: item.chars := by
  induction others with
  | nil => rfl
  | cons item others ih => simp [otherItems, ih]

theorem otherEntries_eq (others : List (String × Json)) :
    otherEntries others = others.flatMap fun entry =>
      ',' :: (quoted entry.1 ++ ':' :: entry.2.chars) := by
  induction others with
  | nil => rfl
  | cons entry others ih => simp [otherEntries, ih]

theorem prettyChars_scalar (depth : Nat) (v : Json) (h : v.nesting = 0) :
    v.prettyChars depth = v.chars := by
  cases v with
  | bool b => cases b <;> rfl
  | array items => cases h
  | object entries => cases h
  | _ => rfl

theorem laysOut_prettyChars : LaysOut prettyChars newLine [' '] where
  blank_gap := blank_newLine
  blank_behind := by
    intro c hc
    rw [List.mem_singleton.mp hc]
    rfl
  scalar := prettyChars_scalar
  no_items _ := rfl
  no_entries _ := rfl
  items depth first others := by simp [prettyChars, prettyItems_eq]
  entries depth first others := by simp [prettyChars, prettyEntries_eq]

theorem laysOut_chars : LaysOut (fun _ => chars) (fun _ => []) [] where
  blank_gap _ := blank_nil
  blank_behind := blank_nil
  scalar _ _ _ := rfl
  no_items _ := rfl
  no_entries _ := rfl
  items depth first others := by simp [chars, otherItems_eq]
  entries depth first others := by simp [chars, otherEntries_eq]

/-! ### Documents -/

section
variable {print : Nat → Json → List Char} {gap : Nat → List Char} {behind : List Char}
  (h : LaysOut print gap behind)
include h

theorem print_begins (depth : Nat) (v : Json) : ∃ c text, print depth v = c :: text ∧ Opens c := by
  cases v with
  | null => exact ⟨'n', _, h.scalar depth _ rfl, by decide⟩
  | bool value => cases value <;> exact ⟨_, _, h.scalar depth _ rfl, by decide⟩
  | string s => exact ⟨'"', _, h.scalar depth _ rfl, by decide⟩
  | number n =>
    obtain ⟨c, text, htext, hc⟩ := chars_begins n
    refine ⟨c, text, (h.scalar depth _ rfl).trans htext, ?_⟩
    rcases hc with rfl | hdigit
    · decide
    · exact opens_of_isDigit hdigit
  | array items =>
    cases items with
    | nil => exact ⟨'[', _, h.no_items depth, by decide⟩
    | cons first others => exact ⟨'[', _, h.items depth first others, by decide⟩
  | object entries =>
    cases entries with
    | nil => exact ⟨'\x7b', _, h.no_entries depth, by decide⟩
    | cons first others => exact ⟨'\x7b', _, h.entries depth first others, by decide⟩

/-- What is read of the text of a value is what is read of it again. -/
def ReadBack (print : Nat → Json → List Char) (levels depth : Nat) : Json → Prop :=
  ReadsBack (value levels) (print depth) (reread? levels)

variable {levels depth : Nat}

theorem readBack_scalar {v : Json} (hv : v.nesting = 0) (hread : ∀ inner rest, Ends rest →
    valueOver inner (v.chars ++ rest) = (rereadOver none v).map (·, rest)) :
    ReadBack print levels depth v := by
  intro rest hrest
  have hsame : reread? levels v = rereadOver none v := by
    cases v with
    | array items => cases hv
    | object entries => cases hv
    | _ => cases levels <;> rfl
  rw [h.scalar depth v hv, hsame]
  cases levels <;> exact hread _ rest hrest

theorem readBack_string (s : String) : ReadBack print levels depth (string s) := by
  refine readBack_scalar h rfl fun inner rest _ => ?_
  obtain ⟨text, htext, hs⟩ := stringRest_quoted s rest
  rw [chars, htext, valueOver, skip_of_not_space (by decide)]
  simp [hs, rereadOver]

theorem readBack_number (n : Number) : ReadBack print levels depth (number n) := by
  refine readBack_scalar h rfl fun inner rest hrest => ?_
  obtain ⟨c, text, htext, hc⟩ := chars_begins n
  have hread := numeral_chars n hrest
  rw [htext] at hread
  rw [chars, htext, List.cons_append, valueOver_numeral inner hc, ← List.cons_append, hread,
    rereadOver, Option.map_map, Option.map_map]
  rfl

theorem readsBack_item {v : Json} (hv : ReadBack print levels depth v) :
    ReadsBack (value levels) (fun v => gap depth ++ print depth v) (reread? levels) v := by
  intro rest hrest
  rw [List.append_assoc, value_of_skip_eq levels (skip_blank (h.blank_gap depth) _)]
  exact hv rest hrest

theorem readsBack_entry {entry : String × Json} (hv : ReadBack print levels depth entry.2) :
    ReadsBack (Json.entry (value levels))
      (fun entry => gap depth ++ (quoted entry.1 ++ ':' :: (behind ++ print depth entry.2)))
      (fun entry => (reread? levels entry.2).map (entry.1, ·)) entry := by
  intro rest hrest
  have hentry := entry_quoted levels (h.blank_gap depth) h.blank_behind entry.1
    (print depth entry.2 ++ rest)
  simp only [List.append_assoc, List.cons_append]
  rw [hentry, hv rest hrest, Option.map_map, Option.map_map]
  rfl

theorem readBack_array {items : List Json}
    (hitems : ∀ item ∈ items, ∀ levels depth, ReadBack print levels depth item) :
    ReadBack print levels depth (array items) := by
  intro rest hrest
  cases items with
  | nil =>
    rw [h.no_items]
    cases levels <;> rfl
  | cons first others =>
    rw [h.items]
    cases levels with
    | zero => rfl
    | succ levels =>
      have hbegins : ∀ later, ∃ c text,
          skip (gap (depth + 1) ++ print (depth + 1) first ++ later) = c :: text ∧ Opens c := by
        intro later
        obtain ⟨c, text, htext, hc⟩ := print_begins h (depth + 1) first
        refine ⟨c, text ++ later, ?_, hc⟩
        rw [List.append_assoc, skip_blank (h.blank_gap _), htext, List.cons_append,
          skip_of_not_space hc.1]
      have hread := bracketed_items rest (h.blank_gap depth) (.inl rfl)
        (fun item hitem => readsBack_item h (hitems item hitem levels (depth + 1))) hbegins
      have hvalue (text : List Char) : value (levels + 1) ('[' :: text) =
          (bracketed (value levels) ']' text).map fun read => (array read.1, read.2) := rfl
      simp only [List.cons_append, List.append_assoc, List.nil_append, remaining] at hread ⊢
      rw [hvalue, hread, reread?_array, Option.map_map, Option.map_map]
      rfl

theorem readBack_object {entries : List (String × Json)}
    (hentries : ∀ entry ∈ entries, ∀ levels depth, ReadBack print levels depth entry.2) :
    ReadBack print levels depth (object entries) := by
  intro rest hrest
  cases entries with
  | nil =>
    rw [h.no_entries]
    cases levels <;> rfl
  | cons first others =>
    rw [h.entries]
    cases levels with
    | zero => rfl
    | succ levels =>
      have hbegins : ∀ later, ∃ c text,
          skip (gap (depth + 1) ++
            (quoted first.1 ++ ':' :: (behind ++ print (depth + 1) first.2)) ++ later) =
              c :: text ∧ Opens c := by
        intro later
        rw [List.append_assoc, skip_blank (h.blank_gap _), quoted]
        exact ⟨'"', _, rfl, by decide⟩
      have hread := bracketed_items rest (h.blank_gap depth) (.inr rfl)
        (fun entry hentry => readsBack_entry h (hentries entry hentry levels (depth + 1))) hbegins
      have hvalue (text : List Char) : value (levels + 1) ('\x7b' :: text) =
          (bracketed (entry (value levels)) '\x7d' text).map
            fun read => (object (Dict.ofList read.1), read.2) := rfl
      simp only [List.cons_append, List.append_assoc, List.nil_append, remaining] at hread ⊢
      rw [hvalue, hread, reread?_object, Option.map_map, Option.map_map]
      rfl

/-- Of what is printed a reader gets what it gets of the document. -/
theorem readBack (v : Json) (levels depth : Nat) : ReadBack print levels depth v := by
  induction v using parts_induction generalizing levels depth with
  | null => exact readBack_scalar h rfl fun _ _ _ => rfl
  | bool b => cases b <;> exact readBack_scalar h rfl fun _ _ _ => rfl
  | number n => exact readBack_number h n
  | string s => exact readBack_string h s
  | array items ih => exact readBack_array h ih
  | object entries ih => exact readBack_object h ih

end

/-- **The text of a document.** What is read of it is what is read of each part. -/
theorem ofText?_pretty (v : Json) : ofText? (v.pretty ++ "\n") = reread? nestingLimit v := by
  have hends : Ends ['\n'] := ends_of_isSpace rfl []
  have hread := readBack laysOut_prettyChars v nestingLimit 0 ['\n'] hends
  have htext : (v.pretty ++ "\n").toList = v.prettyChars 0 ++ ['\n'] := by
    rw [String.toList_append, pretty, String.toList_ofList]
    rfl
  rw [ofText?, ofChars?, htext, hread]
  cases reread? nestingLimit v <;> rfl

/-- The same on one line. -/
theorem ofText?_text (v : Json) : ofText? v.text = reread? nestingLimit v := by
  have hends : Ends [] := fun c hc => nomatch hc
  have hread := readBack laysOut_chars v nestingLimit 0 [] hends
  rw [List.append_nil] at hread
  rw [ofText?, ofChars?, text, String.toList_ofList, hread]
  cases reread? nestingLimit v <;> rfl

end FieldRules.Json
