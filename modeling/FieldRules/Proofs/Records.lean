import FieldRules.Proofs.OneLine
import FieldRules.Rule.Decoding

/-! What a reader gets back from the records of a compilation.

A reader of the lines needs no more than the keys of each record: it looks up what kind
of record it is and then what such a record holds (`Jsonl.Record.ofJson?`). Keys are
written in their own order and read by name, so each kind of record is one equation
about look-up (`Jsonl.ofJson?_group`, `Jsonl.ofJson?_error`, `Jsonl.ofJson?_status`).

`Jsonl.read_plans`: every line is one object, and from all of them the reader gets the
groups with their places, the errors and the status, in order. -/
namespace FieldRules

/-! ### Looking up -/

namespace Json

def string? : Json → Option String
  | string s => some s
  | _ => none

def bool? : Json → Option Bool
  | bool b => some b
  | _ => none

def nat? : Json → Option Nat
  | number (.integer n _) => if 0 ≤ n then some n.toNat else none
  | _ => none

def items? : Json → Option (List Json)
  | array items => some items
  | _ => none

/-- Below it a natural number is a number of 64 bits. -/
def natLimit : Nat := 18446744073709551616

theorem nat?_integer (n : Nat) (fits : Fits64 n) :
    (number (.integer n fits)).asRead.nat? = some n := by
  show (if 0 ≤ (n : Int) then some (n : Int).toNat else none) = _
  rw [if_pos (Int.natCast_nonneg n), Int.toNat_natCast]

/-- What stands for a natural number is read as that one, if it fits. The lemma gives it a
name: proofs that unfold it compare with a limit of twenty digits. -/
theorem exists_ofNat (n : Nat) :
    ∃ v, ofNat n = v ∧ v.nesting = 0 ∧ (n < natLimit → v.asRead.nat? = some n) := by
  by_cases fits : Fits64 n
  · exact ⟨_, dif_pos fits, rfl, fun _ => nat?_integer n fits⟩
  · exact ⟨_, dif_neg fits, rfl, fun h => absurd ⟨by omega, Int.ofNat_lt.mpr h⟩ fits⟩

@[simp] theorem asRead_string (s : String) : (string s).asRead = string s := rfl

@[simp] theorem asRead_null : null.asRead = null := rfl

@[simp] theorem asRead_bool (b : Bool) : (bool b).asRead = bool b := rfl

@[simp] theorem string?_string (s : String) : (string s).string? = some s := rfl

@[simp] theorem bool?_bool (b : Bool) : (bool b).bool? = some b := rfl

theorem items?_array (items : List Json) :
    (array items).asRead.items? = some (items.map asRead) := by
  rw [asRead, itemsAsRead_eq, items?]

/-- Under keys that differ, an entry is found as it was written. -/
theorem member?_asRead {entries : List (String × Json)} (h : (Dict.keys entries).Nodup)
    (key : String) :
    (object entries).asRead.member? key = (Dict.get? entries key).map asRead := by
  have hkeys : (Dict.keys (entries.map fun entry => (entry.1, entry.2.asRead))).Nodup := by
    rw [Dict.keys, List.map_map]
    exact h
  rw [asRead, entriesAsRead_eq, member?, Dict.get?_ofList _ hkeys, Dict.get?_map]

end Json

namespace Jsonl

/-! ### Reading records -/

structure RecordedRule where
  name : Option String
  args : List String
  modifier : Modifier
deriving DecidableEq

inductive Record where
  | group (field : String) (index : Nat) (bail : Bool) (rules : List RecordedRule)
  | error (field message : String)
  | status (passed : Bool) (compiled failed : Nat)
deriving DecidableEq

def name? : Json → Option (Option String)
  | .null => some none
  | .string name => some (some name)
  | _ => none

def RecordedRule.ofJson? (v : Json) : Option RecordedRule := do
  return {
    name := ← name? (← v.member? "name")
    args := ← (← (← v.member? "args").items?).mapM Json.string?
    modifier := ← Modifier.ofJson? (← v.member? "modifier") }

namespace Record

def group? (v : Json) : Option Record := do
  return .group (← (← v.member? "field").string?) (← (← v.member? "index").nat?)
    (← (← v.member? "bail").bool?)
    (← (← (← v.member? "rules").items?).mapM RecordedRule.ofJson?)

def error? (v : Json) : Option Record := do
  return .error (← (← v.member? "field").string?) (← (← v.member? "message").string?)

def status? (v : Json) : Option Record := do
  return .status (← (← v.member? "passed").bool?) (← (← v.member? "fields_compiled").nat?)
    (← (← v.member? "fields_failed").nat?)

/-- The type says what else to look for. -/
def ofJson? (v : Json) : Option Record := do
  let type ← (← v.member? "type").string?
  if type = "group" then group? v
  else if type = "error" then error? v
  else if type = "status" then status? v
  else none

def ofLine? (line : String) : Option Record := (Json.ofText? line).bind ofJson?

/-! ### What is written -/

def ofRule (r : Rule) : RecordedRule := ⟨r.name, r.args, r.modifier⟩

def ofGroup (field : String) (index : Nat) (g : Group) : Record :=
  .group field index g.bail (g.rules.map ofRule)

def ofError (e : FieldError) : Record := .error e.field e.error.message

end Record

/-- Every group with its field and its place among the groups of the field. -/
def placed (c : Compilation) : List (String × Nat × Group) :=
  c.plans.flatMap fun p => p.groups.zipIdx.map fun (g, index) => (p.field, index, g)

/-- The records of a compilation as they should be read. -/
def recorded (c : Compilation) : List Record :=
  (placed c).map (fun (field, index, g) => .ofGroup field index g) ++ c.errors.map .ofError ++
    [.status c.errors.isEmpty c.plans.length c.errors.length]

/-! ### Record by record -/

theorem read_strings (texts : List String) :
    texts.mapM (Json.string? ∘ Json.asRead ∘ Json.string) = some texts := by
  have hread : ∀ text ∈ texts, (Json.string? ∘ Json.asRead ∘ Json.string) text = some (id text) :=
    fun _ _ => rfl
  rw [mapM_eq_some hread, List.map_id]

theorem ofJson?_rule (r : Rule) :
    RecordedRule.ofJson? (ruleRecord r).asRead = some (Record.ofRule r) := by
  obtain ⟨validator, args, name, modifier⟩ := r
  have hmodifier : Modifier.ofJson? (.string modifier.text) = some modifier := by
    cases modifier <;> rfl
  cases name <;>
    simp [RecordedRule.ofJson?, ruleRecord, Json.member?_asRead, Dict.keys, Dict.get?, name?,
      Json.items?_array, read_strings, hmodifier, Record.ofRule]

theorem read_rules (rules : List Rule) :
    rules.mapM (RecordedRule.ofJson? ∘ Json.asRead ∘ ruleRecord) =
      some (rules.map Record.ofRule) :=
  mapM_eq_some fun r _ => ofJson?_rule r

theorem ofJson?_group (field : String) {index : Nat} (h : index < Json.natLimit) (g : Group) :
    Record.ofJson? (groupRecord field index g).asRead = some (.ofGroup field index g) := by
  obtain ⟨written, hwritten, -, hindex⟩ := Json.exists_ofNat index
  rw [groupRecord, hwritten]
  simp [Record.ofJson?, Record.group?, Json.member?_asRead, Dict.keys, Dict.get?, hindex h,
    Json.items?_array, read_rules, Record.ofGroup]

theorem ofJson?_error (e : FieldError) :
    Record.ofJson? (errorRecord e).asRead = some (.ofError e) := by
  simp [Record.ofJson?, Record.error?, errorRecord, Json.member?_asRead, Dict.keys, Dict.get?,
    Record.ofError]

theorem ofJson?_status {c : Compilation} (hplans : c.plans.length < Json.natLimit)
    (herrors : c.errors.length < Json.natLimit) :
    Record.ofJson? (statusRecord c).asRead =
      some (.status c.errors.isEmpty c.plans.length c.errors.length) := by
  obtain ⟨compiled, hcompiled, -, hread⟩ := Json.exists_ofNat c.plans.length
  obtain ⟨failed, hfailed, -, hother⟩ := Json.exists_ofNat c.errors.length
  rw [statusRecord, hcompiled, hfailed]
  simp [Record.ofJson?, Record.status?, Json.member?_asRead, Dict.keys, Dict.get?, hread hplans,
    hother herrors, Compilation.succeeded]

/-! ### Nesting -/

theorem nesting_ruleRecord (r : Rule) : (ruleRecord r).nesting ≤ 2 := by
  obtain ⟨validator, args, name, modifier⟩ := r
  have hargs : Json.itemsNesting (args.map .string) ≤ 0 := by
    rw [Json.itemsNesting_le]
    simp [Json.nesting]
  cases name <;>
    simp [ruleRecord, Json.nesting, Json.entriesNesting] <;> omega

theorem nesting_groupRecord (field : String) (index : Nat) (g : Group) :
    (groupRecord field index g).nesting ≤ Json.nestingLimit := by
  have hrules : Json.itemsNesting (g.rules.map ruleRecord) ≤ 2 := by
    rw [Json.itemsNesting_le]
    simp [nesting_ruleRecord]
  obtain ⟨written, hwritten, hnesting, -⟩ := Json.exists_ofNat index
  rw [groupRecord, hwritten]
  simp [Json.nesting, Json.entriesNesting, hnesting, Json.nestingLimit]
  omega

theorem nesting_errorRecord (e : FieldError) :
    (errorRecord e).nesting ≤ Json.nestingLimit := by
  simp [errorRecord, Json.nesting, Json.entriesNesting, Json.nestingLimit]

theorem nesting_statusRecord (c : Compilation) :
    (statusRecord c).nesting ≤ Json.nestingLimit := by
  obtain ⟨compiled, hcompiled, hnesting, -⟩ := Json.exists_ofNat c.plans.length
  obtain ⟨failed, hfailed, hother, -⟩ := Json.exists_ofNat c.errors.length
  rw [statusRecord, hcompiled, hfailed]
  simp [Json.nesting, Json.entriesNesting, hnesting, hother, Json.nestingLimit]

/-! ### Numbers

Records hold no numbers but counts and positions. -/

theorem settled_ruleRecord (r : Rule) : (ruleRecord r).Settled := by
  obtain ⟨validator, args, name, modifier⟩ := r
  cases name <;> simp [ruleRecord, Json.Numbers.string, Json.Numbers.null]

theorem settled_groupRecord (field : String) (index : Nat) (g : Group) :
    (groupRecord field index g).Settled := by
  simp [groupRecord, Json.Numbers.string, Json.Numbers.bool, Json.settled_ofNat,
    settled_ruleRecord]

theorem settled_errorRecord (e : FieldError) : (errorRecord e).Settled := by
  simp [errorRecord, Json.Numbers.string]

theorem settled_statusRecord (c : Compilation) : (statusRecord c).Settled := by
  simp [statusRecord, Json.Numbers.string, Json.Numbers.bool, Json.settled_ofNat]

/-! ### Line by line -/

theorem forall_mem_records {P : Json → Prop} (c : Compilation)
    (hgroup : ∀ field index g, P (groupRecord field index g)) (herror : ∀ e, P (errorRecord e))
    (hstatus : P (statusRecord c)) : ∀ record ∈ records c, P record := by
  intro record hrecord
  rw [records, List.mem_append, List.mem_append] at hrecord
  obtain (hmem | hmem) | hmem := hrecord
  · obtain ⟨p, -, hmem⟩ := List.mem_flatMap.mp hmem
    obtain ⟨⟨g, index⟩, -, rfl⟩ := List.mem_map.mp hmem
    exact hgroup p.field index g
  · obtain ⟨e, -, rfl⟩ := List.mem_map.mp hmem
    exact herror e
  · rw [List.mem_singleton.mp hmem]
    exact hstatus

theorem nesting_of_mem_records (c : Compilation) :
    ∀ record ∈ records c, record.nesting ≤ Json.nestingLimit :=
  forall_mem_records c nesting_groupRecord nesting_errorRecord (nesting_statusRecord c)

theorem settled_of_mem_records (c : Compilation) : ∀ record ∈ records c, record.Settled :=
  forall_mem_records c settled_groupRecord settled_errorRecord (settled_statusRecord c)

theorem object_of_mem_records (c : Compilation) :
    ∀ record ∈ records c, ∃ entries, record = .object entries :=
  forall_mem_records c (fun _ _ _ => ⟨_, rfl⟩) (fun _ => ⟨_, rfl⟩) ⟨_, rfl⟩

theorem records_eq (c : Compilation) :
    records c = (placed c).map (fun (field, index, g) => groupRecord field index g) ++
      c.errors.map errorRecord ++ [statusRecord c] := by
  have hplan : planRecords = fun p => p.groups.zipIdx.map fun (g, index) =>
    groupRecord p.field index g := rfl
  simp [records, placed, hplan, List.map_flatMap, Function.comp_def]

theorem length_placed (c : Compilation) :
    (placed c).length = (c.plans.flatMap FieldPlan.groups).length := by
  simp [placed, List.length_flatMap]

/-- Positions and numbers of plans, errors and groups fit a word of 64 bits, as those of
every list in memory do. -/
structure Countable (c : Compilation) : Prop where
  plans : c.plans.length < Json.natLimit
  errors : c.errors.length < Json.natLimit
  groups : ∀ p ∈ c.plans, p.groups.length ≤ Json.natLimit

theorem index_lt_of_placed {c : Compilation} (h : Countable c) {field : String} {index : Nat}
    {g : Group} (hmem : (field, index, g) ∈ placed c) : index < Json.natLimit := by
  obtain ⟨p, hp, hmem⟩ := List.mem_flatMap.mp hmem
  obtain ⟨⟨_, _⟩, hplace, heq⟩ := List.mem_map.mp hmem
  cases heq
  exact Nat.lt_of_lt_of_le (List.snd_lt_of_mem_zipIdx hplace) (h.groups p hp)

theorem read_line {v : Json} {record : Record} (hnesting : v.nesting ≤ Json.nestingLimit)
    (hsettled : v.Settled) (hread : Record.ofJson? v.asRead = some record) :
    Record.ofLine? v.text = some record := by
  rw [Record.ofLine?, Json.ofText?_text, Json.reread?_of_settled hnesting hsettled,
    Option.bind_some, hread]

theorem read_lines {α : Type} {write : α → Json} {meaning : α → Record} {items : List α}
    (hnesting : ∀ x ∈ items, (write x).nesting ≤ Json.nestingLimit)
    (hsettled : ∀ x ∈ items, (write x).Settled)
    (hread : ∀ x ∈ items, Record.ofJson? (write x).asRead = some (meaning x)) :
    ((items.map write).map Json.text).mapM Record.ofLine? = some (items.map meaning) := by
  rw [List.map_map, List.mapM_map]
  exact mapM_eq_some fun x hx => read_line (hnesting x hx) (hsettled x hx) (hread x hx)

theorem read_groups {c : Compilation} (h : Countable c) :
    (((placed c).map fun (field, index, g) => groupRecord field index g).map Json.text).mapM
      Record.ofLine? = some ((placed c).map fun (field, index, g) => .ofGroup field index g) :=
  read_lines (fun _ _ => nesting_groupRecord ..) (fun _ _ => settled_groupRecord ..)
    fun (field, _, g) hmem => ofJson?_group field (index_lt_of_placed h hmem) g

theorem read_errors (errors : List FieldError) :
    ((errors.map errorRecord).map Json.text).mapM Record.ofLine? = some (errors.map .ofError) :=
  read_lines (fun e _ => nesting_errorRecord e) (fun e _ => settled_errorRecord e)
    fun e _ => ofJson?_error e

theorem read_status {c : Compilation} (h : Countable c) :
    Record.ofLine? (statusRecord c).text =
      some (.status c.errors.isEmpty c.plans.length c.errors.length) :=
  read_line (nesting_statusRecord c) (settled_statusRecord c) (ofJson?_status h.plans h.errors)

/-- From the lines of all records a reader gets what was recorded. -/
theorem read_records {c : Compilation} (h : Countable c) :
    ((records c).map Json.text).mapM Record.ofLine? = some (recorded c) := by
  rw [records_eq, List.map_append, List.map_append, List.mapM_append, List.mapM_append,
    read_groups h, read_errors, List.map_singleton, List.mapM_cons, read_status h]
  rfl

/-- **The records of a compilation.** Each stands on a line of its own, group by group, then
error by error, and the status last. Every line is one object, and the lines together give
back what was recorded. -/
theorem read_plans (c : Compilation) :
    ∃ written : List String, Text.Pieces '\n' (plans c) (written ++ [""]) ∧
      written.length = (c.plans.flatMap FieldPlan.groups).length + c.errors.length + 1 ∧
      (∀ line ∈ written, ∃ entries, Json.ofText? line = some (.object entries)) ∧
      (Countable c → written.mapM Record.ofLine? = some (recorded c)) := by
  refine ⟨(records c).map Json.text, pieces_lines (records c), ?_, ?_, read_records⟩
  · rw [List.length_map, records_eq, List.length_append, List.length_append, List.length_map,
      List.length_map, length_placed, List.length_singleton]
  · intro line hline
    obtain ⟨record, hrecord, rfl⟩ := List.mem_map.mp hline
    obtain ⟨entries, rfl⟩ := object_of_mem_records c record hrecord
    have hread := Json.reread?_of_settled (nesting_of_mem_records c _ hrecord)
      (settled_of_mem_records c _ hrecord)
    exact ⟨_, (Json.ofText?_text _).trans hread⟩

/-- Quotes, backslashes, line ends and control characters, a field without groups, a rule
without a name. -/
theorem read_plans_escapes : ∃ written : List String,
    Text.Pieces '\n' (plans ⟨[
      ⟨"say \"a\"\n", [
        ⟨[⟨⟨.supplied "any", fun _ _ => true⟩, ["\\", "\x01"], some "min", .bailPrefix⟩], true⟩,
        ⟨[⟨⟨.supplied "any", fun _ _ => true⟩, [], none, .plain⟩], false⟩]⟩,
      ⟨"none", []⟩], [⟨"z", .unknownRule "\n"⟩]⟩) (written ++ [""]) ∧
    written.length = 4 ∧
    written.mapM Record.ofLine? = some [
      .group "say \"a\"\n" 0 true [⟨some "min", ["\\", "\x01"], .bailPrefix⟩],
      .group "say \"a\"\n" 1 false [⟨none, [], .plain⟩],
      .error "z" "Unknown rule: \n",
      .status false 2 1] := by
  obtain ⟨written, hpieces, hlength, -, hread⟩ := read_plans ⟨[
    ⟨"say \"a\"\n", [
      ⟨[⟨⟨.supplied "any", fun _ _ => true⟩, ["\\", "\x01"], some "min", .bailPrefix⟩], true⟩,
      ⟨[⟨⟨.supplied "any", fun _ _ => true⟩, [], none, .plain⟩], false⟩]⟩,
    ⟨"none", []⟩], [⟨"z", .unknownRule "\n"⟩]⟩
  exact ⟨written, hpieces, hlength, hread ⟨by decide, by decide, by simp [Json.natLimit]⟩⟩

end Jsonl
end FieldRules
