import FieldRules.Command.Run
import FieldRules.Proofs.Building
import FieldRules.Proofs.Printing
import FieldRules.Proofs.Written

/-! What a run of `set` saves, and what is read of it.

A run reads the document of a file, writes in it and prints it to the file
(`Command.run_set`). A tree `Holds` a document under a name when its text is there;
the next run reads the document, and can write another one in its place.

`Command.document_runSet`: after a successful run the document that it made is read
from the file, unless it nests deeper than a reader goes, or holds a double that its text
does not give back. Nothing keeps a run from nesting so deep
(`Command.document_runSet_too_deep`), and then the file is lost to all later runs. -/
namespace FieldRules

/-- A write keeps a document ordered. -/
theorem Path.ordered_set (p : Path) {v doc : Json} (hv : v.Ordered) (h : doc.Ordered) :
    (p.set v doc).Ordered :=
  Json.ordered_write p.steps hv h

theorem Json.ordered_empty : (object []).Ordered := .object .nil (List.forall_mem_nil _)

/-! ### How deep a path leads -/

theorem Json.itemsNesting_padded (n : Nat) (v : Json) :
    itemsNesting (List.replicate n null ++ [v]) = v.nesting := by
  induction n with
  | zero => simp [itemsNesting]
  | succ n ih =>
    rw [List.replicate_succ, List.cons_append, itemsNesting, ih]
    simp [nesting]

/-- Where nothing is, each step nests the value one deeper. -/
theorem Json.nesting_build (steps : List Step) (v : Json) :
    (build steps v).nesting = steps.length + v.nesting := by
  induction steps with
  | nil => simp [build]
  | cons step rest ih =>
    have hstep : (build (step :: rest) v).nesting = (build rest v).nesting + 1 := by
      cases step with
      | key name => simp [build, nesting, entriesNesting]
      | index position =>
        by_cases hpast : greatestPadding < position
        · simp [build_index_past hpast, nesting, entriesNesting]
        · rw [build_index (Nat.not_lt.mp hpast), nesting, itemsNesting_padded]
    rw [hstep, ih, List.length_cons]
    omega

/-- Keys and dots, and no step but the keys. -/
theorem Path.steps_ofText_keys (n : Nat) :
    (ofText (String.ofList (['.'].intercalate (List.replicate (n + 1) ['a'])))).steps =
      List.replicate (n + 1) (.key "a") := by
  have hparts : (['.'].intercalate (List.replicate (n + 1) ['a'])).splitOn '.' =
      List.replicate (n + 1) ['a'] := by
    apply List.splitOn_intercalate
    · intro part hpart
      rw [List.eq_of_mem_replicate hpart]
      decide
    · simp
  have hsegment : Segment.ofChars ['a'] = ⟨"a", none⟩ := by decide
  rw [ofText, String.toList_ofList, hparts, List.map_replicate, hsegment, steps,
    List.flatMap_replicate]
  exact List.flatten_replicate_singleton

/-- A reader gets the document back from its text. -/
structure Json.Readable (v : Json) : Prop where
  nesting_le : v.nesting ≤ nestingLimit
  settled : v.Settled

theorem Json.readable_iff (v : Json) : v.Readable ↔ v.nesting ≤ nestingLimit ∧ v.Settled :=
  ⟨fun h => ⟨h.nesting_le, h.settled⟩, fun h => ⟨h.1, h.2⟩⟩

namespace FileTree
variable {t : FileTree} {file : String}

/-! ### Documents in a tree -/

/-- The document that a file holds. -/
def document (t : FileTree) (file : String) : Except DocumentError Json :=
  match t.readText file with
  | .error e => .error (.io file e)
  | .ok text =>
    match Json.ofText? text with
    | none => .error (.notJson file)
    | some doc => .ok doc

/-- Without a file it is an empty object. -/
def documentOrEmpty (t : FileTree) (file : String) : Except DocumentError Json :=
  match t.kind? file with
  | none => .ok (.object [])
  | some _ => t.document file

theorem ordered_document {doc : Json} (h : t.document file = .ok doc) : doc.Ordered := by
  unfold document at h
  split at h
  · cases h
  · split at h
    · cases h
    · cases h
      exact Json.ordered_of_ofText? (by assumption)

theorem ordered_documentOrEmpty {doc : Json} (h : t.documentOrEmpty file = .ok doc) :
    doc.Ordered := by
  unfold documentOrEmpty at h
  split at h
  · cases h
    exact Json.ordered_empty
  · exact ordered_document h

/-- A device holds no document. -/
theorem find_ne_sink {doc : Json} (h : t.documentOrEmpty file = .ok doc) :
    t.find file ≠ .ok .sink := by
  intro hsink
  have hempty : Json.ofText? "" = none := rfl
  simp [documentOrEmpty, kind?, hsink, document, readText, hempty] at h

/-- Of a file with the text of a document the document is read again. -/
theorem document_of_find {doc : Json} (h : t.find file = .ok (.file (doc.pretty ++ "\n").toUTF8)) :
    t.document file =
      match Json.reread? Json.nestingLimit doc with
      | some again => .ok again
      | none => .error (.notJson file) := by
  have htext : t.readText file = .ok (doc.pretty ++ "\n") := by
    unfold readText
    rw [h]
    dsimp only
    rw [fromUTF8?_toUTF8]
  unfold document
  rw [htext]
  dsimp only
  rw [Json.ofText?_pretty]
  cases Json.reread? Json.nestingLimit doc <;> rfl

theorem document_eq_iff {doc : Json} (hdoc : doc.Ordered)
    (h : t.find file = .ok (.file (doc.pretty ++ "\n").toUTF8)) :
    t.document file = .ok doc ↔ doc.Readable := by
  rw [document_of_find h, Json.readable_iff, ← Json.reread?_eq_some_iff hdoc]
  cases Json.reread? Json.nestingLimit doc <;> simp

theorem document_of_lt {doc : Json} (hdeep : Json.nestingLimit < doc.nesting)
    (h : t.find file = .ok (.file (doc.pretty ++ "\n").toUTF8)) :
    t.document file = .error (.notJson file) := by
  rw [document_of_find h, Json.reread?_of_lt hdeep]

/-- The name leads to a place, and the text of a document in order is there, or nothing. -/
structure Holds (t : FileTree) (file : String) (doc? : Option Json) : Prop where
  place : ∃ here, t.locate file = .ok here ∧
    t.node? here = doc?.map fun doc => .file (doc.pretty ++ "\n").toUTF8
  ordered : ∀ doc ∈ doc?, doc.Ordered

variable {doc? : Option Json}

theorem Holds.ordered_getD (h : t.Holds file doc?) : (doc?.getD (.object [])).Ordered := by
  cases doc? with
  | none => exact Json.ordered_empty
  | some doc => exact h.ordered doc rfl

theorem Holds.find {doc : Json} (h : t.Holds file (some doc)) :
    t.find file = .ok (.file (doc.pretty ++ "\n").toUTF8) := by
  obtain ⟨here, hlocate, hnode⟩ := h.place
  exact find_of_node hlocate hnode

theorem Holds.find_none (h : t.Holds file none) : t.find file = .error .notFound := by
  obtain ⟨here, hlocate, hnode⟩ := h.place
  exact find_of_no_node hlocate hnode

theorem Holds.documentOrEmpty (h : t.Holds file doc?)
    (hreadable : ∀ doc ∈ doc?, doc.Readable) :
    t.documentOrEmpty file = .ok (doc?.getD (.object [])) := by
  cases doc? with
  | none => simp [FileTree.documentOrEmpty, kind?, h.find_none]
  | some doc =>
    have hread := (document_eq_iff (h.ordered doc rfl) h.find).mpr (hreadable doc rfl)
    simp [FileTree.documentOrEmpty, kind?, h.find, hread]

/-- Where a document or nothing is another one can be written. -/
theorem Holds.writeText (h : t.Holds file doc?) {doc : Json} (hdoc : doc.Ordered) :
    ∃ t', t.writeText file (doc.pretty ++ "\n") = .ok t' ∧ t'.Holds file (some doc) := by
  obtain ⟨here, hlocate, hnode⟩ := h.place
  have hfolder : t.node? here ≠ some .folder := by
    rw [hnode]
    cases doc? <;> exact fun he => nomatch he
  have hsink : t.node? here ≠ some .sink := by
    rw [hnode]
    cases doc? <;> exact fun he => nomatch he
  have hnames : here.names ≠ [] := fun he => hfolder (node?_of_names_eq_nil t he)
  exact ⟨_, writeText_eq hlocate hfolder hsink _,
    ⟨here, locate_put hfolder _ hlocate, node?_put_self t hnames _⟩, by simpa using hdoc⟩

end FileTree

namespace Command
variable {t : FileTree} {file path value : String}

/-! ### Runs -/

theorem run_document (t : FileTree) (file : String) :
    (document FileTree.access file).run t = (t.document file, t) := by
  show (match t.readText file with
    | .error e => pure (.error (.io file e))
    | .ok text =>
      match Json.ofText? text with
      | none => pure (.error (.notJson file))
      | some doc => pure (.ok doc) : StateM FileTree (Except DocumentError Json)).run t = _
  unfold FileTree.document
  cases t.readText file with
  | error e => rfl
  | ok text =>
    dsimp only
    cases Json.ofText? text <;> rfl

theorem run_documentOrEmpty (t : FileTree) (file : String) :
    (documentOrEmpty FileTree.access file).run t = (t.documentOrEmpty file, t) := by
  show (match t.kind? file with
    | none => pure (.ok (.object []))
    | some _ => document FileTree.access file :
      StateM FileTree (Except DocumentError Json)).run t = _
  unfold FileTree.documentOrEmpty
  cases t.kind? file with
  | none => rfl
  | some kind => exact run_document t file

theorem run_write (t : FileTree) (file text : String) (refusal : IoError → Refusal)
    (outcome : Outcome) :
    (write FileTree.access file text refusal outcome).run t =
      match t.writeText file text with
      | .ok written => (outcome, written)
      | .error e => (.refusal (refusal e), t) := by
  have haccess : (FileTree.access.writeText file text).run t =
      match t.writeText file text with
      | .ok written => (.ok (), written)
      | .error e => (.error e, t) := rfl
  rw [write, StateT.run_bind, haccess]
  cases t.writeText file text <;> rfl

theorem run_set_of_invalid (h : Json.ofText? value = none) (t : FileTree) (file path : String) :
    (runSet FileTree.access file path value).run t =
      (.refusal (.document (.notJson "value argument")), t) := by
  unfold runSet
  rw [h]
  rfl

theorem run_set_of_error {v : Json} (hv : Json.ofText? value = some v) {e : DocumentError}
    (h : t.documentOrEmpty file = .error e) (path : String) :
    (runSet FileTree.access file path value).run t = (.refusal (.document e), t) := by
  unfold runSet
  rw [hv]
  dsimp only
  rw [StateT.run_bind, run_documentOrEmpty, h]
  rfl

theorem run_set {v doc : Json} (hv : Json.ofText? value = some v)
    (h : t.documentOrEmpty file = .ok doc) (path : String) :
    (runSet FileTree.access file path value).run t =
      match t.writeText file (changed path v doc) with
      | .ok written => (.answer "", written)
      | .error e => (.refusal (.document (.io file e)), t) := by
  unfold runSet
  rw [hv]
  dsimp only
  rw [StateT.run_bind, run_documentOrEmpty, h]
  exact run_write ..

/-! ### One run -/

theorem run_set_of_holds {v : Json} (hv : Json.ofText? value = some v) {doc? : Option Json}
    (h : t.Holds file doc?) (hreadable : ∀ doc ∈ doc?, doc.Readable) (path : String) :
    ∃ t', (runSet FileTree.access file path value).run t = (.answer "", t') ∧
      t'.Holds file (some ((Path.ofText path).set v (doc?.getD (.object [])))) := by
  obtain ⟨t', hwritten, hholds⟩ :=
    h.writeText (Path.ordered_set (.ofText path) (Json.ordered_of_ofText? hv) h.ordered_getD)
  refine ⟨t', ?_, hholds⟩
  rw [run_set hv (h.documentOrEmpty hreadable), changed, hwritten]

theorem run_set_success {t' : FileTree} {outcome : Outcome}
    (h : (runSet FileTree.access file path value).run t = (outcome, t'))
    (hs : outcome.status = .success) :
    ∃ v doc, Json.ofText? value = some v ∧ t.documentOrEmpty file = .ok doc ∧
      t.writeText file (changed path v doc) = .ok t' := by
  cases hv : Json.ofText? value with
  | none =>
    rw [run_set_of_invalid hv] at h
    cases h
    cases hs
  | some v =>
    cases hdoc : t.documentOrEmpty file with
    | error e =>
      rw [run_set_of_error hv hdoc] at h
      cases h
      cases hs
    | ok doc =>
      rw [run_set hv hdoc] at h
      refine ⟨v, doc, rfl, rfl, ?_⟩
      split at h
      · rename_i hwritten
        cases h
        exact hwritten
      · cases h
        cases hs

/-- **What a successful run saves.** It set a value that it could read in a document that it
could read. What it made is read of the file exactly if it does not nest deeper than a reader
goes and every number in it is read from its text as that number; if it nests deeper the file
is no document any more. So the depth alone decides where all numbers are integers or
doubles of few digits (`Number.Modest`). -/
theorem document_runSet {t t' : FileTree} {file path value : String} {outcome : Outcome}
    (h : (runSet FileTree.access file path value).run t = (outcome, t'))
    (hs : outcome.status = .success) :
    ∃ v doc, Json.ofText? value = some v ∧
      (documentOrEmpty FileTree.access file).run t = (.ok doc, t) ∧
      let made := (Path.ofText path).set v doc
      ((document FileTree.access file).run t' = (.ok made, t') ↔
        made.nesting ≤ Json.nestingLimit ∧ made.Settled) ∧
      (Json.nestingLimit < made.nesting →
        (document FileTree.access file).run t' = (.error (.notJson file), t')) ∧
      (v.Modest → doc.Modest →
        (document FileTree.access file).run t' =
          (if made.nesting ≤ Json.nestingLimit then .ok made else .error (.notJson file), t')) := by
  obtain ⟨v, doc, hv, hdoc, hwritten⟩ := run_set_success h hs
  have hfound := FileTree.find_writeText hwritten (FileTree.find_ne_sink hdoc)
  have hordered : ((Path.ofText path).set v doc).Ordered :=
    Path.ordered_set _ (Json.ordered_of_ofText? hv) (FileTree.ordered_documentOrEmpty hdoc)
  have hexact := FileTree.document_eq_iff hordered hfound
  have hdeep (hlt : Json.nestingLimit < ((Path.ofText path).set v doc).nesting) :
      t'.document file = .error (.notJson file) := FileTree.document_of_lt hlt hfound
  refine ⟨v, doc, hv, by rw [run_documentOrEmpty, hdoc], ?_, ?_, ?_⟩
  · rw [run_document, Prod.mk.injEq, and_iff_left rfl, hexact, Json.readable_iff]
  · intro hlt
    rw [run_document, hdeep hlt]
  · intro hvalue hold
    have hmade : ((Path.ofText path).set v doc).Modest :=
      Json.closed_numbers.write _ hvalue hold
    rw [run_document]
    split
    · rename_i hshallow
      rw [hexact.mpr ⟨hshallow, Json.settled_of_modest hmade⟩]
    · rename_i hlt
      rw [hdeep (Nat.not_le.mp hlt)]

/-- A new file, with an array padded to the value in it. -/
theorem document_runSet_new_file :
    let ran := (runSet FileTree.access "doc.json" "a[1]" "true").run FileTree.machine
    ran.1.status = .success ∧
      (document FileTree.access "doc.json").run ran.2 =
        (.ok (.object [("a", .array [.null, .bool true])]), ran.2) := by
  intro ran
  have hsuccess : ran.1.status = .success := rfl
  obtain ⟨v, doc, hv, hdoc, -, -, hsaved⟩ := document_runSet (rfl : ran = (ran.1, ran.2)) hsuccess
  have hvalue : Json.ofText? "true" = some (.bool true) := rfl
  have hempty : FileTree.machine.documentOrEmpty "doc.json" = .ok (.object []) := rfl
  cases hvalue.symm.trans hv
  rw [run_documentOrEmpty, hempty] at hdoc
  cases hdoc
  exact ⟨hsuccess, hsaved (.bool true) Json.closed_numbers.emptyObject⟩

/-- Below a hundred and twenty-eight keys a value is set, and the file is not read again. -/
theorem document_runSet_too_deep :
    let path := String.ofList (['.'].intercalate (List.replicate 128 ['a']))
    ∃ t', (runSet FileTree.access "doc.json" path "true").run FileTree.machine =
        (.answer "", t') ∧
      (document FileTree.access "doc.json").run t' = (.error (.notJson "doc.json"), t') := by
  intro path
  have hv : Json.ofText? "true" = some (.bool true) := rfl
  have hnew : FileTree.machine.Holds "doc.json" none :=
    ⟨⟨.ofNames ["doc.json"], rfl, rfl⟩, fun doc hdoc => nomatch hdoc⟩
  obtain ⟨t', hrun, hholds⟩ := run_set_of_holds hv hnew (fun doc hdoc => nomatch hdoc) path
  have hbuilt : (Path.ofText path).set (.bool true) (.object []) =
      Json.build (List.replicate 128 (.key "a")) (.bool true) := by
    rw [Path.set, Path.steps_ofText_keys 127]
    exact Json.write_empty "a" _ _
  have hdeep : Json.nestingLimit < ((Path.ofText path).set (.bool true) (.object [])).nesting := by
    rw [hbuilt, Json.nesting_build, List.length_replicate]
    decide
  refine ⟨t', hrun, ?_⟩
  rw [run_document, FileTree.document_of_lt hdeep hholds.find]

end Command
end FieldRules
