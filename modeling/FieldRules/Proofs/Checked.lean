import FieldRules.Proofs.WrittenBack

/-! A walk that checks what it does.

A write goes into entries of objects and elements of arrays, and counts one past an index
when it pads. Whether it may is not asked there, since each container was put in place
just before. Here it is asked at every step (`Json.enter`), and a step that may not is a
fault. No step is (`Json.enter_eq`): the checked write makes the document that the write
makes.

Padding ends at the greatest padding, and nothing else makes an array longer. So if no
array in a document or in what is written to it is longer than padding makes one
(`Json.Short`), none ever is.

`Path.setAll_checked`: both hold of any writes one after the other. -/
namespace FieldRules

/-- Why a step of a checked walk is refused. -/
inductive Fault where
  | wrongKind
  | outOfRange
  | overflow
deriving DecidableEq, Repr

/-- One more than an index, which has to be an index too. -/
def oneMore (index : Nat) : Except Fault Nat :=
  if index < greatestIndex then .ok (index + 1) else .error .overflow

namespace Json

/-! ### Checked steps -/

/-- Where a walk goes on: a place in a container, and the value that stands there. -/
structure Slot where
  room : Json
  place : Place
  value : Json

/-- Only an object has entries. A new one holds a null. -/
def enterEntry (doc : Json) (name : String) : Except Fault Slot :=
  match doc with
  | object entries =>
    match Dict.get? entries name with
    | some v => .ok ⟨object entries, .entry name, v⟩
    | none => .ok ⟨object (Dict.put entries name null), .entry name, null⟩
  | _ => .error .wrongKind

/-- Only an array has elements, and none behind its end. -/
def enterElement (doc : Json) (position : Nat) : Except Fault Slot :=
  match doc with
  | array items =>
    match items[position]? with
    | some v => .ok ⟨array items, .element position, v⟩
    | none => .error .outOfRange
  | _ => .error .wrongKind

/-- The entries of the object that takes the place of a value. -/
def asEntries : Json → List (String × Json)
  | object entries => entries
  | array items => byPosition items
  | _ => []

/-- The container that an index goes into: an object, or an array padded up to it. -/
def roomFor (doc : Json) (position : Nat) : Except Fault Json :=
  match if greatestPadding < position then object doc.asEntries else doc with
  | object entries => .ok (object entries)
  | array items =>
    if items.length ≤ position then
      (oneMore position).map fun length =>
        array (items ++ List.replicate (length - items.length) null)
    else .ok (array items)
  | _ => (oneMore position).map fun length => array (List.replicate length null)

def enterIndex (doc : Json) (position : Nat) : Except Fault Slot :=
  (doc.roomFor position).bind fun room =>
    match room with
    | object _ => room.enterEntry position.repr
    | _ => room.enterElement position

/-- An object as it is, and an empty one instead of anything else. -/
def objectOrEmpty : Json → Json
  | object entries => object entries
  | _ => object []

def enterKey (doc : Json) (name : String) : Except Fault Slot :=
  match doc with
  | array items =>
    match position? name with
    | some position => (array items).enterIndex position
    | none => (array items).objectOrEmpty.enterEntry name
  | doc => doc.objectOrEmpty.enterEntry name

def enter (doc : Json) : Step → Except Fault Slot
  | .key name => doc.enterKey name
  | .index position => doc.enterIndex position

/-- A write by checked steps. -/
def checkedWrite : List Step → Json → Json → Except Fault Json
  | [], v, _ => .ok v
  | step :: rest, v, doc =>
    (doc.enter step).bind fun slot =>
      (checkedWrite rest v slot.value).map fun w => slot.room.putAt slot.place w

/-! ### No step is refused -/

theorem oneMore_eq {position : Nat} (h : position ≤ greatestPadding) :
    oneMore position = .ok (position + 1) := by
  have hlt : position < greatestIndex := Nat.lt_of_le_of_lt h (by decide)
  rw [oneMore, if_pos hlt]

/-- The slot at a place that a step opens. -/
def slotAt (opened : Json × Place) : Slot :=
  ⟨opened.1, opened.2, (opened.1.at? opened.2).getD null⟩

theorem enterEntry_eq (entries : List (String × Json)) (name : String) :
    (object entries).enterEntry name = .ok (slotAt (openedEntry entries name)) := by
  rw [slotAt, at?_openedEntry]
  cases h : Dict.get? entries name <;> simp [enterEntry, openedEntry, Dict.contains, h]

theorem enterElement_padded (items : List Json) (position : Nat) :
    (array (padded items position)).enterElement position =
      .ok (slotAt (array (padded items position), .element position)) := by
  simp [enterElement, slotAt, at?, getElem?_padded]

theorem openedIndex_past (doc : Json) {position : Nat} (h : greatestPadding < position) :
    doc.openedIndex position = openedEntry doc.asEntries position.repr := by
  cases doc <;> simp [openedIndex, asEntries, h]

theorem roomFor_past (doc : Json) {position : Nat} (h : greatestPadding < position) :
    doc.roomFor position = .ok (object doc.asEntries) := by
  rw [roomFor, if_pos h]

theorem roomFor_object (entries : List (String × Json)) {position : Nat}
    (h : position ≤ greatestPadding) :
    (object entries).roomFor position = .ok (object entries) := by
  rw [roomFor, if_neg (Nat.not_lt.mpr h)]

/-- Below the greatest padding an index can be counted on. -/
theorem roomFor_array (items : List Json) {position : Nat} (h : position ≤ greatestPadding) :
    (array items).roomFor position = .ok (array (padded items position)) := by
  simp only [roomFor, if_neg (Nat.not_lt.mpr h), oneMore_eq h]
  by_cases hlong : items.length ≤ position
  · rw [if_pos hlong]
    rfl
  · rw [if_neg hlong, padded_of_lt (Nat.not_le.mp hlong)]

theorem enterIndex_eq (doc : Json) (position : Nat) :
    doc.enterIndex position = .ok (slotAt (doc.openedIndex position)) := by
  by_cases hpast : greatestPadding < position
  · rw [enterIndex, roomFor_past doc hpast, openedIndex_past doc hpast]
    exact enterEntry_eq ..
  · have hle := Nat.not_lt.mp hpast
    cases doc with
    | object entries =>
      rw [enterIndex, roomFor_object entries hle]
      exact enterEntry_eq ..
    | array items =>
      rw [enterIndex, roomFor_array items hle, openedIndex, if_neg hpast]
      exact enterElement_padded ..
    | _ =>
      -- Where there is nothing yet the array is the padded empty one.
      simp only [enterIndex, roomFor, openedIndex, if_neg hpast, oneMore_eq hle]
      exact enterElement_padded [] position

/-- **No step of a walk is refused**: the container that it opens has the place. -/
theorem enter_eq (doc : Json) (step : Step) : doc.enter step = .ok (slotAt (doc.opened step)) := by
  cases step with
  | index position => exact enterIndex_eq doc position
  | key name =>
    cases doc with
    | object entries => exact enterEntry_eq ..
    | array items =>
      cases hp : position? name with
      | some position =>
        simp only [enter, enterKey, opened, hp]
        exact enterIndex_eq ..
      | none =>
        simp only [enter, enterKey, opened, hp]
        exact enterEntry_eq ..
    | _ => exact enterEntry_eq [] name

theorem checkedWrite_eq (steps : List Step) (v doc : Json) :
    checkedWrite steps v doc = .ok (write steps v doc) := by
  induction steps generalizing doc with
  | nil => rfl
  | cons step rest ih =>
    rw [checkedWrite, enter_eq, Except.bind, ih]
    rfl

/-! ### Arrays no longer than padding makes them -/

/-- No array in the document is longer than padding makes one. -/
inductive Short : Json → Prop where
  | null : Short null
  | bool (value : Bool) : Short (bool value)
  | number (value : Number) : Short (number value)
  | string (value : String) : Short (string value)
  | array {items : List Json} : items.length ≤ greatestPadding + 1 → (∀ item ∈ items, Short item) →
      Short (array items)
  | object {entries : List (String × Json)} : (∀ entry ∈ entries, Short entry.2) →
      Short (object entries)

theorem short_array {items : List Json} :
    Short (array items) ↔
      items.length ≤ greatestPadding + 1 ∧ ∀ item ∈ items, Short item :=
  ⟨fun | .array hlength h => ⟨hlength, h⟩, fun h => .array h.1 h.2⟩

theorem short_object {entries : List (String × Json)} :
    Short (object entries) ↔ ∀ entry ∈ entries, Short entry.2 :=
  ⟨fun | .object h => h, .object⟩

theorem short_put {entries : List (String × Json)} (h : Short (object entries)) (name : String)
    {v : Json} (hv : Short v) : Short (object (Dict.put entries name v)) := by
  refine .object fun entry hentry => ?_
  rcases Dict.mem_put hentry with rfl | hold
  · exact hv
  · exact short_object.mp h entry hold

theorem short_byPosition {items : List Json} (h : Short (array items)) :
    Short (object (byPosition items)) := by
  refine .object fun entry hentry => ?_
  obtain ⟨⟨item, position⟩, hitem, rfl⟩ := List.mem_map.mp (Dict.mem_ofList hentry)
  exact (short_array.mp h).2 item (List.fst_mem_of_mem_zipIdx hitem)

/-- Padding up to the greatest padding makes no array longer than that. -/
theorem short_placed {items : List Json} (h : Short (array items)) {position : Nat}
    (hle : position ≤ greatestPadding) {v : Json} (hv : Short v) :
    Short (array (placed items position v)) := by
  obtain ⟨hlength, hitems⟩ := short_array.mp h
  refine .array ?_ fun item hitem => ?_
  · rw [length_placed]
    exact Nat.max_le.mpr ⟨hlength, Nat.succ_le_succ hle⟩
  · rcases List.mem_or_eq_of_mem_set hitem with hpadded | rfl
    · rcases List.mem_append.mp hpadded with hold | hnull
      · exact hitems item hold
      · rw [List.eq_of_mem_replicate hnull]
        exact .null
    · exact hv

theorem closed_short : Closed Short where
  null := .null
  emptyObject := .object (List.forall_mem_nil _)
  emptyArray := .array (Nat.zero_le _) (List.forall_mem_nil _)
  entry h hentry := short_object.mp h _ (Dict.mem_of_get?_eq_some hentry)
  element h hitem := (short_array.mp h).2 _ (List.mem_of_getElem? hitem)
  put name h hv := short_put h name hv
  set hle h hv := short_placed h hle hv
  byPosition h := short_byPosition h

end Json

namespace Path

/-- Checked writes one after the other, up to the first that is refused. -/
def checkedSetAll (writes : List (String × Json)) (doc : Json) : Except Fault Json :=
  writes.foldlM (fun doc w => Json.checkedWrite (ofText w.1).steps w.2 doc) doc

theorem checkedSetAll_eq (writes : List (String × Json)) (doc : Json) :
    checkedSetAll writes doc = .ok (setAll writes doc) := by
  induction writes generalizing doc with
  | nil => rfl
  | cons first rest ih =>
    rw [checkedSetAll, List.foldlM_cons, Json.checkedWrite_eq]
    exact ih _

theorem short_setAll {writes : List (String × Json)} {doc : Json} (h : Json.Short doc)
    (hwrites : ∀ w ∈ writes, Json.Short w.2) : Json.Short (setAll writes doc) := by
  induction writes generalizing doc with
  | nil => exact h
  | cons first rest ih =>
    obtain ⟨hfirst, hrest⟩ := List.forall_mem_cons.mp hwrites
    exact ih (Json.closed_short.write _ hfirst h) hrest

/-- **Writes one after the other never reach for what is not there**: checked at every
step, they are not refused and make the same document. If no array in the document and in
the values is longer than padding makes one, then neither is any in a document on the
way. -/
theorem setAll_checked (writes : List (String × Json)) (doc : Json) :
    checkedSetAll writes doc = .ok (setAll writes doc) ∧
      (Json.Short doc → (∀ w ∈ writes, Json.Short w.2) →
        ∀ before, before <+: writes → Json.Short (setAll before doc)) := by
  refine ⟨checkedSetAll_eq writes doc, fun hdoc hwrites before hbefore => ?_⟩
  exact short_setAll hdoc fun w hw => hwrites w (hbefore.subset hw)

/-- An array as long as padding makes one: a write to its last element, one past it, and one
to the greatest index there is. -/
theorem setAll_checked_at_padding :
    let doc := Json.object [("rows", .array (List.replicate 65536 .null))]
    let writes := [("rows.65535", Json.bool true), ("rows[65536]", .bool false),
      ("rows[18446744073709551615].a", .null)]
    Json.Short doc ∧ (∀ w ∈ writes, Json.Short w.2) ∧
      checkedSetAll writes doc = .ok (setAll writes doc) ∧
      ∀ before, before <+: writes → Json.Short (setAll before doc) := by
  intro doc writes
  have hrows : Json.Short (.array (List.replicate 65536 .null)) := by
    refine .array (Nat.le_of_eq List.length_replicate) fun item hitem => ?_
    rw [List.eq_of_mem_replicate hitem]
    exact .null
  have hdoc : Json.Short doc := .object (List.forall_mem_singleton.mpr hrows)
  have hwrites : ∀ w ∈ writes, Json.Short w.2 := by
    simp only [writes, List.forall_mem_cons]
    exact ⟨.bool true, .bool false, .null, List.forall_mem_nil _⟩
  obtain ⟨hchecked, hshort⟩ := setAll_checked writes doc
  exact ⟨hdoc, hwrites, hchecked, hshort hdoc hwrites⟩

end Path
end FieldRules
