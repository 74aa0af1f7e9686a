import FieldRules.Json.Basic
import FieldRules.Path.Basic

/-! Reading and writing at a path.

A read follows the steps and finds a value or none. A write makes each container
on the way when it is missing: a step first opens its container (`opened`), so
that there is a value at a place in it, and the walk goes on in that value. A
key wants an object, an index an array or an object. An index past
`greatestPadding` is never reached by padding an array; the array becomes an
object whose keys are the positions. -/
namespace FieldRules

/-- The greatest index up to which arrays are padded with nulls. -/
def greatestPadding : Nat := 65535

namespace Json

/-! ### Reading -/

/-- An object is asked for the text of a step, an array for the position it
names. -/
def child? : Json → Step → Option Json
  | object entries, .key name => Dict.get? entries name
  | object entries, .index position => Dict.get? entries position.repr
  | array items, .key name => (position? name).bind fun position => items[position]?
  | array items, .index position => items[position]?
  | _, _ => none

def read : List Step → Json → Option Json
  | [], doc => some doc
  | step :: rest, doc => (doc.child? step).bind (read rest)

/-! ### Writing -/

/-- Where a value stands in its container. -/
inductive Place where
  | entry (name : String)
  | element (position : Nat)
deriving DecidableEq, Repr

def at? : Json → Place → Option Json
  | object entries, .entry name => Dict.get? entries name
  | array items, .element position => items[position]?
  | _, _ => none

def putAt : Json → Place → Json → Json
  | object entries, .entry name, v => object (Dict.put entries name v)
  | array items, .element position, v => array (items.set position v)
  | doc, _, _ => doc

/-- The items of an array as entries under the decimal texts of their positions. -/
def byPosition (items : List Json) : List (String × Json) :=
  Dict.ofList (items.zipIdx.map fun (v, position) => (position.repr, v))

/-- Nulls up to and including the position. -/
def padded (items : List Json) (position : Nat) : List Json :=
  items ++ List.replicate (position + 1 - items.length) null

/-- An object with an entry of that name, a null if it had none. -/
def openedEntry (entries : List (String × Json)) (name : String) : Json × Place :=
  (object (if Dict.contains entries name then entries else Dict.put entries name null),
    .entry name)

def openedIndex (doc : Json) (position : Nat) : Json × Place :=
  match doc with
  | object entries => openedEntry entries position.repr
  | array items =>
    if greatestPadding < position then openedEntry (byPosition items) position.repr
    else (array (padded items position), .element position)
  | _ =>
    if greatestPadding < position then openedEntry [] position.repr
    else (array (padded [] position), .element position)

/-- The container in which a step writes, and the place of the step in it. -/
def opened (doc : Json) (step : Step) : Json × Place :=
  match doc, step with
  | doc, .index position => openedIndex doc position
  | object entries, .key name => openedEntry entries name
  | array items, .key name =>
    match position? name with
    | some position => openedIndex (array items) position
    | none => openedEntry [] name
  | _, .key name => openedEntry [] name

def write : List Step → Json → Json → Json
  | [], v, _ => v
  | step :: rest, v, doc =>
    let (room, place) := doc.opened step
    room.putAt place (write rest v ((room.at? place).getD null))

/-- The write of one step: its container opened, and the value put there. -/
def putChild (doc : Json) (step : Step) (v : Json) : Json :=
  (doc.opened step).1.putAt (doc.opened step).2 v

/-! ### An array by position -/

theorem keys_byPosition_nodup (items : List Json) :
    (Dict.keys (items.zipIdx.map fun (v, position) => (position.repr, v))).Nodup := by
  have hkeys : Dict.keys (items.zipIdx.map fun (v, position) => (position.repr, v)) =
      (List.range' 0 items.length).map Nat.repr := by
    rw [← List.zipIdx_map_snd, Dict.keys, List.map_map, List.map_map]
    rfl
  rw [hkeys]
  exact List.Pairwise.map Nat.repr (fun a b hne he => hne (repr_inj.mp he))
    (List.nodup_range' 1)

theorem get?_zipIdx (items : List Json) (start position : Nat) :
    Dict.get? ((items.zipIdx start).map fun (v, n) => (n.repr, v)) (start + position).repr =
      items[position]? := by
  induction items generalizing start position with
  | nil => rfl
  | cons v rest ih =>
    cases position with
    | zero => simp [Dict.get?]
    | succ n =>
      have hne : start.repr ≠ (start + (n + 1)).repr := by
        rw [Ne, repr_inj]
        omega
      have hn : start + (n + 1) = start + 1 + n := by omega
      rw [List.zipIdx_cons, List.map_cons, Dict.get?, if_neg hne, hn, ih (start + 1) n,
        List.getElem?_cons_succ]

@[simp] theorem byPosition_nil : byPosition [] = [] := by
  simp [byPosition, Dict.ofList, Dict.lastOfEach]

theorem get?_byPosition (items : List Json) (position : Nat) :
    Dict.get? (byPosition items) position.repr = items[position]? := by
  rw [byPosition, Dict.get?_ofList _ (keys_byPosition_nodup items)]
  simpa using get?_zipIdx items 0 position

theorem get?_byPosition_of_ne (items : List Json) (name : String)
    (h : ∀ position, name ≠ Nat.repr position) : Dict.get? (byPosition items) name = none := by
  rw [byPosition, Dict.get?_ofList _ (keys_byPosition_nodup items)]
  apply Dict.get?_eq_none_of_not_mem
  intro hm
  obtain ⟨entry, hentry, rfl⟩ := List.mem_map.mp hm
  obtain ⟨⟨v, position⟩, _, rfl⟩ := List.mem_map.mp hentry
  exact h position rfl

/-! ### One step -/

theorem putAt_openedEntry (entries : List (String × Json)) (name : String) (v : Json) :
    (openedEntry entries name).1.putAt (openedEntry entries name).2 v =
      object (Dict.put entries name v) := by
  unfold openedEntry putAt
  cases hc : Dict.contains entries name
  · simp [Dict.put_put_self]
  · simp

theorem at?_openedEntry (entries : List (String × Json)) (name : String) :
    ((openedEntry entries name).1.at? (openedEntry entries name).2).getD null =
      (Dict.get? entries name).getD null := by
  unfold openedEntry at?
  cases hc : Dict.contains entries name
  · have hnone : Dict.get? entries name = none := by simpa [Dict.contains] using hc
    simp [hnone]
  · simp

theorem child?_array_key (items : List Json) {name : String} {position : Nat}
    (h : position? name = some position) :
    (array items).child? (.key name) = (array items).child? (.index position) := by
  simp [child?, h]

theorem opened_array_key (items : List Json) {name : String} {position : Nat}
    (h : position? name = some position) :
    (array items).opened (.key name) = (array items).opened (.index position) := by
  simp [opened, h]

theorem length_padded (items : List Json) (position : Nat) :
    position < (padded items position).length := by
  rw [padded, List.length_append, List.length_replicate]
  omega

theorem getElem?_padded (items : List Json) (position : Nat) :
    (padded items position)[position]? = some ((items[position]?).getD null) := by
  unfold padded
  by_cases h : position < items.length
  · rw [List.getElem?_append_left h, List.getElem?_eq_getElem h, Option.getD_some]
  · have hle : items.length ≤ position := Nat.not_lt.mp h
    -- Past the end the padding ends at the position itself.
    rw [List.getElem?_append_right hle, List.getElem?_eq_none hle, Option.getD_none,
      List.getElem?_replicate, if_pos (by omega)]

theorem at?_openedIndex (items : List Json) (position : Nat) :
    ((openedIndex (array items) position).1.at? (openedIndex (array items) position).2).getD null =
      (items[position]?).getD null := by
  simp only [openedIndex]
  split
  · rw [at?_openedEntry, get?_byPosition]
  · simp only [at?, getElem?_padded, Option.getD_some]

/-- The value at the place that a step opens is the child that a read finds. -/
theorem at?_opened (doc : Json) (step : Step) :
    ((doc.opened step).1.at? (doc.opened step).2).getD null = (doc.child? step).getD null := by
  cases doc with
  | object entries => cases step <;> exact at?_openedEntry entries _
  | array items =>
    cases step with
    | index position => exact at?_openedIndex items position
    | key name =>
      cases hp : position? name with
      | some position =>
        rw [child?_array_key items hp, opened_array_key items hp]
        exact at?_openedIndex items position
      | none =>
        simp only [opened, child?, hp]
        exact at?_openedEntry [] name
  | _ =>
    cases step with
    | key name => exact at?_openedEntry [] name
    | index position =>
      simp only [opened, openedIndex, child?]
      split
      · exact at?_openedEntry [] position.repr
      · simp only [at?, getElem?_padded, List.getElem?_nil, Option.getD_none, Option.getD_some]

/-- A write is a write of one step, of what the other steps make of the child there. -/
theorem write_cons (step : Step) (rest : List Step) (v doc : Json) :
    write (step :: rest) v doc =
      doc.putChild step (write rest v ((doc.child? step).getD null)) := by
  rw [← at?_opened]
  rfl

theorem putChild_object_key (entries : List (String × Json)) (name : String) (v : Json) :
    (object entries).putChild (.key name) v = object (Dict.put entries name v) :=
  putAt_openedEntry entries name v

theorem putChild_object_index (entries : List (String × Json)) (position : Nat) (v : Json) :
    (object entries).putChild (.index position) v =
      object (Dict.put entries position.repr v) :=
  putAt_openedEntry entries position.repr v

theorem putChild_array_key (items : List Json) {name : String} {position : Nat}
    (h : position? name = some position) (v : Json) :
    (array items).putChild (.key name) v = (array items).putChild (.index position) v := by
  rw [putChild, opened_array_key items h, putChild]

/-- An array has no place for a key that names no position, and goes. -/
theorem putChild_array_name (items : List Json) {name : String} (h : position? name = none)
    (v : Json) : (array items).putChild (.key name) v = object [(name, v)] := by
  have hopened : (array items).opened (.key name) = openedEntry [] name := by
    simp [opened, h]
  rw [putChild, hopened, putAt_openedEntry]
  rfl

theorem putChild_array_index (items : List Json) {position : Nat}
    (h : position ≤ greatestPadding) (v : Json) :
    (array items).putChild (.index position) v = array ((padded items position).set position v) := by
  have hle : ¬greatestPadding < position := Nat.not_lt.mpr h
  simp [putChild, opened, openedIndex, hle, putAt]

theorem putChild_array_past (items : List Json) {position : Nat}
    (h : greatestPadding < position) (v : Json) :
    (array items).putChild (.index position) v =
      object (Dict.put (byPosition items) position.repr v) := by
  have hopened : (array items).opened (.index position) =
      openedEntry (byPosition items) position.repr := by
    simp [opened, openedIndex, h]
  rw [putChild, hopened, putAt_openedEntry]

def isContainer : Json → Bool
  | array _ => true
  | object _ => true
  | _ => false

/-- A value that is no container makes room for a key as the empty object does. -/
theorem putChild_scalar_key (doc : Json) (h : doc.isContainer = false) (name : String) (v : Json) :
    doc.putChild (.key name) v = (object []).putChild (.key name) v := by
  cases doc with
  | array items => cases h
  | object entries => cases h
  | _ => rfl

/-- And for an index as the empty array does. -/
theorem putChild_scalar_index (doc : Json) (h : doc.isContainer = false) (position : Nat)
    (v : Json) : doc.putChild (.index position) v = (array []).putChild (.index position) v := by
  have hopened : (array []).opened (.index position) =
      if greatestPadding < position then openedEntry [] position.repr
      else (array (padded [] position), .element position) := by
    simp only [opened, openedIndex, byPosition_nil]
  cases doc with
  | array items => cases h
  | object entries => cases h
  | _ => rw [putChild, putChild, hopened]; rfl

end Json

namespace Path

def get? (p : Path) (doc : Json) : Option Json := Json.read p.steps doc

def set (p : Path) (v doc : Json) : Json := Json.write p.steps v doc

/-- One write after the other, each of a value at the path that a text is. -/
def setAll (writes : List (String × Json)) (doc : Json) : Json :=
  writes.foldl (fun doc (text, v) => (ofText text).set v doc) doc

end Path
end FieldRules
