import FieldRules.Proofs.Interchange

/-! Paths with a dot between them.

A text is cut at its dots before anything else, so two paths with a dot between them are
walked one after the other (`Path.steps_join`). A read goes on in what the first path
finds (`Json.read_append`). A write goes on there too: it makes room on its way, but a
value that was there stays as it is until the walk is in it, and new room holds a null
(`Json.arrived_eq`).

`composes_at_dot`: so a path can be taken apart at every dot, for reads and for writes. -/
namespace FieldRules

namespace Json

theorem read_append (before after : List Step) (doc : Json) :
    read (before ++ after) doc = (read before doc).bind (read after) := by
  induction before generalizing doc with
  | nil => rfl
  | cons step rest ih =>
    rw [List.cons_append, read, read, Option.bind_assoc]
    exact Option.bind_congr fun child _ => ih child

/-- In null no step leads anywhere else. -/
theorem arrived_null (steps : List Step) : arrived steps null = null := by
  induction steps with
  | nil => rfl
  | cons step rest ih =>
    have hreached : null.reached step = null := by rw [reached_eq, child?_scalar null rfl]; rfl
    rw [arrived, hreached, ih]

/-- A write arrives at the value that a read finds, or at null where it finds none. -/
theorem arrived_eq (steps : List Step) (doc : Json) :
    arrived steps doc = (read steps doc).getD null := by
  induction steps generalizing doc with
  | nil => rfl
  | cons step rest ih =>
    rw [arrived, reached_eq, read]
    cases doc.child? step with
    | none => exact arrived_null rest
    | some child => exact ih child

theorem write_append_read (before after : List Step) (v doc : Json) :
    write (before ++ after) v doc =
      write before (write after v ((read before doc).getD null)) doc := by
  rw [write_append, arrived_eq]

end Json

namespace Path

/-- The dot between two paths belongs to neither. -/
theorem segments_join (p q : String) :
    (ofText (p ++ "." ++ q)).segments = (ofText p).segments ++ (ofText q).segments := by
  have hchars : (p ++ "." ++ q).toList = p.toList ++ '.' :: q.toList := by simp
  simp only [ofText, hchars, List.splitOn_append_cons_self, List.map_append]

theorem steps_join (p q : String) :
    (ofText (p ++ "." ++ q)).steps = (ofText p).steps ++ (ofText q).steps := by
  rw [steps, segments_join, List.flatMap_append, steps, steps]

/-- **Paths compose at every dot.** A read of the whole is a read of the second path in
what the first one finds. A write of the whole is a write at the first path, of what a
write at the second makes of the value found there, or of null where there is none. -/
theorem composes_at_dot (p q : String) (v doc : Json) :
    (ofText (p ++ "." ++ q)).get? doc = ((ofText p).get? doc).bind (ofText q).get? ∧
      (ofText (p ++ "." ++ q)).set v doc =
        (ofText p).set ((ofText q).set v (((ofText p).get? doc).getD .null)) doc := by
  constructor
  · rw [get?, steps_join, Json.read_append]
    rfl
  · rw [set, steps_join, Json.write_append_read]
    rfl

end Path
end FieldRules
