import FieldRules.Proofs.Grammar
import FieldRules.Proofs.Joined

/-! An index in brackets, and the same numeral behind a dot.

The one is an index to a walk and the other a key. Every container takes them alike: an
object has one entry for both, and in an array the numeral names its position
(`Json.child?_numeral`, `Json.putChild_numeral_iff`). Where there is no container yet, an
index within the padding makes an array and a key an object.

`Path.bracket_iff_dot`: so reads never differ, and writes do in that case alone. -/
namespace FieldRules

theorem position?_numeral {n : Nat} (h : n ≤ greatestIndex) : position? n.repr = some n := by
  rw [position?_repr, if_pos h]

namespace Json

/-! ### One step -/

theorem child?_numeral (doc : Json) {n : Nat} (h : n ≤ greatestIndex) :
    doc.child? (.key n.repr) = doc.child? (.index n) := by
  rcases object_or_array_or_scalar doc with ⟨entries, rfl⟩ | ⟨items, rfl⟩ | hscalar
  · rfl
  · exact child?_array_key items (position?_numeral h)
  · rw [child?_scalar doc hscalar, child?_scalar doc hscalar]

theorem putChild_numeral_iff (doc : Json) {n : Nat} (h : n ≤ greatestIndex) (v : Json) :
    doc.putChild (.index n) v = doc.putChild (.key n.repr) v ↔
      greatestPadding < n ∨ doc.isContainer = true := by
  rcases object_or_array_or_scalar doc with ⟨entries, rfl⟩ | ⟨items, rfl⟩ | hscalar
  · rw [putChild_object, putChild_object]
    exact iff_of_true rfl (.inr rfl)
  · rw [putChild_array_key items (position?_numeral h)]
    exact iff_of_true rfl (.inr rfl)
  · rw [putChild_scalar doc hscalar, putChild_scalar doc hscalar, hscalar]
    by_cases hpast : greatestPadding < n
    · rw [build_index_past hpast]
      exact iff_of_true rfl (.inl hpast)
    · -- Padding makes an array, and a key makes an object.
      rw [build_index (Nat.not_lt.mp hpast)]
      simp [build, hpast]

/-! ### A walk -/

/-- Of the value that a write puts in, nothing is lost. -/
theorem write_inj (steps : List Step) (doc : Json) {v w : Json} :
    write steps v doc = write steps w doc ↔ v = w := by
  refine ⟨fun he => ?_, fun he => he ▸ rfl⟩
  have hv := holds_write steps v doc
  rw [he] at hv
  exact holds_unique hv (holds_write steps w doc)

section
variable (before after : List Step) {n : Nat} (h : n ≤ greatestIndex) (doc : Json)
include h

theorem read_numeral :
    read (before ++ .index n :: after) doc = read (before ++ .key n.repr :: after) doc := by
  rw [read_append, read_append]
  refine Option.bind_congr fun there _ => ?_
  rw [read, read, child?_numeral there h]

theorem write_numeral_iff (v : Json) :
    write (before ++ .index n :: after) v doc = write (before ++ .key n.repr :: after) v doc ↔
      greatestPadding < n ∨ ∃ there, read before doc = some there ∧ there.isContainer = true := by
  rw [write_append_read, write_append_read, write_inj, write_cons, write_cons,
    child?_numeral _ h, putChild_numeral_iff _ h]
  cases hread : read before doc with
  | none => simp [isContainer]
  | some there => simp

end

end Json

namespace Segment

theorem ofChars_of_free {piece : String} (h : '[' ∉ piece.toList) :
    ofChars piece.toList = ⟨piece, none⟩ := by
  apply ofChars_of_not_bracketed
  rintro ⟨key, n, hkey⟩
  obtain ⟨digits, rfl, -⟩ := hkey.written
  simp at h

theorem ofChars_numeral (n : Nat) : ofChars n.repr.toList = ⟨n.repr, none⟩ := by
  apply ofChars_of_free
  intro hmem
  obtain ⟨-, hdigits, -⟩ := (natural?_eq_some_iff ..).mp (natural?_repr n)
  exact absurd (hdigits _ hmem) (by decide)

end Segment

namespace Path

theorem steps_of_pieces {text : String} {pieces : List String}
    (h : Text.Pieces '.' text pieces) :
    (ofText text).steps = pieces.flatMap fun piece => (Segment.ofChars piece.toList).steps := by
  rw [steps, segments_of_pieces h, List.flatMap_map]

/-- **An index in brackets and the same numeral behind a dot** lead a read to the same
value, and a write makes the same document of both, if the index is past the padding or the
key in front of it leads to an array or to an object; and only then. -/
theorem bracket_iff_dot {before after : List String} {key bracketed dotted upTo : String} {n : Nat}
    (hkey : Segment.Bracketed (key ++ "[" ++ n.repr ++ "]") key n)
    (hbracketed : Text.Pieces '.' bracketed (before ++ (key ++ "[" ++ n.repr ++ "]") :: after))
    (hdotted : Text.Pieces '.' dotted (before ++ key :: n.repr :: after))
    (hupTo : Text.Pieces '.' upTo (before ++ [key])) (v doc : Json) :
    (ofText bracketed).get? doc = (ofText dotted).get? doc ∧
      ((ofText bracketed).set v doc = (ofText dotted).set v doc ↔
        greatestPadding < n ∨
          ∃ there, (ofText upTo).get? doc = some there ∧ there.isContainer = true) := by
  have hfree := Segment.ofChars_of_free hkey.free.1
  have hup : (ofText upTo).steps =
      (before.flatMap fun piece => (Segment.ofChars piece.toList).steps) ++ [.key key] := by
    rw [steps_of_pieces hupTo, List.flatMap_append, List.flatMap_singleton, hfree]
    rfl
  have hbracket : (ofText bracketed).steps = (ofText upTo).steps ++
      .index n :: after.flatMap fun piece => (Segment.ofChars piece.toList).steps := by
    rw [steps_of_pieces hbracketed, List.flatMap_append, List.flatMap_cons,
      Segment.ofChars_of_bracketed hkey, hup, List.append_assoc]
    rfl
  have hdot : (ofText dotted).steps = (ofText upTo).steps ++
      .key n.repr :: after.flatMap fun piece => (Segment.ofChars piece.toList).steps := by
    rw [steps_of_pieces hdotted, List.flatMap_append, List.flatMap_cons, List.flatMap_cons,
      hfree, Segment.ofChars_numeral, hup, List.append_assoc]
    rfl
  rw [get?, get?, set, set, hbracket, hdot]
  exact ⟨Json.read_numeral _ _ hkey.le doc, Json.write_numeral_iff _ _ hkey.le doc v⟩

/-- In an array both write the same element. In an empty document the index makes an array
and the numeral behind the dot an object. -/
theorem bracket_iff_dot_no_container :
    let bracketed := ofText "a.rows[2].x"
    let dotted := ofText "a.rows.2.x"
    let doc := Json.object [("a", .object [("rows", .array [.bool true])])]
    Segment.Bracketed "rows[2]" "rows" 2 ∧
      Text.Pieces '.' "a.rows[2].x" ["a", "rows[2]", "x"] ∧
      Text.Pieces '.' "a.rows.2.x" ["a", "rows", "2", "x"] ∧
      Text.Pieces '.' "a.rows" ["a", "rows"] ∧
      bracketed.set .null doc = dotted.set .null doc ∧
      bracketed.set .null (.object []) ≠ dotted.set .null (.object []) := by
  intro bracketed dotted doc
  have hkey : Segment.Bracketed "rows[2]" "rows" 2 :=
    @Segment.bracketed_repr "rows" 2 (by decide) (by decide) (by decide)
  have hbracketed : Text.Pieces '.' "a.rows[2].x" ["a", "rows[2]", "x"] :=
    (Text.pieces_iff ..).mpr (by decide)
  have hdotted : Text.Pieces '.' "a.rows.2.x" ["a", "rows", "2", "x"] :=
    (Text.pieces_iff ..).mpr (by decide)
  have hupTo : Text.Pieces '.' "a.rows" ["a", "rows"] := (Text.pieces_iff ..).mpr (by decide)
  have hsteps : (ofText "a.rows").steps = [.key "a", .key "rows"] := by decide
  have hiff := fun doc => (@bracket_iff_dot ["a"] ["x"] "rows" _ _ _ 2 hkey hbracketed hdotted
    hupTo .null doc).2
  refine ⟨hkey, hbracketed, hdotted, hupTo, (hiff doc).mpr (.inr ?_), ?_⟩
  · refine ⟨.array [.bool true], ?_, rfl⟩
    rw [get?, hsteps]
    rfl
  · rw [Ne, hiff]
    rintro (hpast | ⟨there, hread, -⟩)
    · exact absurd hpast (by decide)
    · rw [get?, hsteps] at hread
      cases hread

end Path
end FieldRules
