import FieldRules.Proofs.Written
import FieldRules.Text.Pieces

/-! Which places there are, and what a change leaves of them.

No two places are kept under one text (`Location.text_inj`), if their names are such as
names lead to; and a name leads to no others (`FileTree.proper_locate`). So what is put at
one place is put at no other, and a write changes the file that it names and nothing else
(`FileTree.changesOnly_writeText`).

To make folders only fills gaps, and a tree is `Within` the one that comes of it: all that
is at some place is there still (`FileTree.within_makeFolder`), and every name that led to
something leads to it (`FileTree.Within.find`). -/
namespace FieldRules

namespace FileName

def Move.down? : Move → Option String
  | down name => some name
  | _ => none

/-- The part that a move comes from is read as that move, and has no slash in it. -/
def Move.Proper : Move → Prop
  | stay => True
  | up => True
  | down name => '/' ∉ name.toList ∧ Move.ofChars name.toList = .down name

theorem Move.proper_ofChars {part : List Char} (h : '/' ∉ part) : (Move.ofChars part).Proper := by
  cases hm : Move.ofChars part with
  | stay => trivial
  | up => trivial
  | down name =>
    have hname : name = String.ofList part := by
      unfold Move.ofChars at hm
      split at hm
      · cases hm
      · split at hm
        · cases hm
        · cases hm
          rfl
    subst hname
    exact ⟨by simpa using h, by rw [String.toList_ofList, hm]⟩

theorem proper_moves (name : String) : ∀ move ∈ moves name, move.Proper := by
  intro move hmove
  obtain ⟨part, hpart, rfl⟩ := List.mem_map.mp hmove
  exact Move.proper_ofChars (Text.not_mem_of_mem_splitOn '/' name.toList part hpart)

theorem moves_of_pieces {name : String} {pieces : List String} (h : Text.Pieces '/' name pieces) :
    moves name = pieces.map fun piece => Move.ofChars piece.toList := by
  rw [(Text.pieces_iff ..).mp h, List.map_map, moves, parts]
  exact List.map_congr_left fun part _ => by rw [Function.comp, String.toList_ofList]

end FileName

/-! ### Texts of places -/

namespace Base

/-- What the names of places below it begin with. -/
def pieces : Base → List String
  | root => [""]
  | working above => List.replicate above ".."

def moves : Base → List FileName.Move
  | root => [.stay]
  | working above => List.replicate above .up

theorem chars_eq (base : Base) : base.chars = base.pieces.flatMap (·.toList ++ ['/']) := by
  cases base with
  | root => rfl
  | working above =>
    rw [chars, pieces, List.flatMap_replicate]
    rfl

theorem moves_inj {a b : Base} (h : a.moves = b.moves) : a = b := by
  have hroot : ∀ above, root.moves ≠ (working above).moves := by
    intro above he
    have hmem : .stay ∈ (working above).moves := he ▸ List.mem_cons_self ..
    exact nomatch List.eq_of_mem_replicate hmem
  cases a with
  | root =>
    cases b with
    | root => rfl
    | working above => exact absurd h (hroot above)
  | working above =>
    cases b with
    | root => exact absurd h.symm (hroot above)
    | working other =>
      have hlength := congrArg List.length h
      rw [moves, moves, List.length_replicate, List.length_replicate] at hlength
      rw [hlength]

theorem filterMap_down?_moves (base : Base) : base.moves.filterMap FileName.Move.down? = [] := by
  cases base with
  | root => rfl
  | working above => exact List.filterMap_eq_nil_iff.mpr fun move hmove =>
      List.eq_of_mem_replicate hmove ▸ rfl

/-- A base and the names below it are told apart in the moves that lead there. -/
theorem moves_append_inj {a b : Base} {names others : List String}
    (h : a.moves ++ names.map FileName.Move.down = b.moves ++ others.map .down) : a = b ∧ names = others := by
  have hdowns : ∀ (base : Base) (names : List String),
      (base.moves ++ names.map FileName.Move.down).filterMap FileName.Move.down? = names := by
    intro base names
    rw [List.filterMap_append, filterMap_down?_moves, List.filterMap_map]
    exact List.filterMap_some
  have hnames : names = others := by
    rw [← hdowns a names, h, hdowns]
  subst hnames
  exact ⟨moves_inj (List.append_cancel_right h), rfl⟩

end Base

namespace Location
variable {here there : Location}

/-- None of its names is one that a name does not lead to. -/
def Proper (here : Location) : Prop := ∀ name ∈ here.names, (FileName.Move.down name).Proper

theorem proper_start (name : String) : (start name).Proper := by
  unfold start
  split <;> exact List.forall_mem_nil _

theorem Proper.after? (h : here.Proper) {move : FileName.Move} (hmove : move.Proper)
    (hafter : here.after? move = .ok there) : there.Proper := by
  cases move with
  | stay =>
    cases hafter
    exact h
  | up =>
    cases hafter
    unfold up
    split
    · exact h
    · exact List.forall_mem_nil _
    · exact fun name hname => h name (List.dropLast_subset _ hname)
  | down name =>
    simp only [Location.after?] at hafter
    split at hafter
    · cases hafter
      intro other hother
      rcases List.mem_append.mp hother with hmem | hmem
      · exact h other hmem
      · rw [List.mem_singleton.mp hmem]
        exact hmove
    · cases hafter

theorem pieces_text (h : here.Proper) (hnames : here.names ≠ []) :
    Text.Pieces '/' here.text (here.base.pieces ++ here.names) := by
  refine ⟨List.append_ne_nil_of_right_ne_nil _ hnames, ?_, ?_⟩
  · refine List.forall_mem_append.mpr ⟨fun piece hpiece => ?_, fun name hname => (h name hname).1⟩
    cases hbase : here.base with
    | root =>
      rw [hbase] at hpiece
      rw [List.mem_singleton.mp hpiece]
      decide
    | working above =>
      rw [hbase] at hpiece
      rw [List.eq_of_mem_replicate hpiece]
      decide
  · have hparts : here.names.map String.toList ≠ [] := by simpa using hnames
    rw [text, String.toList_ofList, Base.chars_eq, List.map_append,
      Text.intercalate_append '/' _ hparts, List.flatMap_map]

/-- The text of a place leads there from its base. -/
theorem moves_text (h : here.Proper) (hnames : here.names ≠ []) :
    FileName.moves here.text = here.base.moves ++ here.names.map .down := by
  have hbase : here.base.pieces.map (fun piece => FileName.Move.ofChars piece.toList) =
      here.base.moves := by
    cases here.base with
    | root => rfl
    | working above => exact List.map_replicate
  rw [FileName.moves_of_pieces (pieces_text h hnames), List.map_append, hbase]
  exact congrArg _ (List.map_congr_left fun name hname => (h name hname).2)

theorem text_inj (hhere : here.Proper) (hthere : there.Proper) (hnames : here.names ≠ [])
    (hothers : there.names ≠ []) (h : here.text = there.text) : here = there := by
  have hmoves := congrArg FileName.moves h
  rw [moves_text hhere hnames, moves_text hthere hothers] at hmoves
  obtain ⟨hbase, hsame⟩ := Base.moves_append_inj hmoves
  cases here
  cases there
  exact congr (congrArg mk hbase) hsame

end Location
namespace FileTree
variable {t t' : FileTree} {here there : Location} {name : String}

/-! ### Where names lead -/

theorem proper_follow (h : here.Proper) {moves : List FileName.Move}
    (hmoves : ∀ move ∈ moves, move.Proper) (hfollow : t.follow here moves = .ok there) :
    there.Proper := by
  induction moves generalizing here with
  | nil =>
    cases hfollow
    exact h
  | cons move others ih =>
    obtain ⟨hmove, hothers⟩ := List.forall_mem_cons.mp hmoves
    rw [follow] at hfollow
    split at hfollow
    · cases hfollow
    · rename_i next hstep
      refine ih ?_ hothers hfollow
      unfold step at hstep
      split at hstep
      · exact h.after? hmove hstep
      · cases hstep
      · cases hstep

theorem proper_locate (h : t.locate name = .ok here) : here.Proper := by
  unfold locate at h
  split at h
  · exact proper_follow (Location.proper_start name) (FileName.proper_moves name) h
  · cases h

/-! ### Gaps that are filled -/

/-- All that is at some place in one tree is there in the other one too. -/
def Within (t t' : FileTree) : Prop :=
  ∀ place node, t.node? place = some node → t'.node? place = some node

theorem within_refl (t : FileTree) : t.Within t := fun _ _ h => h

theorem Within.trans {t'' : FileTree} (h : t.Within t') (h' : t'.Within t'') : t.Within t'' :=
  fun place node hnode => h' place node (h place node hnode)

theorem Within.locate (h : t.Within t') (hlocate : t.locate name = .ok here) :
    t'.locate name = .ok here :=
  locate_of_folders (fun place => h place .folder) hlocate

theorem find_eq_ok_iff {node : Node} :
    t.find name = .ok node ↔ ∃ here, t.locate name = .ok here ∧ t.node? here = some node := by
  constructor
  · intro h
    unfold find at h
    split at h
    · cases h
    · rename_i here hlocate
      split at h
      · rename_i hnode
        cases h
        exact ⟨here, hlocate, hnode⟩
      · cases h
  · rintro ⟨here, hlocate, hnode⟩
    exact find_of_node hlocate hnode

theorem Within.find (h : t.Within t') {node : Node} (hfind : t.find name = .ok node) :
    t'.find name = .ok node := by
  obtain ⟨here, hlocate, hnode⟩ := find_eq_ok_iff.mp hfind
  exact find_eq_ok_iff.mpr ⟨here, h.locate hlocate, h here node hnode⟩

theorem node?_congr (hhere : here.names ≠ []) (hthere : there.names ≠ [])
    (h : here.text = there.text) : t.node? here = t.node? there := by
  simp [node?, hhere, hthere, h]

theorem within_put (h : t.node? here = none) (node : Node) : t.Within (t.put here node) := by
  intro place old hold
  have hhere : here.names ≠ [] := by
    intro he
    rw [node?_of_names_eq_nil t he] at h
    cases h
  by_cases hplace : place.names = []
  · rw [node?_of_names_eq_nil _ hplace] at hold ⊢
    exact hold
  · have htext : here.text ≠ place.text := by
      intro he
      rw [node?_congr hhere hplace he, hold] at h
      cases h
    rw [node?_put_of_ne t htext, hold]

theorem within_makeFolders (t : FileTree) (made : Bool) (here : Location)
    (moves : List FileName.Move) : t.Within (t.makeFolders made here moves).1 := by
  induction moves generalizing t made here with
  | nil => exact within_refl t
  | cons move others ih =>
    unfold makeFolders
    split
    · exact within_refl t
    · rename_i next _
      split
      · exact ih t made next
      · exact within_refl t
      · rename_i hnone
        exact (within_put hnone .folder).trans (ih _ true next)

theorem within_makeFolder (t : FileTree) (name : String) : t.Within (t.makeFolder name).1 := by
  unfold makeFolder
  split
  · exact within_makeFolders t false _ _
  · exact within_refl t

/-! ### Files that are written -/

/-- Names lead where they led. One leads to some place, and all that is anywhere else is as
it was: all entries of the tree, and what is found under any name that leads elsewhere. -/
structure ChangesOnly (t t' : FileTree) (name : String) : Prop where
  places : ∀ other here, t'.locate other = .ok here ↔ t.locate other = .ok here
  entries : ∃ here, t.locate name = .ok here ∧
    ∀ key, key ≠ here.text → Dict.get? t'.nodes key = Dict.get? t.nodes key
  names : ∀ other, t.locate other ≠ t.locate name →
    ∀ node, t'.find other = .ok node ↔ t.find other = .ok node

theorem changesOnly_refl (h : t.locate name = .ok here) : t.ChangesOnly t name :=
  ⟨fun _ _ => Iff.rfl, ⟨here, h, fun _ _ => rfl⟩, fun _ _ _ => Iff.rfl⟩

/-- A file is no folder that was not there before. -/
theorem node?_of_put_file {content : ByteArray}
    (h : (t.put here (.file content)).node? there = some .folder) :
    t.node? there = some .folder := by
  by_cases hthere : there.names = []
  · exact node?_of_names_eq_nil t hthere
  · by_cases htext : here.text = there.text
    · simp [node?, hthere, put, htext, Dict.get?_put_self] at h
    · rwa [node?_put_of_ne t htext] at h

theorem locate_put_file_iff (h : t.node? here ≠ some .folder) (content : ByteArray) (name : String)
    (there : Location) :
    (t.put here (.file content)).locate name = .ok there ↔ t.locate name = .ok there :=
  ⟨locate_of_folders fun _ => node?_of_put_file, locate_put h _⟩

theorem node?_put_of_locate_ne {other : String} (hlocate : t.locate name = .ok here)
    (hother : t.locate other = .ok there) (hne : here ≠ there) (hnames : here.names ≠ [])
    (node : Node) : (t.put here node).node? there = t.node? there := by
  by_cases hroot : there.names = []
  · rw [node?_of_names_eq_nil _ hroot, node?_of_names_eq_nil _ hroot]
  · exact node?_put_of_ne t (fun htext => hne (Location.text_inj (proper_locate hlocate)
      (proper_locate hother) hnames hroot htext)) node

theorem changesOnly_put (hlocate : t.locate name = .ok here) (hfolder : t.node? here ≠ some .folder)
    (content : ByteArray) : t.ChangesOnly (t.put here (.file content)) name := by
  have hplaces := locate_put_file_iff hfolder content
  have hnames : here.names ≠ [] := fun he => hfolder (node?_of_names_eq_nil t he)
  refine ⟨hplaces, ⟨here, hlocate, fun key hkey => Dict.get?_put_of_ne t.nodes hkey.symm _⟩, ?_⟩
  intro other hother node
  rw [find_eq_ok_iff, find_eq_ok_iff]
  refine exists_congr fun there => ?_
  rw [hplaces other there]
  refine and_congr_right fun hthere => ?_
  have hne : here ≠ there := by
    rintro rfl
    exact hother (hthere.trans hlocate.symm)
  rw [node?_put_of_locate_ne hlocate hthere hne hnames]

theorem changesOnly_writeText {text : String} (h : t.writeText name text = .ok t') :
    t.ChangesOnly t' name := by
  unfold writeText at h
  split at h
  · cases h
  · rename_i here htarget
    obtain ⟨hlocate, hfolder⟩ := target_eq_ok_iff.mp htarget
    split at h
    · cases h
      exact changesOnly_refl hlocate
    · cases h
      exact changesOnly_put hlocate hfolder _

/-- What was found is found, unless the name leads to the file that has changed. -/
theorem ChangesOnly.find {other : String} {node : Node} (h : t.ChangesOnly t' name)
    (hfind : t.find other = .ok node) :
    t'.find other = .ok node ∨ t.locate name = t.locate other := by
  by_cases hsame : t.locate other = t.locate name
  · exact .inr hsame.symm
  · exact .inl ((h.names other hsame node).mpr hfind)

end FileTree
end FieldRules
