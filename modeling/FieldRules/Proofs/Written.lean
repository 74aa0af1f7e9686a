import FieldRules.Files.Tree
import Mathlib.Data.List.Basic

/-! What is written in a file is found in it.

A text is written where the name of the file leads, unless a folder is there
(`FileTree.target_eq_ok_iff`). The write changes what is at that place and nothing
else; and since no folder was there, no name led on from it, and every name still
leads where it led (`FileTree.locate_put`).

`FileTree.find_writeText`: after a write the file is found with that text, if it is
not a device. -/
namespace FieldRules

namespace FileName

/-- The last part of a name that ends in a slash is empty. -/
theorem moves_of_endsInSlash {name : String} (h : endsInSlash name = true) :
    ∃ before, moves name = before ++ [.stay] := by
  have hlast : name.toList.getLast? = some '/' := of_decide_eq_true h
  obtain ⟨front, hname⟩ := List.getLast?_eq_some_iff.mp hlast
  refine ⟨(front.splitOn '/').map Move.ofChars, ?_⟩
  have hparts : parts name = front.splitOn '/' ++ [[]] := by
    rw [parts, hname, List.splitOn_append_cons_self, List.splitOn_nil]
  rw [moves, hparts, List.map_append]
  rfl

theorem withoutSlashes_of_not_endsInSlash {name : String} (h : endsInSlash name = false) :
    withoutSlashes name = name := by
  have hlast : name.toList.reverse.head? ≠ some '/' := by
    rw [List.head?_reverse]
    exact of_decide_eq_false h
  have hkept : name.toList.reverse.dropWhile (· = '/') = name.toList.reverse := by
    cases hr : name.toList.reverse with
    | nil => rfl
    | cons c others =>
      rw [hr] at hlast
      have hc : c ≠ '/' := fun he => hlast (congrArg some he)
      simp [hc]
  rw [withoutSlashes, hkept, List.reverse_reverse, String.ofList_toList]

theorem moves_eq_dropLast_append (name : String) :
    moves name = (moves name).dropLast ++ [(moves name).getLastD .stay] := by
  have hne : moves name ≠ [] := by
    rw [moves, Ne, List.map_eq_nil_iff]
    exact List.splitOn_ne_nil '/' _
  rw [List.getLastD_eq_getLast?, List.getLast?_eq_some_getLast hne, Option.getD_some,
    List.dropLast_append_getLast hne]

end FileName

namespace FileTree
variable {t : FileTree} {here there : Location} {name : String}

/-! ### Where a file is written -/

theorem follow_concat (t : FileTree) (here : Location) (moves : List FileName.Move)
    (move : FileName.Move) :
    t.follow here (moves ++ [move]) =
      match t.follow here moves with
      | .error e => .error e
      | .ok folder => t.step folder move := by
  induction moves generalizing here with
  | nil =>
    simp only [List.nil_append, follow]
    cases t.step here move <;> rfl
  | cons first others ih =>
    simp only [List.cons_append, follow]
    cases t.step here first with
    | error e => rfl
    | ok next => exact ih next

theorem step_stay (h : t.step here .stay = .ok there) :
    t.node? here = some .folder ∧ there = here := by
  unfold step at h
  split at h
  · cases h
    exact ⟨by assumption, rfl⟩
  · cases h
  · cases h

/-- A name that ends in a slash leads to a folder or nowhere. -/
theorem node?_of_endsInSlash (hslash : FileName.endsInSlash name = true)
    (h : t.locate name = .ok here) : t.node? here = some .folder := by
  obtain ⟨before, hmoves⟩ := FileName.moves_of_endsInSlash hslash
  unfold locate at h
  split at h
  · rw [hmoves, follow_concat] at h
    split at h
    · cases h
    · obtain ⟨hfolder, rfl⟩ := step_stay h
      exact hfolder
  · cases h

theorem target_of_endsInSlash (hslash : FileName.endsInSlash name = true) :
    t.target name ≠ .ok here := by
  intro h
  unfold target at h
  split at h
  · cases h
  · dsimp only at h
    split at h
    · cases h
    · split at h
      · cases h
      · rename_i hstay
        obtain ⟨hfolder, rfl⟩ := step_stay hstay
        rw [hfolder] at h
        cases h

theorem locate_eq (hsize : name.utf8ByteSize ≤ FileName.greatestSize) (t : FileTree) :
    t.locate name =
      match t.follow (.start name) (FileName.moves name).dropLast with
      | .error e => .error e
      | .ok folder => t.step folder ((FileName.moves name).getLastD .stay) := by
  unfold locate
  rw [if_pos hsize, ← follow_concat, ← FileName.moves_eq_dropLast_append]

theorem locate_of_target (hslash : FileName.endsInSlash name = false)
    (h : t.target name = .ok here) : t.locate name = .ok here ∧ t.node? here ≠ some .folder := by
  unfold target at h
  rw [FileName.withoutSlashes_of_not_endsInSlash hslash] at h
  split at h
  · cases h
  · rename_i hsize
    dsimp only at h
    split at h
    · cases h
    · rename_i folder hfollow
      split at h
      · cases h
      · rename_i there hstep
        split at h
        · cases h
        · rename_i hfolder
          cases h
          rw [if_neg (Bool.not_eq_true _ ▸ hslash)] at hstep
          rw [locate_eq (Nat.not_lt.mp hsize), hfollow]
          exact ⟨hstep, hfolder⟩

theorem target_of_locate (hslash : FileName.endsInSlash name = false)
    (hlocate : t.locate name = .ok here) (hfolder : t.node? here ≠ some .folder) :
    t.target name = .ok here := by
  by_cases hsize : name.utf8ByteSize ≤ FileName.greatestSize
  · rw [locate_eq hsize] at hlocate
    split at hlocate
    · cases hlocate
    · rename_i folder hfollow
      unfold target
      rw [FileName.withoutSlashes_of_not_endsInSlash hslash, if_neg (Nat.not_lt.mpr hsize)]
      simp only [hfollow, hslash, Bool.false_eq_true, if_false, hlocate]
  · rw [locate, if_neg hsize] at hlocate
    cases hlocate

/-- A file is written where its name leads, unless a folder is there. -/
theorem target_eq_ok_iff :
    t.target name = .ok here ↔ t.locate name = .ok here ∧ t.node? here ≠ some .folder := by
  cases hslash : FileName.endsInSlash name with
  | true =>
    refine ⟨fun h => absurd h (target_of_endsInSlash hslash), ?_⟩
    exact fun ⟨hlocate, hfolder⟩ => absurd (node?_of_endsInSlash hslash hlocate) hfolder
  | false =>
    exact ⟨locate_of_target hslash,
      fun ⟨hlocate, hfolder⟩ => target_of_locate hslash hlocate hfolder⟩

/-! ### What a write leaves -/

/-- No name leads on from a place without a folder, and so what is put there moves none. -/
theorem node?_put_of_folder (h : t.node? here ≠ some .folder) (hthere : t.node? there = some .folder)
    (node : Node) : (t.put here node).node? there = some .folder := by
  by_cases hnames : there.names = []
  · exact node?_of_names_eq_nil _ hnames
  · have htext : here.text ≠ there.text := by
      intro he
      apply h
      by_cases hroot : here.names = []
      · exact node?_of_names_eq_nil t hroot
      · rw [← hthere]
        simp [node?, hroot, hnames, he]
    rw [node?_put_of_ne t htext, hthere]

section
variable {t' : FileTree}
  (hfolders : ∀ place, t.node? place = some .folder → t'.node? place = some .folder)
include hfolders

theorem step_of_folders {folder next : Location} {move : FileName.Move}
    (hstep : t.step folder move = .ok next) : t'.step folder move = .ok next := by
  unfold step at hstep
  split at hstep
  · rename_i hfolder
    rw [step, hfolders folder hfolder]
    exact hstep
  · cases hstep
  · cases hstep

theorem follow_of_folders {start : Location} {moves : List FileName.Move}
    (hfollow : t.follow start moves = .ok there) : t'.follow start moves = .ok there := by
  induction moves generalizing start with
  | nil => exact hfollow
  | cons move others ih =>
    rw [follow] at hfollow
    split at hfollow
    · cases hfollow
    · rename_i next hstep
      rw [follow, step_of_folders hfolders hstep]
      exact ih hfollow

/-- Where there are the same folders and more, a name that leads somewhere leads there. -/
theorem locate_of_folders (hlocate : t.locate name = .ok there) : t'.locate name = .ok there := by
  unfold locate at hlocate ⊢
  split
  · rw [if_pos (by assumption)] at hlocate
    exact follow_of_folders hfolders hlocate
  · rw [if_neg (by assumption)] at hlocate
    cases hlocate

end

theorem locate_put (h : t.node? here ≠ some .folder) (node : Node)
    (hlocate : t.locate name = .ok there) : (t.put here node).locate name = .ok there :=
  locate_of_folders (fun _ hplace => node?_put_of_folder h hplace node) hlocate

theorem find_of_node (h : t.locate name = .ok here) {node : Node}
    (hnode : t.node? here = some node) : t.find name = .ok node := by
  simp [find, h, hnode]

theorem find_of_no_node (h : t.locate name = .ok here) (hnode : t.node? here = none) :
    t.find name = .error .notFound := by
  simp [find, h, hnode]

theorem find_put (h : t.node? here ≠ some .folder) (hlocate : t.locate name = .ok here)
    (node : Node) : (t.put here node).find name = .ok node := by
  have hnames : here.names ≠ [] := fun he => h (node?_of_names_eq_nil t he)
  exact find_of_node (locate_put h node hlocate) (node?_put_self t hnames node)

theorem writeText_eq (hlocate : t.locate name = .ok here) (hfolder : t.node? here ≠ some .folder)
    (hsink : t.node? here ≠ some .sink) (text : String) :
    t.writeText name text = .ok (t.put here (.file text.toUTF8)) := by
  unfold writeText
  rw [target_eq_ok_iff.mpr ⟨hlocate, hfolder⟩]
  dsimp only
  split
  · exact absurd (by assumption) hsink
  · rfl

/-- A file that is no device is found with what was written. -/
theorem find_writeText {t' : FileTree} {text : String} (h : t.writeText name text = .ok t')
    (hsink : t.find name ≠ .ok .sink) : t'.find name = .ok (.file text.toUTF8) := by
  unfold writeText at h
  split at h
  · cases h
  · rename_i here htarget
    obtain ⟨hlocate, hfolder⟩ := target_eq_ok_iff.mp htarget
    split at h
    · rename_i hnode
      exact absurd (find_of_node hlocate hnode) hsink
    · cases h
      exact find_put hfolder hlocate _

end FileTree
end FieldRules
