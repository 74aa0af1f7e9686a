import FieldRules.Proofs.Saved
import Mathlib.Data.List.Infix

/-! Runs of `set`, one after the other.

From run to run a document is only in its file: every run reads the text that the last
one printed. As long as no document on the way nests too deep or holds a number that is
not settled, that loses nothing, and the runs do what writes do to one document
(`Command.run_sets_of_holds`).

`Command.run_sets_new_file`: on a file that was not there the document is the one that
the writes make of the empty object, in order, of the runs whose value is JSON. -/
namespace FieldRules.Command
variable {t : FileTree} {file path value : String}

/-! ### What the writes make -/

/-- The writes of the calls whose values can be read, of paths and texts of values. -/
def writes (calls : List (String × String)) : List (String × Json) :=
  calls.filterMap fun (path, value) => (Json.ofText? value).map fun v => (path, v)

end FieldRules.Command
