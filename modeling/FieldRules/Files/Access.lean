import FieldRules.Error

/-! What commands ask of files. -/
namespace FieldRules

inductive FileKind where
  | file
  | folder
deriving DecidableEq, Repr

/-- Files by name. Nothing is of a kind when nothing is there, or when the way to it
cannot be followed. Making the folder of a name makes those on the way to it that
are missing. -/
structure FileAccess (m : Type → Type) where
  kind? : String → m (Option FileKind)
  readText : String → m (Except IoError String)
  writeText : String → String → m (Except IoError Unit)
  makeFolder : String → m (Except IoError Unit)

end FieldRules
