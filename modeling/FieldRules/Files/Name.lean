/-! What a file is called.

A file name is text, and is shown as it was given. Its parts between slashes lead
from folder to folder, beginning in the working folder or, with a slash in front,
in the folder that all others are in. A part with nothing in it leads nowhere, and
neither does a dot; two dots lead back up. Names and their parts have limits on
how many bytes they take. -/
namespace FieldRules.FileName

/-- Where a part of a name leads. -/
inductive Move where
  | stay
  | up
  | down (name : String)
deriving DecidableEq, Repr

def Move.ofChars (part : List Char) : Move :=
  if part = [] ∨ part = ['.'] then stay
  else if part = ['.', '.'] then up
  else down (String.ofList part)

def parts (name : String) : List (List Char) := name.toList.splitOn '/'

def moves (name : String) : List Move := (parts name).map Move.ofChars

def greatestSize : Nat := 4095

def greatestPartSize : Nat := 255

/-- It begins in the folder that all others are in. -/
def isAbsolute (name : String) : Bool := name.toList.head? = some '/'

def endsInSlash (name : String) : Bool := name.toList.getLast? = some '/'

/-- The name less the slashes at its end. -/
def withoutSlashes (name : String) : String :=
  String.ofList (name.toList.reverse.dropWhile (· = '/')).reverse

/-- Parts from the last one on, less those at the end that lead nowhere. -/
def leading (reversed : List (List Char)) : List (List Char) :=
  reversed.dropWhile fun part => Move.ofChars part = .stay

/-- The name of the folder in which a file is, unless that is where the name starts. -/
def folder? (name : String) : Option String :=
  match leading (leading (parts name).reverse).tail with
  | [] => none
  | part :: before => some (String.ofList (['/'].intercalate (part :: before).reverse))

end FieldRules.FileName
