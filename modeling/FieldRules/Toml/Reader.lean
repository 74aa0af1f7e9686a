import FieldRules.Toml.Scalar
import FieldRules.Toml.Table

/-! Reading a configuration document.

A document is lines: headers, each of which says into which table the lines after
it go, and entries. Values nest less than `nestingLimit` deep, and no key has as
many parts. -/
namespace FieldRules.Toml

def nestingLimit : Nat := 80

/-! ### Between things -/

def skipSpaces : Reader Unit := modify (List.dropWhile isSpace)

/-- Blanks, line ends and comments, in an array. -/
def gap (inComment : Bool) : List Char → Option (List Char)
  | '\n' :: rest => gap false rest
  | '\r' :: '\n' :: rest => gap false rest
  | c :: rest =>
    if inComment then (if isPlain c then gap true rest else none)
    else if isSpace c then gap false rest
    else if c = '#' then gap true rest
    else some (c :: rest)
  | [] => if inComment then none else some []

def skipGap : Reader Unit := fun text => (gap false text).map ((), ·)

/-- The end of a line or of the document, and the comment before it. -/
def lineEnd : Reader Unit := do
  skipSpaces
  if ← accept '#' then modify (List.dropWhile isPlain)
  match ← ahead with
  | [] => return
  | '\n' :: rest => set rest
  | '\r' :: '\n' :: rest => set rest
  | _ => failure

/-! ### Keys -/

def isBare (c : Char) : Bool := c.isAlphanum || c = '_' || c = '-'

def simpleKey : Reader String := do
  match ← ahead with
  | '"' :: rest => String.ofList <$> (fun (_ : List Char) => basicRest [] rest)
  | '\'' :: rest => String.ofList <$> (fun (_ : List Char) => literalRest [] rest)
  | text =>
    let bare := text.takeWhile isBare
    if bare.isEmpty then failure
    set (text.drop bare.length)
    return String.ofList bare

/-- Parts with points between them, and blanks around any of them. -/
def keyParts : Nat → Reader (List String)
  | 0 => failure
  | fuel + 1 => do
    skipSpaces
    let part ← simpleKey
    skipSpaces
    if ← accept '.' then return part :: (← keyParts fuel)
    else return [part]

/-- A key: the parts before the last one, and the last one. -/
def key : Reader (List String × String) := do
  let parts ← keyParts (nestingLimit - 1)
  return (parts.dropLast, parts.getLastD "")

/-! ### Values -/

section Containers
variable (value : Reader Toml)

/-- Items after the first one, up to the closing bracket. -/
def moreItems : Nat → List Toml → Reader (List Toml)
  | 0, _ => failure
  | fuel + 1, done => do
    skipGap
    if ← accept ']' then return done.reverse
    expect ','
    skipGap
    if ← accept ']' then return done.reverse
    moreItems fuel ((← value) :: done)

/-- An array whose opening bracket has been read. -/
def items : Reader (List Toml) := do
  skipGap
  if ← accept ']' then return []
  moreItems value ((← ahead).length + 1) [← value]

/-- A key with its value, put among entries. -/
def entryInto (entries : Dict Node) : Reader (Dict Node) := do
  let (path, last) ← key
  expect '='
  skipSpaces
  let v ← value
  skipSpaces
  (Node.insert path last v entries : Option (Dict Node))

def moreEntries : Nat → Dict Node → Reader (Dict Node)
  | 0, _ => failure
  | fuel + 1, entries => do
    if ← accept '\x7d' then return entries
    expect ','
    moreEntries fuel (← entryInto value entries)

/-- A table on one line whose opening brace has been read. -/
def inlineTable : Reader (Dict Node) := do
  skipSpaces
  if ← accept '\x7d' then return []
  moreEntries value ((← ahead).length + 1) (← entryInto value [])

end Containers

/-- A value whose items and entries are what `inner` reads; without `inner` it must
have none. -/
def valueOver (inner : Option (Reader Toml)) : Reader Toml := do
  match ← ahead with
  | '"' :: _ => return string (String.ofList (← quotedText))
  | '\'' :: _ => return string (String.ofList (← quotedText))
  | '[' :: rest =>
    set rest
    let inner ← (inner : Option (Reader Toml))
    return array (← items inner)
  | '\x7b' :: rest =>
    set rest
    let inner ← (inner : Option (Reader Toml))
    return table (Node.tomlEntries (← inlineTable inner))
  | 't' :: 'r' :: 'u' :: 'e' :: rest => set rest; return bool true
  | 'f' :: 'a' :: 'l' :: 's' :: 'e' :: rest => set rest; return bool false
  | _ => numberOrDate

def value : Nat → Reader Toml
  | 0 => valueOver none
  | levels + 1 => valueOver (some (value levels))

/-! ### Documents -/

/-- What has been read of a document, and the table that entries go into. -/
structure Draft where
  root : Dict Node
  header : List String

namespace Draft

def empty : Draft := ⟨[], []⟩

/-- The key of a header, and its closing bracket. -/
def headerKey : Reader (List String × String) := do
  let path ← key
  expect ']'
  return path

/-- One line that is neither blank nor a comment. -/
def line (d : Draft) : Reader Draft := do
  match ← ahead with
  | '[' :: '[' :: rest =>
    set rest
    let (path, last) ← headerKey
    expect ']'
    return ⟨← (Node.openElement path last d.root : Option (Dict Node)), path ++ [last]⟩
  | '[' :: rest =>
    set rest
    let (path, last) ← headerKey
    return ⟨← (Node.openTable path last d.root : Option (Dict Node)), path ++ [last]⟩
  | _ =>
    let (path, last) ← key
    expect '='
    skipSpaces
    let v ← value (nestingLimit - 1)
    let root ← (Node.alter false (fun _ entries => Node.insert path last v entries) d.header false
      d.root : Option (Dict Node))
    return {d with root := root}

def isBlankLine (text : List Char) : Bool :=
  match text with
  | '\n' :: _ => true
  | '\r' :: _ => true
  | '#' :: _ => true
  | _ => false

def lines : Nat → Draft → Reader Draft
  | 0, _ => failure
  | fuel + 1, d => do
    skipSpaces
    let text ← ahead
    if text.isEmpty then return d
    let d ← if isBlankLine text then pure d else d.line
    lineEnd
    lines fuel d

end Draft

/-- The table that a text is, if it is a document. A byte order mark in front of it
is allowed. -/
def ofChars? (text : List Char) : Option Toml :=
  let text := match text with
    | '\ufeff' :: rest => rest
    | text => text
  match (Draft.lines (text.length + 1) .empty).run text with
  | some (d, _) => some (table (Node.tomlEntries d.root))
  | none => none

def ofText? (text : String) : Option Toml := ofChars? text.toList

end FieldRules.Toml
