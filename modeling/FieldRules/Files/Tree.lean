import FieldRules.Dict
import FieldRules.Files.Access
import FieldRules.Files.Name

/-! Files and folders around a working folder.

Each of them is an entry under the names that lead to it. To follow a name is to
stand in a folder before each of its parts: a file on the way stops it, and so
does a gap. Above the working folder there is only what was put there, and in the
folder that all others are in there are at first the folders and devices of the
machine (`FileTree.machine`). A write that is refused leaves the tree as it was. -/
namespace FieldRules

inductive Node where
  | file (content : ByteArray)
  | folder
  /-- A device that reads as an empty file, and where what is written is lost. -/
  | sink

/-- A folder from which names lead on: the one that all others are in, or the
working folder or one that many levels above it. -/
inductive Base where
  | root
  | working (above : Nat)
deriving DecidableEq, Repr

/-- The names of the folders on the way, and the name at its end. -/
structure Location where
  base : Base
  names : List String
deriving DecidableEq, Repr

def Base.chars : Base → List Char
  | root => ['/']
  | working above => (List.replicate above ['.', '.', '/']).flatten

namespace Location

def ofNames (names : List String) : Location := ⟨.working 0, names⟩

def start (name : String) : Location :=
  if FileName.isAbsolute name then ⟨.root, []⟩ else .ofNames []

def text (here : Location) : String :=
  String.ofList (here.base.chars ++ ['/'].intercalate (here.names.map String.toList))

def up (here : Location) : Location :=
  match here.names, here.base with
  | [], .root => here
  | [], .working above => ⟨.working (above + 1), []⟩
  | _, _ => {here with names := here.names.dropLast}

/-- Where a move leads, if no name in it is too long. -/
def after? (here : Location) : FileName.Move → Except IoError Location
  | .stay => .ok here
  | .up => .ok here.up
  | .down name =>
    if name.utf8ByteSize ≤ FileName.greatestPartSize then
      .ok {here with names := here.names ++ [name]}
    else .error .nameTooLong

end Location

structure FileTree where
  nodes : Dict Node

def Node.kind : Node → FileKind
  | file _ => .file
  | folder => .folder
  | sink => .file

namespace FileTree

def empty : FileTree := ⟨[]⟩

def node? (t : FileTree) (here : Location) : Option Node :=
  if here.names.isEmpty then some .folder else Dict.get? t.nodes here.text

def put (t : FileTree) (here : Location) (node : Node) : FileTree :=
  ⟨Dict.put t.nodes here.text node⟩

theorem node?_of_names_eq_nil (t : FileTree) {here : Location} (h : here.names = []) :
    t.node? here = some .folder := by
  simp [node?, h]

theorem node?_put_self (t : FileTree) {here : Location} (h : here.names ≠ []) (node : Node) :
    (t.put here node).node? here = some node := by
  simp [node?, put, h, Dict.get?_put_self]

theorem node?_put_of_ne (t : FileTree) {here there : Location} (h : here.text ≠ there.text)
    (node : Node) : (t.put here node).node? there = t.node? there := by
  simp [node?, put, Dict.get?_put_of_ne t.nodes h node]

/-- An empty working folder in a machine that has the usual folders and devices. -/
def machine : FileTree :=
  let folders := ["bin", "dev", "etc", "home", "lib", "proc", "root", "sys", "tmp", "usr", "var"]
  let t := folders.foldl (fun t name => t.put ⟨.root, [name]⟩ .folder) empty
  ["null", "stdin"].foldl (fun t name => t.put ⟨.root, ["dev", name]⟩ .sink) t

/-- What is below the working folder. -/
def below (t : FileTree) : Dict Node :=
  t.nodes.filter fun (name, _) =>
    match FileName.moves name with
    | .up :: _ => false
    | _ => !FileName.isAbsolute name

/-! ### Following names -/

/-- The move from a place, which has to be a folder. -/
def step (t : FileTree) (here : Location) (move : FileName.Move) : Except IoError Location :=
  match t.node? here with
  | some .folder => here.after? move
  | some _ => .error .notDirectory
  | none => .error .notFound

/-- Where moves lead from a place. Something may be there or not. -/
def follow (t : FileTree) (here : Location) : List FileName.Move → Except IoError Location
  | [] => .ok here
  | move :: rest =>
    match t.step here move with
    | .error e => .error e
    | .ok next => t.follow next rest

/-- Where a name leads, if it is not too long. -/
def locate (t : FileTree) (name : String) : Except IoError Location :=
  if name.utf8ByteSize ≤ FileName.greatestSize then
    t.follow (.start name) (FileName.moves name)
  else .error .nameTooLong

def find (t : FileTree) (name : String) : Except IoError Node :=
  match t.locate name with
  | .error e => .error e
  | .ok here =>
    match t.node? here with
    | some node => .ok node
    | none => .error .notFound

def kind? (t : FileTree) (name : String) : Option FileKind :=
  match t.find name with
  | .ok node => some node.kind
  | .error _ => none

/-! ### Reading -/

/-- What is written as text reads as that text. -/
theorem fromUTF8?_toUTF8 (text : String) : String.fromUTF8? text.toUTF8 = some text := by
  rw [String.fromUTF8?, String.toUTF8_eq_toByteArray, dif_pos text.isValidUTF8]
  rfl

def readText (t : FileTree) (name : String) : Except IoError String :=
  match t.find name with
  | .error e => .error e
  | .ok .folder => .error .isDirectory
  | .ok .sink => .ok ""
  | .ok (.file content) =>
    match String.fromUTF8? content with
    | some text => .ok text
    | none => .error .invalidText

/-! ### Writing -/

/-- Where a file of that name is written. With a slash after it a name can only be
that of a folder. -/
def target (t : FileTree) (name : String) : Except IoError Location :=
  if FileName.greatestSize < name.utf8ByteSize then .error .nameTooLong
  else
    let moves := FileName.moves (FileName.withoutSlashes name)
    match t.follow (.start name) moves.dropLast with
    | .error e => .error e
    | .ok folder =>
      match t.step folder (if FileName.endsInSlash name then .stay else moves.getLastD .stay) with
      | .error e => .error e
      | .ok here =>
        match t.node? here with
        | some .folder => .error .isDirectory
        | _ => .ok here

def writeText (t : FileTree) (name text : String) : Except IoError FileTree :=
  match t.target name with
  | .error e => .error e
  | .ok here =>
    match t.node? here with
    | some .sink => .ok t
    | _ => .ok (t.put here (.file text.toUTF8))

/-- What is missing on the way is made, folder by folder, until a file is met. It is
in the way once there is a folder to make, and before that no way at all. -/
def makeFolders (t : FileTree) (made : Bool) (here : Location) :
    List FileName.Move → FileTree × Except IoError Unit
  | [] => (t, .ok ())
  | move :: rest =>
    match here.after? move with
    | .error e => (t, .error e)
    | .ok next =>
      match t.node? next with
      | some .folder => t.makeFolders made next rest
      | some _ =>
        (t, .error (if made || rest.isEmpty then .alreadyExists else .notDirectory))
      | none => (t.put next .folder).makeFolders true next rest

def makeFolder (t : FileTree) (name : String) : FileTree × Except IoError Unit :=
  if name.utf8ByteSize ≤ FileName.greatestSize then
    t.makeFolders false (.start name) (FileName.moves name)
  else (t, .error .nameTooLong)

/-- The tree as what commands work on. -/
def access : FileAccess (StateM FileTree) where
  kind? name := fun t => (t.kind? name, t)
  readText name := fun t => (t.readText name, t)
  writeText name text := fun t =>
    match t.writeText name text with
    | .ok written => (.ok (), written)
    | .error e => (.error e, t)
  makeFolder name := fun t => ((t.makeFolder name).2, (t.makeFolder name).1)

end FileTree
end FieldRules
