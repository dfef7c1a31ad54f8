import VendorLaunch.Fault
import VendorLaunch.Path
import VendorLaunch.Table
import VendorLaunch.Text.Utf8

/-!
# File trees

A file tree is a finite table from locations to files, directories and symbolic links, with a
current directory. A location is the list of names from the root, with every link resolved.

`walk` follows a path through the tree the way a kernel does: links are replaced by their targets,
at most forty of them, `..` goes up from where the walk is, and a name of more than 255 bytes is
refused when it is looked up. The checks `pathExists`, `isFile` and `isDirectory` answer whether
something is there; an absent file, a file in place of a directory and a loop of links mean that
nothing is, and only a name that is too long is a fault.

Nothing in a tree has permissions, so a look is never refused and every file can be read and
appended to. There are no devices either: one that takes what is appended to it, such as a terminal,
stands in a tree as a regular file.
-/

namespace VendorLaunch

/-- What stands at a location. -/
inductive Node where
  /-- A regular file with its bytes. -/
  | file (content : List UInt8)
  /-- A directory. -/
  | directory
  /-- A symbolic link with the text of its target. -/
  | link (target : String)
  deriving DecidableEq, Repr

/-- Files, directories and links by location, and the current directory. -/
structure FileTree where
  current : List String
  nodes : Table (List String) Node

/-- Why a path cannot be followed or opened. -/
inductive PathFault where
  /-- A name is absent. -/
  | noEntry
  /-- A name is looked up in something that is no directory. -/
  | notDirectory
  /-- A directory stands where a file is needed. -/
  | isDirectory
  /-- A name or the whole path is too long. -/
  | nameTooLong
  /-- Too many links. -/
  | loop
  deriving DecidableEq, Repr

/-- The error number of a path fault. -/
def PathFault.number : PathFault → Int
  | noEntry => 2
  | notDirectory => 20
  | isDirectory => 21
  | nameTooLong => 36
  | loop => 40

/-- The reason of a path fault in words. -/
def PathFault.reason : PathFault → String
  | noEntry => "No such file or directory"
  | notDirectory => "Not a directory"
  | isDirectory => "Is a directory"
  | nameTooLong => "File name too long"
  | loop => "Too many levels of symbolic links"

/-- The fault of a system call on the path written `text`. -/
def PathFault.toFault (f : PathFault) (text : String) : Fault :=
  .system f.number f.reason (some text)

/-- Where a walk ends. -/
inductive Landing where
  /-- At something that exists. -/
  | found (place : List String)
  /-- At a name that an existing directory does not have. -/
  | absent (place : List String)
  deriving DecidableEq, Repr

namespace FileTree

/-- What stands at a location; the root is always a directory. -/
def node? (t : FileTree) (place : List String) : Option Node :=
  match place with
  | [] => some .directory
  | _ => Table.find? place t.nodes

/-- Whether a walk may look up names at a location. -/
def isDirectoryAt (t : FileTree) (place : List String) : Bool :=
  t.node? place == some .directory

/-- The names on a path text, empty ones and dots included. -/
def namesOf (text : String) : List String := Text.splitOn "/" text

/-- Whether a path text starts at the root. -/
def startsAtRoot (text : String) : Bool := Text.startsWith "/" text

/-- Follows names from the directory `place`, resolving at most `links` links. -/
def walk (t : FileTree) (links : Nat) (place : List String) (names : List String) :
    Except PathFault Landing :=
  match names with
  | [] => .ok (.found place)
  | name :: rest =>
    if t.isDirectoryAt place then
      if name = "" || name = "." then walk t links place rest
      else if name = ".." then walk t links place.dropLast rest
      else if 255 < name.utf8ByteSize then .error .nameTooLong
      else
        match t.node? (place ++ [name]) with
        | none => if rest.isEmpty then .ok (.absent (place ++ [name])) else .error .noEntry
        | some (.link target) =>
          match links with
          | 0 => .error .loop
          | links + 1 =>
            walk t links (if startsAtRoot target then [] else place) (namesOf target ++ rest)
        | some _ => walk t links (place ++ [name]) rest
    else .error .notDirectory
termination_by (links, names.length)

/-- The number of links that a walk may follow. -/
def linkLimit : Nat := 40

/-- The least size in bytes at which a path text is too long. -/
def sizeLimit : Nat := 4096

/-- Follows a path text from the root or the current directory. -/
def follow (t : FileTree) (text : String) : Except PathFault Landing :=
  if sizeLimit ≤ text.utf8ByteSize then .error .nameTooLong
  else walk t linkLimit (if startsAtRoot text then [] else t.current) (namesOf text)

/-- What a path text leads to. -/
def status (t : FileTree) (text : String) : Except PathFault Node :=
  match follow t text with
  | .ok (.found place) =>
    match t.node? place with
    | some n => .ok n
    | none => .error .noEntry
  | .ok (.absent _) => .error .noEntry
  | .error f => .error f

/-- Whether a failed look-up means that nothing is there. -/
def meansAbsent : PathFault → Bool
  | .noEntry | .notDirectory | .loop => true
  | .isDirectory | .nameTooLong => false

/-- Whether the path leads to something that `p` holds of. A text with a NUL character leads
nowhere. -/
def leadsTo (t : FileTree) (p : Node → Bool) (path : Path) : Except Fault Bool :=
  let text := path.render
  if text.toList.contains '\x00' then .ok false
  else
    match status t text with
    | .ok n => .ok (p n)
    | .error f => if meansAbsent f then .ok false else .error (f.toFault text)

/-- Whether something exists at the path. -/
def pathExists (t : FileTree) (path : Path) : Except Fault Bool := leadsTo t (fun _ => true) path

/-- Whether a regular file is at the path. -/
def isFile (t : FileTree) (path : Path) : Except Fault Bool :=
  leadsTo t (fun n => match n with
    | .file _ => true
    | _ => false) path

/-- Whether a directory is at the path. -/
def isDirectory (t : FileTree) (path : Path) : Except Fault Bool :=
  leadsTo t (fun n => n == .directory) path

/-- The bytes of the file that a path text leads to. -/
def bytesAt? (t : FileTree) (text : String) : Option (List UInt8) :=
  match status t text with
  | .ok (.file b) => some b
  | _ => none

/-! ### Building and changing trees -/

/-- Puts a node at a location. -/
def setNode (t : FileTree) (place : List String) (n : Node) : FileTree :=
  { t with nodes := Table.insert place n t.nodes }

/-- The directory that `name` leads to from `place`, made when it is absent. -/
def enter (t : FileTree) (place : List String) (name : String) : FileTree × List String :=
  match walk t linkLimit place [name] with
  | .ok (.found p) => (t, p)
  | .ok (.absent p) => (t.setNode p .directory, p)
  | .error _ => (t, place ++ [name])

/-- Puts a node at the end of a list of names, making the directories before it. A link is put at
the very name; anything else goes where the name leads. -/
def placeNode (t : FileTree) (place : List String) (n : Node) : List String → FileTree
  | [] => t
  | [name] =>
    match n, walk t linkLimit place [name] with
    | .link _, _ => t.setNode (place ++ [name]) n
    | .directory, .ok (.found _) => t
    | _, .ok (.found p) | _, .ok (.absent p) => t.setNode p n
    | _, .error _ => t.setNode (place ++ [name]) n
  | name :: rest =>
    let (t, place) := t.enter place name
    placeNode t place n rest

/-- Puts a node at a path text, making the directories before it. -/
def put (t : FileTree) (text : String) (n : Node) : FileTree :=
  let path := Path.ofString text
  t.placeNode (if path.isAbsolute then [] else t.current) n path.parts

/-- A tree with nothing but its current directory. -/
def empty (current : List String) : FileTree :=
  FileTree.placeNode ⟨current, []⟩ [] .directory current

/-! ### Appending to files -/

/-- Drops `..` together with the name before it; at the root it has none. -/
def collapse (rooted : Bool) : List String → List String → List String
  | done, [] => done.reverse
  | done, name :: rest =>
    if name = "" || name = "." then collapse rooted done rest
    else if name = ".." then
      match done with
      | d :: ds => if d = ".." then collapse rooted (name :: done) rest else collapse rooted ds rest
      | [] => if rooted then collapse rooted [] rest else collapse rooted [name] rest
    else collapse rooted (name :: done) rest

/-- The absolute text of a path text, without dots and repeated slashes. -/
def absoluteText (t : FileTree) (text : String) : String :=
  if startsAtRoot text then
    Path.anchorText (Path.anchorOf text.toList) ++
      Text.joinWith "/" (collapse true [] (namesOf text))
  else "/" ++ Text.joinWith "/" (collapse true [] (t.current ++ namesOf text))

/-- Opens a file for appending, creating it when only its last name is absent. Gives the tree and
the location of the file. -/
def openAppend (t : FileTree) (text : String) : Except Fault (FileTree × List String) :=
  let full := t.absoluteText text
  if full.toList.contains '\x00' then .error (.value "embedded null byte")
  else
    match t.follow full with
    | .ok (.absent p) => .ok (t.setNode p (.file []), p)
    | .ok (.found p) =>
      match t.node? p with
      | some (.file _) => .ok (t, p)
      | _ => .error (PathFault.toFault .isDirectory full)
    | .error f => .error (f.toFault full)

/-- Appends text to the file at a location. -/
def appendText (t : FileTree) (place : List String) (text : String) : FileTree :=
  match t.node? place with
  | some (.file b) => t.setNode place (.file (b ++ Text.encodeUtf8 text))
  | _ => t

end FileTree

end VendorLaunch
