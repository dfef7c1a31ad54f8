import VendorLaunch.Catalog.Packaged
import VendorLaunch.FileTree
import VendorLaunch.Logged
import VendorLaunch.Yaml

/-!
# Catalog files

A catalog can be read from a file. The file has to exist, to be readable, to hold well-formed text
and to describe a catalog; what fails first is the defect that is reported. Faults that are no
defect of the file's form, such as bytes that are no text, go through.
-/

namespace VendorLaunch

/-- The name under which catalogs are read. -/
def catalogLogger : String := "codex_launcher.core.config.loader"

/-- Line breaks of all kinds as line feeds. -/
def unifyBreaks : List Char → List Char
  | [] => []
  | '\r' :: '\n' :: s => '\n' :: unifyBreaks s
  | c :: s => (if c = '\r' then '\n' else c) :: unifyBreaks s

/-- The text of a file. -/
def readText (t : FileTree) (path : Path) : Except Fault String :=
  match t.bytesAt? path.render with
  | none => .error (PathFault.toFault .noEntry path.render)
  | some bytes =>
    match Text.decodeUtf8 bytes with
    | .ok s => .ok (String.ofList (unifyBreaks s.toList))
    | .error f => .error (.named "UnicodeDecodeError" f.message)

/-- The data that the text of a catalog file denotes. -/
def catalogData (path : Path) (text : String) : Except Failure Data :=
  match Yaml.read text with
  | .ok d => .ok d
  | .error .malformed => .error (.catalog path .malformed)
  | .error (.fault f) => .error (.fault f)

/-- The catalog that data of a file describe. -/
def catalogOfData (path : Path) (d : Data) : Except Failure Catalog :=
  match d with
  | .dict _ =>
    match Catalog.ofData d with
    | .ok c => .ok c
    | .error vs => .error (.catalog path (.invalid vs))
  | _ => .error (.catalog path (.notMapping d.kindName))

/-- What is said before a catalog is read from a file. -/
def loading (path : Path) : LogRecord :=
  .debug catalogLogger ("Loading target catalog from " ++ path.render)

/-- What is said when a catalog has been read. -/
def Catalog.loaded (c : Catalog) : LogRecord :=
  .debug catalogLogger ("Loaded " ++ toString c.rules.length ++ " target rules and " ++
    toString c.groups.length ++ " groups")

/-- The catalog in a file whose text is what `text` gives. -/
def Catalog.ofFileText (t : FileTree) (path : Path) (text : Except Fault String) :
    Logged Catalog := do
  if ← Logged.ofFault (t.isFile path) then
    Logged.note (loading path)
    let text ← Logged.ofExcept (match text with
      | .ok s => .ok s
      | .error f => .error (if f.isSystem then .catalog path (.unreadable f) else .fault f))
    let d ← Logged.ofExcept (catalogData path text)
    let c ← Logged.ofExcept (catalogOfData path d)
    Logged.note c.loaded
    return c
  else Logged.fail (.catalog path .notFound)

/-- The catalog in a file. -/
def Catalog.ofFile (t : FileTree) (path : Path) : Logged Catalog :=
  Catalog.ofFileText t path (readText t path)

/-- What reading a catalog from a file leaves in the log; nothing when there is no file left to
read. -/
def Catalog.reading (c : Catalog) (unread : Option Path) : List LogRecord :=
  match unread with
  | some path => [loading path, c.loaded]
  | none => []

end VendorLaunch
