import Flowchart.Text.Lowercase

/-! Files below one folder, named by paths. -/

namespace Flowchart

/-- Why a file or folder cannot be used. -/
inductive FileFault where
  | missing
  | isFolder
  /-- A folder was expected on the way, and a file is there. -/
  | notFolder
  | alreadyExists
  /-- A name, or the path as a whole, has more bytes than there is room for. -/
  | tooLong
  /-- A path holds the null character, which no path may hold. -/
  | holdsNull
deriving DecidableEq

/-- The wording of a fault. -/
def FileFault.message : FileFault → String
  | .missing => "No such file or folder"
  | .isFolder => "Is a folder"
  | .notFolder => "Not a folder"
  | .alreadyExists => "File exists"
  | .tooLong => "File name too long"
  | .holdsNull => "embedded null byte"

/-- The way to a file: names of folders, and its own name last. -/
structure FilePath where
  isAbsolute : Bool
  names : List String
deriving DecidableEq, Inhabited

namespace FilePath

/-- The parts of a text between slashes. -/
def splitSlashes : List Char → List (List Char)
  | [] => [[]]
  | c :: rest =>
    match splitSlashes rest with
    | [] => [[c]]
    | part :: parts => if c = '/' then [] :: part :: parts else (c :: part) :: parts

/-- The names in a text between slashes, with those that lead nowhere. -/
def namesOf (text : String) : List String := (splitSlashes text.toList).map String.ofList

/-- Whether a name leads nowhere: it is empty or a single point. -/
def leadsNowhere (name : String) : Bool := name = "" || name = "."

/-- Whether a text starts at the top. -/
def startsAtTop (text : String) : Bool := text.toList.head? = some '/'

/-- A path from text. Names that lead nowhere are left out. -/
def ofText (text : String) : FilePath :=
  ⟨startsAtTop text, (namesOf text).filter fun name => !leadsNowhere name⟩

/-- A path as text. -/
def toText (path : FilePath) : String :=
  let joined := String.intercalate "/" path.names
  if path.isAbsolute then "/" ++ joined else if path.names.isEmpty then "." else joined

/-- The path of an entry of a folder. -/
def child (path : FilePath) (name : String) : FilePath :=
  { path with names := path.names ++ [name] }

/-- A path continued by another one. A path from the top starts over. -/
def join (path next : FilePath) : FilePath :=
  if next.isAbsolute then next else { path with names := path.names ++ next.names }

/-- The end of a file's name from its last point on; a name that starts or ends with that point has
none. -/
def suffix (path : FilePath) : String :=
  -- A point at either end of a name belongs to the name.
  let name := (path.names.getLastD "").toList
  let ending := (name.reverse.takeWhile (· ≠ '.')).reverse
  if ending.isEmpty || name.length ≤ ending.length + 1 then ""
  else String.ofList ('.' :: ending)

/-- The most bytes that a name may have. -/
def nameLimit : Nat := 255

/-- The most bytes that the text of a path may have. -/
def textLimit : Nat := 4095

/-- Whether a text holds the null character. -/
def holdsNull (text : String) : Bool := text.toList.contains '\x00'

/-- Why a text can be the path of nothing, whatever files there are. -/
def textFault? (text : String) : Option FileFault :=
  if holdsNull text then some .holdsNull
  else if textLimit < text.utf8ByteSize then some .tooLong
  else none

/-- Whether a file is named as YAML. -/
def isYaml (path : FilePath) : Bool :=
  [".yaml", ".yml"].contains (Text.lowercase path.suffix)

end FilePath

/-- What stands at a place. -/
inductive FileEntry where
  | file (content : ByteArray)
  | folder

/-- Files and folders by their places, which are the names that lead there from the top without any
step upwards. -/
structure Files where
  /-- The folder where paths start that do not start at the top. -/
  home : List String
  files : List (List String × ByteArray)
  folders : List (List String)

namespace Files

/-- A home without any files. -/
def empty (home : List String) : Files := ⟨home, [], []⟩

/-- What stands at a place. A folder is there also when only something inside it is known. -/
def entry? (files : Files) (place : List String) : Option FileEntry :=
  match files.files.find? fun file => file.1 == place with
  | some file => some (.file file.2)
  | none =>
    let inside (other : List String) := place.isPrefixOf other
    if place.isEmpty || inside files.home || files.folders.any inside ||
        files.files.any fun file => inside file.1 then
      some .folder
    else none

/-- The folder above a place; nothing is above the top. -/
def above (place : List String) : List String := place.dropLast

/-- Follows names from a place on. Every name has to be looked up in a folder. -/
def follow (files : Files) : (place names : List String) → Except FileFault (List String)
  | place, [] => .ok place
  | place, name :: rest =>
    match files.entry? place with
    | none => .error .missing
    -- A file on the way is another fault than nothing at all.
    | some (.file _) => .error .notFolder
    | some .folder =>
      if name = ".." then files.follow (above place) rest
      else if FilePath.leadsNowhere name then files.follow place rest
      else if FilePath.nameLimit < name.utf8ByteSize then .error .tooLong
      else files.follow (place ++ [name]) rest

/-- Where a path starts. -/
def origin (files : Files) (isAbsolute : Bool) : List String :=
  if isAbsolute then [] else files.home

/-- The place a path leads to. -/
def locate (files : Files) (path : FilePath) : Except FileFault (List String) :=
  -- Some paths are refused before any folder is looked into.
  match FilePath.textFault? path.toText with
  | some fault => .error fault
  | none => files.follow (files.origin path.isAbsolute) path.names

/-- Whether a text is the name of something. A slash at its end asks for a folder, and the empty
text names nothing. -/
def hasText (files : Files) (text : String) : Bool :=
  -- The names that lead nowhere are followed too, since each of them needs a folder.
  text ≠ "" && (FilePath.textFault? text).isNone &&
    match files.follow (files.origin (FilePath.startsAtTop text)) (FilePath.namesOf text) with
    | .ok place => (files.entry? place).isSome
    | .error _ => false

/-- The content of a file. -/
def read (files : Files) (path : FilePath) : Except FileFault ByteArray := do
  match files.entry? (← files.locate path) with
  | some (.file content) => return content
  | some .folder => .error .isFolder
  | none => .error .missing

/-- Puts a file at a place. -/
def put (files : Files) (place : List String) (content : ByteArray) : Files :=
  { files with
    files := (files.files.filter fun file => file.1 != place) ++ [(place, content)] }

/-- Writes a file; its folder has to be there. -/
def write (files : Files) (path : FilePath) (content : ByteArray) : Except FileFault Files := do
  let place ← files.locate path
  match files.entry? place with
  | some .folder => .error .isFolder
  | _ => return files.put place content

/-- Makes a single folder unless it is there. -/
def makeFolder (files : Files) (path : FilePath) : Except FileFault Files := do
  let place ← files.locate path
  match files.entry? place with
  | some .folder => return files
  | some (.file _) => .error .alreadyExists
  | none => return { files with folders := files.folders ++ [place] }

/-- Makes the folders that lead from one folder along names, up to the first fault. -/
def makeFoldersFrom (files : Files) (path : FilePath) : List String → Files × Option FileFault
  | [] => (files, none)
  | name :: rest =>
    let next := path.child name
    match files.makeFolder next with
    | .ok files => files.makeFoldersFrom next rest
    | .error fault => (files, some fault)

/-- Makes a folder and those on the way to it. What was made before a fault stays. -/
def makeFolders (files : Files) (path : FilePath) : Files × Option FileFault :=
  match FilePath.textFault? path.toText with
  | some fault => (files, some fault)
  | none =>
    match files.makeFoldersFrom ⟨path.isAbsolute, []⟩ path.names with
    | (made, some .alreadyExists) =>
      (made, some (match files.locate path with
        -- A file in the way is told apart from a file at the end.
        | .error .notFolder => .notFolder
        | _ => .alreadyExists))
    | outcome => outcome

/-- Files at home from texts of paths. -/
def ofList (home : List String) (contents : List (String × ByteArray)) : Files :=
  contents.foldl (fun files file => files.put (home ++ (FilePath.ofText file.1).names) file.2)
    (empty home)

/-- The files at home that another state does not have, by their paths from home. -/
def newSince (files earlier : Files) : List (FilePath × ByteArray) :=
  files.files.filterMap fun (place, content) =>
    if earlier.files.any (fun file => file.1 == place) || !files.home.isPrefixOf place then none
    else some (⟨false, place.drop files.home.length⟩, content)

end Files

end Flowchart
