import OutlineTables.Disk.Path
import OutlineTables.Md5
import OutlineTables.Sync.Report
import OutlineTables.Text.Encoding

/-!
A tree of files by their paths, and the search for outline files in it.
-/
namespace OutlineTables

/-- Files with their contents, and folders. The working folder and those that it is in always
exist. -/
structure Disk where
  files : List (Path × Encoding.Bytes) := []
  folders : List Path := []
deriving Inhabited

/-- Why a path leads nowhere: a name is missing, or a file stands where a folder should. -/
inductive PlaceFault where
  | missing
  | notFolder
deriving DecidableEq, Repr

/-- Why a folder cannot be made. -/
inductive FolderFault where
  | taken (path : Path)
  | notFolder (path : Path)
deriving DecidableEq, Repr

def FolderFault.message : FolderFault → Text
  | taken p => "[Errno 17] File exists: ".toList ++ Text.quoted p.toText
  | notFolder p => "[Errno 20] Not a directory: ".toList ++ Text.quoted p.toText

/-- Why the text of a file cannot be had. -/
inductive DiskFault where
  | missing (path : Path)
  | folder (path : Path)
  | undecodable (path : Path) (fault : Encoding.DecodeFault)
deriving DecidableEq, Repr

def DiskFault.message : DiskFault → Text
  | missing p => "File does not exist: ".toList ++ p.toText
  | folder p =>
    "Failed to parse ".toList ++ p.toText ++ ": [Errno 21] Is a directory: ".toList ++
      Text.quoted p.toText
  | undecodable p f => "Failed to decode ".toList ++ p.toText ++ ": ".toList ++ f.message

namespace Disk

/-! Questions about places, which are paths without double dots behind other names. -/

def hasFolder (d : Disk) (place : Path) : Bool :=
  place.isAbove || d.folders.any (· = place)

def hasFile (d : Disk) (place : Path) : Bool := (d.files.lookup place).isSome

def has (d : Disk) (place : Path) : Bool := d.hasFolder place || d.hasFile place

/-- The place of a path that starts at `here`. Every name must be in a folder, also one that a
double dot takes back. -/
def locateFrom (d : Disk) (here : Path) : Path → Except PlaceFault Path
  | [] => .ok here
  | name :: rest =>
    if !d.hasFolder here then .error .notFolder
    else if d.has (here.step name) then d.locateFrom (here.step name) rest
    else .error .missing

def locate (d : Disk) (p : Path) : Except PlaceFault Path := d.locateFrom [] p

def place? (d : Disk) (p : Path) : Option Path := (d.locate p).toOption

def content? (d : Disk) (p : Path) : Option Encoding.Bytes :=
  (d.place? p).bind fun place => d.files.lookup place

def isFile (d : Disk) (p : Path) : Bool := (d.content? p).isSome

def isFolder (d : Disk) (p : Path) : Bool := ((d.place? p).map d.hasFolder).getD false

/-! Changes. What cannot be done leaves the disk as it is. -/

/-- The place where something new of a path would be. -/
def newPlace (d : Disk) (p : Path) : Except PlaceFault Path :=
  match p.getLast? with
  | none => .ok []
  | some name => do
    let folder ← d.locate p.dropLast
    if d.hasFolder folder then .ok (folder.step name) else .error .notFolder

/-- A new folder in one that is there, unless something has its name. -/
def addFolder (d : Disk) (place : Path) : Option Disk :=
  if d.has place then none else some { d with folders := d.folders ++ [place] }

/-- A folder, made unless it is there; `otherwise` says what to do if the one that it would be in
is missing. -/
def makeOne (d : Disk) (mayExist : Bool) (p : Path)
    (otherwise : Unit → Except FolderFault Disk) : Except FolderFault Disk :=
  match d.newPlace p with
  | .error .missing => otherwise ()
  | .error .notFolder => .error (.notFolder p)
  | .ok place =>
    match d.addFolder place with
    | some made => .ok made
    | none => if mayExist && d.hasFolder place then .ok d else .error (.taken p)

/-- A folder with the folders on the way to it. Those on the way may be there, and so may the
folder itself if `mayExist` says so. Each unit of fuel admits one more name. -/
def makeFolders (d : Disk) (mayExist : Bool) : Nat → Path → Except FolderFault Disk
  | 0, _ => .ok d
  | fuel + 1, p =>
    d.makeOne mayExist p fun _ => do
      let outer ← d.makeFolders true fuel p.dropLast
      outer.makeOne mayExist p fun _ => .ok outer

/-- A folder that may be there, with the folders on the way to it. -/
def makeFolder (d : Disk) (p : Path) : Except FolderFault Disk :=
  d.makeFolders true (p.length + 1) p

/-- A folder that must not be there, with the folders on the way to it. -/
def makeNewFolder (d : Disk) (p : Path) : Except FolderFault Disk :=
  d.makeFolders false (p.length + 1) p

/-- The disk with the folder that a path is in, and the place of the path. -/
def withParent (d : Disk) (p : Path) : Option (Disk × Path) :=
  match d.makeFolder p.dropLast with
  | .ok made => (made.newPlace p).toOption.map fun place => (made, place)
  | .error _ => none

/-- The disk with a file at a place. -/
def put (d : Disk) (place : Path) (bytes : Encoding.Bytes) : Disk :=
  { d with files := d.files.filter (·.1 ≠ place) ++ [(place, bytes)] }

/-- Makes the folders that the file is in, and replaces a file that is there. -/
def write (d : Disk) (p : Path) (bytes : Encoding.Bytes) : Disk :=
  match d.withParent p with
  | some (made, place) => if made.hasFolder place then made else made.put place bytes
  | none => d

/-- The disk without what is at or below a place. -/
def clear (d : Disk) (place : Path) : Disk where
  files := d.files.filter fun (q, _) => (place.below? q).isNone
  folders := d.folders.filter fun q => (place.below? q).isNone

/-- Removes a file, or a folder with everything in it. -/
def remove (d : Disk) (p : Path) : Disk := ((d.place? p).map d.clear).getD d

/-- What is at or below one place, put at another. -/
def move (d : Disk) (source target : Path) : Disk :=
  let moved (r : Path) : Option Path := (source.below? r).map (target ++ ·)
  let rest := (d.clear source).clear target
  { files := rest.files ++ d.files.filterMap fun (r, bytes) => (moved r).map (·, bytes)
    folders := rest.folders ++ d.folders.filterMap moved }

/-- The places between which a path is renamed, on the disk with the folder of the new one. -/
def renaming? (d : Disk) (p q : Path) : Option (Disk × Path × Path) := do
  let source ← d.place? p
  let (made, target) ← d.withParent q
  some (made, source, target)

/-- Moves a file, or a folder with everything in it, and replaces what is there. -/
def rename (d : Disk) (p q : Path) : Disk :=
  match d.renaming? p q with
  | some (made, source, target) => made.move source target
  | none => d

/-- The text of a file. -/
def readText (d : Disk) (p : Path) : Except DiskFault Text :=
  match d.content? p with
  | some bytes =>
    match Encoding.readText bytes with
    | .ok t => .ok t
    | .error f => .error (.undecodable p f)
  | none => if d.isFolder p then .error (.folder p) else .error (.missing p)

/-- The ending of the names of outline files. -/
def outlineEnding : Text := ".org".toList

/-- The name of an outline file; the ending alone is one too. -/
def isOutlineName (p : Path) : Bool :=
  match p.getLast? with
  | some name => outlineEnding.isSuffixOf name
  | none => false

/-- The files below a folder in the order of their paths. -/
def filesBelow (d : Disk) (p : Path) : List (Path × Encoding.Bytes) :=
  match d.place? p with
  | none => []
  | some place =>
    (d.files.filterMap fun (q, bytes) => (place.below? q).map ((·, bytes))).mergeSort
      fun a b => a.1.le b.1

def fileMeta (p : Path) (bytes : Encoding.Bytes) : FileMeta :=
  { hash := Md5.digest bytes, diskPath := some p.toText, size := some bytes.length }

/-- A path that is a file is taken whatever its name, a folder for the outline files below it. -/
def scan (d : Disk) (p : Path) : List FileMeta :=
  match d.content? p with
  | some bytes => [fileMeta p bytes]
  | none =>
    ((d.filesBelow p).filter fun (q, _) => isOutlineName q).map fun (q, bytes) =>
      fileMeta (p ++ q) bytes

def scanAll (d : Disk) (ps : List Path) : List FileMeta := ps.flatMap d.scan

end Disk

end OutlineTables
