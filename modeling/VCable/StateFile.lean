import VCable.OrderedMaps
import VCable.Protocol
import Mathlib.Logic.Function.Basic

/-!
# The state file

The saved routes of the daemon, the file that they are kept in, and the ways
in which writing it can fail.  A disk gives the content of every file by its
path.
-/

namespace VCable

open Std Utf8Text

/-! ## Paths and files -/

inductive PathComponent where
  | rootDir
  | curDir
  | parentDir
  | normal (name : String)
  deriving DecidableEq, Repr

/-- A path as the sequence of its components. -/
abbrev DiskPath := List PathComponent

namespace DiskPath

/-- `Path::parent`. -/
def parent (path : DiskPath) : Option DiskPath :=
  match path.getLast? with
  | none | some .rootDir => none
  | some _ => some path.dropLast

/-- `Path::file_stem` of a file name: the part before the last dot, unless
that is empty. -/
def fileStem (name : String) : String :=
  let before := ['.'].intercalate (name.toList.splitOn '.').dropLast
  if before = [] then name else String.ofList before

/-- `Path::with_extension`; a path without a file name stays as it is. -/
def withExtension (path : DiskPath) (extension : String) : DiskPath :=
  match path.getLast? with
  | some (.normal name) => path.dropLast ++ [.normal (fileStem name ++ "." ++ extension)]
  | _ => path

end DiskPath

/-- The files of the disk. -/
structure Disk where
  files : DiskPath → Option (List UInt8)

namespace Disk

def write (disk : Disk) (path : DiskPath) (content : List UInt8) : Disk where
  files := Function.update disk.files path (some content)

/-- `fs::rename`: it replaces the destination. -/
def rename (disk : Disk) (source destination : DiskPath) : Disk where
  files := Function.update (Function.update disk.files source none) destination
    (disk.files source)

end Disk

/-- An error of the operating system, by its text. -/
structure IoError where
  description : String
  deriving DecidableEq, Repr

/-- The call at which writing the state file fails.  A failing write has
written a number of bytes of the content before. -/
inductive SaveFault where
  | createDirectory (error : IoError)
  | openTemporary (error : IoError)
  | writeLines (written : Nat) (error : IoError)
  | sync (error : IoError)
  | rename (error : IoError)
  deriving DecidableEq, Repr

/-- The errors of writing the state file. -/
inductive SaveError where
  | noParent
  | io (error : IoError)
  deriving DecidableEq, Repr

/-- Write the content to a temporary file next to the state file and rename
it. -/
def writeState (path : DiskPath) (content : List UInt8) (fault : Option SaveFault) (disk : Disk) :
    Except SaveError Unit × Disk :=
  match path.parent with
  | none => (.error .noParent, disk)
  | some _ =>
      let temporary := path.withExtension "tmp"
      match fault with
      | some (.createDirectory error) => (.error (.io error), disk)
      | some (.openTemporary error) => (.error (.io error), disk)
      | some (.writeLines written error) =>
          (.error (.io error), disk.write temporary (content.take written))
      | some (.sync error) => (.error (.io error), disk.write temporary content)
      | some (.rename error) => (.error (.io error), disk.write temporary content)
      | none => (.ok (), (disk.write temporary content).rename temporary path)

/-! ## Saved routes -/

structure SavedRoute where
  id : String
  source : String
  sink : String
  gainMillidb : Int32
  matrixMillionths : List Int32
  deriving DecidableEq

/-- The request that a route is saved as. -/
def SavedRoute.request (saved : SavedRoute) : Request :=
  .connect saved.id saved.source saved.sink saved.gainMillidb saved.matrixMillionths

/-- The saved routes, each under its own identifier. -/
@[ext]
structure SavedRoutes where
  map : ExtTreeMap String SavedRoute
  keyed : map.KeyedBy SavedRoute.id

namespace SavedRoutes

def empty : SavedRoutes where
  map := ∅
  keyed := ExtTreeMap.KeyedBy.empty

def insert (routes : SavedRoutes) (saved : SavedRoute) : SavedRoutes where
  map := routes.map.insert saved.id saved
  keyed := routes.keyed.insert saved

def remove (routes : SavedRoutes) (id : String) : SavedRoutes where
  map := routes.map.erase id
  keyed := routes.keyed.erase id

def values (routes : SavedRoutes) : List SavedRoute :=
  routes.map.valuesInOrder

/-- The lines of the state file, each ended by a newline. -/
def content (routes : SavedRoutes) : List UInt8 :=
  routes.values.flatMap fun saved => bytes saved.request.encode ++ [10]

end SavedRoutes

/-! ## Loading -/

/-- `BufRead::lines` on bytes: a line ends at a newline, with a carriage return
before it dropped; after the last newline there is a line only if bytes are
left. -/
def fileLines (content : List UInt8) : List (List UInt8) :=
  let pieces := content.splitOn 10
  let ended := pieces.dropLast.map fun line =>
    if line.getLast? = some 13 then line.dropLast else line
  match pieces.getLast? with
  | none | some [] => ended
  | some last => ended ++ [last]

/-- The errors of `DaemonState::load`; a line is named by its number. -/
inductive LoadError where
  | io (error : IoError)
  | invalidLine (line : Nat) (error : ProtocolError)
  | nonRouteCommand (line : Nat)
  | duplicateRoute (line : Nat) (id : String)
  deriving DecidableEq, Repr

/-- The error of `lines` on a line that is not UTF-8. -/
def invalidData : IoError where
  description := "stream did not contain valid UTF-8"

/-- The loop of `DaemonState::load`; `number` lines are behind it. -/
def loadLines (routes : SavedRoutes) (number : Nat) :
    List (List UInt8) → Except LoadError SavedRoutes
  | [] => .ok routes
  | line :: lines =>
      match ofBytes line with
      | none => .error (.io invalidData)
      | some text =>
          if text = "" then loadLines routes (number + 1) lines
          else
            match Request.decode text with
            | .error failure => .error (.invalidLine (number + 1) failure)
            | .ok (.connect id source sink gainMillidb matrixMillionths) =>
                if routes.map.contains id then .error (.duplicateRoute (number + 1) id)
                else
                  loadLines (routes.insert ⟨id, source, sink, gainMillidb, matrixMillionths⟩)
                    (number + 1) lines
            | .ok _ => .error (.nonRouteCommand (number + 1))

/-- The routes in the state file; a file that does not exist has none. -/
def loadRoutes (content : Option (List UInt8)) : Except LoadError SavedRoutes :=
  match content with
  | none => .ok .empty
  | some content => loadLines .empty 0 (fileLines content)

end VCable
