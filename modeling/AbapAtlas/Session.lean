import AbapAtlas.Host
import AbapAtlas.MethodBlock
import AbapAtlas.Text.Parts

/-! What a session remembers of the files it has read. A file is read at most once, also if it
cannot be read; its method blocks are found at most once. -/
namespace AbapAtlas
open Text

structure Session where
  -- The folder that relative paths start from, if it is not the working folder.
  base : Option Path := none
  -- The lines of the files that have been asked for, by path; none if a file was not readable.
  files : List (String × Option (List String)) := []
  blocks : List (String × Option (List MethodBlock)) := []
  reads : Nat := 0
  deriving DecidableEq, Repr

namespace Session

def fullPath (session : Session) (path : String) : Path :=
  match session.base with
  | none => Path.ofString path
  | some base => base.within (Path.ofString path)

inductive Unread where
  -- Why a path is not even looked for: no file can have it, or there are no bytes to ask with.
  | nullInName
  | notInName
  deriving DecidableEq, Repr

def readLinesOn {ε : Type} (host : Host ε) (disk : Disk) (path : Path) :
    Except Unread (Option (List String)) :=
  if host.canName path = false then .error .notInName
  else
    match host.content disk path with
    | .ok content => .ok ((String.fromUTF8? content).map lines)
    | .error .nullInName => .error .nullInName
    | .error _ => .ok none

def readLines (disk : Disk) (path : Path) : Except Trouble (Option (List String)) :=
  (readLinesOn (.plain : Host Empty) disk path).mapError fun _ => .nullInName

section
variable {ε : Type} (read : Path → Except ε (Option (List String)))

/-- The lines of a file as they were when it was first asked for. What cannot be read is remembered
like what can, but an error is not. -/
def linesBy (session : Session) (path : String) : Except ε (Option (List String)) × Session :=
  match session.files.lookup path with
  | some known => (.ok known, session)
  | none =>
    match read (session.fullPath path) with
    | .ok found =>
      (.ok found,
        { session with files := session.files ++ [(path, found)], reads := session.reads + 1 })
    | .error error => (.error error, { session with reads := session.reads + 1 })

def blocksBy (session : Session) (path : String) : Except ε (Option (List MethodBlock)) × Session :=
  match session.blocks.lookup path with
  | some known => (.ok known, session)
  | none =>
    match linesBy read session path with
    | (.ok found, session) =>
      let blocks := found.map MethodBlock.scan
      (.ok blocks, { session with blocks := session.blocks ++ [(path, blocks)] })
    | (.error error, session) => (.error error, session)

end

def linesOf (session : Session) (disk : Disk) (path : String) :
    Except Trouble (Option (List String)) × Session := linesBy (readLines disk) session path

def blocksOf (session : Session) (disk : Disk) (path : String) :
    Except Trouble (Option (List MethodBlock)) × Session := blocksBy (readLines disk) session path

def knows (session : Session) (path : String) : Bool := (session.files.lookup path).isSome

end Session
end AbapAtlas
