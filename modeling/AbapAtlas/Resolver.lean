import AbapAtlas.Layout
import AbapAtlas.LinePlacement
import AbapAtlas.Session
import AbapAtlas.SourceIndex

/-! Resolvers tell the file and the line that a finding is about. -/
namespace AbapAtlas

structure FilePosition where
  path : String
  line : Int
  deriving DecidableEq, Repr

structure Query where
  objectType : String
  objectName : String
  line : Int
  hint : Option String
  deriving DecidableEq, Repr

inductive Answer where
  | found (position : FilePosition)
  | unknown
  | failed
  deriving DecidableEq, Repr

abbrev Resolver (σ : Type) := Query → σ → Answer × σ

namespace Resolver

def blind : Resolver Unit := fun _ memory => (.unknown, memory)

end Resolver

namespace Query

def file? (query : Query) (index : SourceIndex) : Option String :=
  index.lookup (Layout.fileName query.objectType query.objectName "abap")

def resolveBy {ε : Type} (read : Path → Except ε (Option (List String))) (query : Query)
    (index : SourceIndex) (session : Session) : Except ε (Option FilePosition) × Session :=
  match query.file? index with
  | none => (.ok none, session)
  | some path =>
    if LinePlacement.countsFromMethod path then
      match session.blocksBy read path with
      | (.ok blocks, session) =>
        (.ok (some ⟨path, LinePlacement.fileLine query.line path blocks query.hint⟩), session)
      | (.error error, session) => (.error error, session)
    else (.ok (some ⟨path, LinePlacement.fileLine query.line path none query.hint⟩), session)

def resolve (query : Query) (index : SourceIndex) (disk : Disk) (session : Session) :
    Except Trouble (Option FilePosition) × Session :=
  query.resolveBy (Session.readLines disk) index session

end Query

def Resolver.ofIndex (index : SourceIndex) (disk : Disk) : Resolver Session := fun query session =>
  match query.resolve index disk session with
  | (.ok (some position), session) => (.found position, session)
  | (.ok none, session) => (.unknown, session)
  | (.error _, session) => (.failed, session)

end AbapAtlas
