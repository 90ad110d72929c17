import AbapAtlas.Disk.Basic

/-! What a file tree does not tell of the host it is on. A host may refuse to say what lies at a
path or to open it, leave entries out of a listing, have texts that cannot be written, and run out
of room for calls within calls. A plain host does nothing of the kind. -/
namespace AbapAtlas

inductive Stop (ε : Type) where
  | refused
  | raised (fault : ε)
  deriving DecidableEq, Repr

structure Host (ε : Type) where
  -- The error that stands for an answer to what lies at a path: the way there may not be searched,
  -- or a name is too long.
  hides : Path → Option ε := fun _ => none
  locks : Path → Option Trouble := fun _ => none
  locks_whole : ∀ path, locks path ≠ some .nullInName := by
    exact fun _ => (Option.some_ne_none _).symm
  -- What becomes of an entry that a search comes to: it is seen, it is left out since its folder
  -- may not be listed, or the search ends there, as it does in folders nested too deep.
  lists : Path → Except (Stop ε) Bool := fun _ => .ok true
  -- Characters that UTF-8 has no bytes for, such as half a surrogate pair. Texts here have none, so
  -- others stand for them; file names can hold some, which stand for bytes that are no UTF-8.
  unspelled : Char → Bool := fun _ => false
  unnamed : Char → Bool := fun _ => false
  unspelled_far : ∀ c, unspelled c = true → 128 ≤ c.toNat := by
    exact fun _ odd => absurd odd Bool.false_ne_true
  -- So many folders are made on the way to one, each in a call within the last; none sets no limit.
  room : Option Nat := none

namespace Host
variable {ε : Type}

def plain : Host ε := {}

def content (host : Host ε) (disk : Disk) (path : Path) : Except Trouble ByteArray :=
  match host.locks path with
  | some trouble => .error trouble
  | none => disk.content path

def writeFile (host : Host ε) (disk : Disk) (path : Path) (content : ByteArray) :
    Except Trouble Disk :=
  match host.locks path with
  | some trouble => .error trouble
  | none => disk.writeFile path content

def spells (host : Host ε) (text : String) : Bool := text.toList.all fun c => !host.unspelled c

def canName (host : Host ε) (path : Path) : Bool :=
  path.names.all fun name => name.toList.all fun c => !host.unnamed c

def holds (host : Host ε) (calls : Nat) : Bool := host.room.all fun room => calls ≤ room

theorem content_plain (disk : Disk) (path : Path) :
    (plain : Host ε).content disk path = disk.content path := rfl

theorem spells_plain (text : String) : (plain : Host ε).spells text = true := by
  simp [spells, plain]

theorem canName_plain (path : Path) : (plain : Host ε).canName path = true := by
  simp [canName, plain]

end Host
end AbapAtlas
