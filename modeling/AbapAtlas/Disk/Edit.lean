import AbapAtlas.Disk.Basic

/-! Changes to a file tree besides the writing of files: making links, and removing what is
there. -/
namespace AbapAtlas.Disk

def makeLink (disk : Disk) (path : Path) (target : String) : Except Trouble Disk := do
  match ← disk.locate false path with
  | .at _ _ => .error .exists
  | .vacant folder name => .ok (disk.put (folder ++ [name]) (.link target))

def without (disk : Disk) (address : Address) : Disk :=
  { disk with
    entries := disk.entries.filter fun entry => !address.isPrefixOf entry.1
    distinct := disk.distinct.sublist ((List.filter_sublist (l := disk.entries)).map Prod.fst) }

def remove (disk : Disk) (path : Path) : Except Trouble Disk := do
  match ← disk.locate false path with
  | .at address _ => .ok (disk.without address)
  | .vacant _ _ => .error .noEntry

end AbapAtlas.Disk
