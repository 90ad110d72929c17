import AbapAtlas.Command.Run
import AbapAtlas.Proofs.FileTree
import AbapAtlas.Proofs.TomlFault

/-! Settings files that cannot be used. Commands refuse them, whatever bytes are in them, but for
three kinds: those that are no text, those with a number too long to be read, and those with lists
and inline tables nested too deep. -/
namespace AbapAtlas

namespace SettingsFile
variable {ε : Type} {host : Host ε} {disk : Disk} {root : Path} {content : ByteArray} {text : String}

def Fault.isReported : Fault → Bool
  | .unreadable _ => true
  | .notToml _ => true
  | .invalid _ _ => true
  | .notUtf8 => false
  | .numeral _ => false
  | .tooDeep => false

/-- That there are settings, or a fault that is reported as one of their file. -/
def Settled (result : Except (ε ⊕ Fault) Settings) : Prop :=
  ∀ fault, result = .error fault → ∃ own, fault = .inr own ∧ own.isReported = true

theorem load_eq (disk : Disk) (root : Path) : load disk root =
    if disk.isFile (root.below [fileName]) then
      match disk.content (root.below [fileName]) with
      | .error trouble => .error (.unreadable ⟨trouble,root.below [fileName]⟩)
      | .ok content => ofBytes (root.below [fileName]) content
    else .ok {} := by
  have shown : (Host.plain : Host Empty).hides (root.below [fileName]) = none := rfl
  rw [load,loadOn,shown,Host.content_plain]
  dsimp only
  split
  · cases disk.content (root.below [fileName]) with
    | error trouble => rfl
    | ok content =>
      dsimp only
      cases ofBytes (root.below [fileName]) content <;> rfl
  · rfl

section Example

end Example

end SettingsFile
end AbapAtlas
