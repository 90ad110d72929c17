import AbapAtlas.Document.Checked
import AbapAtlas.Document.Toml.Reader
import AbapAtlas.Host
import AbapAtlas.Settings

/-! The settings file in the root folder of a repository. -/
namespace AbapAtlas.SettingsFile

def fileName : String := "abaplocate.toml"

inductive Fault where
  | unreadable (refusal : Refusal)
  | notUtf8
  | notToml (path : Path)
  | numeral (error : Text.NumeralError)
  | tooDeep
  | invalid (path : Path) (faults : List AbapAtlas.Fault)
  deriving DecidableEq, Repr

namespace Fault

def subject : Fault → String
  | .unreadable refusal => s!"Cannot read {refusal.path.text}: {refusal.message}"
  | .notUtf8 => "invalid UTF-8"
  | .notToml path => s!"Invalid TOML in {path.text}"
  | .numeral error => error.message
  | .tooDeep => "values nested too deep"
  | .invalid path _ => s!"Invalid config in {path.text}"

def message (fault : Fault) : String :=
  match fault with
  | .invalid _ faults =>
    fault.subject ++ ": " ++ AbapAtlas.Fault.countText Settings.recordName faults
  | _ => fault.subject

end Fault

def ofText (path : Path) (text : String) : Except Fault Settings :=
  match Toml.read text with
  | .error .malformed => .error (.notToml path)
  | .error (.numeral error) => .error (.numeral error)
  | .error .tooDeep => .error .tooDeep
  | .ok document =>
    match Settings.check document with
    | .passed settings => .ok settings
    | .failed faults => .error (.invalid path faults)

def ofBytes (path : Path) (content : ByteArray) : Except Fault Settings :=
  match String.fromUTF8? content with
  | some text => ofText path text
  | none => .error .notUtf8

def loadOn {ε : Type} (host : Host ε) (disk : Disk) (root : Path) :
    Except (ε ⊕ Fault) Settings :=
  let path := root.below [fileName]
  match host.hides path with
  | some fault => .error (.inl fault)
  | none =>
    if disk.isFile path then
      match host.content disk path with
      | .error trouble => .error (.inr (.unreadable ⟨trouble, path⟩))
      | .ok content => (ofBytes path content).mapError .inr
    else .ok {}

def load (disk : Disk) (root : Path) : Except Fault Settings :=
  (loadOn (.plain : Host Empty) disk root).mapError (Sum.elim Empty.elim id)

end AbapAtlas.SettingsFile
