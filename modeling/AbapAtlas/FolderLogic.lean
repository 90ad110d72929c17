import AbapAtlas.Text.Parts
import AbapAtlas.Text.Case.Lower
import AbapAtlas.Text.Case.Upper
import AbapAtlas.Text.Search

/-! Folder logic: how a package hierarchy maps to folders, and how a repository declares it. -/
namespace AbapAtlas
open Text

inductive FolderLogic where
  -- A folder is named for its package less the name of the parent package.
  | short
  | full
  -- As `full`, with a folder for the root package too.
  | fullWithRoot
  deriving DecidableEq, Repr

namespace FolderLogic

def name : FolderLogic → String
  | .short => "prefix"
  | .full => "full"
  | .fullWithRoot => "full-with-root"

def declaredName : FolderLogic → String
  -- The spelling in a declaration, which knows no folder for the root package.
  | .short => "PREFIX"
  | .full => "FULL"
  | .fullWithRoot => "FULL"

def all : List FolderLogic := [.short, .full, .fullWithRoot]

def ofName? (text : String) : Option FolderLogic :=
  let spelling := lower (trim text)
  all.find? (fun logic => logic.name == spelling)

def openTag : List Char := "<folder_logic>".toList
def closeTag : List Char := "</folder_logic>".toList

def elementText? (text : List Char) : Option (List Char) := do
  let content ← dropLiteral? isCaseOf openTag text
  let inner ← run? (· != '<') content
  let _ ← dropLiteral? isCaseOf closeTag (content.dropWhile (· != '<'))
  return inner

def ofDeclaredName? (text : String) : Option FolderLogic :=
  match upper (trim text) with
  | "PREFIX" => some .short
  | "FULL" => some .full
  | _ => none

/-- The folder logic that repository metadata declare. The leftmost complete element decides,
also when it declares nothing known. -/
def declared? (metadata : String) : Option FolderLogic :=
  match firstAt elementText? metadata.toList with
  | some text => ofDeclaredName? (String.ofList text)
  | none => none

def metadata (logic : FolderLogic) : String :=
  "<?xml version=\"1.0\" encoding=\"utf-8\"?>\n" ++
  "<asx:abap xmlns:asx=\"http://www.sap.com/abapxml\" version=\"1.0\">\n" ++
  " <asx:values>\n" ++
  "  <DATA>\n" ++
  "   <MASTER_LANGUAGE>E</MASTER_LANGUAGE>\n" ++
  "   <STARTING_FOLDER>/src/</STARTING_FOLDER>\n" ++
  "   <FOLDER_LOGIC>" ++ logic.declaredName ++ "</FOLDER_LOGIC>\n" ++
  "  </DATA>\n" ++
  " </asx:values>\n" ++
  "</asx:abap>\n"

def choose (override declared configured : Option FolderLogic) : FolderLogic :=
  ((override <|> declared) <|> configured).getD .short

end FolderLogic
end AbapAtlas
