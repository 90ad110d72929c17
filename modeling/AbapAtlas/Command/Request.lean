import AbapAtlas.Command.Arguments

/-! The commands of the program and their arguments. -/
namespace AbapAtlas.Command

inductive Request where
  | report (findings root : String) (out srcDir : Option String) (jobs : Option Int)
  | locate (objectType : String) (objectName : Option String) (root : String) (line : Int)
      (method : Option String)
  | folderLogic (root : String) (override : Option String)
  | packageFolder (packages : List String) (root : String) (override : Option String)
  | writeMetadata (root : String) (override : Option String)
  deriving DecidableEq, Repr

namespace Request

def helpOption : OptionSpec := ⟨["-h", "--help"], .help⟩
def verboseOption : OptionSpec := ⟨["-v", "--verbose"], .count⟩
def outOption : OptionSpec := ⟨["--out"], .text⟩
def srcDirOption : OptionSpec := ⟨["--src-dir"], .text⟩
def jobsOption : OptionSpec := ⟨["--jobs"], .int⟩
def lineOption : OptionSpec := ⟨["--line"], .int⟩
def methodOption : OptionSpec := ⟨["--method"], .text⟩
def rootOption : OptionSpec := ⟨["--root"], .text⟩
def folderLogicOption : OptionSpec := ⟨["--folder-logic"], .text⟩

def mainOptions : List OptionSpec := [helpOption, verboseOption]

def defaultRoot : String := "."

structure Form where
  name : String
  grammar : Grammar
  request : List (OptionSpec × OptionValue) → List (List String) → Request

def textOf (values : List (OptionSpec × OptionValue)) (spec : OptionSpec) : Option String :=
  match values.lookup spec with
  | some (.text text) => some text
  | _ => none

def intOf (values : List (OptionSpec × OptionValue)) (spec : OptionSpec) : Option Int :=
  match values.lookup spec with
  | some (.int n) => some n
  | _ => none

def argument (slots : List (List String)) (position : Nat) (default : String) : String :=
  (slots.getD position []).headD default

def commands : List Form :=
  [ { name := "report"
      grammar := ⟨[helpOption, outOption, srcDirOption, jobsOption], [.one, .atMostOne]⟩
      request := fun values slots =>
        .report (argument slots 0 "") (argument slots 1 defaultRoot) (textOf values outOption)
          (textOf values srcDirOption) (intOf values jobsOption) },
    { name := "locate"
      grammar := ⟨[helpOption, lineOption, methodOption], [.one, .one, .atMostOne]⟩
      request := fun values slots =>
        .locate (argument slots 0 "") (slots.getD 1 []).head? (argument slots 2 defaultRoot)
          ((intOf values lineOption).getD 1) (textOf values methodOption) },
    { name := "folder-logic"
      grammar := ⟨[helpOption, folderLogicOption], [.atMostOne]⟩
      request := fun values slots =>
        .folderLogic (argument slots 0 defaultRoot) (textOf values folderLogicOption) },
    { name := "package-dir"
      grammar := ⟨[helpOption, rootOption, folderLogicOption], [.atLeastOne]⟩
      request := fun values slots =>
        .packageFolder (slots.getD 0 []) ((textOf values rootOption).getD defaultRoot)
          (textOf values folderLogicOption) },
    { name := "write-metadata"
      grammar := ⟨[helpOption, folderLogicOption], [.atMostOne]⟩
      request := fun values slots =>
        .writeMetadata (argument slots 0 defaultRoot) (textOf values folderLogicOption) } ]

def ofCommand (name : String) (arguments : List String) (surplus : Bool) :
    Except Ending Request := do
  match commands.find? fun command => command.name == name with
  | none => throw .wrongUsage
  | some command =>
    let (values, slots, more) ← command.grammar.parse arguments
    if surplus || more then throw .wrongUsage
    return command.request values slots

def afterOptions : (fuel : Nat) → List Token → List String → Bool → Except Ending Request
  | 0, _, _, _ => .error .wrongUsage
  | fuel + 1, tokens, arguments, surplus =>
    match tokens, arguments with
    | .positional _ :: _, name :: arguments => ofCommand name arguments surplus
    | .unknown :: tokens, _ :: arguments => afterOptions fuel tokens arguments true
    | .option written :: tokens, _ :: arguments => do
      let (taken, _) ← takeOption mainOptions written tokens { open' := [] }
      afterOptions fuel tokens arguments (surplus || taken.surplus)
    | _, _ => .error .wrongUsage

def parse (arguments : List String) : Except Ending Request :=
  match tokens? mainOptions arguments with
  | none => .error .wrongUsage
  | some tokens => afterOptions (tokens.length + 1) tokens arguments false

end Request
end AbapAtlas.Command
