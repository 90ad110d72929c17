import AbapAtlas.Host
import AbapAtlas.Ignore.Rule

/-! Which paths the rules of an ignore file match. A rule without a slash at its end matches the
end of a path, so a folder's name alone does not make the files in it ignored. Searches take the
reader of ignore files as a parameter; the one of these rules is the one they run with. -/
namespace AbapAtlas.Ignore
open Text

def afterMany (test : Char → Bool) (next : List Char → Bool) : List Char → Bool
  | [] => next []
  | c :: rest => next (c :: rest) || (test c && afterMany test next rest)

def afterOne (test : Char → Bool) (next : List Char → Bool) : List Char → Bool
  | [] => false
  | c :: rest => test c && next rest

/-- Whether the pieces match at the head of a text with a rest that `next` accepts. Within names a
line feed is a character like others, across folders it is not. -/
def matchesHead (next : List Char → Bool) : List Glob → List Char → Bool
  | [] => next
  | .char c :: globs => afterOne (· == c) (matchesHead next globs)
  | .inName :: globs => afterOne (· != '/') (matchesHead next globs)
  | .oneOf set :: globs => afterOne set.contains (matchesHead next globs)
  | .manyOf set :: globs => afterMany set.contains (matchesHead next globs)
  | .partOfName :: globs => afterMany (· != '/') (matchesHead next globs)
  | .partOfPath :: globs => afterMany (· != '\n') (matchesHead next globs)
  | .folders :: globs => fun text =>
    matchesHead next globs text ||
      afterMany (· != '\n') (afterOne (· == '/') (matchesHead next globs)) text
  | .unusable :: _ => fun _ => false

-- At the end of a path, where a line feed at its very end does not count.
def atEnd (text : List Char) : Bool := text == [] || text == ['\n']

def Rule.accepts (rule : Rule) (text : List Char) : Bool :=
  if !rule.foldersOnly then atEnd text
  else if rule.negated then text.head? == some '/' && atEnd text.tail
  else atEnd text || text.head? == some '/'

def matchesAfterSlash (found : List Char → Bool) : List Char → Bool
  | [] => false
  | c :: rest => (c == '/' && found rest) || matchesAfterSlash found rest

def Rule.matchesPath (rule : Rule) (path : List Char) : Bool :=
  let found := matchesHead rule.accepts rule.pattern
  found path || (!rule.anchored && matchesAfterSlash found path)

def firstMatch (path : List Char) : List Rule → Except Fault (Option Rule)
  | [] => .ok none
  | rule :: rest =>
    if rule.pattern.contains .unusable then .error .badSet
    else if rule.matchesPath path then .ok (some rule)
    else firstMatch path rest

def ignores (rules : List Rule) (path : List Char) : Except Fault Bool :=
  -- Whether rules ignore a path. With a negated rule among them the last match decides.
  if rules.any (·.negated) then do
    match ← firstMatch path rules.reverse with
    | some rule => return !rule.negated
    | none => return false
  else return (← firstMatch path rules).isSome

def fileName : String := ".gitignore"

def rulesOfText (text : String) : Except Fault (List Rule) := do
  return (← (lines text).mapM Rule.ofLine).filterMap id

def rulesOf (disk : Disk) (folder : Path) : Except Fault (List Rule) :=
  match disk.content (folder.below [fileName]) with
  | .error _ => .ok []
  | .ok content =>
    match String.fromUTF8? content with
    | some text => rulesOfText text
    | none => .error .notUtf8

def ignoresFile (rules : List Rule) (folder path : Path) : Except Fault Bool :=
  if rules = [] then .ok false
  else
    match folder.settled.namesBelow? path.settled with
    | some names => ignores rules (Path.joined names).toList
    | none => .error (.outside path.settled folder.settled)

/-- A reader of ignore files: from a folder and what its ignore file holds, which paths are ignored.
It may fail at the file, and what it gives may fail at a path. -/
abbrev Reader (ε : Type) := Path → ByteArray → Except (Stop ε) (Path → Except (Stop ε) Bool)

def reader (disk : Disk) : Reader Fault := fun folder content =>
  match String.fromUTF8? content with
  | none => .error (.raised .notUtf8)
  | some text =>
    match rulesOfText text with
    | .error fault => .error (.raised fault)
    | .ok rules => .ok fun path =>
      (ignoresFile rules (disk.absolute folder) (disk.absolute path)).mapError .raised

end AbapAtlas.Ignore
