import AbapAtlas.Text.Numeral

/-! Command-line arguments. Options may stand between positional arguments; a long option may be
shortened as long as it stays unambiguous, may have its value after an equals sign, and short ones
may be joined. Two dashes end the options; further dashes can fill a position, but give it
nothing. -/
namespace AbapAtlas.Command
open Text

inductive Ending where
  | help
  | wrongUsage
  deriving DecidableEq, Repr

inductive OptionKind where
  | help
  | count
  | text
  | int
  deriving DecidableEq, Repr

structure OptionSpec where
  names : List String
  kind : OptionKind
  deriving DecidableEq, Repr

inductive SlotKind where
  | one
  | atMostOne
  | atLeastOne
  deriving DecidableEq, Repr

structure Grammar where
  options : List OptionSpec
  slots : List SlotKind

inductive OptionValue where
  | text (value : String)
  | int (value : Int)
  deriving DecidableEq, Repr

structure Written where
  spec : OptionSpec
  short : Bool
  joined : Option String := none
  equals : Bool := false
  deriving DecidableEq, Repr

inductive Reading where
  | positional
  | option (written : Written)
  | unknown
  | ambiguous
  deriving DecidableEq, Repr

def isShort (name : String) : Bool := name.toList[1]? != some '-'

def named? (options : List OptionSpec) (name : String) : Option OptionSpec :=
  options.find? fun spec => spec.names.contains name

def splitEquals (argument : String) : String × Option String :=
  match argument.toList.dropWhile (· != '=') with
  | [] => (argument, none)
  | _ :: value => (String.ofList (argument.toList.takeWhile (· != '=')), some (String.ofList value))

def beginning (options : List OptionSpec) (text : String) : List OptionSpec :=
  options.flatMap fun spec =>
    (spec.names.filter fun name => text.toList.isPrefixOf name.toList).map fun _ => spec

def isNegativeNumber (text : List Char) : Bool :=
  match text with
  | '-' :: rest =>
    let rest := if rest.getLast? = some '\n' then rest.dropLast else rest
    let whole := rest.takeWhile isDigit
    match rest.dropWhile isDigit with
    | [] => whole != []
    | '.' :: places => places != [] && places.all isDigit
    | _ => false
  | _ => false

def readInexact (options : List OptionSpec) (argument : String) : Reading :=
  let (name, value) := splitEquals argument
  let otherwise : Reading :=
    if isNegativeNumber argument.toList || argument.toList.contains ' ' then .positional
    else .unknown
  match value.bind fun _ => named? options name with
  | some spec => .option ⟨spec, isShort name, value, true⟩
  | none =>
    if isShort argument then
      match named? options (String.ofList (argument.toList.take 2)) with
      | some spec => .option ⟨spec, true, some (String.ofList (argument.toList.drop 2)), false⟩
      | none => otherwise
    else
      match beginning options name with
      | [spec] => .option ⟨spec, false, value, value.isSome⟩
      | [] => otherwise
      | _ => .ambiguous

def read (options : List OptionSpec) (argument : String) : Reading :=
  if argument.toList.head? != some '-' then .positional
  else
    match named? options argument with
    | some spec => .option { spec, short := isShort argument }
    | none => if argument = "-" then .positional else readInexact options argument

inductive Token where
  | dashes
  | positional (argument : String)
  | option (written : Written)
  | unknown
  deriving DecidableEq, Repr

def tokens? (options : List OptionSpec) : List String → Option (List Token)
  | [] => some []
  | argument :: rest =>
    if argument = "--" then some (.dashes :: rest.map .positional)
    else
      match read options argument with
      | .ambiguous => none
      | .positional => (tokens? options rest).map (.positional argument :: ·)
      | .option written => (tokens? options rest).map (.option written :: ·)
      | .unknown => (tokens? options rest).map (.unknown :: ·)

def takeApart? (options : List OptionSpec) :
    (fuel : Nat) → Written → Option (List (OptionSpec × Option String) × Bool)
  | 0, _ => none
  | fuel + 1, written =>
    match written.spec.kind, written.joined with
    | .text, value => some ([(written.spec, value)], false)
    | .int, value => some ([(written.spec, value)], false)
    | _, none => some ([(written.spec, none)], false)
    | _, some value =>
      match value.toList with
      | [] => none
      | c :: rest =>
        if !written.short || written.equals || c == '-' then none
        else
          match named? options (String.ofList ['-', c]) with
          | none => some ([(written.spec, none)], true)
          | some spec =>
            let next : Written :=
              match rest with
              | [] => { spec, short := true }
              | '=' :: value => ⟨spec, true, some (String.ofList value), true⟩
              | value => ⟨spec, true, some (String.ofList value), false⟩
            (takeApart? options fuel next).map fun (more, rest) =>
              ((written.spec, none) :: more, rest)

structure Taken where
  options : List (OptionSpec × OptionValue) := []
  slots : List (List String) := []
  open' : List SlotKind
  surplus : Bool := false

def takeOption (options : List OptionSpec) (written : Written) (rest : List Token) (taken : Taken) :
    Except Ending (Taken × List Token) := do
  let length := (written.joined.getD "").length
  match takeApart? options (length + 1) written with
  | none => throw .wrongUsage
  | some (parts, surplus) =>
    let taken := { taken with surplus := taken.surplus || surplus }
    let value (spec : OptionSpec) (text : String) (taken : Taken) : Except Ending Taken :=
      match spec.kind with
      | .int =>
        match readInt? text with
        | some n => .ok { taken with options := taken.options ++ [(spec, .int n)] }
        | none => .error .wrongUsage
      | _ => .ok { taken with options := taken.options ++ [(spec, .text text)] }
    let last := parts.getLast?
    match last, rest with
    | some (⟨_, .text⟩, none), .positional _ :: _ | some (⟨_, .int⟩, none), .positional _ :: _ =>
      pure ()
    | some (⟨_, .text⟩, none), _ | some (⟨_, .int⟩, none), _ => throw .wrongUsage
    | _, _ => pure ()
    parts.foldlM (fun (taken, rest) (spec, joined) =>
      match spec.kind, joined, rest with
      | .help, _, _ => .error .help
      | .count, _, rest => .ok (taken, rest)
      | _, some text, rest => (value spec text taken).map (·, rest)
      | _, none, .positional text :: rest => (value spec text taken).map (·, rest)
      | _, none, _ => .error .wrongUsage) (taken, rest)

def leadingArguments : List Token → List String × List Token
  | .dashes :: rest => leadingArguments rest
  | .positional argument :: rest =>
    let (arguments, rest) := leadingArguments rest
    (argument :: arguments, rest)
  | rest => ([], rest)

def skipDashes : List Token → List Token
  | .dashes :: rest => rest
  | rest => rest

def single (before : List Token) (argument : String) : List String :=
  -- What an argument gives to a position for one argument: two dashes count only right behind the
  -- ones that end the options.
  if argument = "--" ∧ before.head? ≠ some .dashes then [] else [argument]

def fill? (slot : SlotKind) (tokens : List Token) : Option (List String × List Token) :=
  match slot, skipDashes tokens with
  | .one, .positional argument :: rest => some (single tokens argument, skipDashes rest)
  | .one, _ => none
  | .atMostOne, .positional argument :: rest => some (single tokens argument, skipDashes rest)
  | .atMostOne, rest => some ([], rest)
  | .atLeastOne, .positional argument :: rest =>
    let (more, rest) := leadingArguments rest
    some (argument :: more, rest)
  | .atLeastOne, _ => none

def fillSlots : List SlotKind → List Token → List (List String) × List SlotKind × List Token
  | [], tokens => ([], [], tokens)
  | slot :: slots, tokens =>
    match fill? slot tokens with
    | none => ([], slot :: slots, tokens)
    | some (arguments, rest) =>
      let (more, slots, rest) := fillSlots slots rest
      (arguments :: more, slots, rest)

def isOption : Token → Bool
  | .option _ => true
  | .unknown => true
  | _ => false

def takeSlots (tokens : List Token) (taken : Taken) : Taken × List Token :=
  let (filled, open', rest) := fillSlots taken.open' tokens
  ({ taken with slots := taken.slots ++ filled, open' }, rest)

def takeAll (options : List OptionSpec) : (fuel : Nat) → List Token → Taken → Except Ending Taken
  | 0, _, taken => .ok taken
  | fuel + 1, tokens, taken =>
    match tokens with
    | .option written :: rest => do
      let (taken, rest) ← takeOption options written rest taken
      takeAll options fuel rest taken
    | .unknown :: rest => takeAll options fuel rest { taken with surplus := true }
    | tokens =>
      let (taken, rest) := takeSlots tokens taken
      if rest.any isOption then
        if rest.length < tokens.length then takeAll options fuel rest taken
        else takeAll options fuel (rest.dropWhile fun token => !isOption token)
          { taken with surplus := true }
      else .ok { taken with surplus := taken.surplus || !rest.isEmpty }

def Grammar.parse (grammar : Grammar) (arguments : List String) :
    Except Ending (List (OptionSpec × OptionValue) × List (List String) × Bool) := do
  match tokens? grammar.options arguments with
  | none => throw .wrongUsage
  | some tokens =>
    let taken ← takeAll grammar.options (tokens.length + 1) tokens { open' := grammar.slots }
    if taken.open'.any (· != .atMostOne) then throw .wrongUsage
    return (taken.options.reverse, taken.slots, taken.surplus)

end AbapAtlas.Command
