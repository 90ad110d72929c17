import AbapAtlas.Path
import AbapAtlas.Text.Parts

/-! Rules of an ignore file. A rule has a pattern with wildcards, may be tied to the top or meant
for folders only, and may be negated, in which case it takes back what earlier rules ignore. -/
namespace AbapAtlas.Ignore
open Text

inductive Fault where
  | notUtf8
  -- Nothing is left of a pattern, or of a set of characters, where its ends are looked at.
  | emptyPattern
  | badSet
  | outside (path folder : Path)
  deriving DecidableEq, Repr

structure CharSet where
  negated : Bool
  ranges : List (Char × Char)
  deriving DecidableEq, Repr

def CharSet.contains (set : CharSet) (c : Char) : Bool :=
  set.ranges.any (fun range => range.1 ≤ c && c ≤ range.2) != set.negated

inductive Piece where
  | char (c : Char)
  -- A question mark: one character of a name.
  | inName
  -- An asterisk: any part of a name.
  | partOfName
  -- Two asterisks: any part of a path.
  | partOfPath
  -- Two asterisks and a slash: any folders, each with its slash.
  | folders
  | bracketed (text : List Char)
  deriving DecidableEq, Repr

inductive Glob where
  | char (c : Char)
  | inName
  | partOfName
  | partOfPath
  | folders
  | oneOf (set : CharSet)
  | manyOf (set : CharSet)
  | unusable
  deriving DecidableEq, Repr

structure Rule where
  negated : Bool
  foldersOnly : Bool
  anchored : Bool
  pattern : List Glob
  deriving DecidableEq, Repr

def joinTrailingStars (within : Bool) : List Char → List Char
  | [] => []
  | c :: rest =>
    if within && c == '*' then joinTrailingStars true rest
    else if c ≠ '/' ∧ rest.take 2 = ['*', '*'] then c :: '*' :: joinTrailingStars true rest
    else c :: joinTrailingStars false rest

def joinLeadingStars (within : Bool) : List Char → List Char
  | [] => []
  | c :: rest =>
    if c ≠ '*' then c :: joinLeadingStars false rest
    else if within then joinLeadingStars true rest
    else if rest.head? ≠ some '*' then '*' :: joinLeadingStars false rest
    else
      match (rest.dropWhile (· == '*')).head? with
      | none => '*' :: '*' :: joinLeadingStars true rest
      | some next =>
        if next = '/' then '*' :: '*' :: joinLeadingStars true rest
        else '*' :: joinLeadingStars true rest

/-- Strips blanks from the end of a pattern that is given last character first. A backslash keeps
the blank after it, and all before that one; the first two characters always stay. -/
def stripEnd (strip : Bool) : List Char → List Char
  | ' ' :: '\\' :: c :: rest => ' ' :: stripEnd false (c :: rest)
  | ' ' :: b :: c :: rest =>
    if strip then stripEnd true (b :: c :: rest) else ' ' :: stripEnd false (b :: c :: rest)
  | text => text

def setBody? (text : List Char) : Option (List Char) :=
  -- The text of a set of characters after its opening bracket. A bracket that comes first, or first
  -- after an exclamation mark, does not close the set.
  let mark := if text.head? = some '!' then 1 else 0
  let lead := if text[mark]? = some ']' then mark + 1 else mark
  let body := text.take lead ++ (text.drop lead).takeWhile (· != ']')
  if body.length < text.length then some body else none

def ranges? : List Char → Option (List (Char × Char))
  | [] => some []
  | first :: '-' :: last :: rest =>
    if last < first then none else (ranges? rest).map ((first, last) :: ·)
  | c :: rest => (ranges? rest).map ((c, c) :: ·)

def setOf (negated : Bool) (text : List Char) : Glob :=
  match ranges? text with
  | some (range :: more) => .oneOf ⟨negated, range :: more⟩
  | _ => .unusable

def pieces : List Char → Except Fault (List Piece)
  -- The pieces of a pattern. A set matches no slash that is written in it.
  | [] => .ok []
  | '*' :: '*' :: '/' :: rest => (pieces rest).map (.folders :: ·)
  | '*' :: '*' :: rest => (pieces rest).map (.partOfPath :: ·)
  | '*' :: rest => (pieces rest).map (.partOfName :: ·)
  | '?' :: rest => (pieces rest).map (.inName :: ·)
  | '[' :: rest =>
    match setBody? rest with
    | none => (pieces rest).map (.char '[' :: ·)
    | some body =>
      match body.filter (· != '/') with
      | [] => .error .emptyPattern
      | text => (pieces (rest.drop (body.length + 1))).map (.bracketed text :: ·)
  | c :: rest => (pieces rest).map (.char c :: ·)
  termination_by text => text.length

def spelled : List Char → List Char
  | '!' :: rest => '^' :: rest
  | text => text

/-- What pieces match. A set that excludes nothing stays open: the characters it excludes, in
`excluded`, are a closing bracket and those of the pieces after it, as these are spelled, up to
the first closing bracket of theirs. -/
def globs (excluded : Option (List (Char × Char))) : List Piece → List Glob
  | [] => if excluded.isSome then [.unusable] else []
  | piece :: rest =>
    match excluded, piece with
    | none, .char c => .char c :: globs none rest
    | none, .inName => .inName :: globs none rest
    | none, .partOfName => .partOfName :: globs none rest
    | none, .partOfPath => .partOfPath :: globs none rest
    | none, .folders => .folders :: globs none rest
    | none, .bracketed ['!'] => globs (some [(']', ']')]) rest
    | none, .bracketed ('!' :: text) => setOf true text :: globs none rest
    | none, .bracketed text => setOf false text :: globs none rest
    | some ranges, .char c =>
      if c = '/' then .oneOf ⟨true, ('[', '[') :: ('/', '/') :: ranges⟩ :: globs none rest
      else globs (some ((c, c) :: ranges)) rest
    | some ranges, .inName =>
      .oneOf ⟨true, ('[', '[') :: ('^', '^') :: ('/', '/') :: ranges⟩ :: globs none rest
    | some ranges, .partOfName =>
      .manyOf ⟨true, ('[', '[') :: ('^', '^') :: ('/', '/') :: ranges⟩ :: globs none rest
    | some ranges, .partOfPath => globs (some (('.', '.') :: ('*', '*') :: ranges)) rest
    | some _, .folders => [.unusable]
    | some ranges, .bracketed text =>
      match if text.contains ']' then none else ranges? ('[' :: spelled text) with
      | some more => .oneOf ⟨true, more ++ ranges⟩ :: globs none rest
      | none => [.unusable]

def dropSlash : List Char → Except Fault (List Char)
  | [] => .error .emptyPattern
  | c :: rest => .ok (if c = '/' then rest else c :: rest)

def dropEscape : List Char → Except Fault (List Char)
  | [] => .error .emptyPattern
  | ['\\'] => .error .emptyPattern
  | '\\' :: c :: rest => .ok (if c = '#' ∨ c = '!' then c :: rest else '\\' :: c :: rest)
  | text => .ok text

def Rule.ofPattern (negated : Bool) (pattern : List Char) : Except Fault (Option Rule) := do
  if dropEnd isBlank pattern = ['/'] then return none
  if pattern = [] then throw .emptyPattern
  let foldersOnly := pattern.getLast? == some '/'
  let anchored := pattern.dropLast.contains '/'
  let text ← dropSlash pattern
  if text = [] then throw .emptyPattern
  let free := text.take 2 == ['*', '*']
  let text ← dropSlash (if free then text.drop 2 else text)
  if text = [] then throw .emptyPattern
  let text ← dropEscape (if text.getLast? = some '/' then text.dropLast else text)
  let pattern ← pieces (stripEnd true text.reverse).reverse
  return some ⟨negated, foldersOnly, anchored && !free, globs none pattern⟩

def Rule.ofLine (line : String) : Except Fault (Option Rule) :=
  match line.toList with
  | [] => .ok none
  | c :: rest =>
    if (c :: rest).all isBlank ∨ c = '#' then .ok none
    else
      let text := if c = '!' then rest else c :: rest
      Rule.ofPattern (c == '!') (joinLeadingStars false (joinTrailingStars false text))

end AbapAtlas.Ignore
