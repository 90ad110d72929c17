import AbapAtlas.Document.Datum
import AbapAtlas.Text.Numeral
import AbapAtlas.Text.Percent

/-! The scalar values of TOML: texts, numbers and moments. Each reader takes its value from the
head of a text and gives the rest. -/
namespace AbapAtlas.Toml
open Text Document

inductive Fault where
  | malformed
  | numeral (error : NumeralError)
  | tooDeep
  deriving DecidableEq, Repr

abbrev Reading (α : Type) := Except Fault (α × List Char)

def isControl (c : Char) : Bool := (c.toNat < 0x20 && c != '\t') || c.toNat == 0x7F

def isInlineBlank (c : Char) : Bool := c == ' ' || c == '\t'

def skipInlineBlanks (text : List Char) : List Char := text.dropWhile isInlineBlank

def hexNumber? : (count : Nat) → (value : Nat) → List Char → Option (Nat × List Char)
  | 0, value, text => some (value, text)
  | _ + 1, _, [] => none
  | count + 1, value, c :: rest => do hexNumber? count (16 * value + (← Percent.hexValue? c)) rest

def hexChar (count : Nat) (text : List Char) : Reading (List Char) :=
  match hexNumber? count 0 text with
  | some (value, rest) =>
    if value < 0xD800 ∨ (0xE000 ≤ value ∧ value < 0x110000) then .ok ([Char.ofNat value], rest)
    else .error .malformed
  | none => .error .malformed

def escape (manyLines : Bool) : List Char → Reading (List Char)
  | [] => .error .malformed
  | c :: rest =>
    if manyLines && (isInlineBlank c || c == '\n') then
      match (if c = '\n' then c :: rest else skipInlineBlanks rest) with
      | [] => .ok ([], [])
      | '\n' :: rest => .ok ([], rest.dropWhile fun c => isInlineBlank c || c == '\n')
      | _ => .error .malformed
    else
      match c with
      | 'u' => hexChar 4 rest
      | 'U' => hexChar 8 rest
      | 'b' => .ok (['\x08'], rest)
      | 't' => .ok (['\t'], rest)
      | 'n' => .ok (['\n'], rest)
      | 'f' => .ok (['\x0c'], rest)
      | 'r' => .ok (['\r'], rest)
      | '"' => .ok (['"'], rest)
      | '\\' => .ok (['\\'], rest)
      | _ => .error .malformed

def basicFrom (manyLines : Bool) : (fuel : Nat) → List Char → List Char → Reading (List Char)
  | 0, _, _ => .error .malformed
  | _ + 1, _, [] => .error .malformed
  | fuel + 1, read, c :: rest =>
    if c = '"' then
      if !manyLines then .ok (read.reverse, rest)
      else if rest.take 2 = ['"', '"'] then .ok (read.reverse, rest.drop 2)
      else basicFrom manyLines fuel (c :: read) rest
    else if c = '\\' then
      match escape manyLines rest with
      | .ok (characters, rest) => basicFrom manyLines fuel (characters.reverse ++ read) rest
      | .error fault => .error fault
    else if isControl c && !(manyLines && c == '\n') then .error .malformed
    else basicFrom manyLines fuel (c :: read) rest

def basic (manyLines : Bool) (text : List Char) : Reading (List Char) :=
  basicFrom manyLines (text.length + 1) [] text

def literal (text : List Char) : Reading (List Char) :=
  let content := text.takeWhile (· != '\'')
  match text.dropWhile (· != '\'') with
  | [] => .error .malformed
  | _ :: rest => if content.any isControl then .error .malformed else .ok (content, rest)

def literalLines : List Char → Reading (List Char)
  | [] => .error .malformed
  | c :: rest =>
    if c = '\'' ∧ rest.take 2 = ['\'', '\''] then .ok ([], rest.drop 2)
    else if isControl c && c != '\n' then .error .malformed
    else (literalLines rest).map fun (content, rest) => (c :: content, rest)

def withMoreQuotes (quote : Char) (content rest : List Char) : List Char × List Char :=
  -- Up to two more quotes after the closing ones belong to the text.
  match rest with
  | a :: b :: more =>
    if a = quote ∧ b = quote then (content ++ [quote, quote], more)
    else if a = quote then (content ++ [quote], b :: more)
    else (content, rest)
  | [a] => if a = quote then (content ++ [quote], []) else (content, rest)
  | [] => (content, [])

def dropFirstLineEnd : List Char → List Char
  | '\n' :: rest => rest
  | text => text

def quoted? (text : List Char) : Option (Reading (List Char)) :=
  match text with
  | '"' :: '"' :: '"' :: rest =>
    some ((basic true (dropFirstLineEnd rest)).map fun (content, rest) =>
      withMoreQuotes '"' content rest)
  | '"' :: rest => some (basic false rest)
  | '\'' :: '\'' :: '\'' :: rest =>
    some ((literalLines (dropFirstLineEnd rest)).map fun (content, rest) =>
      withMoreQuotes '\'' content rest)
  | '\'' :: rest => some (literal rest)
  | _ => none

def groupedRun (test : Char → Bool) : List Char → List Char × List Char
  | [] => ([], [])
  | [c] => if test c then ([c], []) else ([], [c])
  | c :: d :: rest =>
    if !test c then ([], c :: d :: rest)
    else if d = '_' ∧ (rest.head?.any test) then
      let (digits, rest) := groupedRun test rest
      (c :: digits, rest)
    else
      let (digits, rest) := groupedRun test (d :: rest)
      (c :: digits, rest)

def digitsValue (radix : Nat) (digits : List Char) : Nat :=
  digits.foldl (fun value c => radix * value + (Percent.hexValue? c).getD 0) 0

def radixNumber? (text : List Char) : Option (Nat × List Char) :=
  let reading (radix : Nat) (rest : List Char) : Option (Nat × List Char) :=
    let (digits, rest) := groupedRun
      (fun c => (Percent.hexValue? c).any (· < radix)) rest
    if digits = [] then none else some (digitsValue radix digits, rest)
  match text with
  | 'x' :: rest => reading 16 rest
  | 'o' :: rest => reading 8 rest
  | 'b' :: rest => reading 2 rest
  | _ => none

def fraction (text : List Char) : List Char × List Char :=
  match text with
  | '.' :: rest =>
    let (digits, after) := groupedRun Char.isDigit rest
    if digits = [] then ([], text) else (digits, after)
  | _ => ([], text)

def exponent (text : List Char) : Option Int × List Char :=
  match text with
  | mark :: rest =>
    if mark = 'e' ∨ mark = 'E' then
      let (negative, unsigned) := splitSign rest
      let (digits, after) := groupedRun Char.isDigit unsigned
      if digits = [] then (none, text)
      else (some (withSign negative (digitsValue 10 digits)), after)
    else (none, text)
  | [] => (none, [])

def decimal? (text : List Char) : Option (Reading Datum) :=
  let (negative, unsigned) := splitSign text
  let (whole, rest) :=
    match unsigned with
    | '0' :: rest => (['0'], rest)
    | _ => groupedRun Char.isDigit unsigned
  if whole = [] then none
  else
    let (places, rest) := fraction rest
    match exponent rest with
    | (none, rest) =>
      if places = [] then
        match readDigits (whole.filterMap Percent.hexValue?) with
        | .ok n => some (.ok (.int (withSign negative n), rest))
        | .error error => some (.error (.numeral error))
      else some (.ok (.float (.ofDecimal negative (digitsValue 10 (whole ++ places))
        (-places.length)), rest))
    | (some power, rest) =>
      some (.ok (.float (.ofDecimal negative (digitsValue 10 (whole ++ places))
        (power - places.length)), rest))

def fixedDigits? (count : Nat) (text : List Char) : Option (Nat × List Char) :=
  let digits := text.take count
  if digits.length = count ∧ digits.all Char.isDigit then
    some (digitsValue 10 digits, text.drop count)
  else none

def sign? (c : Char) : List Char → Option (List Char)
  | d :: rest => if d = c then some rest else none
  | [] => none

def time? (text : List Char) : Option (List Char) := do
  let (hour, rest) ← fixedDigits? 2 text
  let (minute, rest) ← fixedDigits? 2 (← sign? ':' rest)
  let (second, rest) ← fixedDigits? 2 (← sign? ':' rest)
  if hour < 24 ∧ minute < 60 ∧ second < 60 then
    match rest with
    | '.' :: d :: more => if d.isDigit then some (more.dropWhile Char.isDigit) else some rest
    | _ => some rest
  else none

def dropOffset (text : List Char) : List Char :=
  match text with
  | c :: rest =>
    if c = 'Z' ∨ c = 'z' then rest
    else if c = '+' ∨ c = '-' then
      (do
        let (hour, rest) ← fixedDigits? 2 rest
        let (minute, rest) ← fixedDigits? 2 (← sign? ':' rest)
        if hour < 24 ∧ minute < 60 then some rest else none).getD text
    else text
  | [] => []

def daysIn (year month : Nat) : Nat :=
  if month = 2 then (if year % 4 = 0 ∧ (year % 100 ≠ 0 ∨ year % 400 = 0) then 29 else 28)
  else if month = 4 ∨ month = 6 ∨ month = 9 ∨ month = 11 then 30
  else 31

def date? (text : List Char) : Option (Except Fault (List Char)) := do
  let (year, rest) ← fixedDigits? 4 text
  let (month, rest) ← fixedDigits? 2 (← sign? '-' rest)
  let (day, rest) ← fixedDigits? 2 (← sign? '-' rest)
  if 1 ≤ month ∧ month ≤ 12 ∧ 1 ≤ day ∧ day ≤ 31 then
    let rest :=
      match rest with
      | c :: after =>
        if c = 'T' ∨ c = 't' ∨ c = ' ' then ((time? after).map dropOffset).getD rest else rest
      | [] => []
    if year = 0 ∨ daysIn year month < day then some (.error .malformed) else some (.ok rest)
  else none

def moment? (text : List Char) : Option (Reading Datum) :=
  let taken (rest : List Char) : Datum :=
    .moment (String.ofList (text.take (text.length - rest.length)))
  match date? text with
  | some (.ok rest) => some (.ok (taken rest, rest))
  | some (.error fault) => some (.error fault)
  | none => (time? text).map fun rest => .ok (taken rest, rest)

def words : List (List Char × Datum) :=
  [("true".toList, .bool true), ("false".toList, .bool false)]

def specialNumbers : List (List Char × Datum) :=
  [("inf".toList, .float (.infinite false)), ("nan".toList, .float .undefined),
   ("-inf".toList, .float (.infinite true)), ("+inf".toList, .float (.infinite false)),
   ("-nan".toList, .float .undefined), ("+nan".toList, .float .undefined)]

def word? (known : List (List Char × Datum)) (text : List Char) : Option (Reading Datum) :=
  (known.find? fun word => word.1.isPrefixOf text).map fun word =>
    .ok (word.2, text.drop word.1.length)

def number? (text : List Char) : Option (Reading Datum) :=
  match text with
  | '0' :: rest =>
    match radixNumber? rest with
    | some (value, rest) => some (.ok (.int value, rest))
    | none => decimal? text
  | _ => decimal? text

def scalar (text : List Char) : Reading Datum :=
  match quoted? text with
  | some reading => reading.map fun (content, rest) => (.text (String.ofList content), rest)
  | none =>
    (((word? words text <|> moment? text) <|> number? text) <|>
      word? specialNumbers text).getD (.error .malformed)

end AbapAtlas.Toml
