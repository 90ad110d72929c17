import AbapAtlas.Document.Datum
import AbapAtlas.Text.Numeral
import AbapAtlas.Text.Percent

/-! The tokens of JSON: punctuation, quoted texts, and words, which are the runs of other
characters between them. -/
namespace AbapAtlas.Json
open Text Document

inductive Token where
  | openList | closeList | openTable | closeTable | colon | comma
  | text (value : String)
  | scalar (value : Datum)
  deriving Repr

def punctuation? : Char → Option Token
  | '[' => some .openList
  | ']' => some .closeList
  | '{' => some .openTable
  | '}' => some .closeTable
  | ':' => some .colon
  | ',' => some .comma
  | _ => none

def isSpace (c : Char) : Bool := c == ' ' || c == '\n' || c == '\r' || c == '\t'

def asciiDigit? (c : Char) : Option Nat := if c.isDigit then some (c.toNat - 48) else none

def digitsOf (text : List Char) : List Nat := (text.takeWhile Char.isDigit).filterMap asciiDigit?

def afterDigits (text : List Char) : List Char := text.dropWhile Char.isDigit

def double? (negative : Bool) (digits : Nat) (exponent : Int) : Option Datum :=
  match Binary64.ofDecimal negative digits exponent with
  | .infinite _ => none
  | value => some (.float value)

def integer? (negative : Bool) (n : Nat) : Option Datum :=
  -- Integers are exact from -2^63 to 2^64 - 1; beyond, the nearest double takes their place, if
  -- there is one.
  if (if negative then n ≤ Datum.signedLimit else n < Datum.unsignedLimit) then
    some (.int (withSign negative n))
  else double? negative n 0

def exponent? : List Char → Option Int
  | [] => some 0
  | mark :: rest =>
    if mark = 'e' ∨ mark = 'E' then
      let (negative, digits) := splitSign rest
      if digits.isEmpty || !(afterDigits digits).isEmpty then none
      else some (withSign negative (ofDigits (digitsOf digits)))
    else none

def unsigned? (negative : Bool) (text : List Char) : Option Datum :=
  let whole := digitsOf text
  if whole.isEmpty || (whole.head? == some 0 && whole.length != 1) then none
  else
    match afterDigits text with
    | [] => integer? negative (ofDigits whole)
    | '.' :: rest =>
      let fraction := digitsOf rest
      if fraction.isEmpty then none
      else (exponent? (afterDigits rest)).bind fun e =>
        double? negative (ofDigits (whole ++ fraction)) (e - fraction.length)
    | rest => (exponent? rest).bind (double? negative (ofDigits whole))

def word? (word : List Char) : Option Datum :=
  match String.ofList word with
  | "null" => some .null
  | "true" => some (.bool true)
  | "false" => some (.bool false)
  | _ =>
    match word with
    | '-' :: rest => unsigned? true rest
    | rest => unsigned? false rest

inductive Lexing where
  | between
  | word (read : List Char)
  | text (read : List Char)
  | escape (read : List Char)
  -- Within the four digits of a code unit; `high` is the first half of a surrogate pair.
  | unit (read : List Char) (high : Option Nat) (missing value : Nat)
  -- After the first half of a surrogate pair, before the backslash of the second.
  | half (read : List Char) (high : Nat)
  | halfEscape (read : List Char) (high : Nat)

def escaped? : Char → Option Char
  | '"' => some '"'
  | '\\' => some '\\'
  | '/' => some '/'
  | 'b' => some '\x08'
  | 'f' => some '\x0c'
  | 'n' => some '\n'
  | 'r' => some '\r'
  | 't' => some '\t'
  | _ => none

def endUnit (read : List Char) (high : Option Nat) (value : Nat) : Option Lexing :=
  -- Ends a code unit. Halves of surrogate pairs have to come in order and together.
  match high with
  | none =>
    if 0xD800 ≤ value ∧ value < 0xDC00 then some (.half read value)
    else if 0xDC00 ≤ value ∧ value < 0xE000 then none
    else some (.text (Char.ofNat value :: read))
  | some high =>
    if 0xDC00 ≤ value ∧ value < 0xE000 then
      some (.text (Char.ofNat (0x10000 + (high - 0xD800) * 0x400 + (value - 0xDC00)) :: read))
    else none

def readBetween (c : Char) : Option (List Token × Lexing) :=
  match punctuation? c with
  | some token => some ([token], .between)
  | none =>
    if isSpace c then some ([], .between)
    else if c = '"' then some ([], .text [])
    else some ([], .word [c])

def Lexing.read (c : Char) : Lexing → Option (List Token × Lexing)
  | .between => readBetween c
  | .word read =>
    if (punctuation? c).isSome || isSpace c || c == '"' then do
      let value ← word? read.reverse
      let (tokens, next) ← readBetween c
      return (.scalar value :: tokens, next)
    else some ([], .word (c :: read))
  | .text read =>
    if c = '"' then some ([.text (String.ofList read.reverse)], .between)
    else if c = '\\' then some ([], .escape read)
    else if c.toNat < 0x20 then none
    else some ([], .text (c :: read))
  | .escape read =>
    if c = 'u' then some ([], .unit read none 4 0)
    else (escaped? c).map fun e => ([], .text (e :: read))
  | .unit read high missing value => do
    let value := 16 * value + (← Percent.hexValue? c)
    if missing ≤ 1 then return ([], ← endUnit read high value)
    else return ([], .unit read high (missing - 1) value)
  | .half read high => if c = '\\' then some ([], .halfEscape read high) else none
  | .halfEscape read high => if c = 'u' then some ([], .unit read (some high) 4 0) else none

def tokensFrom (lexing : Lexing) : List Char → Option (List Token)
  | [] =>
    match lexing with
    | .between => some []
    | .word read => (word? read.reverse).map fun value => [.scalar value]
    | _ => none
  | c :: rest => do
    let (tokens, next) ← lexing.read c
    return tokens ++ (← tokensFrom next rest)

def tokens? (text : List Char) : Option (List Token) := tokensFrom .between text

end AbapAtlas.Json
