/-! Percent encoding. An escape is a percent sign and two hexadecimal digits and stands for one
byte; neighbouring escapes spell characters in UTF-8. What spells no character is read as the
replacement character, once for every longest piece that could have begun one. -/
namespace AbapAtlas.Text.Percent

inductive Piece where
  | plain (c : Char)
  | byte (value : Nat)
  deriving DecidableEq, Repr

def hexValue? (c : Char) : Option Nat :=
  if '0' ≤ c ∧ c ≤ '9' then some (c.toNat - 48)
  else if 'A' ≤ c ∧ c ≤ 'F' then some (c.toNat - 55)
  else if 'a' ≤ c ∧ c ≤ 'f' then some (c.toNat - 87)
  else none

def escaped? (high low : Char) : Option Nat := do return 16 * (← hexValue? high) + (← hexValue? low)

def pieces : List Char → List Piece
  -- A percent sign without two hexadecimal digits stands for itself.
  | [] => []
  | [a] => [.plain a]
  | [a, b] => [.plain a, .plain b]
  | a :: b :: c :: rest =>
    if a = '%' then
      match escaped? b c with
      | some value => .byte value :: pieces rest
      | none => .plain a :: pieces (b :: c :: rest)
    else .plain a :: pieces (b :: c :: rest)

/-- A character of which some bytes are still to come. The next one has to lie from `low` to
`high`, which keeps out long spellings, surrogates and numbers beyond the last character. -/
structure Begun where
  value : Nat
  missing : Nat
  low : Nat
  high : Nat
  deriving DecidableEq, Repr

inductive Lead where
  | whole (c : Char)
  | begun (start : Begun)
  | stray
  deriving DecidableEq, Repr

def Lead.ofByte (byte : Nat) : Lead :=
  if byte < 0x80 then .whole (Char.ofNat byte)
  else if byte < 0xC2 then .stray
  else if byte < 0xE0 then .begun ⟨byte - 0xC0, 1, 0x80, 0xBF⟩
  else if byte < 0xF0 then
    .begun ⟨byte - 0xE0, 2, if byte = 0xE0 then 0xA0 else 0x80, if byte = 0xED then 0x9F else 0xBF⟩
  else if byte < 0xF5 then
    .begun ⟨byte - 0xF0, 3, if byte = 0xF0 then 0x90 else 0x80, if byte = 0xF4 then 0x8F else 0xBF⟩
  else .stray

def replacement : Char := '\uFFFD'

def cutOff : Option Begun → List Char
  | none => []
  | some _ => [replacement]

def beginWith (byte : Nat) : List Char × Option Begun :=
  match Lead.ofByte byte with
  | .whole c => ([c], none)
  | .begun start => ([], some start)
  | .stray => ([replacement], none)

def readByte (begun : Option Begun) (byte : Nat) : List Char × Option Begun :=
  match begun with
  | none => beginWith byte
  | some b =>
    if b.low ≤ byte ∧ byte ≤ b.high then
      let value := 64 * b.value + (byte - 0x80)
      if b.missing ≤ 1 then ([Char.ofNat value], none)
      else ([], some ⟨value, b.missing - 1, 0x80, 0xBF⟩)
    else
      let (characters, next) := beginWith byte
      (replacement :: characters, next)

def spell (begun : Option Begun) : List Piece → List Char
  | [] => cutOff begun
  | .plain c :: rest => cutOff begun ++ c :: spell none rest
  | .byte value :: rest =>
    let (characters, next) := readByte begun value
    characters ++ spell next rest

def decode (text : List Char) : List Char := spell none (pieces text)

end AbapAtlas.Text.Percent
