/-! Parts of a text: what lies between separators, its lines, and what is left of it without the
blanks at its ends. A line ends in a line feed, a carriage return or both in that order. -/
namespace AbapAtlas.Text

def cutAt (separator : Char) : List Char → List (List Char)
  | [] => [[]]
  | c :: rest =>
    match cutAt separator rest with
    | [] => [[c]]
    | part :: more => if c = separator then [] :: part :: more else (c :: part) :: more

def unifyLineEnds : List Char → List Char
  | [] => []
  | '\r' :: '\n' :: rest => '\n' :: unifyLineEnds rest
  | c :: rest => (if c = '\r' then '\n' else c) :: unifyLineEnds rest

def lines (text : String) : List String :=
  (cutAt '\n' (unifyLineEnds text.toList)).map String.ofList

def isBlank (c : Char) : Bool :=
  (9 ≤ c.toNat && c.toNat ≤ 13) || (28 ≤ c.toNat && c.toNat ≤ 32) ||
  (0x2000 ≤ c.toNat && c.toNat ≤ 0x200A) ||
  [0x85, 0xA0, 0x1680, 0x2028, 0x2029, 0x202F, 0x205F, 0x3000].contains c.toNat

def dropEnd (test : Char → Bool) (text : List Char) : List Char :=
  (text.reverse.dropWhile test).reverse

def trimBy (test : Char → Bool) (text : String) : String :=
  String.ofList (dropEnd test (text.toList.dropWhile test))

def trim (text : String) : String := trimBy isBlank text

end AbapAtlas.Text
