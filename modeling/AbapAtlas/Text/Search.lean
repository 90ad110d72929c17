/-! Searching a text from the left, with literals in any letter case. -/
namespace AbapAtlas.Text

/-- Whether a character is the given lower-case letter in some case. The long s and the two
Turkic letters i count as cases of s and i, and the kelvin sign as a case of k. -/
def isCaseOf (letter c : Char) : Bool :=
  c == letter || c == letter.toUpper ||
  match letter with
  | 's' => c == 'ſ'
  | 'i' => c == 'İ' || c == 'ı'
  | 'k' => c == '\u212a'
  | _ => false

def dropLiteral? (same : Char → Char → Bool) : List Char → List Char → Option (List Char)
  | [], text => some text
  | _ :: _, [] => none
  | l :: literal, c :: text => if same l c then dropLiteral? same literal text else none

def firstAt {α : Type} (read : List Char → Option α) : List Char → Option α
  | [] => read []
  | c :: rest =>
    match read (c :: rest) with
    | some answer => some answer
    | none => firstAt read rest

def run? (test : Char → Bool) (text : List Char) : Option (List Char) :=
  match text.takeWhile test with
  | [] => none
  | c :: rest => some (c :: rest)

end AbapAtlas.Text
