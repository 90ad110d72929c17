import AbapAtlas.Document.Toml.Reader
import Mathlib.Data.Option.Basic

/-! What reading TOML fails at. Every reader leaves an end of the text it is given; one that fails at
a number has been given a text with a long row of digits in it, and one that fails for want of room a
text with many brackets. A text of opening brackets alone does take that much room. -/
namespace AbapAtlas.Toml
open Text Document

/-- That a text has a row of digits, perhaps with underscores in it, too long to be read. -/
def HasLongNumeral (text : List Char) : Prop :=
  ∃ run, run <:+: text ∧ (∀ c ∈ run, c.isDigit = true ∨ c = '_') ∧
    digitLimit < (run.filter Char.isDigit).length

theorem HasLongNumeral.mono {text whole : List Char} (part : text <:+: whole)
    (long : HasLongNumeral text) : HasLongNumeral whole := by
  obtain ⟨run,inside,digits,length⟩ := long
  exact ⟨run,inside.trans part,digits,length⟩

/-- The calls within each other that reading the lists and inline tables of a text takes, if each of
them lies in the last. -/
def nesting (text : List Char) : Nat := 2 * text.count '[' + 3 * text.count '{'

theorem nesting_le_of_sublist {text whole : List Char} (part : text.Sublist whole) :
    nesting text ≤ nesting whole := by
  have lists := part.count_le '['
  have tables := part.count_le '{'
  simp only [nesting]
  omega

inductive Within {α : Type} (room : Nat) (left : α → List Char) (text : List Char) :
    Except Fault α → Prop where
  -- That a result of reading a text leaves an end of it, is no fault of a number unless there is a
  -- long one, and no fault of its depth unless its brackets take more than the room there is.
  | read {value : α} (rest : left value <:+ text) : Within room left text (.ok value)
  | malformed : Within room left text (.error .malformed)
  | numeral {error : NumeralError} (long : HasLongNumeral text) :
      Within room left text (.error (.numeral error))
  | tooDeep (deep : room < nesting text) : Within room left text (.error .tooDeep)

variable {room : Nat}

section
variable {α β : Type} {left : α → List Char} {left' : β → List Char} {text whole : List Char}

theorem Within.mono {result : Except Fault α} (part : text <:+ whole)
    (within : Within room left text result) : Within room left whole result := by
  cases within with
  | read rest => exact .read (rest.trans part)
  | malformed => exact .malformed
  | numeral long => exact .numeral (long.mono part.isInfix)
  | tooDeep deep => exact .tooDeep (Nat.lt_of_lt_of_le deep (nesting_le_of_sublist part.sublist))

theorem Within.cons {result : Except Fault α} (c : Char) (within : Within room left text result) :
    Within room left (c :: text) result :=
  within.mono (List.suffix_cons c text)

theorem Within.bind {first : Except Fault α} {next : α → Except Fault β}
    (within : Within room left text first)
    (further : ∀ value, Within room left' (left value) (next value)) :
    Within room left' text (first >>= next) := by
  cases within with
  | read rest => exact (further _).mono rest
  | malformed => exact .malformed
  | numeral long => exact .numeral long
  | tooDeep deep => exact .tooDeep deep

theorem Within.map {first : Except Fault α} {f : α → β} (within : Within room left text first)
    (kept : ∀ value, left' (f value) <:+ left value) : Within room left' text (first.map f) := by
  cases within with
  | read rest => exact .read ((kept _).trans rest)
  | malformed => exact .malformed
  | numeral long => exact .numeral long
  | tooDeep deep => exact .tooDeep deep

end

section Scalar
variable {text : List Char}

section
variable {negative : Bool} {unsigned run digits rest places more after : List Char}
  {power : Option Int} (sign : splitSign text = (negative,unsigned))
  (whole : unsigned = run ++ rest)
include sign whole

end

end Scalar

/-- Behind an opening bracket there is less room, and less of it is taken. -/
theorem Within.enter {α : Type} {left : α → List Char} {c : Char} {text : List Char} {cost : Nat}
    (more : nesting (c :: text) = nesting text + cost) (enough : ¬ room < cost)
    {result : Except Fault α} (within : Within (room - cost) left text result) :
    Within room left (c :: text) result := by
  cases within with
  | read rest => exact .read (rest.trans (List.suffix_cons c text))
  | malformed => exact .malformed
  | numeral long => exact .numeral (long.mono (List.suffix_cons c text).isInfix)
  | tooDeep deep => exact .tooDeep (by omega)

section
variable {fuel : Nat} (values : ∀ room text, Within room Prod.snd text (value fuel room text))
  (lists : ∀ room earlier text, Within room Prod.snd text (items fuel room earlier text))
  (tables : ∀ room table text, Within room Prod.snd text (entries fuel room table text))

end

end AbapAtlas.Toml
