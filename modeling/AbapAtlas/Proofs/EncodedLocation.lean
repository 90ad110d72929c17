import AbapAtlas.LinePlacement
import AbapAtlas.Proofs.Location

/-! Locations with escapes in them. Decoding takes back any escaping that leaves no percent sign as
it is, so the method that a location names does not depend on which characters are escaped. -/
namespace AbapAtlas
open Text

namespace Text.Percent

def SpellsDigit (value : Nat) (c : Char) : Prop :=
  c = Nat.digitChar value ∨ c = (Nat.digitChar value).toUpper

inductive SpellsBytes : List UInt8 → List Char → Prop where
  | nil : SpellsBytes [] []
  | cons {byte : UInt8} {bytes : List UInt8} {high low : Char} {escapes : List Char}
      (first : SpellsDigit (byte.toNat / 16) high) (second : SpellsDigit (byte.toNat % 16) low) :
      SpellsBytes bytes escapes → SpellsBytes (byte :: bytes) ('%' :: high :: low :: escapes)

/-- That a text is encoded by escaping some of its characters, all percent signs among them: in
place of each one stand the escapes of its bytes in UTF-8. -/
inductive Encodes : List Char → List Char → Prop where
  | nil : Encodes [] []
  | plain {c : Char} {text encoded : List Char} (free : c ≠ '%') :
      Encodes text encoded → Encodes (c :: text) (c :: encoded)
  | escaped {c : Char} {text escapes encoded : List Char}
      (bytes : SpellsBytes (String.utf8EncodeChar c) escapes) :
      Encodes text encoded → Encodes (c :: text) (escapes ++ encoded)

theorem hexValue?_of_spellsDigit {value : Nat} {c : Char} (small : value < 16)
    (spells : SpellsDigit value c) : hexValue? c = some value := by
  have lower : ∀ v < 16, hexValue? (Nat.digitChar v) = some v := by decide
  have upper : ∀ v < 16, hexValue? (Nat.digitChar v).toUpper = some v := by decide
  rcases spells with rfl | rfl
  · exact lower value small
  · exact upper value small

/-- Each escape is read as its byte, whatever follows. -/
theorem pieces_escapes {bytes : List UInt8} {escapes : List Char}
    (spells : SpellsBytes bytes escapes) (rest : List Char) :
    pieces (escapes ++ rest) = bytes.map (fun byte => .byte byte.toNat) ++ pieces rest := by
  induction spells with
  | nil => rfl
  | @cons byte bytes high low escapes first second _ ih =>
    have bound := byte.toNat_lt
    have value : escaped? high low = some byte.toNat := by
      rw [escaped?,hexValue?_of_spellsDigit (by omega) first,
        hexValue?_of_spellsDigit (Nat.mod_lt _ (by omega)) second]
      exact congrArg some (Nat.div_add_mod byte.toNat 16)
    simp only [List.cons_append,pieces,if_true,value,ih,List.map_cons]

section Spell
variable (rest : List Piece)

theorem spell_whole {byte : Nat} (early : byte < 0x80) :
    spell none (.byte byte :: rest) = Char.ofNat byte :: spell none rest := by
  simp [spell,readByte,beginWith,Lead.ofByte,early]

theorem spell_begun {byte : Nat} {begun : Begun} (lead : Lead.ofByte byte = .begun begun) :
    spell none (.byte byte :: rest) = spell (some begun) rest := by
  simp [spell,readByte,beginWith,lead]

section
variable {value missing low high b : Nat} (least : low ≤ b + 128) (greatest : b + 128 ≤ high)
include least greatest

theorem spell_more (more : 1 < missing) :
    spell (some ⟨value,missing,low,high⟩) (.byte (b + 128) :: rest) =
      spell (some ⟨64 * value + b,missing - 1,0x80,0xBF⟩) rest := by
  simp [spell,readByte,least,greatest,Nat.not_le.mpr more]

theorem spell_last : spell (some ⟨value,1,low,high⟩) (.byte (b + 128) :: rest) =
    Char.ofNat (64 * value + b) :: spell none rest := by
  simp [spell,readByte,least,greatest]

end

/-- Two bytes spell a character that one byte could not spell. -/
theorem spell_two {a b : Nat} (long : 2 ≤ a) (short : a < 32) (tail : b < 64) :
    spell none (.byte (a + 192) :: .byte (b + 128) :: rest) =
      Char.ofNat (64 * a + b) :: spell none rest := by
  have lead : Lead.ofByte (a + 192) = .begun ⟨a,1,0x80,0xBF⟩ := by
    rw [Lead.ofByte,if_neg (by omega),if_neg (by omega),if_pos (by omega),Nat.add_sub_cancel]
  rw [spell_begun _ lead,spell_last _ (by omega) (by omega)]

/-- Three bytes spell a character that two bytes could not spell and that is no surrogate. -/
theorem spell_three {a b d : Nat} (short : a < 16) (next : b < 64) (tail : d < 64)
    (long : a = 0 → 32 ≤ b) (proper : a = 13 → b < 32) :
    spell none (.byte (a + 224) :: .byte (b + 128) :: .byte (d + 128) :: rest) =
      Char.ofNat (64 * (64 * a + b) + d) :: spell none rest := by
  have lead : Lead.ofByte (a + 224) = .begun ⟨a,2,if a + 224 = 0xE0 then 0xA0 else 0x80,
      if a + 224 = 0xED then 0x9F else 0xBF⟩ := by
    rw [Lead.ofByte,if_neg (by omega),if_neg (by omega),if_neg (by omega),if_pos (by omega),
      Nat.add_sub_cancel]
  have least : (if a + 224 = 0xE0 then 0xA0 else 0x80) ≤ b + 128 := by split <;> omega
  have greatest : b + 128 ≤ if a + 224 = 0xED then 0x9F else 0xBF := by split <;> omega
  rw [spell_begun _ lead,spell_more _ least greatest (by omega),spell_last _ (by omega) (by omega)]

/-- Four bytes spell a character that three bytes could not spell, up to the last one. -/
theorem spell_four {a b d e : Nat} (short : a < 5) (next : b < 64) (third : d < 64) (tail : e < 64)
    (long : a = 0 → 16 ≤ b) (proper : a = 4 → b < 16) :
    spell none (.byte (a + 240) :: .byte (b + 128) :: .byte (d + 128) :: .byte (e + 128) :: rest) =
      Char.ofNat (64 * (64 * (64 * a + b) + d) + e) :: spell none rest := by
  have lead : Lead.ofByte (a + 240) = .begun ⟨a,3,if a + 240 = 0xF0 then 0x90 else 0x80,
      if a + 240 = 0xF4 then 0x8F else 0xBF⟩ := by
    rw [Lead.ofByte,if_neg (by omega),if_neg (by omega),if_neg (by omega),if_neg (by omega),
      if_pos (by omega),Nat.add_sub_cancel]
  have least : (if a + 240 = 0xF0 then 0x90 else 0x80) ≤ b + 128 := by split <;> omega
  have greatest : b + 128 ≤ if a + 240 = 0xF4 then 0x8F else 0xBF := by split <;> omega
  rw [spell_begun _ lead,spell_more _ least greatest (by omega),
    spell_more _ (by omega) (by omega) (by omega),spell_last _ (by omega) (by omega)]

/-- The bytes of a character in UTF-8 spell that character. -/
theorem spell_utf8 (c : Char) :
    spell none ((String.utf8EncodeChar c).map (fun byte => .byte byte.toNat) ++ rest) =
      c :: spell none rest := by
  have valid : c.toNat < 0xD800 ∨ 0xDFFF < c.toNat ∧ c.toNat < 0x110000 := c.valid
  have number : c.val.toNat = c.toNat := rfl
  have itself : Char.ofNat c.toNat = c := Char.ofNat_toNat c
  have byte : ∀ n < 256, (UInt8.ofNat n).toNat = n := fun n small => Nat.mod_eq_of_lt small
  -- Each branch spreads the bits of the number over its bytes, and reading them joins them again.
  unfold String.utf8EncodeChar
  simp only [number]
  split
  · next one =>
    simp only [List.map_cons,List.map_nil,List.cons_append,List.nil_append,
      byte c.toNat (by omega)]
    rw [spell_whole _ (by omega),itself]
  · split
    · next more two =>
      simp only [List.map_cons,List.map_nil,List.cons_append,List.nil_append,
        byte (c.toNat / 64 % 32 + 192) (by omega),byte (c.toNat % 64 + 128) (by omega)]
      rw [spell_two _ (by omega) (by omega) (by omega)]
      have value : 64 * (c.toNat / 64 % 32) + c.toNat % 64 = c.toNat := by omega
      rw [value,itself]
    · split
      · next more three =>
        simp only [List.map_cons,List.map_nil,List.cons_append,List.nil_append,
          byte (c.toNat / 4096 % 16 + 224) (by omega),byte (c.toNat / 64 % 64 + 128) (by omega),
          byte (c.toNat % 64 + 128) (by omega)]
        rw [spell_three _ (by omega) (by omega) (by omega) (by omega) (by omega)]
        have value : 64 * (64 * (c.toNat / 4096 % 16) + c.toNat / 64 % 64) + c.toNat % 64 =
            c.toNat := by omega
        rw [value,itself]
      · next more =>
        simp only [List.map_cons,List.map_nil,List.cons_append,List.nil_append,
          byte (c.toNat / 262144 % 8 + 240) (by omega),byte (c.toNat / 4096 % 64 + 128) (by omega),
          byte (c.toNat / 64 % 64 + 128) (by omega),byte (c.toNat % 64 + 128) (by omega)]
        rw [spell_four _ (by omega) (by omega) (by omega) (by omega) (by omega) (by omega)]
        have value : 64 * (64 * (64 * (c.toNat / 262144 % 8) + c.toNat / 4096 % 64) +
            c.toNat / 64 % 64) + c.toNat % 64 = c.toNat := by omega
        rw [value,itself]

end Spell

theorem decode_escapes {c : Char} {escapes : List Char}
    (bytes : SpellsBytes (String.utf8EncodeChar c) escapes) (rest : List Char) :
    decode (escapes ++ rest) = c :: decode rest := by
  rw [decode,pieces_escapes bytes,spell_utf8]
  rfl

/-- Decoding takes an encoding back, whichever characters are escaped. -/
theorem decode_of_encodes {text encoded : List Char} (encodes : Encodes text encoded) :
    decode encoded = text := by
  induction encodes with
  | nil => rfl
  | plain free _ ih => rw [decode_cons free,ih]
  | escaped bytes _ ih => rw [decode_escapes bytes,ih]

theorem Encodes.append {text text' encoded encoded' : List Char} (front : Encodes text encoded)
    (back : Encodes text' encoded') : Encodes (text ++ text') (encoded ++ encoded') := by
  induction front with
  | nil => exact back
  | plain free _ ih => exact .plain free ih
  | escaped bytes _ ih =>
    rw [List.cons_append,List.append_assoc]
    exact .escaped bytes ih

theorem encodes_plain {text : List Char} (free : ∀ c ∈ text, c ≠ '%') : Encodes text text := by
  induction text with
  | nil => exact .nil
  | cons c text ih =>
    rw [List.forall_mem_cons] at free
    exact .plain free.1 (ih free.2)

end Text.Percent

namespace Location
open Percent LinePlacement

/-- However a location is encoded, it names the method that is named in the location itself, and
lines are placed in the same block. -/
theorem methodHint?_of_encodes {location first second : String}
    (encodes : Encodes location.toList first.toList)
    (encodes' : Encodes location.toList second.toList) :
    methodHint? first =
      (methodName? location.toList).map (fun name => lower (String.ofList name)) ∧
    methodHint? second = methodHint? first ∧
    ∀ line blocks, block? line blocks (methodHint? second) =
      block? line blocks (methodHint? first) := by
  have own : ∀ {encoded : String}, Encodes location.toList encoded.toList → methodHint? encoded =
      (methodName? location.toList).map (fun name => lower (String.ofList name)) := by
    intro encoded encodes
    rw [methodHint?,decode_of_encodes encodes]
  have same : methodHint? second = methodHint? first := (own encodes').trans (own encodes).symm
  exact ⟨own encodes,same,fun line blocks => by rw [same]⟩

section Example

theorem spellsBytes_percent : SpellsBytes (String.utf8EncodeChar '%') "%25".toList :=
  .cons (.inl rfl) (.inl rfl) .nil

/-- Only the percent sign is escaped. -/
theorem encodes_barely : Encodes "/methods/Zif~Größe%".toList "/methods/Zif~Größe%25".toList := by
  have free : ∀ c ∈ "/methods/Zif~Größe".toList, c ≠ '%' :=
    List.all_iff_forall_prop.mp (by decide)
  exact (encodes_plain free).append (.escaped spellsBytes_percent .nil)

/-- The separators and the letters of two bytes are escaped too. -/
theorem encodes_mostly :
    Encodes "/methods/Zif~Größe%".toList "%2fmethods/Zif%7EGr%C3%B6%c3%9fe%25".toList := by
  have slash : SpellsBytes (String.utf8EncodeChar '/') "%2f".toList :=
    .cons (.inl rfl) (.inl rfl) .nil
  have tilde : SpellsBytes (String.utf8EncodeChar '~') "%7E".toList :=
    .cons (.inl rfl) (.inr rfl) .nil
  have vowel : SpellsBytes (String.utf8EncodeChar 'ö') "%C3%B6".toList :=
    .cons (.inr rfl) (.inl rfl) (.cons (.inr rfl) (.inl rfl) .nil)
  have sharp : SpellsBytes (String.utf8EncodeChar 'ß') "%c3%9f".toList :=
    .cons (.inl rfl) (.inl rfl) (.cons (.inl rfl) (.inl rfl) .nil)
  have words : ∀ word ∈ ["methods/Zif","Gr","e"], Encodes word.toList word.toList := by
    have free : ∀ word ∈ ["methods/Zif","Gr","e"], '%' ∉ word.toList :=
      List.all_iff_forall_prop.mp (by decide)
    intro word member
    refine encodes_plain fun c among percent => free word member ?_
    rw [← percent]
    exact among
  have early : Encodes "~Gr".toList "%7EGr".toList := .escaped tilde (words "Gr" (by simp))
  have late : Encodes "e%".toList "e%25".toList :=
    (words "e" (by simp)).append (.escaped spellsBytes_percent .nil)
  exact .escaped slash ((words "methods/Zif" (by simp)).append
    (early.append (.escaped vowel (.escaped sharp late))))

theorem escaped_method_named :
    methodHint? "/methods/Zif~Größe%25" = some "zif~größe" ∧
    methodHint? "%2fmethods/Zif%7EGr%C3%B6%c3%9fe%25" = some "zif~größe" := by
  obtain ⟨hint,same,_⟩ := methodHint?_of_encodes encodes_barely encodes_mostly
  have name : methodName? "/methods/Zif~Größe%".toList = some "Zif~Größe".toList := by
    decide +kernel
  rw [name] at hint
  have lowered : lower (String.ofList "Zif~Größe".toList) = "zif~größe" := by decide +kernel
  rw [Option.map_some,lowered] at hint
  exact ⟨hint,same.trans hint⟩

end Example

end Location
end AbapAtlas
