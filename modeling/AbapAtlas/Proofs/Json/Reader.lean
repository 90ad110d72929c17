import AbapAtlas.Document.Json.Reader
import AbapAtlas.Proofs.Json.Token
import Mathlib.Data.Bool.AllAny

/-! Values that are printed and read again. Printing is taken apart into tokens, from which the
stack of open lists and tables rebuilds the value. -/
namespace AbapAtlas.Json
open Document
variable {depth level : Nat} {rest : List Char} {more : List Token} {value : Datum}

/-- A value that keeps what it is when it is written: its integers have 64 bits, its tables have each
key once, and lists and tables lie at most `depth` deep in one another. -/
inductive Storable : Nat → Datum → Prop where
  | null {depth : Nat} : Storable depth .null
  | bool {depth : Nat} (value : Bool) : Storable depth (.bool value)
  | int {depth : Nat} {n : Int} (fits : fitsInt n = true) : Storable depth (.int n)
  | text {depth : Nat} (value : String) : Storable depth (.text value)
  | list {depth : Nat} {items : List Datum} (each : ∀ item ∈ items, Storable depth item) :
      Storable (depth + 1) (.list items)
  | table {depth : Nat} {fields : List (String × Datum)} (keys : (fields.map Prod.fst).Nodup)
      (each : ∀ field ∈ fields, Storable depth field.2) : Storable (depth + 1) (.table fields)

theorem fitsAll_iff {items : List Datum} :
    fitsAll items = true ↔ ∀ item ∈ items, fits item = true := by
  induction items with
  | nil => simp [fitsAll]
  | cons item items ih => rw [fitsAll,Bool.and_eq_true,ih,List.forall_mem_cons]

theorem fitsFields_iff {fields : List (String × Datum)} :
    fitsFields fields = true ↔ ∀ field ∈ fields, fits field.2 = true := by
  induction fields with
  | nil => simp [fitsFields]
  | cons field fields ih => rw [fitsFields,Bool.and_eq_true,ih,List.forall_mem_cons]

theorem Storable.fits (storable : Storable depth value) : Json.fits value = true := by
  induction storable with
  | null | bool | text => rw [Json.fits] <;> simp
  | int fits => rwa [Json.fits]
  | list each ih => rw [Json.fits,fitsAll_iff]; exact ih
  | table keys each ih => rw [Json.fits,fitsFields_iff]; exact ih

mutual
def tokensOf : Datum → List Token
  | .text value => [.text value]
  | .moment text => [.text text]
  | .list [] => [.openList,.closeList]
  | .list (item :: rest) => .openList :: (tokensOf item ++ (tokensOfItems rest ++ [.closeList]))
  | .table [] => [.openTable,.closeTable]
  | .table ((key,value) :: rest) =>
    .openTable :: .text key :: .colon :: (tokensOf value ++ (tokensOfFields rest ++ [.closeTable]))
  | value => [.scalar value]

def tokensOfItems : List Datum → List Token
  | [] => []
  | item :: rest => .comma :: (tokensOf item ++ tokensOfItems rest)

def tokensOfFields : List (String × Datum) → List Token
  | [] => []
  | (key,value) :: rest => .comma :: .text key :: .colon :: (tokensOf value ++ tokensOfFields rest)
end

section Printed

def Lexed (value : Datum) : Prop :=
  ∀ level rest more, Parts rest → tokensFrom .between rest = some more →
    tokensFrom .between (print level value ++ rest) = some (tokensOf value ++ more)

theorem parts_newLine (level : Nat) (rest : List Char) : Parts (newLine level ++ rest) :=
  endsWord_of_head (by decide) _

theorem parts_printItems (items : List Datum) (parts : Parts rest) :
    Parts (printItems level items ++ rest) := by
  cases items with
  | nil => exact parts
  | cons item items => exact endsWord_of_head (by decide) _

theorem parts_printFields (fields : List (String × Datum)) (parts : Parts rest) :
    Parts (printFields level fields ++ rest) := by
  cases fields with
  | nil => exact parts
  | cons field fields => exact endsWord_of_head (by decide) _

theorem lexed_word {word : List Char} (printed : ∀ level, print level value = word)
    (token : tokensOf value = [.scalar value]) (nonempty : word ≠ [])
    (inner : ∀ c ∈ word, endsWord c = false) (stands : word? word = some value) : Lexed value := by
  intro level rest more parts later
  rw [printed,token]
  exact tokensFrom_word nonempty inner stands parts later

theorem lexed_int {n : Int} (fits : fitsInt n = true) : Lexed (.int n) :=
  lexed_word (fun _ => by rw [print]) (by rw [tokensOf]; all_goals simp) (toString_int_ne_nil n)
    (fun _ => endsWord_of_mem_toString) (word?_toString fits)

theorem tokensFrom_printItems (level : Nat) {items : List Datum} (each : ∀ item ∈ items, Lexed item)
    (parts : Parts rest) (later : tokensFrom .between rest = some more) :
    tokensFrom .between (printItems level items ++ rest) = some (tokensOfItems items ++ more) := by
  induction items with
  | nil => exact later
  | cons item items ih =>
    obtain ⟨first,others⟩ := List.forall_mem_cons.mp each
    have behind := first level _ _ (parts_printItems items parts) (ih others)
    rw [printItems,tokensOfItems]
    simp only [List.cons_append,List.append_assoc]
    exact tokensFrom_punctuation rfl (tokensFrom_newLine level behind)

theorem tokensFrom_keyed (level : Nat) (key : String) (first : Lexed value) (parts : Parts rest)
    (later : tokensFrom .between rest = some more) :
    tokensFrom .between (newLine level ++ (printText key ++ (':' :: ' ' ::
        (print level value ++ rest)))) =
      some (.text key :: .colon :: (tokensOf value ++ more)) := by
  refine tokensFrom_newLine level (tokensFrom_printText key (tokensFrom_punctuation rfl ?_))
  exact tokensFrom_skip .between rfl (first level rest more parts later)

theorem tokensFrom_printFields (level : Nat) {fields : List (String × Datum)}
    (each : ∀ field ∈ fields, Lexed field.2) (parts : Parts rest)
    (later : tokensFrom .between rest = some more) :
    tokensFrom .between (printFields level fields ++ rest) =
      some (tokensOfFields fields ++ more) := by
  induction fields with
  | nil => exact later
  | cons field fields ih =>
    obtain ⟨key,value⟩ := field
    obtain ⟨first,others⟩ := List.forall_mem_cons.mp each
    have behind := tokensFrom_keyed level key first (parts_printFields fields parts) (ih others)
    rw [printFields,tokensOfFields]
    simp only [List.cons_append,List.append_assoc]
    exact tokensFrom_punctuation rfl behind

theorem lexed_list {items : List Datum} (each : ∀ item ∈ items, Lexed item) :
    Lexed (.list items) := by
  intro level rest more parts later
  have close := tokensFrom_punctuation (c := ']') rfl later
  cases items with
  | nil => exact tokensFrom_punctuation rfl close
  | cons item items =>
    obtain ⟨first,others⟩ := List.forall_mem_cons.mp each
    have items' := tokensFrom_printItems (level + 1) others (parts_newLine level _)
      (tokensFrom_newLine level close)
    have behind := first (level + 1) _ _ (parts_printItems items (parts_newLine level _)) items'
    rw [print,tokensOf]
    simp only [List.cons_append,List.append_assoc,List.nil_append]
    exact tokensFrom_punctuation rfl (tokensFrom_newLine (level + 1) behind)

theorem lexed_table {fields : List (String × Datum)} (each : ∀ field ∈ fields, Lexed field.2) :
    Lexed (.table fields) := by
  intro level rest more parts later
  have close := tokensFrom_punctuation (c := '}') rfl later
  cases fields with
  | nil => exact tokensFrom_punctuation rfl close
  | cons field fields =>
    obtain ⟨key,value⟩ := field
    obtain ⟨first,others⟩ := List.forall_mem_cons.mp each
    have fields' := tokensFrom_printFields (level + 1) others (parts_newLine level _)
      (tokensFrom_newLine level close)
    have behind := tokensFrom_keyed (level + 1) key first
      (parts_printFields fields (parts_newLine level _)) fields'
    rw [print,tokensOf]
    simp only [List.cons_append,List.append_assoc,List.nil_append]
    exact tokensFrom_punctuation rfl behind

theorem Storable.lexed (storable : Storable depth value) : Lexed value := by
  induction storable with
  | null =>
    exact lexed_word (fun _ => by rw [print]) rfl (by decide)
      (List.all_iff_forall_prop.mp (by decide)) rfl
  | bool value =>
    cases value with
    | true =>
      exact lexed_word (fun _ => by rw [print]) rfl (by decide)
        (List.all_iff_forall_prop.mp (by decide)) rfl
    | false =>
      exact lexed_word (fun _ => by rw [print]) rfl (by decide)
        (List.all_iff_forall_prop.mp (by decide)) rfl
  | int fits => exact lexed_int fits
  | text value =>
    intro level rest more parts later
    rw [print,tokensOf]
    exact tokensFrom_printText value later
  | list each ih => exact lexed_list ih
  | table keys each ih => exact lexed_table ih

end Printed

section Rebuilt
variable {frames : List Frame} {tokens : List Token}

def Rebuilt (depth : Nat) (value : Datum) : Prop :=
  ∀ frames tokens, frames.length + depth ≤ depthLimit →
    (tokensOf value ++ tokens).foldlM State.read ⟨frames,.value⟩ =
      tokens.foldlM State.read ⟨frames,.after value⟩

theorem foldlM_step {token : Token} {state : State} (next : State)
    (step : state.read token = some next) :
    (token :: tokens).foldlM State.read state = tokens.foldlM State.read next := by
  rw [List.foldlM_cons,step,Option.bind_eq_bind,Option.bind_some]

/-- No value begins with the end of a list, so what opens a list is its first item. -/
theorem foldlM_valueOrEnd (value : Datum) :
    (tokensOf value ++ tokens).foldlM State.read ⟨frames,.valueOrEnd⟩ =
      (tokensOf value ++ tokens).foldlM State.read ⟨.list [] :: frames,.value⟩ := by
  have first : ∀ token, token ≠ Token.closeList →
      State.read ⟨frames,.valueOrEnd⟩ token = State.read ⟨.list [] :: frames,.value⟩ token := by
    intro token other
    cases token with
    | closeList => exact absurd rfl other
    | _ => rfl
  have begins : ∃ token more, tokensOf value = token :: more ∧ token ≠ .closeList := by
    cases value with
    | list items => cases items <;> exact ⟨_,_,by rw [tokensOf],by simp⟩
    | table fields =>
      rcases fields with _ | ⟨⟨key,value⟩,fields⟩ <;> exact ⟨_,_,by rw [tokensOf],by simp⟩
    | _ => exact ⟨_,_,rfl,by simp⟩
  obtain ⟨token,more,split,other⟩ := begins
  rw [split,List.cons_append,List.foldlM_cons,List.foldlM_cons,first token other]

theorem foldlM_tokensOfItems {items : List Datum} (each : ∀ item ∈ items, Rebuilt depth item)
    (room : frames.length + (depth + 1) ≤ depthLimit) (before : List Datum) (value : Datum) :
    (tokensOfItems items ++ (.closeList :: tokens)).foldlM State.read
        ⟨.list before :: frames,.after value⟩ =
      tokens.foldlM State.read ⟨frames,.after (.list (before.reverse ++ value :: items))⟩ := by
  induction items generalizing before value with
  | nil =>
    refine foldlM_step _ ?_
    rw [State.read,List.reverse_cons]
  | cons item items ih =>
    obtain ⟨first,others⟩ := List.forall_mem_cons.mp each
    have inside : (Frame.list (value :: before) :: frames).length + depth ≤ depthLimit := by
      rw [List.length_cons]
      omega
    rw [tokensOfItems,List.cons_append,List.append_assoc,
      foldlM_step ⟨.list (value :: before) :: frames,.value⟩ rfl,first _ _ inside,
      ih others,List.reverse_cons,List.append_assoc]
    rfl

theorem setField_of_new {key : String} (value : Datum) {fields : List (String × Datum)}
    (absent : key ∉ fields.map Prod.fst) :
    Datum.setField key value fields = fields ++ [(key,value)] := by
  induction fields with
  | nil => rfl
  | cons field fields ih =>
    obtain ⟨k,v⟩ := field
    rw [List.map_cons,List.mem_cons,not_or] at absent
    rw [Datum.setField,if_neg (Ne.symm absent.1),ih absent.2,List.cons_append]

theorem setField_of_nodup {key : String} {value : Datum} {before after : List (String × Datum)}
    (keys : ((before ++ (key,value) :: after).map Prod.fst).Nodup) :
    Datum.setField key value before = before ++ [(key,value)] := by
  refine setField_of_new value ?_
  rw [List.map_append,List.map_cons] at keys
  exact fun member => (List.nodup_append.mp keys).2.2 key member key List.mem_cons_self rfl

theorem foldlM_tokensOfFields {fields : List (String × Datum)}
    (each : ∀ field ∈ fields, Rebuilt depth field.2)
    (room : frames.length + (depth + 1) ≤ depthLimit) (before : List (String × Datum))
    (key : String) (value : Datum)
    (keys : ((before ++ (key,value) :: fields).map Prod.fst).Nodup) :
    (tokensOfFields fields ++ (.closeTable :: tokens)).foldlM State.read
        ⟨.table before key :: frames,.after value⟩ =
      tokens.foldlM State.read ⟨frames,.after (.table (before ++ (key,value) :: fields))⟩ := by
  have kept := setField_of_nodup keys
  induction fields generalizing before key value with
  | nil =>
    refine foldlM_step _ ?_
    rw [State.read,kept]
  | cons field fields ih =>
    obtain ⟨next,held⟩ := field
    obtain ⟨first,others⟩ := List.forall_mem_cons.mp each
    have comma : State.read ⟨.table before key :: frames,.after value⟩ .comma =
        some ⟨frames,.key (before ++ [(key,value)])⟩ := by rw [State.read,kept]
    have inside : (Frame.table (before ++ [(key,value)]) next :: frames).length + depth ≤
        depthLimit := by
      rw [List.length_cons]
      omega
    have split : before ++ (key,value) :: (next,held) :: fields =
        before ++ [(key,value)] ++ (next,held) :: fields := by simp
    rw [split] at keys ⊢
    rw [tokensOfFields,List.cons_append,List.cons_append,List.cons_append,List.append_assoc,
      foldlM_step _ comma,
      foldlM_step ⟨frames,.colon (before ++ [(key,value)]) next⟩ rfl,
      foldlM_step ⟨.table (before ++ [(key,value)]) next :: frames,.value⟩ rfl,
      first _ _ inside]
    exact ih others _ next held keys (setField_of_nodup keys)

theorem enter_of_room (mode : Mode) (room : frames.length + (depth + 1) ≤ depthLimit) :
    enter frames mode = some ⟨frames,mode⟩ := by
  rw [enter,if_pos (by omega)]

theorem rebuilt_list {items : List Datum} (each : ∀ item ∈ items, Rebuilt depth item) :
    Rebuilt (depth + 1) (.list items) := by
  intro frames tokens room
  have opened : State.read ⟨frames,.value⟩ .openList = some ⟨frames,.valueOrEnd⟩ :=
    enter_of_room .valueOrEnd room
  cases items with
  | nil =>
    rw [tokensOf,List.cons_append,foldlM_step _ opened]
    exact foldlM_step _ rfl
  | cons item items =>
    obtain ⟨first,others⟩ := List.forall_mem_cons.mp each
    have inside : (Frame.list [] :: frames).length + depth ≤ depthLimit := by
      rw [List.length_cons]
      omega
    rw [tokensOf,List.cons_append,foldlM_step _ opened,List.append_assoc,foldlM_valueOrEnd,
      first _ _ inside,List.append_assoc]
    exact foldlM_tokensOfItems others room [] item

theorem rebuilt_table {fields : List (String × Datum)} (keys : (fields.map Prod.fst).Nodup)
    (each : ∀ field ∈ fields, Rebuilt depth field.2) : Rebuilt (depth + 1) (.table fields) := by
  intro frames tokens room
  have opened : State.read ⟨frames,.value⟩ .openTable = some ⟨frames,.keyOrEnd⟩ :=
    enter_of_room .keyOrEnd room
  cases fields with
  | nil =>
    rw [tokensOf,List.cons_append,foldlM_step _ opened]
    exact foldlM_step _ rfl
  | cons field fields =>
    obtain ⟨key,value⟩ := field
    obtain ⟨first,others⟩ := List.forall_mem_cons.mp each
    have inside : (Frame.table [] key :: frames).length + depth ≤ depthLimit := by
      rw [List.length_cons]
      omega
    rw [tokensOf,List.cons_append,foldlM_step _ opened,List.cons_append,
      foldlM_step ⟨frames,.colon [] key⟩ rfl,List.cons_append,
      foldlM_step ⟨.table [] key :: frames,.value⟩ rfl,List.append_assoc,
      first _ _ inside,List.append_assoc]
    exact foldlM_tokensOfFields others room [] key value keys

theorem Storable.rebuilt (storable : Storable depth value) : Rebuilt depth value := by
  induction storable with
  | null | bool | int | text => exact fun frames tokens room => foldlM_step _ rfl
  | list each ih => exact rebuilt_list ih
  | table keys each ih => exact rebuilt_table keys ih

end Rebuilt

/-- A value that can be stored is read back as it is from what is written of it. -/
theorem read?_write (storable : Storable depthLimit value) : read? (write value) = some value := by
  have lexed := storable.lexed 0 [] [] (by rintro c ⟨⟩) rfl
  have rebuilt := storable.rebuilt [] [] (by simp)
  rw [List.append_nil,List.append_nil] at lexed
  rw [List.append_nil] at rebuilt
  rw [read?,write,String.toList_ofList,tokens?,lexed]
  simp only [Option.bind_eq_bind,Option.bind_some,rebuilt,List.foldlM_nil]
  rfl

theorem fromUTF8?_toUTF8 (text : String) : String.fromUTF8? text.toUTF8 = some text := by
  rw [String.fromUTF8?,String.toUTF8_eq_toByteArray,dif_pos text.isValidUTF8]
  rfl

theorem readBytes?_write (storable : Storable depthLimit value) :
    readBytes? (write value).toUTF8 = some value := by
  rw [readBytes?,fromUTF8?_toUTF8,Option.bind_some,read?_write storable]

end AbapAtlas.Json
