import AbapAtlas.Document.Checked
import Mathlib.Data.List.Forall2

/-! Checks that pass. A compound check passes with what its parts have passed with, and a list of
documents passes if each of them does. -/
namespace AbapAtlas

namespace Checked

theorem at'_passed_iff {α : Type} {checked : Checked α} {step : Step} {value : α} :
    checked.at' step = .passed value ↔ checked = .passed value := by
  cases checked <;> simp [at']

theorem map_passed_iff {α β : Type} {checked : Checked α} {f : α → β} {value : β} :
    checked.map f = .passed value ↔ ∃ a, checked = .passed a ∧ f a = value := by
  cases checked <;> simp [map]

theorem andThen_passed_iff {α β : Type} {checked : Checked α} {next : α → Checked β} {value : β} :
    checked.andThen next = .passed value ↔ ∃ a, checked = .passed a ∧ next a = .passed value := by
  cases checked <;> simp [andThen]

theorem also_passed_iff {α β : Type} {function : Checked (α → β)} {argument : Checked α}
    {value : β} : function.also argument = .passed value ↔
      ∃ f a, function = .passed f ∧ argument = .passed a ∧ f a = value := by
  cases function <;> cases argument <;> simp [also]

end Checked

def Datum.Validates {α : Type} (check : Datum → Checked α) (items : List Datum)
    (values : List α) : Prop :=
  List.Forall₂ (fun item value => check item = .passed value) items values

namespace Datum
variable {α : Type} {check : Datum → Checked α} {items : List Datum} {values : List α}

theorem checkItems_passed_iff (check : Datum → Checked α) (index : Nat) :
    checkItems check index items = .passed values ↔ Validates check items values := by
  induction items generalizing index values with
  | nil =>
    rw [Validates,List.forall₂_nil_left_iff,checkItems,Checked.passed.injEq]
    exact eq_comm
  | cons item rest ih =>
    simp only [checkItems,Checked.also_passed_iff,Checked.map_passed_iff,Checked.at'_passed_iff,ih]
    constructor
    · rintro ⟨_,later,⟨first,head,rfl⟩,tail,rfl⟩
      exact .cons head tail
    · intro validated
      cases validated with
      | cons head tail => exact ⟨_,_,⟨_,head,rfl⟩,tail,rfl⟩

theorem exists_validates_iff :
    (∃ values, Validates check items values) ↔ ∀ item ∈ items, ∃ value, check item = .passed value := by
  constructor
  · rintro ⟨values,validated⟩
    induction validated with
    | nil => simp
    | cons head _ ih => exact List.forall_mem_cons.mpr ⟨⟨_,head⟩,ih⟩
  · intro all
    induction items with
    | nil => exact ⟨[],.nil⟩
    | cons item rest ih =>
      obtain ⟨⟨value,head⟩,later⟩ := List.forall_mem_cons.mp all
      obtain ⟨values,tail⟩ := ih later
      exact ⟨value :: values,.cons head tail⟩

end Datum

end AbapAtlas
