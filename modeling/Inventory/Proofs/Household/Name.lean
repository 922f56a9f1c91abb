import Inventory.Household.Room
import Inventory.Proofs.Uuid

/-! Names and identifiers that were accepted are accepted again as they are, so whatever was written down in
its one form is read back unchanged. -/
namespace Inventory

theorem Text.trimChars_of_trimmed {text : List Char} (trimmed : Trimmed text) : trimChars text = text := by
  have keep {characters : List Char} (front : characters.head?.all (!isBlank ·) = true) :
      characters.dropWhile isBlank = characters := by
    cases characters with
    | nil => rfl
    | cons first rest =>
      rw [List.dropWhile_cons_of_neg]
      simpa using front
  obtain ⟨front, back⟩ := trimmed
  rw [trimChars, keep front, keep, List.reverse_reverse]
  rw [List.head?_reverse]
  exact back

namespace Household

theorem NameKind.core_of_trimmed {kind : NameKind} {text : String}
    (trimmed : kind.trims = true → Text.Trimmed text.toList) : kind.core text = text := by
  unfold core
  split
  next trims => rw [Text.trim, Text.trimChars_of_trimmed (trimmed trims), String.ofList_toList]
  next => rfl

@[simp] theorem Name.ofText_text {kind : NameKind} (name : Name kind) : ofText kind name.text = .ok name := by
  unfold ofText
  simp only [NameKind.core_of_trimmed name.trimmed]
  exact dif_pos name.bounded

@[simp] theorem Id.ofText_text {kind : IdKind} (id : Id kind) : ofText kind id.text = .ok id := by
  rw [ofText, text, Uuid.parse?_text]

@[simp] theorem Item.ofText_text (item : Item) :
    ofText item.id.text item.name.text item.barcode item.quantity = .ok item := by
  rw [ofText, Id.ofText_text]
  dsimp only
  rw [Name.ofText_text]

@[simp] theorem Room.ofText_text (id : RoomId) (name : RoomName) :
    ofText id.text name.text = .ok { id, name, items := [] } := by
  rw [ofText, Id.ofText_text]
  dsimp only
  rw [Name.ofText_text]

end Household

end Inventory
