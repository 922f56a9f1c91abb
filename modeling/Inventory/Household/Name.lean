import Inventory.Household.Refusal
import Inventory.Text.Blank
import Inventory.Uuid

/-! The names and identifiers of households, rooms and items. A name has a fewest and a greatest number of
characters; blanks around the name of a room or an item do not belong to it, while a household's name is
taken as it stands. Identifiers are unique across the world and written in one form only. -/
namespace Inventory.Household

structure Id (kind : IdKind) where
  uuid : Uuid
deriving DecidableEq

instance (kind : IdKind) : Ord (Id kind) where
  compare first second := compare first.uuid second.uuid

namespace Id
variable {kind : IdKind}

def text (id : Id kind) : String :=
  id.uuid.text

def ofText (kind : IdKind) (text : String) : Except Refusal (Id kind) :=
  match Uuid.parse? text with
  | none => .error (.invalidId kind text)
  | some uuid => .ok ⟨uuid⟩

end Id

abbrev UserId := Id .user
abbrev RoomId := Id .room
abbrev ItemId := Id .item

def NameKind.trims : NameKind → Bool
  | .household => false
  | .room | .item => true

def NameKind.core (kind : NameKind) (text : String) : String :=
  if kind.trims then Text.trim text else text

theorem NameKind.trimmed_core (kind : NameKind) (text : String) (trims : kind.trims = true) :
    Text.Trimmed (kind.core text).toList := by
  simp only [core, trims, if_true]
  exact Text.trimmed_trim text

structure Name (kind : NameKind) where
  text : String
  bounded : kind.least ≤ text.length ∧ text.length ≤ kind.greatest
  trimmed : kind.trims = true → Text.Trimmed text.toList
deriving DecidableEq

def Name.ofText (kind : NameKind) (text : String) : Except Refusal (Name kind) :=
  let core := kind.core text
  if bounded : kind.least ≤ core.length ∧ core.length ≤ kind.greatest then
    .ok ⟨core, bounded, kind.trimmed_core text⟩
  else .error (.invalidLength kind)

abbrev HouseholdName := Name .household
abbrev RoomName := Name .room
abbrev ItemName := Name .item

end Inventory.Household
