/-! Why a household refuses a command or cannot take in an event. -/
namespace Inventory.Household

inductive IdKind where
  | user
  | room
  | item
deriving DecidableEq, Repr

def IdKind.label : IdKind → String
  | .user => "user"
  | .room => "room"
  | .item => "item"

inductive NameKind where
  | household
  | room
  | item
deriving DecidableEq, Repr

def NameKind.label : NameKind → String
  | .household => "household name"
  | .room => "room name"
  | .item => "item name"

def NameKind.least : NameKind → Nat
  | .household | .room | .item => 3

def NameKind.greatest : NameKind → Nat
  | .household | .room => 50
  | .item => 100

inductive Refusal where
  | householdExists (household : String)
  | householdMissing (household : String)
  | invalidId (kind : IdKind) (value : String)
  | invalidLength (kind : NameKind)
  | roomExists (room : String)
  | roomNameTaken (name : String)
  | roomMissing (room : String)
  | itemExists (item : String)
  | itemMissing (item : String)
deriving DecidableEq, Repr

def Refusal.message : Refusal → String
  | .householdExists household => "household with provided ID already exists: " ++ household
  | .householdMissing household => "household with provided ID does not exist: " ++ household
  | .invalidId kind value => "invalid " ++ kind.label ++ " ID, must be a valid UUID: " ++ value
  | .invalidLength kind =>
      kind.label ++ " must be between " ++ toString kind.least ++ " and " ++ toString kind.greatest ++
        " characters"
  | .roomExists room => "room with ID " ++ room ++ " already exists"
  | .roomNameTaken name => "room with name " ++ name ++ " already exists"
  | .roomMissing room => "room with ID " ++ room ++ " does not exist"
  | .itemExists item => "item with ID " ++ item ++ " already exists"
  | .itemMissing item => "item with ID " ++ item ++ " does not exist"

end Inventory.Household
