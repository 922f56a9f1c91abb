import Inventory.Json.Printer
import Inventory.Text.Quoted

/-! What can be wrong with a value that is read: its text breaks the grammar or ends too early, or the
value is well formed and of the wrong shape. -/
namespace Inventory.Json

inductive Flaw where
  | malformed
  | truncated
  | missingField (field : String)
  | duplicateField (field : String)
  | wrongType (found : Json) (expected : String)
  | outOfRange (found : Int) (expected : String)
  | wrongLength (length : Nat) (expected : String)
  | unencodable (reason : String)

inductive Flaw.Category where
  | grammar
  | ending
  | shape
deriving DecidableEq, Repr

def Flaw.category : Flaw → Category
  | .malformed => .grammar
  | .truncated => .ending
  | .missingField _ | .duplicateField _ | .wrongType _ _ | .outOfRange _ _ | .wrongLength _ _
  | .unencodable _ => .shape

/-- What a value is, for a reader who expected something else. -/
def describe : Json → String
  | .null => "null"
  | .boolean true => "boolean `true`"
  | .boolean false => "boolean `false`"
  | .integer value => "integer `" ++ String.ofList (printInteger value) ++ "`"
  | .float value => "floating point `" ++ floatLayout.render value ++ "`"
  | .text value => "string " ++ Text.quoted value
  | .array _ => "sequence"
  | .object _ => "map"

def Flaw.message : Flaw → String
  | .malformed => "malformed text"
  | .truncated => "unexpected end of text"
  | .missingField field => "missing field `" ++ field ++ "`"
  | .duplicateField field => "duplicate field `" ++ field ++ "`"
  | .wrongType found expected => "invalid type: " ++ describe found ++ ", expected " ++ expected
  | .outOfRange found expected =>
      "invalid value: " ++ describe (.integer found) ++ ", expected " ++ expected
  | .wrongLength length expected => "invalid length " ++ toString length ++ ", expected " ++ expected
  | .unencodable reason => reason

end Inventory.Json
