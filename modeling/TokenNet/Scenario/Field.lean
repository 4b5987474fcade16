import TokenNet.Scenario.Error
import TokenNet.Text.Lines

namespace TokenNet
namespace Scenario

/-!
# Numbers in fields
-/

/-- Reads a number from a field of a line. -/
def number (line : Nat) (quantity : Quantity) (field : List Char) :
    Except ParseError UInt64 :=
  match Text.readWord? field with
  | some word => .ok word
  | none => .error ⟨line, .notNumber quantity (String.ofList field)⟩

end Scenario
end TokenNet
