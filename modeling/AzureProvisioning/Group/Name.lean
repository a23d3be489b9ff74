/-
# Names of resource groups

A group name has 1 to 90 characters: word characters, hyphens, dots and parentheses, no dot at its end.
-/

import AzureProvisioning.Schema.AttributeType
import AzureProvisioning.Text.Word

namespace AzureProvisioning
namespace GroupName

/-- Whether the character may stand in a group name. -/
def allows (c : Char) : Bool :=
  Text.isWordChar c || c == '-' || c == '.' || c == '(' || c == ')'

/-- Whether the text is a group name. -/
def isValid (s : String) : Bool :=
  let cs := s.toList
  1 ≤ cs.length && cs.length ≤ 90 && cs.all allows && cs.getLast? != some '.'

/-- Refuses a value that is no group name. -/
def check : Value → Except String Unit
  | .string s =>
    if isValid s then .ok ()
    else
      .error ("'" ++ s ++ "' must be 1-90 alphanumerics, '-', '.', '_', '(' or ')', " ++
        "and must not end with '.'")
  | _ => .error "Expected string"

/-- The type of group names. -/
def type : AttributeType :=
  .custom "ResourceGroupName" .string check

end GroupName
end AzureProvisioning
