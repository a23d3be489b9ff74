/-
# Names of accounts

An account name has 3 to 44 characters: small letters, digits and hyphens, no hyphen at either end.
-/

import AzureProvisioning.Schema.AttributeType

namespace AzureProvisioning
namespace AccountName

/-- Whether the character may stand in an account name. -/
def allows (c : Char) : Bool :=
  c.isLower || c.isDigit || c == '-'

/-- Whether the text is an account name. -/
def isValid (s : String) : Bool :=
  let cs := s.toList
  3 ≤ cs.length && cs.length ≤ 44 && cs.all allows && cs.head? != some '-' &&
    cs.getLast? != some '-'

/-- Refuses a value that is no account name. -/
def check : Value → Except String Unit
  | .string s =>
    if isValid s then .ok ()
    else
      .error ("'" ++ s ++ "' must be 3-44 characters of lowercase letters, digits, or '-', " ++
        "and must not start or end with '-'")
  | _ => .error "Expected string"

/-- The type of account names. -/
def type : AttributeType :=
  .custom "CosmosDbAccountName" .string check

end AccountName
end AzureProvisioning
