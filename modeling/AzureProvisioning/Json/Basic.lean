/-
# JSON values

The values that the records of the management service are made of. Of numbers only whole ones can be
read. A text that is grammatical but stands for no value here becomes `unreadable`: it may stand where
a value is skipped, and nowhere else. These are numbers with a fraction or an exponent, minus zero, and
texts with half of a surrogate pair.
-/

namespace AzureProvisioning

/-- A JSON value; the members of an object are kept in the order of the text. -/
inductive Json
  | null
  | bool (b : Bool)
  | int (n : Int)
  | string (s : String)
  | array (items : List Json)
  | object (members : List (String × Json))
  | unreadable
  deriving Inhabited, Repr

namespace Json

/-- An object of the members that are set. -/
def ofMembers (members : List (String × Option Json)) : Json :=
  object (members.filterMap fun m => m.2.map (m.1, ·))

/-- An object of texts. -/
def ofStringMap (entries : List (String × String)) : Json :=
  object (entries.map fun e => (e.1, string e.2))

end Json
end AzureProvisioning
