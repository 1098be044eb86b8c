/-!
# JSON values

The values that decoded bundles are recorded as.
-/
namespace Itanium

inductive Json where
  | null
  | number (value : Nat)
  | text (value : String)
  | list (items : List Json)
  | record (members : List (String × Json))

end Itanium
