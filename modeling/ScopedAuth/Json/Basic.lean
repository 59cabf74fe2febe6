/-!
# JSON documents

The values of JSON; an object keeps the order in which its members are written.
-/

namespace ScopedAuth

/-- A JSON value.  Numbers are kept as they are written. -/
inductive Json where
  | null
  | boolean (value : Bool)
  | number (text : String)
  | string (value : String)
  | array (elements : List Json)
  | object (members : List (String × Json))
  deriving Inhabited

end ScopedAuth
