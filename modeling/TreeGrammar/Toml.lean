import TreeGrammar.Binary64
set_option autoImplicit false

namespace TreeGrammar

namespace Toml

inductive Value where
  | string (text : String)
  | integer (value : Int)
  | float (value : Binary64)
  | boolean (value : Bool)
  | moment (text : String)
  | array (items : List Value)
  | table (members : List (String × Value))

end Toml

end TreeGrammar
