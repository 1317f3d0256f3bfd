import PackageRegistry.Numeric.Decimal

/-!
Values of a configuration document. Dates and times are kept as text.
-/

namespace PackageRegistry.Toml

inductive Value where
  | text (s : String)
  | integer (n : Int)
  | float (x : Numeric.Binary64)
  | boolean (b : Bool)
  | array (items : List Value)
  | table (entries : List (String × Value))
deriving Repr

end PackageRegistry.Toml
