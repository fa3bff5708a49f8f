import ApiScribe.OrderedMap

/-!
# JSON values

Object fields keep their order. Numbers are integers of 64 bits, signed or unsigned, or doubles.
-/

namespace ApiScribe

namespace Json

inductive Number where
  | integer (value : Int)
  | double (value : Float)
deriving Repr

end Json

inductive Json where
  | null
  | bool (value : Bool)
  | number (value : Json.Number)
  | string (value : String)
  | array (items : List Json)
  | object (fields : OrderedMap Json)

end ApiScribe
