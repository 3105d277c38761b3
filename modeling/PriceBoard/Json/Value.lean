import PriceBoard.Decimal.Basic
import PriceBoard.Double.Basic
import PriceBoard.Entries
import PriceBoard.Text.Spelling

/-!
# Documents

Providers answer with documents, and clients of the board ask with them.  A `Json` is the content
of such a document.  Numbers keep the form in which they can be exact: whole numbers and decimals;
doubles stand for the infinities and for what is not a number, and for the fractions of documents
that are read as doubles in the first place.

The fields of an object have distinct names and are in the order in which the names first
occurred.
-/

namespace PriceBoard

/-- The content of a document. -/
inductive Json where
  | null
  | bool (value : Bool)
  | integer (value : Int)
  | decimal (value : Decimal)
  | double (value : Float)
  | string (value : Spelling)
  | array (items : List Json)
  | object (fields : List (Spelling × Json))

namespace Json

/-- The content that is a text. -/
def ofText (text : String) : Json :=
  string (.ofText text)

/-! ## Fields -/

/-- The fields of an object. -/
abbrev Fields : Type :=
  List (Spelling × Json)

/-- The fields with the names. -/
def named (fields : List (String × Json)) : Fields :=
  fields.map fun (name, value) => (.ofText name, value)

/-- The value of the field with the name, if there is one. -/
def member? (name : String) (fields : Fields) : Option Json :=
  valueAt? (Spelling.ofText name) fields

/-- The value of the field with the name; null if there is none. -/
def memberOrNull (name : String) (fields : Fields) : Json :=
  (member? name fields).getD null

/-- The fields of an object; nothing else has fields. -/
def fields : Json → Fields
  | object fields => fields
  | _ => []

/-- The value of the field with the name, if there is one. -/
def field? (document : Json) (name : String) : Option Json :=
  member? name document.fields

/-! ## Kinds -/

/-- The name of the kind of the content, as messages have it. -/
def kindName : Json → String
  | null => "NoneType"
  | bool _ => "bool"
  | integer _ => "int"
  | decimal _ => "Decimal"
  | double _ => "float"
  | string _ => "str"
  | array _ => "list"
  | object _ => "dict"

/-! ## Emptiness -/

/-- Whether the double is a zero of either sign. -/
def isZeroDouble (value : Float) : Bool :=
  match Double.parts value with
  | .finite _ significand _ => significand == 0
  | .infinity _ | .nan => false

/-- Whether the content counts as absent: null, false, a zero, or a text, an array or an object
that is empty. -/
def isVoid : Json → Bool
  | null => true
  | bool value => !value
  | integer value => value == 0
  | decimal (.finite number) => number.isZero
  | decimal _ => false
  | double value => isZeroDouble value
  | string value => value.isEmpty
  | array items => items.isEmpty
  | object fields => fields.isEmpty

end Json

end PriceBoard
