/-!
# Documents

A document is a value in a text format for data: null, flags, numbers, texts,
lists, and records of named fields.  Whole numbers and real numbers are told
apart.  Types that are stored have a `Recorded` instance, which writes a value as
a document and reads it back; reading fails on a document of another form.
-/

namespace GrowthGrammar

/-- A value of a data format. -/
inductive Document where
  | null
  | flag (value : Bool)
  | whole (value : Int)
  | real (value : Float)
  | text (value : String)
  | list (items : List Document)
  | record (fields : List (String × Document))

/-- Types with a stored form. -/
class Recorded (α : Type) where
  encode : α → Document
  decode : Document → Option α

export Recorded (encode decode)

namespace Document

/-- The fields of a record in the order of `names`; fields that are missing are
none. -/
def namedFields (names : List String) :
    Document → Option (List (Option Document))
  | record entries => some (names.map fun name => List.lookup name entries)
  | _ => none

/-- The fields of a record in the order of `names`.  A list stands for the record
of its items in the same order, if it is not too long. -/
def fields (names : List String) : Document → Option (List (Option Document))
  | list items =>
      if items.length ≤ names.length then
        some ((List.range names.length).map (items[·]?))
      else
        none
  | document => document.namedFields names

/-- The name of a case and its content: a text has no content, a record of one
field has the content of the field. -/
def case : Document → Option (String × Option Document)
  | text name => some (name, none)
  | record [(name, content)] => some (name, some content)
  | _ => none

/-- The name of a case without content. -/
def caseName (document : Document) : Option String :=
  match document.case with
  | some (name, none) => some name
  | some (name, some null) => some name
  | _ => none

/-- A case with content. -/
def ofCase (name : String) (content : Document) : Document :=
  record [(name, content)]

end Document

/-- Reads a field that must be there. -/
def required {α : Type} [Recorded α] (field : Option Document) : Option α :=
  field.bind decode

/-- Reads a field that has a default. -/
def withDefault {α : Type} [Recorded α] (default : α)
    (field : Option Document) : Option α :=
  match field with
  | some document => decode document
  | none => some default

/-! ## Numbers, texts and lists -/

instance : Recorded Bool where
  encode := .flag
  decode
    | .flag value => some value
    | _ => none

instance : Recorded String where
  encode := .text
  decode
    | .text value => some value
    | _ => none

/-- A natural number below `bound`. -/
def decodeBelow (bound : Nat) : Document → Option Nat
  | .whole value =>
      if 0 ≤ value ∧ value < bound then some value.toNat else none
  | _ => none

/-- A natural number of four bytes. -/
instance : Recorded Nat where
  encode n := .whole n
  decode := decodeBelow UInt32.size

/-- A signed integer of eight bytes. -/
instance : Recorded Int64 where
  encode n := .whole n.toInt
  decode
    | .whole value =>
        if Int64.minValue.toInt ≤ value ∧ value ≤ Int64.maxValue.toInt then
          some (Int64.ofInt value)
        else
          none
    | _ => none

/-- A coordinate: any number is read to the nearest one; one that is not finite
is written as null. -/
instance : Recorded Float32 where
  encode x := if x.isFinite then .real x.toFloat else .null
  decode
    | .whole value => some (Float32.ofInt value)
    | .real value => some value.toFloat32
    | _ => none

/-- An optional natural number of eight bytes; null stands for none. -/
instance : Recorded (Option Nat) where
  encode
    | some n => .whole n
    | none => .null
  decode
    | .null => some none
    | document => (decodeBelow UInt64.size document).map some

instance {α : Type} [Recorded α] : Recorded (List α) where
  encode items := .list (items.map encode)
  decode
    | .list items => items.mapM decode
    | _ => none

end GrowthGrammar
