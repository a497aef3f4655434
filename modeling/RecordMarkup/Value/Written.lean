import RecordMarkup.Value.Basic
import RecordMarkup.Number.Float
import RecordMarkup.Text.Escapes

namespace RecordMarkup

def commaSeparated (texts : List String) : String := ", ".intercalate texts

def tupleText : List String → String
  | [item] => "(" ++ item ++ ",)"
  | items => "(" ++ commaSeparated items ++ ")"

def partsText (name : String) (parts : List (String × String)) : String :=
  name ++ "(" ++ commaSeparated (parts.map fun (part, text) => part ++ "=" ++ text) ++ ")"

def boolText (b : Bool) : String := if b then "True" else "False"

def Scalar.display : Scalar → String
  | text s => s
  | int n => toString n
  | float x => Number.literalFloat x

def Scalar.literal : Scalar → String
  | text s => Text.quoted s
  | v => v.display

def Member.literal (m : Member) : String :=
  "<" ++ m.enumeration.name ++ "." ++ m.name ++ ": " ++ m.value.literal ++ ">"

/-- A member is shown by its name, save an integer, which is shown as such. -/
def Member.display : Member → String
  | number _ _ value => toString value
  | m => m.enumeration.name ++ "." ++ m.name

namespace Value

mutual

def literal : Value → String
  | null => "None"
  | bool b => boolText b
  | int n => toString n
  | float x => Number.literalFloat x
  | decimal d => "Decimal('" ++ d.text ++ "')"
  | nan _ .double => "nan"
  | nan _ n => "Decimal('" ++ n.text ++ "')"
  | text s => Text.quoted s
  | bytes b => Text.quotedBytes b
  | list items => "[" ++ commaSeparated (literals items) ++ "]"
  | tuple items => tupleText (literals items)
  | dict entries => '{'.toString ++ commaSeparated (entryLiterals entries) ++ '}'.toString
  | stream .. => "<list_iterator object>"
  | record _ fields => partsText "Record" (fieldLiterals fields)
  | typedRecord type fields => partsText type.2.name (fieldLiterals fields)
  | member m => m.literal
  | method m => "<Method." ++ m.name ++ ": " ++ Text.quoted m.word ++ ">"
  | mapper _ name => "<mapper " ++ name ++ ">"
  | recordType _ t => "<class '" ++ t.home ++ "." ++ t.name ++ "'>"
  | component c => componentLiteral c
  | operation (method _) name => "<bound method Method." ++ name ++ " of <enum 'Method'>>"
  | operation owner name =>
    "<bound method " ++ owner.typeName ++ "." ++ name ++ " of " ++ literal owner ++ ">"

def literals : List Value → List String
  | [] => []
  | v :: vs => literal v :: literals vs

def entryLiterals : List (String × Value) → List String
  | [] => []
  | (key, v) :: entries => (Text.quoted key ++ ": " ++ literal v) :: entryLiterals entries

def fieldLiterals : List (String × Value) → List (String × String)
  | [] => []
  | (name, v) :: fields => (name, literal v) :: fieldLiterals fields

def componentLiteral : Component Value → String
  | .format template args =>
    partsText "FormatExpr" [("template", literal template), ("args", tupleText (literals args))]
  | .mapping name function =>
    partsText "MapExpr" [("variable", literal name), ("expression", literal function)]
  | .static key value => partsText "StaticAttr" [("key", literal key), ("value", literal value)]
  | .dynamic key format => partsText "DynamicAttr" [("key", literal key), ("expr", literal format)]
  | .requestAttr key value =>
    partsText "RequestAttr" [("key", literal key), ("value", literal value)]
  | .request m path encode =>
    partsText "Request" [("method", "<Method." ++ m.name ++ ": " ++ Text.quoted m.word ++ ">"),
      ("path", literal path), ("encode", literal encode)]
  | .element tag attributes content before after =>
    partsText "ElementSpec" [("tag", literal tag),
      ("attributes", tupleText (literals attributes)), ("content", literal content),
      ("before", literal before), ("after", literal after)]
  | .plain => partsText "PlainPolicy" []
  | .optional default map =>
    partsText "OptionalPolicy" [("default", literal default), ("map", literal map)]
  | .map map => partsText "MapPolicy" [("map", literal map)]
  | .list item => partsText "ListPolicy" [("item_schema", literal item)]
  | .nest schema optional =>
    partsText "NestPolicy" [("schema", literal schema), ("optional", literal optional)]
  | .field name policy element =>
    partsText "Field" [("name", literal name), ("policy", literal policy),
      ("element", literal element)]
  | .schema fields element name type =>
    partsText "Schema" [("fields", tupleText (literals fields)), ("element", literal element),
      ("name", literal name), ("record_type", literal type)]

end

def display : Value → String
  | text s => s
  | decimal d => d.text
  | nan _ n => n.text
  | member m => m.display
  | method m => "Method." ++ m.name
  | v => v.literal

def canonical : Value → String
  | null => ""
  | bool b => if b then "true" else "false"
  | float x | member (.double _ _ x) => Number.plainFloat x
  | nan _ .double => "NaN"
  | member (.word _ _ s) => s
  | v => v.display

/-- What a slot of a template is filled with: the canonical text, but a word is shown by its
member's name. -/
def slotText : Value → String
  | member (.word e n s) => (Member.word e n s).display
  | v => v.canonical

mutual

def integers : Value → List Int
  | int n => [n]
  | list items | tuple items => itemIntegers items
  | dict entries | record _ entries | typedRecord _ entries => entryIntegers entries
  | member m => match m.value with
    | .int n => [n]
    | _ => []
  | component c => partIntegers c
  | operation owner _ => integers owner
  | _ => []

def itemIntegers : List Value → List Int
  | [] => []
  | v :: vs => integers v ++ itemIntegers vs

def entryIntegers : List (String × Value) → List Int
  | [] => []
  | (_, v) :: entries => integers v ++ entryIntegers entries

def partIntegers : Component Value → List Int
  | .format template args => integers template ++ itemIntegers args
  | .mapping a b | .static a b | .dynamic a b | .requestAttr a b | .request _ a b | .optional a b
  | .nest a b => integers a ++ integers b
  | .element tag attributes content before after =>
    integers tag ++ itemIntegers attributes ++ integers content ++ integers before ++ integers after
  | .plain => []
  | .map function => integers function
  | .list item => integers item
  | .field name policy element => integers name ++ integers policy ++ integers element
  | .schema fields element name type =>
    itemIntegers fields ++ integers element ++ integers name ++ integers type

end

inductive Unwritable
  | notNumeral
  | tooManyDigits
  deriving DecidableEq, Repr

/-- A double that is a member is read off its literal form, unless it is whole, infinite or no number;
and no integer is written with more digits than the limit. -/
def unwritable? : Value → Option Unwritable
  | member (.double _ _ x) => if Number.isFraction x then some .notNumeral else none
  | member (.number _ _ n) => if Number.exceedsLimit n then some .tooManyDigits else none
  | member _ => none
  | v => if v.integers.any Number.exceedsLimit then some .tooManyDigits else none

theorem unwritable?_of_text? {v : Value} {s : String} (h : v.text? = some s) :
    v.unwritable? = none := by
  unfold text? at h
  split at h
  · rfl
  · rfl
  · cases h

end Value

end RecordMarkup
