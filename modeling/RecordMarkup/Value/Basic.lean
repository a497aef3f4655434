import RecordMarkup.Number.Decimal

/-!
Values: the data that records hold, and the components that say how a record is marked up.

A component is a value like any other, so that it can be held, named and shown like one. What a
component expects in one of its slots is checked when it is built, not by its type: a slot holds any
value, and a record with the right fields may stand in for a component.
-/

namespace RecordMarkup

inductive Method
  | get
  | post
  | put
  | patch
  | delete
  deriving DecidableEq, Repr

namespace Method

def all : List Method := [get, post, put, patch, delete]

def name : Method → String
  | get => "GET"
  | post => "POST"
  | put => "PUT"
  | patch => "PATCH"
  | delete => "DELETE"

def word : Method → String
  | get => "get"
  | post => "post"
  | put => "put"
  | patch => "patch"
  | delete => "delete"

def ofWord? (word : String) : Option Method := all.find? (·.word == word)

theorem ofWord?_word (m : Method) : ofWord? m.word = some m := by
  cases m <;> decide

end Method

inductive Scalar
  | text (s : String)
  | int (n : Int)
  | float (x : Float)
  deriving DecidableEq

structure Enumeration where
  name : String
  members : List (String × Scalar)
  deriving DecidableEq

/-- Members of some enumerations are integers, doubles or words in all but name. -/
inductive Member
  | label (enumeration : Enumeration) (name : String) (value : Scalar)
  | number (enumeration : Enumeration) (name : String) (value : Int)
  | double (enumeration : Enumeration) (name : String) (value : Float)
  | word (enumeration : Enumeration) (name : String) (value : String)
  deriving DecidableEq

namespace Member

def enumeration : Member → Enumeration
  | label e _ _ | number e _ _ | double e _ _ | word e _ _ => e

def name : Member → String
  | label _ n _ | number _ n _ | double _ n _ | word _ n _ => n

def value : Member → Scalar
  | label _ _ v => v
  | number _ _ n => .int n
  | double _ _ x => .float x
  | word _ _ s => .text s

def sibling? (m : Member) (name : String) : Option Member :=
  match m, m.enumeration.members.lookup name with
  | label e _ _, some v => some (label e name v)
  | number e _ _, some (.int n) => some (number e name n)
  | double e _ _, some (.float x) => some (double e name x)
  | word e _ _, some (.text s) => some (word e name s)
  | _, _ => none

end Member

inductive RecordTypeKind
  | plain
  | checked
  | fieldless
  deriving DecidableEq, Repr

/-- The type that the records of a schema are meant to have; `home` is where it is defined. -/
structure RecordType where
  kind : RecordTypeKind
  home : String
  name : String
  fields : List String
  deriving DecidableEq, Repr

def RecordType.fields? (t : RecordType) : Option (List String) :=
  match t.kind with
  | .plain | .checked => some t.fields
  | .fieldless => none

inductive Kind
  | format
  | mapping
  | static
  | dynamic
  | requestAttr
  | request
  | element
  | plain
  | optional
  | map
  | list
  | nest
  | field
  | schema
  deriving DecidableEq, Repr

namespace Kind

def all : List Kind :=
  [format, mapping, static, dynamic, requestAttr, request, element, plain, optional, map, list, nest,
    field, schema]

def tag : Kind → String
  | format => "format"
  | mapping => "map_expr"
  | static => "static"
  | dynamic => "dynamic"
  | requestAttr => "request_attr"
  | request => "request"
  | element => "element"
  | plain => "plain"
  | optional => "optional"
  | map => "map"
  | list => "list"
  | nest => "nest"
  | field => "field"
  | schema => "schema"

def label : Kind → String
  | format => "FormatExpr"
  | mapping => "MapExpr"
  | static => "StaticAttr"
  | dynamic => "DynamicAttr"
  | requestAttr => "RequestAttr"
  | request => "Request"
  | element => "ElementSpec"
  | plain => "PlainPolicy"
  | optional => "OptionalPolicy"
  | map => "MapPolicy"
  | list => "ListPolicy"
  | nest => "NestPolicy"
  | field => "Field"
  | schema => "Schema"

def ofTag? (tag : String) : Option Kind := all.find? (·.tag == tag)

theorem ofTag?_tag (k : Kind) : ofTag? k.tag = some k := by
  cases k <;> decide

def isAttribute : Kind → Bool
  | static | dynamic | requestAttr | request => true
  | _ => false

def isPolicy : Kind → Bool
  | plain | optional | map | list | nest => true
  | _ => false

end Kind

/-- The components of a schema over values of type `α`:

* a `format` fills a template from record fields, a `mapping` names a function of a field's value;
* attributes are `static`, `dynamic`, `requestAttr` or a `request`, and belong to an `element`;
* `plain`, `optional`, `map`, `list` and `nest` are the policies of a `field`;
* a `schema` is a sequence of fields in an element. -/
inductive Component (α : Type)
  | format (template : α) (args : List α)
  | mapping (name function : α)
  | static (key value : α)
  | dynamic (key format : α)
  | requestAttr (key value : α)
  | request (method : Method) (path encode : α)
  | element (tag : α) (attributes : List α) (content before after : α)
  | plain
  | optional (default map : α)
  | map (map : α)
  | list (item : α)
  | nest (schema optional : α)
  | field (name policy element : α)
  | schema (fields : List α) (element name recordType : α)

def Component.kind : Component α → Kind
  | format .. => .format
  | mapping .. => .mapping
  | static .. => .static
  | dynamic .. => .dynamic
  | requestAttr .. => .requestAttr
  | request .. => .request
  | element .. => .element
  | plain => .plain
  | optional .. => .optional
  | map .. => .map
  | list .. => .list
  | nest .. => .nest
  | field .. => .field
  | schema .. => .schema

/-- Data and components. A `stream` gives each of its items once, in order; its identity tells how
many it has given. By their identity are told apart records with the same fields, mappers and record
types of the same name, and what is no number; a `typedRecord` is told apart by its type and fields.
An `operation` is what a component or a method does, taken as a value. -/
inductive Value
  | null
  | bool (b : Bool)
  | int (n : Int)
  | float (x : Float)
  | decimal (d : Number.Decimal)
  | nan (identity : Nat) (n : Number.NaN)
  | text (s : String)
  | bytes (bytes : List UInt8)
  | list (items : List Value)
  | tuple (items : List Value)
  | dict (entries : List (String × Value))
  | stream (identity : Nat) (items : List Value)
  | record (identity : Nat) (fields : List (String × Value))
  | typedRecord (type : Nat × RecordType) (fields : List (String × Value))
  | member (m : Member)
  | method (m : Method)
  | mapper (identity : Nat) (name : String)
  | recordType (identity : Nat) (t : RecordType)
  | component (c : Component Value)
  | operation (owner : Value) (name : String)

instance : Inhabited Value := ⟨.null⟩

namespace Value

def text? : Value → Option String
  | text s => some s
  | member (.word _ _ s) => some s
  | _ => none

def isText (v : Value) : Bool := v.text?.isSome

def isNull : Value → Bool
  | null => true
  | _ => false

def typeName : Value → String
  | null => "NoneType"
  | bool _ => "bool"
  | int _ => "int"
  | float _ | nan _ .double => "float"
  | decimal _ | nan _ (.decimal ..) => "decimal.Decimal"
  | text _ => "str"
  | bytes _ => "bytes"
  | list _ => "list"
  | tuple _ => "tuple"
  | dict _ => "dict"
  | stream .. => "list_iterator"
  | record .. => "Record"
  | typedRecord type _ => type.2.name
  | member m => m.enumeration.name
  | method _ => "Method"
  | mapper .. => "Mapper"
  | recordType _ t => if t.kind = .checked then "ModelMetaclass" else "type"
  | component c => c.kind.label
  | operation .. => "method"

def shortTypeName : Value → String
  | decimal _ | nan _ (.decimal ..) => "Decimal"
  | v => v.typeName

def truthy : Value → Bool
  | null => false
  | bool b => b
  | int n => n != 0
  | float x => !(x == 0)
  | decimal d => !d.isZero
  | text s => s != ""
  | bytes b => !b.isEmpty
  | list items | tuple items => !items.isEmpty
  | dict entries => !entries.isEmpty
  | member (.number _ _ n) => n != 0
  | member (.double _ _ x) => !(x == 0)
  | member (.word _ _ s) => s != ""
  | _ => true

def length? : Value → Option Nat
  | bytes b => some b.length
  | list items | tuple items => some items.length
  | dict entries => some entries.length
  | v => v.text?.map String.length

def items? : Value → Option (List Value)
  | bytes b => some (b.map fun byte => int byte.toNat)
  | list items | tuple items => some items
  | dict entries => some (entries.map fun entry => text entry.1)
  | v => v.text?.map fun s => s.toList.map fun c => text c.toString

def isCallable : Value → Bool
  | mapper .. | recordType .. | operation .. => true
  | _ => false

end Value

end RecordMarkup
