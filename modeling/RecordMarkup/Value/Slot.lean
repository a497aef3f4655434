import RecordMarkup.Eval

namespace RecordMarkup

def Component.slots : Component Value → List (String × Value)
  | format template args => [("template", template), ("args", .tuple args)]
  | mapping name function => [("variable", name), ("expression", function)]
  | static key value => [("key", key), ("value", value)]
  | dynamic key value => [("key", key), ("expr", value)]
  | requestAttr key value => [("key", key), ("value", value)]
  | request m path encode => [("method", .method m), ("path", path), ("encode", encode)]
  | element tag attributes content before after =>
    [("tag", tag), ("attributes", .tuple attributes), ("content", content), ("before", before),
      ("after", after)]
  | plain => []
  | optional default function => [("default", default), ("map", function)]
  | map function => [("map", function)]
  | list item => [("item_schema", item)]
  | nest inner isOptional => [("schema", inner), ("optional", isOptional)]
  | field name policy wrapper => [("name", name), ("policy", policy), ("element", wrapper)]
  | schema fields wrapper name type =>
    [("fields", .tuple fields), ("element", wrapper), ("name", name), ("record_type", type)]

def Scalar.toValue : Scalar → Value
  | text s => .text s
  | int n => .int n
  | float x => .float x

def Member.slot? (m : Member) : String → Option Value
  | "name" | "_name_" => some (.text m.name)
  | "value" | "_value_" => some m.value.toValue
  | name => (m.sibling? name).map .member

def Method.slot? (m : Method) (requestNamespace : String) : String → Option Value
  | "name" | "_name_" => some (.text m.name)
  | "value" | "_value_" => some (.text m.word)
  | "attribute" => some (.text (requestNamespace ++ m.word))
  | "parse" => some (.operation (.method m) "parse")
  | name => (Method.all.find? (·.name == name)).map .method

namespace Value

/-- The tag by which a value is told apart as a component; a record has one if it has the field. -/
def tag? : Value → Option Value
  | component c => some (.text c.kind.tag)
  | record _ fields | typedRecord _ fields => fields.lookup "kind"
  | _ => none

def isKind (kind : Kind) (tag : Value) : Bool := tag.text? == some kind.tag

def kind? (tag : Value) : Option Kind := tag.text?.bind Kind.ofTag?

/-- What a component offers besides its slots: its tag, the request of an element, whether a list goes
through a schema, and what it does. -/
def derivedSlot? (c : Component Value) (name : String) : Option Value :=
  if name = "kind" then some (.text c.kind.tag)
  else
    match c, name with
    | .element _ attributes _ _ _, "request" =>
      some <| (attributes.find? fun a => (a.tag?.map (isKind .request)).getD false).getD .null
    | .list item, "nested" => some (.bool !item.isNull)
    | .format .., "evaluate" | .mapping .., "apply" | .element .., "open" | .element .., "close"
    | .element .., "render_content" => some (.operation (.component c) name)
    | _, _ => none

/-- What is known of an operation: its name, with and without that of the type it belongs to, and the
component that it is taken from; what a method does belongs to all methods. It has no description. -/
def operationSlot? (owner : Value) (operation : String) : String → Option Value
  | "__name__" => some (.text operation)
  | "__qualname__" => some (.text (owner.typeName ++ "." ++ operation))
  | "__self__" => if owner matches .component _ then some owner else none
  | "__doc__" => some .null
  | _ => none

def intSlot? (n : Int) : String → Option Value
  | "real" | "numerator" => some (.int n)
  | "imag" => some (.int 0)
  | "denominator" => some (.int 1)
  | _ => none

def numberSlot? (v : Value) (name : String) : Option Value :=
  match v, name with
  | int n, name => intSlot? n name
  | bool b, name => intSlot? (if b then 1 else 0) name
  | member (.number _ _ n), name => intSlot? n name
  | float x, "real" | member (.double _ _ x), "real" => some (.float x)
  | float _, "imag" | member (.double ..), "imag" => some (.float 0)
  | decimal d, "real" => some (.decimal d)
  | decimal _, "imag" => some (.decimal (.finite false 0 0))
  | nan i n, "real" => some (.nan i n)
  | nan _ .double, "imag" => some (.float 0)
  | nan _ (.decimal ..), "imag" => some (.decimal (.finite false 0 0))
  | _, _ => none

def slot? (requestNamespace : String) (v : Value) (name : String) : Option Value :=
  match v with
  | record _ fields | typedRecord _ fields => fields.lookup name
  | component c => (c.slots.lookup name).or (derivedSlot? c name)
  | member m => (m.slot? name).or (numberSlot? v name)
  | method m => m.slot? requestNamespace name
  | operation owner operationName => operationSlot? owner operationName name
  | mapper _ mapperName => if name = "name" then some (.text mapperName) else none
  | recordType _ t => if name = "__name__" then some (.text t.name) else none
  | v => numberSlot? v name

def slotAt (v : Value) (name : String) : Eval Value := do
  match v.slot? (← Eval.settings).requestNamespace name with
  | some w => return w
  | none => throw (.noAttribute v name)

def displayName : Value → Eval Value
  | component (.schema _ _ name type) =>
    if name.truthy then return name
    else if type.isNull then return .text "<anonymous>"
    else type.slotAt "__name__"
  | v => v.slotAt "display_name"

def slot (v : Value) (name : String) : Eval Value :=
  if name = "display_name" then v.displayName else v.slotAt name

def callSlot (v : Value) (name : String) (args : List Value) : Eval Value := do
  (← v.slot name).call args

def entries : Value → Eval (List (String × Value))
  | dict entries => return entries
  | v => throw (.noAttribute v "items")

/-- The field of a record under a name: an entry of a dictionary, absent if there is none, and a
slot of anything else. -/
def field (record name : Value) : Eval Value :=
  match record with
  | dict entries => do
    name.requireHashable
    return (name.text?.bind fun name => entries.lookup name).getD .null
  | record =>
    match name.text? with
    | some name => record.slot name
    | none => throw (.attributeNotNamed name.typeName)

end Value

end RecordMarkup
