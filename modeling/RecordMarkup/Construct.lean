import RecordMarkup.Text.Case
import RecordMarkup.Validate

namespace RecordMarkup

def Component.accept (c : Component Value) : Eval Value := do
  let defects ← (Value.component c).defects
  if defects.isEmpty then return .component c
  Eval.log (.rejected c.kind defects)
  throw (.schema defects)

namespace Build

open Value (component tuple)

def arguments (args : Value) : Eval (List Value) :=
  if args.isText then return [args] else args.elements

def format (template args : Value) : Eval Value := do
  (Component.format template (← arguments args)).accept

def asFormat (v : Value) : Eval Value :=
  if v.isText then format v (tuple []) else return v

def mapping (name function : Value) : Eval Value := (Component.mapping name function).accept

def static (key value : Value) : Eval Value := (Component.static key value).accept

def dynamic (key value : Value) : Eval Value := do
  (Component.dynamic key (← asFormat value)).accept

def requestAttr (key value : Value) : Eval Value := (Component.requestAttr key value).accept

def method (v : Value) : Eval Method :=
  match v with
  | .method m => return m
  | v =>
    match Method.ofWord? (Text.lower v.display) with
    | some m => return m
    | none => throw (.schema [.unknownMethod v])

def request (name path encode : Value) : Eval Value := do
  let m ← method name
  (Component.request m (← asFormat path) encode).accept

def element (tag attributes content before after : Value) : Eval Value := do
  let attributes ← attributes.elements
  (Component.element tag attributes (← asFormat content) before after).accept

def plain : Eval Value := Component.plain.accept

def optional (default mapping : Value) : Eval Value := (Component.optional default mapping).accept

def map (mapping : Value) : Eval Value := (Component.map mapping).accept

def list (item : Value) : Eval Value := (Component.list item).accept

def nest (schema isOptional : Value) : Eval Value := (Component.nest schema isOptional).accept

def field (name policy element : Value) : Eval Value := (Component.field name policy element).accept

def schema (fields element name recordType : Value) : Eval Value := do
  let fields ← fields.elements
  let built ← (Component.schema fields element name recordType).accept
  Eval.log (.built (← built.displayName) fields.length)
  return built

/-- The items of what is meant as a pair; a third item of a stream is enough to refuse it. -/
def pairItems (v : Value) : Eval (List Value) :=
  match v with
  | .stream identity items => Value.drain identity items pure 3
  | v =>
    match v.items? with
    | some items => return items
    | none => throw (.notPair v.typeName)

def pair (v : Value) : Eval (Value × Value) := do
  match ← pairItems v with
  | [a, b] => return (a, b)
  | _ :: _ :: _ => throw .tooMany
  | items => throw (.tooFew items.length)

def fromPairs (group : Value) (build : Value → Value → Eval Value) : Eval (List Value) :=
  match group with
  | .dict entries => entries.mapM fun (key, value) => build (.text key) value
  | group => group.forEach fun item => do
    let (key, value) ← pair item
    build key value

def attributes (statics dynamics requestAttrs request : Value) : Eval Value := do
  let dynamics ← fromPairs dynamics dynamic
  let statics ← fromPairs statics static
  let others ← fromPairs requestAttrs requestAttr
  return tuple (dynamics ++ statics ++ others ++ if request.isNull then [] else [request])

end Build

end RecordMarkup
