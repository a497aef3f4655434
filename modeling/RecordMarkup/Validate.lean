import RecordMarkup.Format
import RecordMarkup.Text.Chars

namespace RecordMarkup.Value

def isTextWhere (test : String → Bool) (v : Value) : Bool :=
  match v.text? with
  | some s => test s
  | none => false

def tag (v : Value) : Value := v.tag?.getD .null

def hasKind (kind : Kind) (v : Value) : Bool := v.tag.isKind kind

def kind (v : Value) : Eval (Option Kind) := do
  v.tag.requireHashable
  return v.tag.kind?

def isCount (n : Nat) : Value → Eval Bool
  | int m => return m = n
  | v => (int n).equals v

def templateDefects (format expected : Value) (place : Place) : Eval (List Defect) := do
  let template ← format.slot "template"
  match ← template.countSlots with
  | .error fault => return [.badTemplateAt place template fault]
  | .ok found =>
    return if ← expected.isCount found then [] else [.slotCount place template found expected]

def formatDefects (v : Value) : Eval (List Defect) := do
  let template ← v.slot "template"
  if !template.isText then
    return [.templateNotText template.shortTypeName]
  let faults := match ← template.countSlots with
    | .ok _ => []
    | .error fault => [Defect.badTemplate template fault]
  let references ← (← v.slot "args").forEach fun arg =>
    return if arg.isTextWhere Text.isFieldName then [] else [Defect.badReference template arg]
  return faults ++ references.flatten

def mappingDefects (v : Value) : Eval (List Defect) := do
  let name ← v.slot "variable"
  let function ← v.slot "expression"
  return (if name.isTextWhere Text.isFieldName then [] else [.badVariable name]) ++
    (if function.isCallable then [] else [.notCallable name])

def keyDefects (key : Value) : List Defect :=
  if key.isTextWhere Text.isAttributeKey then [] else [.badKey key]

def literalDefects (v : Value) : Eval (List Defect) := do
  let key ← v.slot "key"
  let value ← v.slot "value"
  return keyDefects key ++ (if value.isText then [] else [.attributeNotText key])

def dynamicDefects (v : Value) : Eval (List Defect) := do
  let key ← v.slot "key"
  let format ← v.slot "expr"
  let count ← (← format.slot "args").requireLength
  return keyDefects key ++ (← format.templateDefects (int count) (.attributeKey key))

def requestDefects (v : Value) : Eval (List Defect) := do
  let path ← v.slot "path"
  let args ← path.slot "args"
  let count ← args.requireLength
  let name ← (← v.slot "method").slot "name"
  let defects ← path.templateDefects (int count) (.request name)
  if (← v.slot "encode").truthy && !args.truthy then
    return defects ++ [.encodesNothing name (← path.slot "template")]
  else return defects

def severalRequestsDefects (requests : List Value) : Eval (List Defect) := do
  if requests.length ≤ 1 then return []
  let names ← requests.mapM fun request => do (← request.slot "method").slot "name"
  return [.severalRequests (← join ", " names)]

def surroundDefects (v : Value) : Eval (List Defect) := do
  if !(← v.slot "before").isText then return [.surroundNotText]
  return if (← v.slot "after").isText then [] else [.surroundNotText]

def elementDefects (v : Value) : Eval (List Defect) := do
  let tag ← v.slot "tag"
  let tagDefects := if tag.isNull || tag.isTextWhere Text.isTagName then [] else [Defect.badTag tag]
  let attributes ← v.slot "attributes"
  let sources ← attributes.forEach fun source => do
    return if ((← source.kind).map Kind.isAttribute).getD false then []
      else [Defect.unknownAttribute source]
  let requests := (← attributes.elements).filter (hasKind .request)
  let requestDefects ← severalRequestsDefects requests
  let bareDefects :=
    if tag.isNull && attributes.truthy then [Defect.attributesWithoutTag] else []
  return tagDefects ++ sources.flatten ++ requestDefects ++ bareDefects ++ (← v.surroundDefects)

def optionalDefects (v : Value) : Eval (List Defect) := do
  let default ← v.slot "default"
  if default.isNull then return []
  let exclusive := if (← v.slot "map").isNull then [] else [Defect.defaultAndMap]
  return exclusive ++
    (if default.isText then [] else [.defaultNotText default.shortTypeName])

def mapDefects (v : Value) : Eval (List Defect) := do
  return if (← v.slot "map").hasKind .mapping then [] else [.mapRequired]

def listDefects (v : Value) : Eval (List Defect) := do
  let item ← v.slot "item_schema"
  return if item.isNull || item.hasKind .schema then [] else [.itemNotSchema]

def nestDefects (v : Value) : Eval (List Defect) := do
  return if (← v.slot "schema").hasKind .schema then [] else [.schemaRequired]

def goesThroughSchema (policy : Value) (kind : Kind) : Eval Bool := do
  match kind with
  | .nest => return true
  | .list => return !(← policy.slot "item_schema").isNull
  | _ => return false

def isTagless (element : Value) : Eval Bool := do
  if element.isNull then return true
  return (← element.slot "tag").isNull

def itemTagDefects (name element : Value) (kind : Kind) (nested : Bool) : Eval (List Defect) := do
  if kind ≠ .list || nested then return []
  return if ← element.isTagless then [.listWithoutElement name] else []

/-- The content of what is nested comes from the nested schema; other content has one slot for the
field's value and one for each argument. -/
def fieldElementDefects (name policy element : Value) (kind : Kind) (errors : List Defect) :
    Eval (List Defect) := do
  let nested ← policy.goesThroughSchema kind
  let errors := errors ++ (← itemTagDefects name element kind nested)
  if element.isNull then return errors
  let content ← element.slot "content"
  if content.isNull then return errors
  let errors := if nested then errors ++ [.nestedContent name] else errors
  if !errors.isEmpty then return errors
  let count ← (← content.slot "args").requireLength
  content.templateDefects (int (1 + count)) (.content name)

def fieldDefects (v : Value) : Eval (List Defect) := do
  let name ← v.slot "name"
  let errors := if name.isTextWhere Text.isFieldName then [] else [Defect.badFieldName name]
  let policy ← v.slot "policy"
  match (← policy.kind).filter Kind.isPolicy with
  | none => return errors ++ [.unknownPolicy name policy]
  | some kind =>
    let element ← v.slot "element"
    if !element.isNull && !element.hasKind .element then
      return errors ++ [.elementRequired name]
    fieldElementDefects name policy element kind errors

def nameDefects : List Value → List (Defect ⊕ Value) → List Defect
  | _, [] => []
  | seen, .inl defect :: rest => defect :: nameDefects seen rest
  | seen, .inr name :: rest =>
    if seen.any (same name) then .duplicateField name :: nameDefects seen rest
    else nameDefects (name :: seen) rest

def fieldName (v : Value) : Eval (Defect ⊕ Value) := do
  if !v.hasKind .field then return .inl (.fieldRequired v.shortTypeName)
  let name ← v.slot "name"
  name.requireHashable
  return .inr name

def contentReferences (content : Value) : Eval (List Value) := do
  if content.isNull then return []
  (← content.slot "args").elements

def elementReferences (element : Value) : Eval (List Value) := do
  if element.isNull then return []
  let fromAttributes ← (← element.slot "attributes").forEach fun source => do
    let tag ← source.slot "kind"
    if tag.isKind .dynamic then (← (← source.slot "expr").slot "args").elements
    else if tag.isKind .request then (← (← source.slot "path").slot "args").elements
    else return []
  return fromAttributes.flatten ++ (← contentReferences (← element.slot "content"))

def distinct : List Value → List Value → List Value
  | _, [] => []
  | seen, v :: vs => if seen.any (same v) then distinct seen vs else v :: distinct (v :: seen) vs

def referencedNames (schema : Value) : Eval (List Value) := do
  let own ← elementReferences (← schema.slot "element")
  let inFields ← (← schema.slot "fields").forEach fun field => do
    let name ← field.slot "name"
    return name :: (← elementReferences (← field.slot "element"))
  let names := own ++ inFields.flatten
  names.forM requireHashable
  return distinct [] names

def declaredFields (type : Value) : Eval (Option (List Value)) := do
  match type with
  | recordType _ t => return t.fields?.map (·.map .text)
  | component c => return some (c.slots.map fun slot => .text slot.1)
  | v =>
    match v.slot? (← Eval.settings).requestNamespace "model_fields" with
    | some fields =>
      return some (← fields.forEach fun field => do field.requireHashable; return field)
    | none => return none

def recordTypeDefects (schema : Value) : Eval (List Defect) := do
  let type ← schema.slot "record_type"
  match ← type.declaredFields with
  | none => return []
  | some fields =>
    let typeName := match type.slot? (← Eval.settings).requestNamespace "__name__" with
      | some name => name.display
      | none => type.literal
    let unknown := (← schema.referencedNames).filter fun name => !fields.any (same name)
    return unknown.map (.noSuchField typeName)

def recordElementDefects (element : Value) : Eval (List Defect) := do
  if element.isNull then return []
  if !element.hasKind .element then return [.recordElementRequired]
  return if (← element.slot "content").isNull then [] else [.recordContent]

def schemaDefects (v : Value) : Eval (List Defect) := do
  let element ← v.slot "element"
  let elementDefects ← recordElementDefects element
  let names ← (← v.slot "fields").forEach fieldName
  let errors := elementDefects ++ nameDefects [] names
  if (← v.slot "record_type").isNull || !errors.isEmpty then return errors
  v.recordTypeDefects

def defects (v : Value) : Eval (List Defect) := do
  match ← v.kind with
  | none => return [.unknownComponent v.shortTypeName]
  | some .format => v.formatDefects
  | some .mapping => v.mappingDefects
  | some .static | some .requestAttr => v.literalDefects
  | some .dynamic => v.dynamicDefects
  | some .request => v.requestDefects
  | some .element => v.elementDefects
  | some .plain => return []
  | some .optional => v.optionalDefects
  | some .map => v.mapDefects
  | some .list => v.listDefects
  | some .nest => v.nestDefects
  | some .field => v.fieldDefects
  | some .schema => v.schemaDefects

end RecordMarkup.Value
