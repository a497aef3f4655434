import RecordMarkup.Validate

namespace RecordMarkup.Value

/-- The request comes first, then what is computed from the record, then the literal attributes. -/
def attributeOrder : List Kind := [.request, .dynamic, .static, .requestAttr]

def attributeText (name value : String) : String := " " ++ name ++ "=\"" ++ value ++ "\""

def liesIn (space : String) (key : Value) : Eval Bool :=
  match key with
  | bytes _ => throw .startsWithBytes
  | key =>
    match key.text? with
    | some s => return space.toList.isPrefixOf s.toList
    | none => return (← key.callSlot "startswith" [text space]).truthy

def requestAttrName (key : Value) : Eval Value := do
  let space := (← Eval.settings).requestNamespace
  return if ← key.liesIn space then key else text (space ++ key.display)

def renderStatic (source : Value) : Eval String :=
  return attributeText (← source.slot "key").display (← source.slot "value").display

def renderDynamic (source record : Value) : Eval String := do
  let key ← source.slot "key"
  let value ← (← source.slot "expr").evaluate record []
  return attributeText key.display value.display

def renderRequestAttr (source : Value) : Eval String := do
  let name ← requestAttrName (← source.slot "key")
  return attributeText name.display (← source.slot "value").display

/-- A value as it goes into an encoded path. Of an empty text nothing is encoded, so that a word stays
the member that it is. -/
def encoded (v : Value) : Eval Value := do
  let s ← v.percentEncode
  return if v.text? = some "" then v else text s

def pathValues (encode : Value) (values : List Value) : Eval (List Value) :=
  if encode.truthy then values.mapM encoded else return values

def renderRequest (source record : Value) : Eval String := do
  let path ← source.slot "path"
  let values ← (← path.slot "args").forEach record.field
  let values ← pathValues (← source.slot "encode") values
  let name ← (← source.slot "method").slot "attribute"
  return attributeText name.display (← (← path.slot "template").substitute values)

def renderAttribute (kind : Kind) (source record : Value) : Eval String :=
  match kind with
  | .request => source.renderRequest record
  | .dynamic => source.renderDynamic record
  | .requestAttr => source.renderRequestAttr
  | _ => source.renderStatic

def renderKind (sources : List Value) (record : Value) (kind : Kind) : Eval String := do
  let texts ← sources.mapM fun source => do
    if (← source.slot "kind").isKind kind then source.renderAttribute kind record else return ""
  return String.join texts

def renderAttributes (sources record : Value) : Eval String := do
  let sources ← sources.elements
  return String.join (← attributeOrder.mapM (renderKind sources record))

def openTag (element record : Value) : Eval Value := do
  match element with
  | component (.element tag attributes _ _ _) =>
    if tag.isNull then return text ""
    else return text ("<" ++ tag.display ++ (← (tuple attributes).renderAttributes record) ++ ">")
  | v => v.callSlot "open" [record]

def closeTag (element : Value) : Eval Value := do
  match element with
  | component (.element tag ..) =>
    return text (if tag.isNull then "" else "</" ++ tag.display ++ ">")
  | v => v.callSlot "close" []

def renderContent (element record v : Value) : Eval Value :=
  match element with
  | component (.element _ _ content _ _) =>
    if content.isNull then return text (← v.toText) else content.evaluate record [v]
  | e => e.callSlot "render_content" [record, v]

def wrap (element record inner : Value) : Eval String := do
  let opening ← element.openTag record
  let before ← element.slot "before"
  let after ← element.slot "after"
  let closing ← element.closeTag
  join "" [opening, before, inner, after, closing]

def bareElement : Value := component (.element null [] null (text "") (text ""))

end RecordMarkup.Value
