import RecordMarkup.Template.Basic
import RecordMarkup.Value.Written

namespace RecordMarkup.Document

inductive Step
  | key (name : String)
  | index (n : Nat)
  deriving DecidableEq, Repr

def Step.text : Step → String
  | key name => name
  | index n => toString n

inductive Shape
  | schema
  | field
  | element
  | request
  | format
  deriving DecidableEq, Repr

def Shape.label : Shape → String
  | schema => "SchemaDocument"
  | field => "FieldDocument"
  | element => "ElementDocument"
  | request => "RequestDocument"
  | format => "FormatDocument"

inductive Problem
  | missing
  | unknownKey
  | notText
  | notUnicode
  | notList
  | notDict
  | notShape (shape : Shape)
  | notBool
  | unclearBool
  deriving DecidableEq, Repr

def Problem.message : Problem → String
  | missing => "Field required"
  | unknownKey => "Extra inputs are not permitted"
  | notText => "Input should be a valid string"
  | notUnicode => "Input should be a valid string, unable to parse raw data as a unicode string"
  | notList => "Input should be a valid list"
  | notDict => "Input should be a valid dictionary"
  | notShape shape => "Input should be a valid dictionary or instance of " ++ shape.label
  | notBool => "Input should be a valid boolean"
  | unclearBool => "Input should be a valid boolean, unable to interpret input"

structure Issue where
  path : List Step
  problem : Problem
  deriving DecidableEq, Repr

namespace Issue

def below (step : Step) (issue : Issue) : Issue := { issue with path := step :: issue.path }

def message (issue : Issue) : String :=
  ".".intercalate (issue.path.map Step.text) ++ ": " ++ issue.problem.message

end Issue

end RecordMarkup.Document

namespace RecordMarkup

inductive Place
  | attributeKey (key : Value)
  | request (method : Value)
  | content (field : Value)
  | labelled (label : String)

def Place.label : Place → String
  | attributeKey key => "attribute " ++ key.literal
  | request m => m.display ++ " request"
  | content field => "Field " ++ field.literal ++ " content"
  | labelled label => label

inductive Defect
  | unknownComponent (typeName : String)
  | templateNotText (typeName : String)
  | badTemplate (template : Value) (fault : Template.Fault)
  | badReference (template arg : Value)
  | badVariable (name : Value)
  | notCallable (name : Value)
  | badKey (key : Value)
  | attributeNotText (key : Value)
  | badTemplateAt (place : Place) (template : Value) (fault : Template.Fault)
  | slotCount (place : Place) (template : Value) (found : Nat) (expected : Value)
  | encodesNothing (method template : Value)
  | badTag (tag : Value)
  | unknownAttribute (source : Value)
  | severalRequests (methods : String)
  | attributesWithoutTag
  | surroundNotText
  | defaultAndMap
  | defaultNotText (typeName : String)
  | mapRequired
  | itemNotSchema
  | schemaRequired
  | badFieldName (name : Value)
  | unknownPolicy (field policy : Value)
  | elementRequired (field : Value)
  | listWithoutElement (field : Value)
  | nestedContent (field : Value)
  | recordElementRequired
  | recordContent
  | fieldRequired (typeName : String)
  | duplicateField (name : Value)
  | noSuchField (recordType : String) (name : Value)
  | unknownMethod (value : Value)
  | valueCount (template : Value) (slots values : Nat)
  | document (name : String) (issue : Document.Issue)
  | listExcludesOptions
  | nestExcludesOptions
  | defaultRequiresOptional
  | unknownMapper (name : String)
  | unknownReference (name : String)
  | referenceCycle (names : List String)
  | within (owner field : String) (defect : Defect)

namespace Defect

def message : Defect → String
  | unknownComponent typeName => "Unknown schema component: " ++ typeName
  | templateNotText typeName => "Format template must be a string, got " ++ typeName
  | badTemplate template fault => "Invalid template " ++ template.literal ++ ": " ++ fault.message
  | badReference template arg =>
    "Invalid field reference in " ++ template.literal ++ ": " ++ arg.literal
  | badVariable name => "Invalid map variable name: " ++ name.literal
  | notCallable name => "Map expression for " ++ name.literal ++ " must be callable"
  | badKey key => "Invalid attribute key: " ++ key.literal
  | attributeNotText key => "Attribute " ++ key.literal ++ " value must be a string"
  | badTemplateAt place template fault =>
    place.label ++ ": invalid template " ++ template.literal ++ ": " ++ fault.message
  | slotCount place template found expected =>
    place.label ++ ": template " ++ template.literal ++ " has " ++ toString found ++
      " placeholder(s), expected " ++ expected.display
  | encodesNothing m template =>
    m.display ++ " request " ++ template.literal ++ ": urlencode requires at least one argument"
  | badTag tag => "Invalid element tag: " ++ tag.literal
  | unknownAttribute source => "Unknown attribute source: " ++ source.literal
  | severalRequests methods =>
    "Cannot have more than one request method on an element (" ++ methods ++ ")"
  | attributesWithoutTag => "Attributes require an element tag"
  | surroundNotText => "before/after must be strings"
  | defaultAndMap => "Optional field cannot have both a default and a map"
  | defaultNotText typeName => "Default must be a string, got " ++ typeName
  | mapRequired => "Map policy requires a MapExpr"
  | itemNotSchema => "List item schema must be a Schema"
  | schemaRequired => "Nested field requires a Schema"
  | badFieldName name => "Invalid field name: " ++ name.literal
  | unknownPolicy field policy =>
    "Field " ++ field.literal ++ ": unknown policy " ++ policy.literal
  | elementRequired field => "Field " ++ field.literal ++ ": element must be an ElementSpec"
  | listWithoutElement field =>
    "Field " ++ field.literal ++ ": list requires an element or a nested item schema"
  | nestedContent field =>
    "Field " ++ field.literal ++ ": nested content comes from the nested schema, not a format"
  | recordElementRequired => "Record element must be an ElementSpec"
  | recordContent => "Record element cannot have content; its children are its fields"
  | fieldRequired typeName => "Schema fields must be Field instances, got " ++ typeName
  | duplicateField name => "Duplicate field: " ++ name.literal
  | noSuchField recordType name => recordType ++ " has no field " ++ name.literal
  | unknownMethod value => "Unknown request method: " ++ value.literal
  | valueCount template slots values =>
    "template " ++ template.literal ++ " has " ++ toString slots ++ " placeholder(s) but " ++
      toString values ++ " value(s) were supplied"
  | document name issue => name ++ "." ++ issue.message
  | listExcludesOptions => "list fields cannot be optional, defaulted or mapped"
  | nestExcludesOptions => "nested fields cannot be defaulted or mapped"
  | defaultRequiresOptional => "default requires optional"
  | unknownMapper name => "unknown mapper " ++ Text.quoted name
  | unknownReference name => "Unknown schema reference: " ++ Text.quoted name
  | referenceCycle names => "Schema reference cycle: " ++ " -> ".intercalate names
  | within owner field defect => owner ++ "." ++ field ++ ": " ++ defect.message

def joined (defects : List Defect) : String := "; ".intercalate (defects.map message)

end Defect

end RecordMarkup
