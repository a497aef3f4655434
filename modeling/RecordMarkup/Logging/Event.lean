import RecordMarkup.Defect

namespace RecordMarkup.Logging

inductive Level
  | notSet
  | debug
  | info
  | warning
  | error
  | critical
  deriving DecidableEq, Repr

namespace Level

def number : Level → Nat
  | notSet => 0
  | debug => 10
  | info => 20
  | warning => 30
  | error => 40
  | critical => 50

def name : Level → String
  | notSet => "NOTSET"
  | debug => "DEBUG"
  | info => "INFO"
  | warning => "WARNING"
  | error => "ERROR"
  | critical => "CRITICAL"

def ofName? : String → Option Level
  | "NOTSET" => some notSet
  | "DEBUG" => some debug
  | "INFO" => some info
  | "WARNING" | "WARN" => some warning
  | "ERROR" => some error
  | "CRITICAL" | "FATAL" => some critical
  | _ => none

end Level

inductive Origin
  | construction
  | rendering
  | compilation
  deriving DecidableEq, Repr

inductive Event
  | rejected (component : Kind) (defects : List Defect)
  | built (name : Value) (fieldCount : Nat)
  | renderedList (field schema : Value)
  | renderedNest (field schema : Value)
  | invalidDocuments (issueCount : Nat)
  | compiledSchema (name : String)
  | compiled (schemaCount : Nat)

namespace Event

def level : Event → Level
  | rejected .. | invalidDocuments _ => .warning
  | compiled _ => .info
  | _ => .debug

def origin : Event → Origin
  | rejected .. | built .. => .construction
  | renderedList .. | renderedNest .. => .rendering
  | invalidDocuments _ | compiledSchema _ | compiled _ => .compilation

def message : Event → String
  | rejected component defects =>
    "schema: rejected " ++ component.label ++ ": " ++ Defect.joined defects
  | built name fieldCount =>
    "schema: built " ++ name.display ++ " with " ++ toString fieldCount ++ " field(s)"
  | renderedList field schema =>
    "render: list field " ++ field.literal ++ " through " ++ schema.display
  | renderedNest field schema =>
    "render: nested field " ++ field.literal ++ " through " ++ schema.display
  | invalidDocuments issueCount => "documents: " ++ toString issueCount ++ " validation error(s)"
  | compiledSchema name => "documents: built schema " ++ name
  | compiled schemaCount => "documents: compiled " ++ toString schemaCount ++ " schema(s)"

end Event

end RecordMarkup.Logging
