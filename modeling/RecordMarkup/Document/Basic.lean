import RecordMarkup.Document.Reading
import RecordMarkup.Text.Case

namespace RecordMarkup.Document

structure Format where
  template : String
  args : List String := []
  deriving DecidableEq, Repr

inductive Content
  | text (template : String)
  | format (f : Format)
  deriving DecidableEq, Repr

structure Request where
  method : String
  path : String
  args : List String := []
  urlencode : Bool := false
  deriving DecidableEq, Repr

structure Element where
  tag : Option String := none
  attrs : List (String × String) := []
  dynamic : List (String × Content) := []
  hx : List (String × String) := []
  request : Option Request := none
  content : Option Content := none
  before : String := ""
  after : String := ""
  deriving DecidableEq, Repr

structure Field where
  name : String
  element : Option Element := none
  optional : Bool := false
  default : Option String := none
  map : Option String := none
  list : Bool := false
  nest : Option String := none
  deriving DecidableEq, Repr

structure Schema where
  element : Option Element := none
  fields : List Field := []
  deriving DecidableEq, Repr

def Format.read : Value → Reading Format :=
  readShape .format [["template"], ["args"]] fun entries =>
    Format.mk <$> required entries "template" readText
      <*> defaulted entries ["args"] [] (readList readText)

def Content.read (v : Value) : Reading Content :=
  .either ((Content.text <$> readText v : Reading _).below (.key "str"))
    ((Content.format <$> Format.read v : Reading _).below (.key Shape.format.label))

def Request.read : Value → Reading Request :=
  readShape .request [["method"], ["path"], ["args"], ["urlencode"]] fun entries =>
    Request.mk <$> (Text.lower <$> required entries "method" readText)
      <*> required entries "path" readText
      <*> defaulted entries ["args"] [] (readList readText)
      <*> defaulted entries ["urlencode"] false readBool

def Element.read : Value → Reading Element :=
  readShape .element [["tag"], ["attrs"], ["dynamic"], ["hx"], ["request"], ["content"], ["before"],
      ["after"]] fun entries =>
    Element.mk <$> defaulted entries ["tag"] none (readOptional readText)
      <*> defaulted entries ["attrs"] [] (readDict readText)
      <*> defaulted entries ["dynamic"] [] (readDict Content.read)
      <*> defaulted entries ["hx"] [] (readDict readText)
      <*> defaulted entries ["request"] none (readOptional Request.read)
      <*> defaulted entries ["content"] none (readOptional Content.read)
      <*> defaulted entries ["before"] "" readText
      <*> defaulted entries ["after"] "" readText

def Field.read : Value → Reading Field :=
  readShape .field [["name"], ["element"], ["optional"], ["default"], ["map", "map_with"],
      ["list", "as_list"], ["nest"]] fun entries =>
    Field.mk <$> required entries "name" readText
      <*> defaulted entries ["element"] none (readOptional Element.read)
      <*> defaulted entries ["optional"] false readBool
      <*> defaulted entries ["default"] none (readOptional readText)
      <*> defaulted entries ["map", "map_with"] none (readOptional readText)
      <*> defaulted entries ["list", "as_list"] false readBool
      <*> defaulted entries ["nest"] none (readOptional readText)

def Schema.read : Value → Reading Schema :=
  readShape .schema [["element"], ["fields"]] fun entries =>
    Schema.mk <$> defaulted entries ["element"] none (readOptional Element.read)
      <*> defaulted entries ["fields"] [] (readList Field.read)

end RecordMarkup.Document
