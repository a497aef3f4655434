import RecordMarkup.Defect
import RecordMarkup.Text.Escapes
import RecordMarkup.Value.Equal

namespace RecordMarkup

inductive Failure
  | schema (defects : List Defect)
  | template (fault : Template.Fault)
  | templateNotText (typeName : String)
  | misfit (m : Template.Misfit)
  | unwritable (cause : Value.Unwritable)
  | unencodable (row : Text.Percent.Unencodable)
  | noAttribute (value : Value) (name : String)
  | attributeNotNamed (typeName : String)
  | notIterable (typeName : String)
  | noLength (typeName : String)
  | unhashable (cause : Value.Unhashable)
  | incomparable
  | notCallable (typeName : String)
  | tooManyArguments (callee : String) (taken given : Nat)
  | missingArguments (callee : String) (names : List String)
  | noArguments (callee : String)
  | notJoinable (position : Nat) (typeName : String)
  | startsWithBytes
  | notPair (typeName : String)
  | tooFew (got : Nat)
  | tooMany
  | unknownPolicy (kind : Value)
  | unsupported (mapper : String)
  | tooLarge

namespace Failure

def enumerated : List String → String
  | [] => ""
  | [a] => a
  | [a, b] => a ++ " and " ++ b
  | names => ", ".intercalate names.dropLast ++ ", and " ++ names.getLast?.getD ""

def plural (n : Nat) (noun : String) : String :=
  toString n ++ " " ++ noun ++ if n = 1 then "" else "s"

def unencodableMessage (row : Text.Percent.Unencodable) : String :=
  let place :=
    if row.first = row.last then
      " '" ++ String.ofList (Text.hexEscape 'u' 4 row.code) ++ "' in position " ++ toString row.first
    else "s in position " ++ toString row.first ++ "-" ++ toString row.last
  "'utf-8' codec can't encode character" ++ place ++ ": surrogates not allowed"

def message : Failure → String
  | schema defects => Defect.joined defects
  | template fault => fault.message
  | templateNotText typeName => "expected str, got " ++ typeName
  | misfit m => m.message
  | unwritable .notNumeral => "[<class 'decimal.ConversionSyntax'>]"
  | unwritable .tooManyDigits =>
    "Exceeds the limit (" ++ toString Number.digitLimit ++
      " digits) for integer string conversion; use sys.set_int_max_str_digits() to increase the limit"
  | unencodable row => unencodableMessage row
  | noAttribute (.recordType _ t) name =>
    if t.kind = .checked then name
    else "type object '" ++ t.name ++ "' has no attribute '" ++ name ++ "'"
  | noAttribute (.operation ..) name => "'function' object has no attribute '" ++ name ++ "'"
  | noAttribute v name => "'" ++ v.typeName ++ "' object has no attribute '" ++ name ++ "'"
  | attributeNotNamed typeName => "attribute name must be string, not '" ++ typeName ++ "'"
  | notIterable typeName => "'" ++ typeName ++ "' object is not iterable"
  | noLength typeName => "object of type '" ++ typeName ++ "' has no len()"
  | unhashable (.mutable typeName) => "unhashable type: '" ++ typeName ++ "'"
  | unhashable .signalling => "Cannot hash a signaling NaN value"
  | incomparable => "[<class 'decimal.InvalidOperation'>]"
  | notCallable typeName => "'" ++ typeName ++ "' object is not callable"
  | tooManyArguments callee taken given =>
    callee ++ " takes " ++ plural taken "positional argument" ++ " but " ++ toString given ++
      " were given"
  | missingArguments callee names =>
    callee ++ " missing " ++ plural names.length "required positional argument" ++ ": " ++
      enumerated (names.map Text.quoted)
  | noArguments callee => callee ++ " takes no arguments"
  | notJoinable position typeName =>
    "sequence item " ++ toString position ++ ": expected str instance, " ++ typeName ++ " found"
  | startsWithBytes => "startswith first arg must be bytes or a tuple of bytes, not str"
  | notPair typeName => "cannot unpack non-iterable " ++ typeName ++ " object"
  | tooFew got => "not enough values to unpack (expected 2, got " ++ toString got ++ ")"
  | tooMany => "too many values to unpack (expected 2)"
  | unknownPolicy kind => kind.literal
  | unsupported mapper => mapper ++ ": unsupported value"
  | tooLarge => "integer division result too large for a float"

end Failure

end RecordMarkup
