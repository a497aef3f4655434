import RecordMarkup.Eval
import RecordMarkup.Failure
import RecordMarkup.Logging.Event
import RecordMarkup.Text.Case
import RecordMarkup.Text.Chars

namespace RecordMarkup.Logging

def isDigit (c : Char) : Bool := (Text.digitValue? c).isSome

/-- The conversions in both cases, with the letters that differ from `i` and `s` in case alone. -/
def isConversion (c : Char) : Bool :=
  "diouxefgcrsa%DIOUXEFGCRSA".toList.contains c || [0x130, 0x131, 0x17F].contains c.toNat

def skipCount : List Char → List Char
  | '*' :: cs => cs
  | cs => cs.dropWhile isDigit

def skipPrecision : List Char → List Char
  | '.' :: cs => if skipCount cs = cs then '.' :: cs else skipCount cs
  | cs => cs

def beginsWithField : List Char → Bool
  | '%' :: '(' :: cs =>
    match cs.dropWhile Text.isWordChar with
    | ')' :: rest =>
      (cs.head?.map Text.isWordChar).getD false &&
        (match skipPrecision (skipCount (rest.dropWhile "#0+ -".toList.contains)) with
          | c :: _ => isConversion c
          | [] => false)
    | _ => false
  | _ => false

def hasField : List Char → Bool
  | [] => false
  | c :: cs => beginsWithField (c :: cs) || hasField cs

structure Logger where
  level : Level := .notSet
  streams : List String := []
  deriving DecidableEq, Repr

structure Defaults where
  level : String := "WARNING"
  format : String := "%(asctime)s %(levelname)s %(name)s: %(message)s"
  deriving DecidableEq, Repr

inductive Fault
  | unknownLevel (name : String)
  | levelIsBytes (name : List UInt8)
  | levelNotText (value : Value)
  | invalidFormat (format : String)

def Fault.message : Fault → String
  | unknownLevel name => "Unknown level: " ++ Text.quoted name
  | levelIsBytes name => "Level not an integer or a valid string: " ++ Text.quotedBytes name
  | levelNotText v => (Failure.noAttribute v "upper").message
  | invalidFormat format => "Invalid format '" ++ format ++ "' for '%' style"

def upperByte (b : UInt8) : UInt8 := if 97 ≤ b && b ≤ 122 then b - 32 else b

def levelName (defaults : Defaults) (v : Value) : Except Fault String :=
  if !v.truthy then .ok defaults.level
  else
    match v, v.text? with
    | .bytes b, _ => .error (.levelIsBytes (b.map upperByte))
    | _, some s => .ok s
    | v, none => .error (.levelNotText v)

def requestedLevel (defaults : Defaults) (v : Value) : Except Fault Level := do
  let name := Text.upper (← levelName defaults v)
  match Level.ofName? name with
  | some level => .ok level
  | none => .error (.unknownLevel name)

def handlerFormat (defaults : Defaults) : Except Fault String :=
  let format := if defaults.format = "" then "%(message)s" else defaults.format
  if hasField format.toList then .ok format else .error (.invalidFormat format)

/-- The outcome of one call and the logger it leaves. The level stays set if the handler fails. -/
def Logger.configure (defaults : Defaults) (v : Value) (logger : Logger) :
    Except Fault Unit × Logger :=
  match requestedLevel defaults v with
  | .error fault => (.error fault, logger)
  | .ok level =>
    let logger := { logger with level }
    if logger.streams.isEmpty then
      match handlerFormat defaults with
      | .error fault => (.error fault, logger)
      | .ok format => (.ok (), { logger with streams := [format] })
    else (.ok (), logger)

end RecordMarkup.Logging

namespace RecordMarkup

structure Environment where
  settings : Settings := {}
  logging : Logging.Defaults := {}
  deriving DecidableEq, Repr

def Environment.ofVariables (application : String) (assigned : List (String × String)) :
    Environment :=
  let get (name default : String) :=
    (assigned.lookup (application ++ "_" ++ name)).getD default
  let default : Environment := {}
  { settings :=
      { requestNamespace := get "ATTRIBUTE_PREFIX" default.settings.requestNamespace
        safe := get "URLENCODE_SAFE" default.settings.safe }
    logging :=
      { level := get "LOG_LEVEL" default.logging.level
        format := get "LOG_FORMAT" default.logging.format } }

end RecordMarkup
