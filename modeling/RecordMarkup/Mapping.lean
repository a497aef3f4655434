import RecordMarkup.Eval

namespace RecordMarkup.Mapping

def int? : Value → Option Int
  | .int n => some n
  | .member (.number _ _ n) => some n
  | _ => none

def size? : Value → Option Nat
  | .list items | .tuple items => some items.length
  | .dict entries => some entries.length
  | v => v.text?.map String.length

def upperAscii (s : String) : String := String.ofList (s.toList.map Char.toUpper)

def double? : Value → Option Value
  | .float x | .member (.double _ _ x) => some (.float (x + x))
  | .nan i .double => some (.nan i .double)
  | .list items => some (.list (items ++ items))
  | v =>
    match int? v, v.text? with
    | some n, _ => some (.int (n + n))
    | none, some s => some (.text (s ++ s))
    | none, none => none

def negate? : Value → Option Value
  | .bool b => some (.bool !b)
  | .float x | .member (.double _ _ x) => some (.float (-x))
  | .nan i .double => some (.nan i .double)
  | v => (int? v).map fun n => .int (-n)

def first? : Value → Option Value
  | .list items | .tuple items => items.head?
  | v => v.text?.bind fun s => s.toList.head?.map fun c => .text c.toString

def quarterInt (n : Int) : Except Failure Value :=
  let x := Float.ofScientific (n.natAbs * 25) true 2
  if x.isInf then .error .tooLarge else .ok (.float (if n < 0 then -x else x))

def kindName : Value → String
  | .null => "null"
  | .bool _ => "bool"
  | .float _ | .nan _ .double | .member (.double ..) => "float"
  | .list _ => "list"
  | .tuple _ => "tuple"
  | .dict _ => "dict"
  | v => if (int? v).isSome then "int" else if v.isText then "str" else "other"

def stock : Mappings
  | "identity", v => .ok v
  | "none", _ => .ok .null
  | "pair", v => .ok (.tuple [v, v])
  | "typename", v => .ok (.text (kindName v))
  | "quarter", .float x | "quarter", .member (.double _ _ x) => .ok (.float (x / 4))
  | "quarter", .nan i .double => .ok (.nan i .double)
  | "quarter", v =>
    match int? v with
    | some n => quarterInt n
    | none => .error (.unsupported "quarter")
  | name, v =>
    let result := match name with
      | "upper" => v.text?.map fun s => .text (upperAscii s)
      | "len" => (size? v).map fun n => .int n
      | "is_empty" => (size? v).map fun n => .bool (n = 0)
      | "double" => double? v
      | "negate" => negate? v
      | "first" => first? v
      | _ => none
    match result with
    | some w => .ok w
    | none => .error (.unsupported name)

end RecordMarkup.Mapping
