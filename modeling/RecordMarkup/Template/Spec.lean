import RecordMarkup.Text.Chars

namespace RecordMarkup.Template

inductive Align
  | left
  | right
  | center
  | afterSign
  deriving DecidableEq, Repr

def Align.ofChar? : Char → Option Align
  | '<' => some left
  | '>' => some right
  | '^' => some center
  | '=' => some afterSign
  | _ => none

inductive SpecFault
  | tooManyDigits
  | missingPrecision
  | bothSeparators
  | separator (mark code : Char)
  | invalid (spec : List Char)
  | unknownCode (code : Char)
  | sign
  | space
  | zeroCoercion
  | alternateForm
  | afterSign
  deriving DecidableEq, Repr

structure Spec where
  fill : Char
  align : Align
  width : Nat
  precision : Option Nat
  deriving DecidableEq, Repr

namespace Spec

def apply (spec : Spec) (text : List Char) : List Char :=
  let body := match spec.precision with
    | some n => text.take n
    | none => text
  let gap := spec.width - body.length
  match spec.align with
  | .right => List.replicate gap spec.fill ++ body
  | .center => List.replicate (gap / 2) spec.fill ++ body ++ List.replicate (gap - gap / 2) spec.fill
  | _ => body ++ List.replicate gap spec.fill

def takeAlign : List Char → Option Char × Option Align × List Char
  | [] => (none, none, [])
  | [a] =>
    match Align.ofChar? a with
    | some align => (none, some align, [])
    | none => (none, none, [a])
  | fill :: a :: rest =>
    match Align.ofChar? a, Align.ofChar? fill with
    | some align, _ => (some fill, some align, rest)
    | none, some align => (none, some align, a :: rest)
    | none, none => (none, none, fill :: a :: rest)

def takeOneOf (marks : List Char) : List Char → Option Char × List Char
  | [] => (none, [])
  | c :: cs => if marks.contains c then (some c, cs) else (none, c :: cs)

def numberLimit : Nat := 0x7FFFFFFFFFFFFFFF

def takeNumber (value : Option Nat) : List Char → Option Nat × List Char
  | [] => (value, [])
  | c :: cs =>
    match Text.digitValue? c with
    | some d => takeNumber (some (10 * value.getD 0 + d)) cs
    | none => (value, c :: cs)

def takeLimited (cs : List Char) : Except SpecFault (Option Nat × List Char) :=
  let (number, rest) := takeNumber none cs
  if numberLimit < number.getD 0 then .error .tooManyDigits else .ok (number, rest)

def takeSeparator (cs : List Char) : Except SpecFault (Option Char × List Char) :=
  let (comma, cs) := takeOneOf [','] cs
  let (underscore, cs) := takeOneOf ['_'] cs
  match comma, underscore, cs with
  | some _, some _, _ => .error .bothSeparators
  | none, some _, ',' :: _ => .error .bothSeparators
  | _, _, _ => .ok (comma.or underscore, cs)

def takePrecision : List Char → Except SpecFault (Option Nat × List Char)
  | '.' :: cs => do
    let (precision, rest) ← takeLimited cs
    match precision with
    | none => .error .missingPrecision
    | some n => .ok (some n, rest)
  | cs => .ok (none, cs)

/-- The presentation code is the last character; without one the code is that of text. -/
def takeCode (spec : List Char) : List Char → Except SpecFault Char
  | [] => .ok 's'
  | [code] => .ok code
  | _ => .error (.invalid spec)

def allowsSeparator (mark code : Char) : Bool :=
  ['d', 'e', 'f', 'g', 'E', 'G', '%', 'F', '\x00'].contains code ||
    (mark == '_' && ['b', 'o', 'x', 'X'].contains code)

def parse (spec : List Char) : Except SpecFault Spec := do
  let (fill, align, cs) := takeAlign spec
  let (sign, cs) := takeOneOf ['+', '-', ' '] cs
  let (coercion, cs) := takeOneOf ['z'] cs
  let (alternate, cs) := takeOneOf ['#'] cs
  let (padding, cs) := if fill.isNone then takeOneOf ['0'] cs else (none, cs)
  let (width, cs) ← takeLimited cs
  let (separator, cs) ← takeSeparator cs
  let (precision, cs) ← takePrecision cs
  let code ← takeCode spec cs
  if let some mark := separator then
    if !allowsSeparator mark code then throw (.separator mark code)
  if code ≠ 's' then throw (.unknownCode code)
  match sign with
  | some ' ' => throw .space
  | some _ => throw .sign
  | none => pure ()
  if coercion.isSome then throw .zeroCoercion
  if alternate.isSome then throw .alternateForm
  let align := align.getD .left
  if align = .afterSign then throw .afterSign
  return ⟨(fill.or padding).getD ' ', align, width.getD 0, precision⟩

def format (spec text : List Char) : Except SpecFault (List Char) :=
  if spec.isEmpty then .ok text else (parse spec).map (·.apply text)

end Spec

end RecordMarkup.Template
