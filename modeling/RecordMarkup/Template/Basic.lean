import RecordMarkup.Template.Spec
import RecordMarkup.Text.Escapes

/-!
Templates: literal text with slots for values. A slot is a pair of braces, perhaps with a format
spec after a colon; a brace that is meant as text is doubled.

A template is read from left to right, and the first thing that is wrong with it is the one that is
reported. What a slot may hold in general is wider than what it may hold here, so `scan` finds the slots,
and `placeholderCount` refuses those that are more than a place. Filling a template goes over its text
again, and formats each text by the spec of its slot.
-/

namespace RecordMarkup.Template

inductive Malformed
  | loneOpen
  | loneClose
  | braceInName
  | unclosed
  | unclosedSpec
  | missingConversion
  | missingColon
  deriving DecidableEq, Repr

structure RawSlot where
  name : List Char
  conversion : Option Char
  spec : List Char
  deriving DecidableEq, Repr

inductive RawPiece
  | char (c : Char)
  | slot (s : RawSlot)
  deriving DecidableEq, Repr

/-- The pieces up to the end of the text, or up to the place where it is malformed. -/
structure Scan where
  pieces : List RawPiece
  fault : Option Malformed
  deriving DecidableEq, Repr

def Scan.stop (fault : Malformed) : Scan := ⟨[], some fault⟩

def Scan.push (piece : RawPiece) (s : Scan) : Scan := { s with pieces := piece :: s.pieces }

/-- The name of a slot, the mark that ends it and what follows; marks between square brackets
belong to the name. -/
def splitName : Bool → List Char → Except Malformed (List Char × Char × List Char)
  | _, [] => .error .unclosed
  | bracketed, c :: cs =>
    let name (bracketed : Bool) :=
      (splitName bracketed cs).map fun (name, mark, rest) => (c :: name, mark, rest)
    if bracketed then name (c != ']')
    else if c = '{' then .error .braceInName
    else if c = '}' ∨ c = ':' ∨ c = '!' then .ok ([], c, cs)
    else name (c == '[')

def splitSpec : Nat → List Char → Except Malformed (List Char × List Char)
  | _, [] => .error .unclosedSpec
  | depth, c :: cs =>
    let spec (depth : Nat) := (splitSpec depth cs).map fun (spec, rest) => (c :: spec, rest)
    if c = '}' then
      match depth with
      | 0 => .ok ([], cs)
      | depth + 1 => spec depth
    else spec (if c = '{' then depth + 1 else depth)

theorem exists_of_map_eq_ok {r : Except ε α} {f : α → β} {b : β} (h : r.map f = .ok b) :
    ∃ a, r = .ok a ∧ f a = b := by
  cases r with
  | error => simp [Except.map] at h
  | ok a => exact ⟨a, rfl, by simpa [Except.map] using h⟩

theorem splitName_length {bracketed : Bool} {cs : List Char} {r : List Char × Char × List Char}
    (h : splitName bracketed cs = .ok r) : r.2.2.length < cs.length := by
  induction cs generalizing bracketed r with
  | nil => simp [splitName] at h
  | cons c cs ih =>
    have name : ∀ {b : Bool}, (splitName b cs).map (fun (name, mark, rest) => (c :: name, mark, rest))
        = .ok r → r.2.2.length < (c :: cs).length := by
      intro b h
      obtain ⟨q, hq, rfl⟩ := exists_of_map_eq_ok h
      exact Nat.lt_succ_of_lt (ih (r := q) hq)
    simp only [splitName] at h
    split at h
    · exact name h
    · split at h
      · simp at h
      · split at h
        · obtain rfl := Except.ok.inj h
          simp
        · exact name h

theorem splitSpec_length {depth : Nat} {cs : List Char} {r : List Char × List Char}
    (h : splitSpec depth cs = .ok r) : r.2.length < cs.length := by
  induction cs generalizing depth r with
  | nil => simp [splitSpec] at h
  | cons c cs ih =>
    have spec : ∀ {d : Nat}, (splitSpec d cs).map (fun (spec, rest) => (c :: spec, rest)) = .ok r →
        r.2.length < (c :: cs).length := by
      intro d h
      obtain ⟨q, hq, rfl⟩ := exists_of_map_eq_ok h
      exact Nat.lt_succ_of_lt (ih (r := q) hq)
    simp only [splitSpec] at h
    split at h
    · split at h
      · obtain rfl := Except.ok.inj h
        simp
      · exact spec h
    · exact spec h

/-- A conversion that is the null character counts as none. -/
def conversionOf (c : Char) : Option Char := if c = '\x00' then none else some c

def readSlot (cs : List Char) : Except Malformed (RawSlot × List Char) :=
  match splitName false cs with
  | .error e => .error e
  | .ok (name, mark, rest) =>
    let withSpec (conversion : Option Char) (cs : List Char) :=
      (splitSpec 0 cs).map fun (spec, rest) => (RawSlot.mk name conversion spec, rest)
    if mark = '}' then .ok (⟨name, none, []⟩, rest)
    else if mark = ':' then withSpec none rest
    else
      match rest with
      | [] => .error .missingConversion
      | [_] => .error .unclosedSpec
      | c :: closing :: rest =>
        if closing = '}' then .ok (⟨name, conversionOf c, []⟩, rest)
        else if closing = ':' then withSpec (conversionOf c) rest
        else .error .missingColon

theorem readSlot_length {cs : List Char} {r : RawSlot × List Char} (h : readSlot cs = .ok r) :
    r.2.length < cs.length := by
  have withSpec : ∀ {name : List Char} {conversion : Option Char} {cs : List Char},
      (splitSpec 0 cs).map (fun (spec, rest) => (RawSlot.mk name conversion spec, rest)) = .ok r →
        r.2.length < cs.length := by
    intro name conversion cs h
    obtain ⟨q, hq, rfl⟩ := exists_of_map_eq_ok h
    exact splitSpec_length hq
  unfold readSlot at h
  split at h
  · simp at h
  · next name mark rest hn =>
    have hlt := splitName_length hn
    simp only at hlt
    split at h
    · obtain rfl := Except.ok.inj h
      exact hlt
    · split at h
      · exact Nat.lt_trans (withSpec h) hlt
      · split at h
        · simp at h
        · simp at h
        · simp only [List.length_cons] at hlt
          split at h
          · obtain rfl := Except.ok.inj h
            simp only; omega
          · split at h
            · have := withSpec h
              omega
            · simp at h

def scan : List Char → Scan
  | [] => ⟨[], none⟩
  | ['{'] => .stop .loneOpen
  | '{' :: '{' :: rest => (scan rest).push (.char '{')
  | '{' :: rest =>
    match h : readSlot rest with
    | .error fault => .stop fault
    | .ok (slot, rest') =>
      have : rest'.length < rest.length := readSlot_length h
      (scan rest').push (.slot slot)
  | '}' :: '}' :: rest => (scan rest).push (.char '}')
  | '}' :: _ => .stop .loneClose
  | c :: rest => (scan rest).push (.char c)
termination_by cs => cs.length

inductive Fault
  | malformed (m : Malformed)
  | named (name : List Char)
  | converted (conversion : Char)
  | nested
  | spec (spec : List Char) (fault : SpecFault)
  deriving DecidableEq, Repr

/-- A slot of a template has no name, no conversion and no slot within its format spec, which can format
the empty text. -/
def RawSlot.check (slot : RawSlot) : Except Fault Unit :=
  if slot.name ≠ [] then .error (.named slot.name)
  else
    match slot.conversion with
    | some c => .error (.converted c)
    | none =>
      if slot.spec.contains '{' then .error .nested
      else
        match Spec.format slot.spec [] with
        | .error fault => .error (.spec slot.spec fault)
        | .ok _ => .ok ()

def checkPieces : List RawPiece → Except Fault Nat
  | [] => .ok 0
  | .char _ :: pieces => checkPieces pieces
  | .slot slot :: pieces => do
    slot.check
    return (← checkPieces pieces) + 1

def placeholderCount (template : String) : Except Fault Nat := do
  let s := scan template.toList
  let n ← checkPieces s.pieces
  match s.fault with
  | some m => .error (.malformed m)
  | none => .ok n

/-- Why texts cannot be put into a template. A slot is `special` if it takes more than the next text to
fill it. -/
inductive Misfit
  | malformed (m : Malformed)
  | spec (fault : SpecFault)
  | missing (position : Nat)
  | special (slot : RawSlot)
  deriving DecidableEq, Repr

def RawSlot.format (slot : RawSlot) (text : List Char) : Except Misfit (List Char) :=
  if slot.name ≠ [] ∨ slot.conversion.isSome ∨ slot.spec.contains '{' then .error (.special slot)
  else
    match Spec.format slot.spec text with
    | .error fault => .error (.spec fault)
    | .ok shown => .ok shown

/-- Puts the texts into the slots in order, beginning at a position; a text is never looked into for
further slots. -/
def formatPieces (position : Nat) : List RawPiece → List (List Char) → Except Misfit (List Char)
  | [], _ => .ok []
  | .char c :: pieces, texts => (formatPieces position pieces texts).map (c :: ·)
  | .slot _ :: _, [] => .error (.missing position)
  | .slot slot :: pieces, text :: texts => do
    let shown ← slot.format text
    return shown ++ (← formatPieces (position + 1) pieces texts)

def format (template : String) (texts : List (List Char)) : Except Misfit (List Char) := do
  let s := scan template.toList
  let shown ← formatPieces 0 s.pieces texts
  match s.fault with
  | some m => .error (.malformed m)
  | none => .ok shown

def Malformed.message : Malformed → String
  | loneOpen => "Single '" ++ '{'.toString ++ "' encountered in format string"
  | loneClose => "Single '" ++ '}'.toString ++ "' encountered in format string"
  | braceInName => "unexpected '" ++ '{'.toString ++ "' in field name"
  | unclosed => "expected '" ++ '}'.toString ++ "' before end of string"
  | unclosedSpec => "unmatched '" ++ '{'.toString ++ "' in format spec"
  | missingConversion => "end of string while looking for conversion specifier"
  | missingColon => "expected ':' after conversion specifier"

def codeText (code : Char) : String :=
  if 32 < code.toNat ∧ code.toNat < 128 then code.toString
  else "\\x" ++ String.ofList (Nat.toDigits 16 code.toNat)

def SpecFault.message : SpecFault → String
  | tooManyDigits => "Too many decimal digits in format string"
  | missingPrecision => "Format specifier missing precision"
  | bothSeparators => "Cannot specify both ',' and '_'."
  | separator mark code => "Cannot specify '" ++ mark.toString ++ "' with '" ++ codeText code ++ "'."
  | invalid spec =>
    "Invalid format specifier '" ++ String.ofList spec ++ "' for object of type 'str'"
  | unknownCode code =>
    "Unknown format code '" ++ codeText code ++ "' for object of type 'str'"
  | sign => "Sign not allowed in string format specifier"
  | space => "Space not allowed in string format specifier"
  | zeroCoercion => "Negative zero coercion (z) not allowed in string format specifier"
  | alternateForm => "Alternate form (#) not allowed in string format specifier"
  | afterSign => "'=' alignment not allowed in string format specifier"

def Fault.message : Fault → String
  | malformed m => m.message
  | named name =>
    "only positional '{}' placeholders are allowed, found '" ++
      String.ofList ('{' :: (name ++ ['}'])) ++ "'"
  | converted conversion => "conversions are not allowed, found '!" ++ conversion.toString ++ "'"
  | nested => "nested placeholders inside a format spec are not allowed"
  | spec s fault =>
    "format spec " ++ Text.quoted (String.ofList s) ++ " does not apply to text: " ++ fault.message

def Misfit.message : Misfit → String
  | malformed m => m.message
  | spec fault => fault.message
  | missing position =>
    "Replacement index " ++ toString position ++ " out of range for positional args tuple"
  | special slot => Text.quoted (String.ofList slot.name)

end RecordMarkup.Template
