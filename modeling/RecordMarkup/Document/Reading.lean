import RecordMarkup.Defect
import RecordMarkup.Eval
import RecordMarkup.Number.Conversion

namespace RecordMarkup.Document

/-- The outcome of reading, and the state that is left: what was taken from streams stays taken,
whatever the outcome. -/
def Reading (α : Type) : Type := State → Except (List Issue) α × State

namespace Reading

def refuse (issues : List Issue) : Reading α := fun state => (.error issues, state)

def fail (problem : Problem) : Reading α := refuse [⟨[], problem⟩]

def both : Except (List Issue) (α → β) → Except (List Issue) α → Except (List Issue) β
  | .ok f, .ok a => .ok (f a)
  | .ok _, .error issues => .error issues
  | .error issues, .ok _ => .error issues
  | .error issues, .error more => .error (issues ++ more)

instance : Applicative Reading where
  pure a := fun state => (.ok a, state)
  seq f x := fun state =>
    let (f, state) := f state
    let (a, state) := x () state
    (both f a, state)

def below (step : Step) (reading : Reading α) : Reading α := fun state =>
  let (result, state) := reading state
  (result.mapError (·.map (·.below step)), state)

def either (first second : Reading α) : Reading α := fun state =>
  match first state with
  | (.ok a, state) => (.ok a, state)
  | (.error issues, state) =>
    let (result, state) := second state
    (result.mapError (issues ++ ·), state)

def each (read : α → Reading β) : List α → Reading (List β)
  | [] => pure []
  | a :: as => List.cons <$> read a <*> each read as

end Reading

abbrev Entries := List (String × Value)

def textOfBytes? (bytes : List UInt8) : Option String := String.fromUTF8? ⟨bytes.toArray⟩

def readText (v : Value) : Reading String :=
  match v.text?, v with
  | some s, _ => pure s
  | none, .bytes b =>
    match textOfBytes? b with
    | some s => pure s
    | none => .fail .notUnicode
  | none, .member m => pure m.value.display
  | none, .method m => pure m.word
  | none, _ => .fail .notText

def readOptional (read : Value → Reading α) : Value → Reading (Option α)
  | .null => pure none
  | v => some <$> read v

def readItems (read : Value → Reading α) (items : List Value) : Reading (List α) :=
  .each (fun (v, i) => (read v).below (.index i)) items.zipIdx

/-- Reads what is left in a stream; each item is read before the next is taken, and goes by the
number of those that were taken before it. -/
def readRest (read : Value → Reading α) (identity : Nat) (items : List Value) (index : Nat) :
    Nat → Reading (List α)
  | 0 => pure []
  | bound + 1 => fun state =>
    match items[state.position identity]? with
    | none => (.ok [], state)
    | some item =>
      (List.cons <$> (read item).below (.index index) <*>
        readRest read identity items (index + 1) bound) (state.advance identity)

def readList (read : Value → Reading α) : Value → Reading (List α)
  | .list items | .tuple items => readItems read items
  | .stream identity items => readRest read identity items 0 items.length
  | _ => .fail .notList

def readDict (read : Value → Reading α) : Value → Reading (List (String × α))
  | .dict entries =>
    .each (fun (key, v) => (Prod.mk key <$> read v : Reading _).below (.key key)) entries
  | _ => .fail .notDict

def boolOfWord? (word : String) : Option Bool :=
  let word := String.ofList (word.toList.map Char.toLower)
  if ["0", "off", "f", "false", "n", "no"].contains word then some false
  else if ["1", "on", "t", "true", "y", "yes"].contains word then some true
  else none

def isWord (n : Int) : Bool := -0x8000000000000000 ≤ n && n < 0x8000000000000000

def boolOfInt? (n : Int) : Option Bool :=
  if n = 0 then some false else if n = 1 then some true else none

def wholeFloat? (x : Float) : Option Int :=
  match Number.FloatParts.of x with
  | .finite negative significand exponent =>
    (Number.integral? significand exponent).map fun n => if negative then -n else n
  | _ => none

def orUnclear : Option Bool → Reading Bool
  | some b => pure b
  | none => .fail .unclearBool

def boolOfFloat (x : Float) : Reading Bool :=
  match wholeFloat? x with
  | some n =>
    if n.natAbs < 0x8000000000000000 then orUnclear (boolOfInt? n) else .fail .notBool
  | none => .fail .notBool

def readBool (v : Value) : Reading Bool :=
  match v.text?, v with
  | some word, _ => orUnclear (boolOfWord? word)
  | none, .bool b => pure b
  | none, .int n | none, .member (.number _ _ n) =>
    if isWord n then orUnclear (boolOfInt? n) else .fail .notBool
  | none, .float x | none, .member (.double _ _ x) => boolOfFloat x
  | none, .decimal d => boolOfFloat d.toFloat
  | none, .bytes b => orUnclear ((textOfBytes? b).bind boolOfWord?)
  | none, _ => .fail .notBool

def find? (entries : Entries) : List String → Option (String × Value)
  | [] => none
  | key :: others =>
    match entries.lookup key with
    | some v => some (key, v)
    | none => find? entries others

def required (entries : Entries) (key : String) (read : Value → Reading α) : Reading α :=
  Reading.below (.key key) <|
    match entries.lookup key with
    | some v => read v
    | none => .fail .missing

def defaulted (entries : Entries) (spellings : List String) (default : α)
    (read : Value → Reading α) : Reading α :=
  match find? entries spellings with
  | some (key, v) => (read v).below (.key key)
  | none => pure default

/-- Reports the keys that were not looked at: each key of the document is known, and is the spelling
that counts. -/
def noOthers (entries : Entries) (keys : List (List String)) : Reading Unit :=
  let used := keys.filterMap fun spellings => (find? entries spellings).map Prod.fst
  match entries.filter fun entry => !used.contains entry.1 with
  | [] => pure ()
  | others => .refuse (others.map fun entry => ⟨[.key entry.1], .unknownKey⟩)

def readShape (shape : Shape) (keys : List (List String)) (read : Entries → Reading α) :
    Value → Reading α
  | .dict entries => read entries <* noOthers entries keys
  | _ => .fail (.notShape shape)

end RecordMarkup.Document
