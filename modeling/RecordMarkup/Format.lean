import RecordMarkup.Text.Escapes
import RecordMarkup.Value.Slot

namespace RecordMarkup

namespace Value

/-- The template may turn out to be faulty; only a value that is no text at all is a failure. -/
def countSlots (v : Value) : Eval (Except Template.Fault Nat) := do
  v.requireHashable
  match v.text? with
  | some s => return Template.placeholderCount s
  | none => throw (.templateNotText v.typeName)

def placeholderCount (v : Value) : Eval Nat := do
  match ← v.countSlots with
  | .ok n => return n
  | .error fault => throw (.template fault)

def toText (v : Value) : Eval String :=
  match v.unwritable? with
  | some cause => throw (.unwritable cause)
  | none => return v.canonical

theorem toText_eq {v : Value} (h : v.unwritable? = none) : v.toText = pure v.canonical := by
  rw [toText, h]

theorem toText_eq_throw {v : Value} {cause : Unwritable} (h : v.unwritable? = some cause) :
    v.toText = throw (.unwritable cause) := by
  rw [toText, h]

theorem toText_ok_iff {v : Value} {s : String} {context : Context} {state after : State} :
    v.toText.outcome context state = (.ok s, after) ↔
      v.unwritable? = none ∧ s = v.canonical ∧ after = state := by
  unfold toText
  cases v.unwritable? <;> simp [eq_comm]

/-- A value is turned into text first, whatever a slot then shows of it. -/
def toSlot (v : Value) : Eval (List Char) := do
  let _ ← v.toText
  return v.slotText.toList

def formatTexts (template : Value) (texts : List (List Char)) : Eval String :=
  match Template.format (template.text?.getD "") texts with
  | .ok shown => return .ofList shown
  | .error misfit => throw (.misfit misfit)

def substitute (template : Value) (values : List Value) : Eval String := do
  let slots ← template.placeholderCount
  if slots = values.length then template.formatTexts (← values.mapM toSlot)
  else throw (.schema [.valueCount template slots values.length])

def substituteItems (template values : Value) : Eval String := do
  let _ ← template.placeholderCount
  let _ ← values.requireLength
  template.substitute (values.items?.getD [])

def percentEncode (v : Value) : Eval String := do
  let s ← v.toText
  let context ← read
  match Text.Percent.unencodable? context.surrogate? 0 s.toList with
  | some row => throw (.unencodable row)
  | none => return Text.Percent.encode context.settings.safe s

def evaluate (format record : Value) (leading : List Value) : Eval Value :=
  match format with
  | component (.format template args) => do
    let fields ← args.mapM record.field
    return .text (← template.substitute (leading ++ fields))
  | v => v.callSlot "evaluate" (record :: leading)

def applyMapping (mapping v : Value) : Eval Value :=
  match mapping with
  | component (.mapping _ function) => function.call [v]
  | m => m.callSlot "apply" [v]

end Value

end RecordMarkup
