import RecordMarkup.Proofs.Render.References

/-!
Where rendering goes. It comes to schemas, each with a record and in a state, from the outer one to those
that lists and nested records go through; at each it reads fields, inserts values and may have to stop.
-/

namespace RecordMarkup

namespace Value

def Reads (record : Value) (context : Context) (names : List Value) (v : Value) : Prop :=
  ∃ name ∈ names, (record.field name).MayGive context v

def Misses (record : Value) (context : Context) (names : List Value) (f : Failure) : Prop :=
  ∃ name ∈ names, (record.field name).MayFail context f

theorem not_misses_of_offers {record : Value} {context : Context} {names : List Value} {f : Failure}
    (h : record.Offers context names) : ¬record.Misses context names f := by
  rintro ⟨n, hn, hf⟩
  obtain ⟨v, hv⟩ := h n hn
  exact (field_stateless record n).not_mayFail hv hf

def ownArgs : Value → List Value
  | component (.schema _ wrapper _ _) => wrapper.elementArgs
  | _ => []

def encodedArgs : Value → List Value
  | component (.request _ path encode) => if encode.truthy then path.args else []
  | _ => []

def elementEncodedArgs : Value → List Value
  | component (.element _ attributes _ _ _) => attributes.flatMap encodedArgs
  | _ => []

def ownEncodedArgs : Value → List Value
  | component (.schema _ wrapper _ _) => wrapper.elementEncodedArgs
  | _ => []

end Value

section

variable (context : Context) (state : State)

/-- Rendering a record through a schema comes to a field of the schema in a later state. The field has the
policy and the element, and the record has the value under its name. -/
inductive Visits :
    Value → Value → Component Value → Value → Value → State → Prop
  | intro {fields start : List Value} {element label type name record wrapper v : Value}
      {policy : Component Value} {before mid : State}
      (started : (element.recordStart record).outcome context state = (.ok start, before))
      (comes : Eval.Comes (fun field => Value.renderFieldWith Value.render field record) context fields
        before (.component (.field name (.component policy) wrapper)) mid)
      (value : (record.field name).MayGive context v) :
      Visits (.component (.schema fields element label type)) record policy wrapper v mid

/-- The values that a policy puts into the element of a field, for the value of the field. -/
inductive Shows : Component Value → Value → Value → Prop
  | plain {v : Value} : Shows .plain v v
  | default {default function : Value} :
      default ≠ .null → Shows (.optional default function) .null default
  | present {default v : Value} : v ≠ .null → Shows (.optional default .null) v v
  | optional {default function v w : Value} : v ≠ .null → function ≠ .null →
      (function.applyMapping v).MayGive context w → Shows (.optional default function) v w
  | map {function v w : Value} : (function.applyMapping v).MayGive context w →
      Shows (.map function) v w
  | item {v w : Value} {items : List Value} : v.truthy → v.remaining state = some items →
      w ∈ items → Shows (.list .null) v w

/-- A policy goes on to render a record through a schema in a later state; what it logs does not
matter. -/
inductive Enters : Component Value → Value → Value → Value → State → Prop
  | item {item v r : Value} {items : List Value} {event : Logging.Event} {later : State} :
      item ≠ .null → v.truthy → v.remaining state = some items → r ∈ items →
        v.Comes (Value.render item) context (state.logged [event]) r later →
          Enters (.list item) v item r later
  | nest {inner isOptional v : Value} {event : Logging.Event} : ¬(v = .null ∧ isOptional.truthy) →
      Enters (.nest inner isOptional) v inner v (state.logged [event])

/-- The element of a field is written. -/
inductive Opens : Component Value → Value → Prop
  | shown {c : Component Value} {v w : Value} : Shows context state c v w → Opens c v
  | list {item v : Value} : item ≠ .null → Opens (.list item) v
  | nest {inner isOptional v : Value} : ¬(v = .null ∧ isOptional.truthy) →
      Opens (.nest inner isOptional) v

/-- A policy cannot go on with the value of a field. -/
inductive Halts : Component Value → Value → Failure → Prop
  | map {function v : Value} {f : Failure} : (function.applyMapping v).MayFail context f →
      Halts (.map function) v f
  | optional {default function v : Value} {f : Failure} : v ≠ .null → function ≠ .null →
      (function.applyMapping v).MayFail context f → Halts (.optional default function) v f
  | items {item v : Value} : v.truthy → v.remaining state = none →
      Halts (.list item) v (.notIterable v.typeName)

/-- Rendering a record through a schema comes to another schema and record in a later state. -/
inductive Reaches (schema record : Value) : State → Value → Value → Prop
  | here : Reaches schema record state schema record
  | inner {mid now later : State} {s r wrapper v inner q : Value} {policy : Component Value}
      (reached : Reaches schema record mid s r) (visits : Visits context mid s r policy wrapper v now)
      (enters : Enters context now policy v inner q later) : Reaches schema record later inner q

/-- The values that are put into the markup for a schema and a record, by the element of the record, by
the elements of its fields, or as their content. -/
inductive Substitutes (schema record : Value) : Value → Prop
  | own {v : Value} : record.Reads context schema.ownArgs v → Substitutes schema record v
  | element {wrapper v w : Value} {policy : Component Value} {mid : State}
      (visits : Visits context state schema record policy wrapper v mid)
      (opens : Opens context mid policy v) (reads : record.Reads context wrapper.elementArgs w) :
      Substitutes schema record w
  | content {wrapper v w : Value} {policy : Component Value} {mid : State}
      (visits : Visits context state schema record policy wrapper v mid)
      (shows : Shows context mid policy v w) : Substitutes schema record w

/-- The values that are percent-encoded for a schema and a record, by the element of the record or by the
elements of its fields. -/
inductive Encodes (schema record : Value) : Value → Prop
  | own {v : Value} : record.Reads context schema.ownEncodedArgs v → Encodes schema record v
  | element {wrapper v w : Value} {policy : Component Value} {mid : State}
      (visits : Visits context state schema record policy wrapper v mid)
      (opens : Opens context mid policy v)
      (reads : record.Reads context wrapper.elementEncodedArgs w) : Encodes schema record w

/-- A value that is put into the markup cannot be written, or one that is percent-encoded has no UTF-8
form. -/
inductive Spoils (schema record : Value) : Failure → Prop
  | unwritten {v : Value} {f : Failure} (inserts : Substitutes context state schema record v)
      (fails : v.toText.MayFail context f) : Spoils schema record f
  | unencoded {v : Value} {f : Failure} (encodes : Encodes context state schema record v)
      (fails : v.percentEncode.MayFail context f) : Spoils schema record f

/-- Why rendering a record through a schema stops: a field that the schema names cannot be read, a
policy cannot go on with its value, or a value spoils the markup. -/
inductive Stops (schema record : Value) : Failure → Prop
  | unread {f : Failure} : record.Misses context schema.references f → Stops schema record f
  | halted {wrapper v : Value} {policy : Component Value} {mid : State} {f : Failure}
      (visits : Visits context state schema record policy wrapper v mid)
      (halts : Halts context mid policy v f) : Stops schema record f
  | spoiled {f : Failure} : Spoils context state schema record f → Stops schema record f

end

theorem visits_schema {context : Context} {state mid : State} {fields : List Value}
    {element label type record wrapper v : Value} {policy : Component Value}
    (h : Visits context state (.component (.schema fields element label type)) record policy wrapper v
      mid) :
    ∃ name, .component (.field name (.component policy) wrapper) ∈ fields ∧
      (record.field name).MayGive context v := by
  cases h with
  | intro started comes value => exact ⟨_, comes.mem, value⟩

end RecordMarkup
