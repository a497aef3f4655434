import RecordMarkup.Proofs.Component.Valid
import RecordMarkup.Render.Nesting

namespace RecordMarkup

namespace Value

theorem slotAt_stateless (v : Value) (name : String) : (v.slotAt name).Stateless := by
  refine .bind .settings fun settings => ?_
  split
  · exact .pure _
  · exact .throw _

theorem displayName_stateless (v : Value) : v.displayName.Stateless := by
  unfold displayName
  split
  next fields wrapper name type =>
    split
    · exact .pure _
    · split
      · exact .pure _
      · exact slotAt_stateless _ _
  next => exact slotAt_stateless _ _

theorem slot_stateless (v : Value) (name : String) : (v.slot name).Stateless := by
  unfold slot
  split
  · exact displayName_stateless v
  · exact slotAt_stateless v name

theorem field_stateless (record name : Value) : (record.field name).Stateless := by
  have hashable : name.requireHashable.Stateless := by
    unfold requireHashable
    split
    · exact .throw _
    · exact .pure _
  unfold field
  split
  · exact hashable.bind fun _ => .pure _
  · split
    · exact slot_stateless _ _
    · exact .throw _

theorem call_stateless (function : Value) (args : List Value) : (function.call args).Stateless := by
  unfold call
  split
  · exact Eval.Stateless.read.bind fun _ => .ofExcept _
  · exact .throw _
  · exact .throw _
  · exact .ofExcept _
  · exact .throw _

theorem applyMapping_stateless (mapping v : Value) : (mapping.applyMapping v).Stateless := by
  unfold applyMapping
  split
  · exact call_stateless _ _
  · exact (slot_stateless _ _).bind fun _ => call_stateless _ _

def attributeArgs : Value → List Value
  | component (.dynamic _ expr) => expr.args
  | component (.request _ path _) => path.args
  | _ => []

def elementArgs : Value → List Value
  | component (.element _ attributes content _ _) =>
    attributes.flatMap attributeArgs ++ content.args
  | _ => []

def fieldArgs : Value → List Value
  | component (.field name _ wrapper) => name :: wrapper.elementArgs
  | _ => []

/-- Every field under these names can be read of the record. -/
def Offers (record : Value) (context : Context) (names : List Value) : Prop :=
  ∀ name ∈ names, ∃ v, (record.field name).MayGive context v

theorem depth_item_lt (item : Value) : item.depth < (component (.list item)).depth := by
  simp [depth, depthParts]

theorem depth_inner_lt (inner isOptional : Value) :
    inner.depth < (component (.nest inner isOptional)).depth := by
  simp only [depth, depthParts]
  omega

theorem depth_policy_lt {fields : List Value} {name policy wrapper : Value}
    (h : component (.field name policy wrapper) ∈ fields) (element label type : Value) :
    policy.depth < (component (.schema fields element label type)).depth := by
  have hm := depthItems_le h
  simp only [depth, depthParts] at hm ⊢
  omega

end Value

/-- The values that a policy can render, given which records a schema can. -/
inductive Admits (conforms : Value → Value → Prop) (context : Context) (state : State) :
    Component Value → Value → Prop
  | plain {v : Value} : Admits conforms context state .plain v
  | absent {default function : Value} :
      Admits conforms context state (.optional default function) .null
  | bare {default v : Value} : Admits conforms context state (.optional default .null) v
  | present {default function v w : Value} : (function.applyMapping v).MayGive context w →
      Admits conforms context state (.optional default function) v
  | map {function v w : Value} : (function.applyMapping v).MayGive context w →
      Admits conforms context state (.map function) v
  | empty {item v : Value} : v.truthy = false → Admits conforms context state (.list item) v
  | flat {v : Value} {items : List Value} : v.remaining state = some items →
      Admits conforms context state (.list .null) v
  | list {item v : Value} {items : List Value} : v.remaining state = some items →
      (∀ r ∈ items, conforms item r) → Admits conforms context state (.list item) v
  | skip {inner isOptional : Value} : isOptional.truthy →
      Admits conforms context state (.nest inner isOptional) .null
  | nest {inner isOptional v : Value} : conforms inner v →
      Admits conforms context state (.nest inner isOptional) v

/-- A record conforms to a schema if every field that is read of it can be read, and the policies
admit the values of their fields. -/
inductive Conforms (context : Context) (state : State) : Value → Value → Prop
  | intro {fields : List Value} {element name type record : Value}
      (readable : record.Offers context (element.elementArgs ++ fields.flatMap Value.fieldArgs))
      (admitted : ∀ name policy wrapper v,
        .component (.field name (.component policy) wrapper) ∈ fields →
          (record.field name).MayGive context v →
            Admits (Conforms context state) context state policy v) :
      Conforms context state (.component (.schema fields element name type)) record

theorem Admits.mono {conforms later : Value → Value → Prop} {context : Context}
    {state after : State} {c : Component Value} {v : Value} (hb : state.Before after)
    (h : Admits conforms context state c v)
    (hc : ∀ inner r, Value.depth inner < (Value.component c).depth → conforms inner r →
      later inner r) : Admits later context after c v := by
  cases h with
  | plain => exact .plain
  | absent => exact .absent
  | bare => exact .bare
  | present hw => exact .present hw
  | map hw => exact .map hw
  | empty hv => exact .empty hv
  | flat hi =>
    obtain ⟨rest, hr, -⟩ := Value.remaining_of_before hi hb
    exact .flat hr
  | list hi hs =>
    obtain ⟨rest, hr, hsub⟩ := Value.remaining_of_before hi hb
    exact .list hr fun r hm => hc _ r (Value.depth_item_lt _) (hs r (hsub hm))
  | skip ho => exact .skip ho
  | nest hs => exact .nest (hc _ v (Value.depth_inner_lt _ _) hs)

theorem Conforms.mono {context : Context} {state after : State} {schema record : Value}
    (hb : state.Before after) (h : Conforms context state schema record) :
    Conforms context after schema record := by
  generalize hd : schema.depth = d
  induction d using Nat.strongRecOn generalizing schema record with
  | ind d ih =>
    cases h with
    | @intro fields element record name type readable admitted =>
      refine .intro readable fun n c w v hf hr => (admitted n c w v hf hr).mono hb ?_
      intro inner r hi hc
      exact ih inner.depth (hd ▸ Nat.lt_trans hi (Value.depth_policy_lt hf _ _ _)) hc rfl

end RecordMarkup
