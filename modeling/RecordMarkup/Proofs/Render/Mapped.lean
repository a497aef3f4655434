import RecordMarkup.Proofs.Component.Names
import RecordMarkup.Proofs.Render.Policies

namespace RecordMarkup

open Value (text null dict component renderField)

namespace Value

variable {context : Context} {state mid : State} {name default wrapper record m v : Value}

theorem renderOptional_field (hm : m ≠ null) (hv : v ≠ null)
    (h : (record.field name).outcome context state = (.ok v, mid)) :
    (renderField (component (.field name (component (.optional default m)) wrapper)) record).outcome
        context state =
      (m.applyMapping v >>= (component (.field name (component .plain) wrapper)).renderElement
        record).outcome context mid := by
  rw [renderField, renderFieldWith_eq rfl, Eval.outcome_bind_ok h, Component.kind, renderByKind,
    renderOptional_mapped hv hm, renderElement_policy name _ (component .plain)]

theorem renderMap_field (h : (record.field name).outcome context state = (.ok v, mid)) :
    (renderField (component (.field name (component (.map m)) wrapper)) record).outcome context state =
      (m.applyMapping v >>= (component (.field name (component .plain) wrapper)).renderElement
        record).outcome context mid := by
  rw [renderField, renderFieldWith_eq rfl, Eval.outcome_bind_ok h, Component.kind, renderByKind,
    slot_map_map, pure_bind, renderElement_policy name _ (component .plain)]

end Value

namespace Build

variable {context : Context} {state : State} {m : Value}

theorem map_defects (m : Value) : (component (.map m)).defects =
    pure (if m.hasKind .mapping then [] else [.mapRequired]) := by
  simp only [Value.defects_component, Value.mapDefects, Value.slot_map_map, pure_bind]

theorem map_outcome (h : m.hasKind .mapping) :
    (map m).outcome context state = (.ok (component (.map m)), state) := by
  rw [map, Component.accept, map_defects, if_pos h, pure_bind]
  rfl

theorem map_refused (h : ¬m.hasKind .mapping) :
    (map m).outcome context state = (.error (.schema [.mapRequired]),
      state.logged [.rejected .map [.mapRequired]]) := by
  rw [map, Component.accept, map_defects, if_neg h, pure_bind]
  rfl

end Build

/-- What optional and mandatory maps have in common, and what they do not. -/
structure MapsAlike (context : Context) (state : State) : Prop where
  optionalTakes (m : Value) : (Build.optional null m).outcome context state =
    (.ok (component (.optional null m)), state)
  mapTakes (m : Value) (h : m.hasKind .mapping) :
    (Build.map m).outcome context state = (.ok (component (.map m)), state)
  mapRefuses (m : Value) (h : ¬m.hasKind .mapping) :
    (Build.map m).outcome context state = (.error (.schema [.mapRequired]),
      state.logged [.rejected .map [.mapRequired]])
  rendered (name default wrapper record m v : Value) (mid : State) (hm : m ≠ null) (hv : v ≠ null)
    (h : (record.field name).outcome context state = (.ok v, mid)) :
    let field (policy : Component Value) := component (.field name (component policy) wrapper)
    (renderField (field (.optional default m)) record).outcome context state =
        (renderField (field (.map m)) record).outcome context state ∧
      (renderField (field (.map m)) record).outcome context state =
        (m.applyMapping v >>= (field .plain).renderElement record).outcome context mid
  applied (variableName function m : Value) (after : State)
    (h : (Build.mapping variableName function).outcome context state = (.ok m, after)) (v : Value) :
    m.hasKind .mapping ∧ function.isCallable ∧ m.applyMapping v = function.call [v]

theorem mapsAlike (context : Context) (state : State) : MapsAlike context state where
  optionalTakes _ := rfl
  mapTakes _ := Build.map_outcome
  mapRefuses _ := Build.map_refused
  rendered name default wrapper record m v mid hm hv h :=
    ⟨(Value.renderOptional_field hm hv h).trans (Value.renderMap_field h).symm,
      Value.renderMap_field h⟩
  applied variableName function m after h v := by
    obtain ⟨rfl, mid, hd⟩ := Component.accept_ok h
    simp only [Value.defects_component] at hd
    have valid := (Value.mappingDefects_decides variableName function).holds hd
    exact ⟨by simp [Value.hasKind_component, Component.kind], valid.2, rfl⟩

theorem mapsAlike_shout :
    let context : Context := { mappings := fun _ v => .ok (text (v.display ++ "!")) }
    let m := component (.mapping (text "shout") (.mapper 0 "shout"))
    let record := dict [("x", text "a")]
    let field (policy : Component Value) := component (.field (text "x") (component policy) null)
    (Build.mapping (text "shout") (.mapper 0 "shout")).outcome context {} = (.ok m, {}) ∧
      (record.field (text "x")).outcome context {} = (.ok (text "a"), {}) ∧
      (renderField (field (.optional null m)) record).outcome context {} =
        (renderField (field (.map m)) record).outcome context {} ∧
      m.applyMapping (text "a") = (Value.mapper 0 "shout").call [text "a"] := by
  intro context m record field
  have made : (Build.mapping (text "shout") (.mapper 0 "shout")).outcome context {} = (.ok m, {}) := rfl
  have reads : (record.field (text "x")).outcome context {} = (.ok (text "a"), {}) := rfl
  have hm : m ≠ null := nofun
  have hv : text "a" ≠ null := nofun
  have alike := mapsAlike context {}
  exact ⟨made, reads, (alike.rendered _ _ _ _ _ _ _ hm hv reads).1,
    (alike.applied _ _ _ _ made (text "a")).2.2⟩

/-- A text passes for an optional map, though not for a mandatory one, and cannot be applied. -/
theorem optional_text_map :
    let context : Context := { mappings := fun _ v => .ok v }
    let policy := component (.optional null (text "upper"))
    (Build.optional null (text "upper")).outcome context {} = (.ok policy, {}) ∧
      ¬(Build.map (text "upper")).Succeeds context {} ∧
      (renderField (component (.field (text "x") policy null)) (dict [("x", text "a")])).outcome
        context {} = (.error (.noAttribute (text "upper") "apply"), {}) := by
  intro context policy
  have reads : ((dict [("x", text "a")]).field (text "x")).outcome context {} = (.ok (text "a"), {}) :=
    rfl
  refine ⟨rfl, ?_, ?_⟩
  · rintro ⟨v, after, h⟩
    rw [Build.map_refused (by decide)] at h
    cases h
  · have hm : text "upper" ≠ null := nofun
    have hv : text "a" ≠ null := nofun
    exact (Value.renderOptional_field hm hv reads).trans rfl

end RecordMarkup
