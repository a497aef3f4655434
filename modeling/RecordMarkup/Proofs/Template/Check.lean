import RecordMarkup.Proofs.Template.Grammar

namespace RecordMarkup.Value

variable {template : Value} {t : String} {pieces : List Template.Piece} {fault : Template.Fault}
  {format : Value}

theorem mapM_toSlot (values : List Value) : values.mapM toSlot =
    match values.findSome? unwritable? with
    | some cause => throw (.unwritable cause)
    | none => pure (values.map fun v => v.slotText.toList) := by
  induction values with
  | nil => rfl
  | cons v values ih =>
    rw [List.mapM_cons, List.findSome?_cons, toSlot, ih]
    cases h : v.unwritable? with
    | some cause =>
      rw [toText_eq_throw h]
      rfl
    | none =>
      rw [toText_eq h]
      cases values.findSome? unwritable? <;> rfl

theorem substitute_of_fault (ht : template.text? = some t) (hp : Template.parse t = .error fault)
    (values : List Value) : template.substitute values = throw (.template fault) := by
  rw [substitute, placeholderCount_of_fault ht hp]
  rfl

theorem formatTexts_eq {texts : List (List Char)} (ht : template.text? = some t)
    (hp : Template.parse t = .ok pieces) (hc : Template.slotCount pieces = texts.length) :
    template.formatTexts texts = pure (.ofList (Template.fill pieces texts)) := by
  rw [formatTexts, ht, Option.getD_some, Template.format_of_parse hp hc]

theorem substitute_of_ok (ht : template.text? = some t) (hp : Template.parse t = .ok pieces)
    (values : List Value) : template.substitute values =
      if Template.slotCount pieces = values.length then
        match values.findSome? unwritable? with
        | some cause => throw (.unwritable cause)
        | none => pure (.ofList (Template.fill pieces (values.map fun v => v.slotText.toList)))
      else throw (.schema [.valueCount template (Template.slotCount pieces) values.length]) := by
  rw [substitute, placeholderCount_of_ok ht hp, pure_bind, mapM_toSlot]
  split
  next hc =>
    cases values.findSome? unwritable? with
    | some cause => rfl
    | none => exact formatTexts_eq ht hp (hc.trans (values.length_map fun v => v.slotText.toList).symm)
  next => rfl

theorem templateDefects_of_fault (hf : format.slot "template" = pure (text t))
    (hp : Template.parse t = .error fault) (k : Nat) (place : Place) :
    format.templateDefects (int k) place = pure [.badTemplateAt place (text t) fault] := by
  simp [templateDefects, hf, countSlots_eq (v := text t) rfl, hp, Except.map]

theorem templateDefects_of_ok (hf : format.slot "template" = pure (text t))
    (hp : Template.parse t = .ok pieces) (k : Nat) (place : Place) :
    format.templateDefects (int k) place =
      pure (if k = Template.slotCount pieces then []
        else [.slotCount place (text t) (Template.slotCount pieces) (int k)]) := by
  simp only [templateDefects, hf, pure_bind, countSlots_eq (v := text t) rfl, hp, Except.map,
    isCount_int, Int.natCast_inj, decide_eq_true_eq]

theorem findSome?_unwritable_replicate (k : Nat) (s : String) :
    (List.replicate k (text s)).findSome? unwritable? = none :=
  List.findSome?_eq_none_iff.2 fun _ hv => List.eq_of_mem_replicate hv ▸ rfl

/-- The check finds nothing in a template exactly if every list of as many values as are expected can be
put into it, as far as the values can be written, for which it is enough that empty texts can. Then the
first value that cannot be written is all that putting them in fails for. What the check finds is
otherwise what every such list fails for. -/
theorem templateDefects_agrees (hf : format.slot "template" = pure (text t)) (k : Nat) (place : Place)
    (context : Context) (state : State) :
    ∃ defects, (format.templateDefects (int k) place).outcome context state = (.ok defects, state) ∧
      (defects = [] ↔ ∀ values : List Value, values.length = k →
        values.findSome? unwritable? = none →
          ∃ s, ((text t).substitute values).outcome context state = (.ok s, state)) ∧
      (defects = [] ↔ ∃ s, ((text t).substitute (List.replicate k (text ""))).outcome context state =
        (.ok s, state)) ∧
      ((defects = [] ∧ ∀ values : List Value, values.length = k →
          ∀ cause, values.findSome? unwritable? = some cause →
            ((text t).substitute values).outcome context state =
              (.error (.unwritable cause), state)) ∨
        (∃ found, defects = [.slotCount place (text t) found (int k)] ∧
          ∀ values : List Value, values.length = k →
            ((text t).substitute values).outcome context state =
              (.error (.schema [.valueCount (text t) found k]), state)) ∨
        ∃ fault, defects = [.badTemplateAt place (text t) fault] ∧
          ∀ values : List Value, values.length = k →
            ((text t).substitute values).outcome context state = (.error (.template fault), state)) := by
  have empty : (List.replicate k (text "")).findSome? unwritable? = none :=
    findSome?_unwritable_replicate k ""
  cases hp : Template.parse t with
  | error fault =>
    have refused : ∀ values : List Value, ((text t).substitute values).outcome context state =
        (.error (.template fault), state) := fun values => by
      rw [substitute_of_fault rfl hp, Eval.outcome_throw]
    refine ⟨_, by rw [templateDefects_of_fault hf hp, Eval.outcome_pure], ?_, ?_,
      .inr (.inr ⟨fault, rfl, fun values _ => refused values⟩)⟩
    · simp only [refused, List.cons_ne_nil, false_iff, not_forall]
      exact ⟨_, List.length_replicate, empty, by simp⟩
    · simp [refused]
  | ok pieces =>
    by_cases hc : k = Template.slotCount pieces
    · have filled : ∀ values : List Value, values.length = k → values.findSome? unwritable? = none →
          ∃ s, ((text t).substitute values).outcome context state = (.ok s, state) :=
        fun values hl hw => ⟨_, by
          rw [substitute_of_ok rfl hp, if_pos (hl.trans hc).symm, hw, Eval.outcome_pure]⟩
      refine ⟨[], by rw [templateDefects_of_ok hf hp, if_pos hc, Eval.outcome_pure], ?_, ?_,
        .inl ⟨rfl, fun values hl cause hw => ?_⟩⟩
      · simpa using filled
      · simpa using filled _ List.length_replicate empty
      · rw [substitute_of_ok rfl hp, if_pos (hl.trans hc).symm, hw, Eval.outcome_throw]
    · have refused : ∀ values : List Value, values.length = k →
          ((text t).substitute values).outcome context state =
            (.error (.schema [.valueCount (text t) (Template.slotCount pieces) k]), state) := by
        rintro values rfl
        rw [substitute_of_ok rfl hp, if_neg (Ne.symm hc), Eval.outcome_throw]
      refine ⟨_, by rw [templateDefects_of_ok hf hp, if_neg hc, Eval.outcome_pure], ?_, ?_,
        .inr (.inl ⟨_, rfl, refused⟩)⟩
      · simp only [List.cons_ne_nil, false_iff]
        intro h
        obtain ⟨s, hs⟩ := h _ List.length_replicate empty
        rw [refused _ List.length_replicate] at hs
        cases hs
      · simp [refused]

theorem templateDefects_agrees_padded :
    let format := component (.format (text "{:>3}") [])
    format.slot "template" = pure (text "{:>3}") ∧
      ∀ values : List Value, values.length = 1 → values.findSome? unwritable? = none →
        ∃ s, ((text "{:>3}").substitute values).outcome { mappings := fun _ v => .ok v } {} =
          (.ok s, {}) := by
  intro format
  have slot : format.slot "template" = pure (text "{:>3}") := slot_component _ _ rfl
  obtain ⟨defects, hd, all, -⟩ :=
    templateDefects_agrees slot 1 (.labelled "title") { mappings := fun _ v => .ok v } {}
  have none : (format.templateDefects (int 1) (.labelled "title")).outcome
      { mappings := fun _ v => .ok v } {} = (.ok [], {}) := by
    with_unfolding_all rfl
  rw [Int.natCast_one, none] at hd
  exact ⟨slot, all.1 (Except.ok.inj (Prod.mk.inj hd).1).symm⟩

theorem pow_le_natAbs {j k : Nat} (h : j ≤ k) : Nat.pow 10 j ≤ (Nat.pow 10 k : Int).natAbs :=
  Nat.pow_le_pow_right (Nat.succ_pos 9) h

theorem unwritable?_pow {k : Nat} (h : Number.digitLimit ≤ k) :
    (int (Nat.pow 10 k)).unwritable? = some .tooManyDigits := by
  have exceeds : Number.exceedsLimit (Nat.pow 10 k) = true := decide_eq_true (pow_le_natAbs h)
  simp only [unwritable?, integers, List.any_cons, exceeds, Bool.true_or, if_pos]

/-- An integer with a digit too many. -/
theorem templateDefects_agrees_not :
    let format := component (.format (text "{}") [])
    let context : Context := { mappings := fun _ v => .ok v }
    (format.templateDefects (int 1) (.labelled "title")).outcome context {} = (.ok [], {}) ∧
      ((text "{}").substitute [int (Nat.pow 10 Number.digitLimit)]).outcome context {} =
        (.error (.unwritable .tooManyDigits), {}) := by
  intro format context
  have parsed : Template.parse "{}" = .ok [.slot Template.bare] := by
    with_unfolding_all rfl
  have slot : format.slot "template" = pure (text "{}") := slot_component _ _ rfl
  have large : (int (Nat.pow 10 Number.digitLimit)).unwritable? = some .tooManyDigits :=
    unwritable?_pow (le_refl Number.digitLimit)
  have count : Template.slotCount [.slot Template.bare] = [int (Nat.pow 10 Number.digitLimit)].length := rfl
  refine ⟨?_, ?_⟩
  · rw [← Int.natCast_one, templateDefects_of_ok slot parsed]
    rfl
  · rw [substitute_of_ok rfl parsed, if_pos count, List.findSome?_cons, large]
    rfl

end RecordMarkup.Value
