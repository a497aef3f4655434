import RecordMarkup.Proofs.Component.Built

namespace RecordMarkup

namespace Value

mutual

def within : Value → List Value
  | component c => component c :: withinParts c
  | _ => []

def withinItems : List Value → List Value
  | [] => []
  | v :: vs => within v ++ withinItems vs

def withinParts : Component Value → List Value
  | .dynamic _ v | .request _ v _ | .optional _ v | .map v | .list v | .nest v _ => within v
  | .element _ as c _ _ => withinItems as ++ within c
  | .field _ p e => within p ++ within e
  | .schema fs e _ _ => withinItems fs ++ within e
  | _ => []

end

theorem mem_withinItems {w : Value} {vs : List Value} :
    w ∈ withinItems vs ↔ ∃ v ∈ vs, w ∈ v.within := by
  induction vs with
  | nil => simp [withinItems]
  | cons v vs ih => simp [withinItems, ih]

theorem withinItems_append (vs ws : List Value) :
    withinItems (vs ++ ws) = withinItems vs ++ withinItems ws := by
  induction vs with
  | nil => rfl
  | cons v vs ih => simp [withinItems, ih]

theorem withinItems_present (v : Value) : withinItems v.present = v.within := by
  cases v <;> simp [present, isNull, withinItems, within]

theorem mem_within_component {c : Component Value} {w : Value} :
    w ∈ (component c).within ↔ w = component c ∨ ∃ part ∈ c.parts, w ∈ part.within := by
  have parts : withinParts c = withinItems c.parts := by
    cases c <;>
      simp [withinParts, withinItems, Component.parts, withinItems_append, withinItems_present]
  rw [within, List.mem_cons, parts, mem_withinItems]

theorem mem_within_self (c : Component Value) : component c ∈ (component c).within :=
  mem_within_component.2 (.inl rfl)

end Value

namespace Built

open Value (component)

variable {str : Value → Prop} {v w : Value}

theorem self_mem (h : Built str v) : v ∈ v.within := by
  obtain ⟨c, rfl, -⟩ := h.shape
  exact Value.mem_within_self c

theorem within (h : Built str v) (hw : w ∈ v.within) : Built str w := by
  induction h with
  | mk typed parts made ih =>
    obtain ⟨rfl, -⟩ := Component.construct_ok typed.parts_component made
    obtain rfl | ⟨part, hp, hw⟩ := Value.mem_within_component.1 hw
    · exact .mk typed parts made
    · exact ih part hp hw

theorem part_mem {c : Component Value} {part : Value} (h : Built str v) (hc : component c ∈ v.within)
    (hp : part ∈ c.parts) : part ∈ v.within := by
  induction h with
  | mk typed parts made ih =>
    obtain ⟨rfl, -⟩ := Component.construct_ok typed.parts_component made
    refine Value.mem_within_component.2 (.inr ?_)
    obtain hc | ⟨other, ho, hc⟩ := Value.mem_within_component.1 hc
    · obtain rfl := Value.component.inj hc
      exact ⟨part, hp, (parts part hp).self_mem⟩
    · exact ⟨other, ho, ih other ho hc⟩

theorem within_subset (h : Built str v) (hw : w ∈ v.within) : ∀ u ∈ w.within, u ∈ v.within := by
  induction h with
  | mk typed parts made ih =>
    obtain ⟨rfl, -⟩ := Component.construct_ok typed.parts_component made
    intro u hu
    obtain rfl | ⟨part, hp, hw⟩ := Value.mem_within_component.1 hw
    · exact hu
    · exact Value.mem_within_component.2 (.inr ⟨part, hp, ih part hp hw u hu⟩)

end Built

end RecordMarkup
