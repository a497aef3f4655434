import RecordMarkup.Proofs.Document.Readings

namespace RecordMarkup

def State.AgreeOn (streams : List Nat) (state other : State) : Prop :=
  ∀ i ∈ streams, state.position i = other.position i

theorem State.AgreeOn.advance {streams : List Nat} {state other : State}
    (h : state.AgreeOn streams other) (identity : Nat) :
    (state.advance identity).AgreeOn streams (other.advance identity) := by
  intro i hi
  rw [position_advance, position_advance]
  split
  next he => rw [← he, h i hi]
  next => exact h i hi

namespace Document

namespace Reading

variable {α β : Type} {streams more : List Nat} {reading : Reading α}

theorem seq_fst (f : Reading (α → β)) (reading : Reading α) (state : State) :
    ((f <*> reading) state).1 = both (f state).1 (reading (f state).2).1 := rfl

theorem below_fst (step : Step) (reading : Reading α) (state : State) :
    (reading.below step state).1 = (reading state).1.mapError (·.map (·.below step)) := rfl

/-- The reading takes items of these streams only, and depends on these only. -/
structure Confined (streams : List Nat) (reading : Reading α) : Prop where
  rest : ∀ state, ∀ i ∉ streams, (reading state).2.position i = state.position i
  agree : ∀ state other, state.AgreeOn streams other →
    (reading state).1 = (reading other).1 ∧ (reading state).2.AgreeOn streams (reading other).2

namespace Confined

theorem pure (a : α) : Confined streams (Pure.pure a : Reading α) :=
  ⟨fun _ _ _ => rfl, fun _ _ h => ⟨rfl, h⟩⟩

theorem refuse (issues : List Issue) : Confined streams (Reading.refuse issues : Reading α) :=
  ⟨fun _ _ _ => rfl, fun _ _ h => ⟨rfl, h⟩⟩

theorem mono (h : Confined streams reading) (hs : streams ⊆ more) : Confined more reading := by
  refine ⟨fun state i hi => h.rest state i fun hm => hi (hs hm), fun state other ha => ?_⟩
  obtain ⟨same, after⟩ := h.agree state other fun i hi => ha i (hs hi)
  refine ⟨same, fun i hi => ?_⟩
  by_cases hm : i ∈ streams
  · exact after i hm
  · rw [h.rest state i hm, h.rest other i hm, ha i hi]

theorem seq {f : Reading (α → β)} (hf : Confined streams f) (h : Confined streams reading) :
    Confined streams (f <*> reading) := by
  refine ⟨fun state i hi => ?_, fun state other ha => ?_⟩
  · exact (h.rest _ i hi).trans (hf.rest state i hi)
  · obtain ⟨same, after⟩ := hf.agree state other ha
    obtain ⟨same', after'⟩ := h.agree _ _ after
    refine ⟨?_, after'⟩
    rw [seq_fst, seq_fst, same, same']

theorem below (step : Step) (h : Confined streams reading) :
    Confined streams (reading.below step) := by
  refine ⟨h.rest, fun state other ha => ?_⟩
  obtain ⟨same, after⟩ := h.agree state other ha
  refine ⟨?_, after⟩
  rw [below_fst, below_fst, same]

theorem either {second : Reading α} (h : Confined streams reading) (hs : Confined streams second) :
    Confined streams (reading.either second) := by
  refine ⟨fun state i hi => ?_, fun state other ha => ?_⟩
  · have first := h.rest state i hi
    unfold Reading.either
    cases hr : reading state with
    | mk result mid =>
      rw [hr] at first
      cases result with
      | ok a => exact first
      | error issues => exact (hs.rest mid i hi).trans first
  · obtain ⟨same, after⟩ := h.agree state other ha
    unfold Reading.either
    cases hr : reading state with
    | mk result mid =>
      cases ho : reading other with
      | mk result' mid' =>
        rw [hr, ho] at same after
        obtain rfl : result = result' := same
        cases result with
        | ok a => exact ⟨rfl, after⟩
        | error issues =>
          obtain ⟨same', after'⟩ := hs.agree mid mid' after
          exact ⟨congrArg (fun r => r.mapError (issues ++ ·)) same', after'⟩

theorem draw {identity : Nat} {items : List Value} {next : Value → Reading (List α)}
    (hi : identity ∈ streams) (h : ∀ item ∈ items, Confined streams (next item)) :
    Confined streams (Reading.draw identity items next) := by
  refine ⟨fun state i hi' => ?_, fun state other ha => ?_⟩
  · unfold Reading.draw
    split
    next => rfl
    next item hg =>
      have others : i ≠ identity := fun he => hi' (he ▸ hi)
      rw [(h item (List.mem_of_getElem? hg)).rest _ i hi', State.position_advance, if_neg others]
  · simp only [Reading.draw, ha identity hi]
    split
    next => exact ⟨rfl, ha⟩
    next item hg => exact (h item (List.mem_of_getElem? hg)).agree _ _ (ha.advance identity)

end Confined

theorem Made.confined (h : Made streams reading) : Confined streams reading := by
  induction h with
  | pure a => exact .pure a
  | refuse => exact .refuse _
  | seq _ _ ihf ih => exact ihf.seq ih
  | inside step _ ih => exact ih.below step
  | either _ _ ihf ihs => exact ihf.either ihs
  | draw hi _ ih => exact .draw hi ih
  | mono _ hs ih => exact ih.mono hs

theorem log_either (first second : Reading α) (state : State)
    (hf : ∀ state, (first state).2.log = state.log)
    (hs : ∀ state, (second state).2.log = state.log) :
    (first.either second state).2.log = state.log := by
  have told := hf state
  unfold Reading.either
  cases hr : first state with
  | mk result mid =>
    rw [hr] at told
    cases result with
    | ok a => exact told
    | error issues => exact (hs mid).trans told

theorem Made.log (h : Made streams reading) : ∀ state, (reading state).2.log = state.log := by
  induction h with
  | pure a => exact fun _ => rfl
  | refuse => exact fun _ => rfl
  | seq _ _ ihf ih => exact fun state => (ih _).trans (ihf state)
  | inside step _ ih => exact ih
  | either _ _ ihf ihs => exact fun state => log_either _ _ state ihf ihs
  | @draw _ _ identity items next _ _ ih =>
    intro state
    unfold Reading.draw
    split
    next => rfl
    next item hg => exact ih item (List.mem_of_getElem? hg) (state.advance identity)
  | mono _ _ ih => exact ih

end Reading

theorem Schema.read_confined (v : Value) : Reading.Confined v.streams (Schema.read v) :=
  (Schema.read_made v).confined

end Document

end RecordMarkup
