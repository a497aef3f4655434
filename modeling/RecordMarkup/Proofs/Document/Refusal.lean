import RecordMarkup.Proofs.Document.Compiled
import RecordMarkup.Proofs.Document.Readings

namespace RecordMarkup.Document

namespace Reading

variable {α β : Type} {reading : Reading α}

def Explains (reading : Reading α) : Prop := ∀ state, (reading state).1 ≠ .error []

theorem mapError_ne {first : Except (List Issue) α} {f : List Issue → List Issue}
    (h : first ≠ .error []) (hf : ∀ issues, issues ≠ [] → f issues ≠ []) :
    first.mapError f ≠ .error [] := by
  cases first with
  | ok a => exact nofun
  | error issues =>
    have present : issues ≠ [] := fun he => h (he ▸ rfl)
    exact fun he => hf issues present (Except.error.inj he)

theorem both_ne {first : Except (List Issue) (α → β)} {second : Except (List Issue) α}
    (hf : first ≠ .error []) (hs : second ≠ .error []) : both first second ≠ .error [] := by
  cases first <;> cases second <;> simp_all [both]

namespace Explains

theorem refuse {issues : List Issue} (h : issues ≠ []) :
    Explains (Reading.refuse issues : Reading α) :=
  fun _ he => h (Except.error.inj he)

theorem seq {f : Reading (α → β)} (hf : Explains f) (h : Explains reading) :
    Explains (f <*> reading) :=
  fun state => both_ne (hf state) (h (f state).2)

theorem below (step : Step) (h : Explains reading) : Explains (reading.below step) :=
  fun state => mapError_ne (h state) fun issues hi => by simpa using hi

theorem either {second : Reading α} (h : Explains second) : Explains (reading.either second) := by
  intro state
  unfold Reading.either
  split
  next => exact nofun
  next issues mid _ =>
    refine mapError_ne (h mid) fun more hm => ?_
    simp [hm]

theorem draw {identity : Nat} {items : List Value} {next : Value → Reading (List α)}
    (h : ∀ item ∈ items, Explains (next item)) : Explains (Reading.draw identity items next) := by
  intro state
  unfold Reading.draw
  split
  next => exact nofun
  next item hg => exact h item (List.mem_of_getElem? hg) _

end Explains

theorem Made.explains {streams : List Nat} (h : Made streams reading) : Explains reading := by
  induction h with
  | pure a => exact fun _ => nofun
  | refuse h => exact .refuse h
  | seq _ _ ihf ih => exact ihf.seq ih
  | inside step _ ih => exact ih.below step
  | either _ _ _ ih => exact .either ih
  | draw _ _ ih => exact .draw ih
  | mono _ _ ih => exact ih

end Reading

variable {documents mappers : List (String × Value)} {context : Context} {state after : State}
  {defects : List Defect}

theorem withOthers_ne {name : String} {first : Except (List Issue) Schema}
    {others : Except (List Defect) (List (String × Schema))} (hf : first ≠ .error [])
    (ho : others ≠ .error []) : withOthers name first others ≠ .error [] := by
  cases first <;> cases others <;> simp_all [withOthers]

theorem readAll_explains (documents : List (String × Value)) (state : State) :
    (readAll documents state).1 ≠ .error [] := by
  induction documents generalizing state with
  | nil => exact nofun
  | cons entry documents ih => exact withOthers_ne ((Schema.read_made entry.2).explains state) (ih _)

theorem defects_ne_nil
    (h : (compile documents mappers).outcome context state = (.error (.schema defects), after)) :
    defects ≠ [] := by
  cases hr : readAll documents state with
  | mk result mid =>
    cases result with
    | error issues =>
      have told := outcome_compile_of_error hr mappers context
      obtain rfl := defects_unique told h
      exact fun he => readAll_explains documents state (by rw [hr, he])
    | ok parsed =>
      obtain ⟨inner, hi⟩ := exists_inner ⟨parsed, mappers⟩
      obtain ⟨given, later, -, ⟨-, -, ho⟩ | ⟨hd, -, ho⟩⟩ :=
        compile_runs (readsTo_iff.2 hr) hi context
      · exact nomatch ho.symm.trans h
      · obtain rfl := defects_unique ho h
        exact hd

/-- Whatever values stand for documents and mappers, compilation gives schemas or is refused with
defects, of which there is at least one, and whose messages make up the message of the refusal. -/
theorem compile_refusal (documents mappers : List (String × Value)) (context : Context)
    (state : State) :
    (∃ schemas after, (compile documents mappers).outcome context state = (.ok schemas, after)) ∨
      ∃ defects after,
        (compile documents mappers).outcome context state = (.error (.schema defects), after) ∧
          defects ≠ [] ∧
          (Failure.schema defects).message = "; ".intercalate (defects.map Defect.message) := by
  obtain ⟨schemas, after, -, -, h, -⟩ | ⟨defects, after, h, -⟩ :=
    compile_ends documents mappers context state
  · exact .inl ⟨schemas, after, h⟩
  · exact .inr ⟨defects, after, h, defects_ne_nil h, rfl⟩

end RecordMarkup.Document
