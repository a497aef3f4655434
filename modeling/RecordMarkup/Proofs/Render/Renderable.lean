import RecordMarkup.Proofs.Render.Ends

namespace RecordMarkup

theorem Admits.not_halts {conforms : Value → Value → Prop} {context : Context} {state : State}
    {c : Component Value} {v : Value} {f : Failure} (h : Admits conforms context state c v) :
    ¬Halts context state c v f := by
  intro hh
  cases hh with
  | map hf =>
    cases h with
    | map hw => exact (Value.applyMapping_stateless _ _).not_mayFail hw hf
  | optional hv hn hf =>
    cases h with
    | absent => exact hv rfl
    | bare => exact hn rfl
    | present hw => exact (Value.applyMapping_stateless _ _).not_mayFail hw hf
  | items ht hn =>
    cases h with
    | empty he => simp [he] at ht
    | flat hi | list hi => simp [hi] at hn

theorem Admits.conforms {conforms : Value → Value → Prop} {context : Context} {state later : State}
    {c : Component Value} {v inner r : Value} (h : Admits conforms context state c v)
    (he : Enters context state c v inner r later) : conforms inner r := by
  cases he with
  | item hn ht hi hm =>
    cases h with
    | empty he => simp [he] at ht
    | flat => exact absurd rfl hn
    | list hs hc =>
      obtain rfl := Option.some.inj (hs.symm.trans hi)
      exact hc r hm
  | nest hn =>
    cases h with
    | skip ho => exact absurd ⟨rfl, ho⟩ hn
    | nest hc => exact hc

namespace Value

variable {context : Context} {state : State} {record : Value}

theorem Conforms.admits {schema wrapper v : Value} {policy : Component Value} {mid : State}
    (hc : Conforms context state schema record)
    (visits : Visits context state schema record policy wrapper v mid) (hb : state.Before mid) :
    Admits (Conforms context state) context mid policy v := by
  obtain ⟨-, admitted⟩ := hc
  obtain ⟨name, hm, hv⟩ := visits_schema visits
  exact (admitted name policy wrapper v hm hv).mono hb fun _ _ _ h => h

theorem conforms_accounts {schema record : Value} :
    Accounts context False
      (fun f => ∃ mid s r, Reaches context state schema record mid s r ∧ Spoils context mid s r f)
      fun mid s r => Reaches context state schema record mid s r ∧ Conforms context mid s r where
  misses := by
    rintro mid s r f ⟨-, hc⟩ hm
    obtain ⟨readable, -⟩ := hc
    exact absurd hm (not_misses_of_offers readable)
  halts := by
    rintro mid now s r wrapper v policy f ⟨-, hc⟩ visits hb hh
    exact absurd hh (Conforms.admits hc visits hb).not_halts
  spoils := fun ⟨hr, _⟩ hs => ⟨_, _, _, hr, hs⟩
  substitutes hp := hp.elim
  enters := by
    rintro mid now later s r wrapper v inner q policy ⟨hr, hc⟩ visits hb he hl
    exact ⟨.inner hr visits he, ((Conforms.admits hc visits hb).conforms he).mono (hb.trans hl)⟩

/-- A schema from the constructors renders every record that conforms to it. The one exception is that a
value which is to be put into the markup cannot be written, or not be encoded where a request asks for
that. -/
theorem render_of_conforms {schema record : Value} (hb : Built (·.isText) schema)
    (hk : IsA .schema schema) (hc : Conforms context state schema record) :
    (∃ markup after, (render schema record).outcome context state = (.ok markup, after)) ∨
      ∃ f after mid s r, (render schema record).outcome context state = (.error f, after) ∧
        Reaches context state schema record mid s r ∧ Spoils context mid s r f := by
  have ends := render_ends conforms_accounts hb.accepted hk False.elim False.elim ⟨.here, hc⟩
  rw [Eval.Ends] at ends
  cases ho : (render schema record).outcome context state with
  | mk result after =>
    rw [ho] at ends
    cases result with
    | ok markup => exact .inl ⟨markup, after, rfl⟩
    | error f =>
      obtain ⟨mid, s, r, hr, hs⟩ := ends
      exact .inr ⟨f, after, mid, s, r, rfl, hr, hs⟩

end Value

end RecordMarkup
