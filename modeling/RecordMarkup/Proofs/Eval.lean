import RecordMarkup.Eval
import RecordMarkup.Proofs.Lookup

/-!
Laws of computations on values. `Ends` says how a computation may end, which never puts anything back
into streams; `Comes` says in which state work on a list comes to an item; `Settles` says of a
computation that only logs what it gives, and when it is refused; `Stateless` says that a computation has
nothing to do with the state.
-/

namespace RecordMarkup

namespace State

def Before (s t : State) : Prop := ∀ identity, s.position identity ≤ t.position identity

theorem Before.refl (s : State) : s.Before s := fun _ => Nat.le_refl _

theorem Before.trans {s t u : State} (h : s.Before t) (k : t.Before u) : s.Before u :=
  fun identity => Nat.le_trans (h identity) (k identity)

theorem lookup_filter_ne {entries : List (Nat × Nat)} {i j : Nat} (h : j ≠ i) :
    (entries.filter fun entry => entry.1 != i).lookup j = entries.lookup j := by
  induction entries with
  | nil => rfl
  | cons entry entries ih =>
    obtain ⟨k, n⟩ := entry
    by_cases hk : k = i
    · subst hk
      have hj : (j == k) = false := by simp [h]
      simp [List.lookup_cons, hj, ih]
    · simp [hk, List.lookup_cons, ih]

theorem position_advance (s : State) (i j : Nat) :
    (s.advance i).position j = if j = i then s.position i + 1 else s.position j := by
  by_cases h : j = i
  · subst h
    simp [position, advance]
  · have hj : (j == i) = false := by simp [h]
    simp [position, advance, List.lookup_cons, hj, h, lookup_filter_ne h]

theorem before_advance (s : State) (identity : Nat) : s.Before (s.advance identity) := by
  intro i
  rw [position_advance]
  split
  next h => rw [h]; exact Nat.le_succ _
  next => exact Nat.le_refl _

def logged (s : State) (events : List Logging.Event) : State := { s with log := s.log ++ events }

theorem before_logged (s : State) (events : List Logging.Event) : s.Before (s.logged events) :=
  fun _ => Nat.le_refl _

@[simp] theorem logged_nil (s : State) : s.logged [] = s := by
  simp [logged]

@[simp] theorem logged_logged (s : State) (es fs : List Logging.Event) :
    (s.logged es).logged fs = s.logged (es ++ fs) := by
  simp [logged]

end State

namespace Eval

variable {α β : Type} {context : Context} {state : State}

theorem of_bind_ok {action : Eval α} {next : α → Eval β} {b : β} {after : State}
    (h : (action >>= next).outcome context state = (.ok b, after)) :
    ∃ a mid, action.outcome context state = (.ok a, mid) ∧
      (next a).outcome context mid = (.ok b, after) := by
  rw [outcome_bind] at h
  split at h
  next a mid ha => exact ⟨a, mid, ha, h⟩
  next => simp at h

theorem outcome_bind_congr {action : Eval α} {f g : α → Eval β}
    (h : ∀ a state, (f a).outcome context state = (g a).outcome context state) :
    (action >>= f).outcome context state = (action >>= g).outcome context state := by
  rw [outcome_bind, outcome_bind]
  split
  next a mid _ => exact h a mid
  next => rfl

theorem pure_inj {a b : α} (h : (pure a : Eval α) = pure b) : a = b := by
  have given := congrArg (fun e => (e.outcome { mappings := fun _ v => .ok v } {}).1) h
  exact Except.ok.inj given

theorem mapM_eq_pure {f : α → Eval β} {g : α → β} {xs : List α}
    (h : ∀ x ∈ xs, f x = pure (g x)) : xs.mapM f = pure (xs.map g) := by
  induction xs with
  | nil => rfl
  | cons x xs ih =>
    rw [List.mapM_cons, h x (.head _), ih fun y hy => h y (.tail _ hy)]
    simp

theorem mapM_outcome {f : α → Eval β} {g : α → β} {xs : List α}
    (h : ∀ x ∈ xs, ∀ state, (f x).outcome context state = (.ok (g x), state)) (state : State) :
    (xs.mapM f).outcome context state = (.ok (xs.map g), state) := by
  induction xs with
  | nil => rfl
  | cons x xs ih =>
    rw [List.mapM_cons, outcome_bind_ok (h x (.head _) state),
      outcome_bind_ok (ih fun y hy => h y (.tail _ hy)), outcome_pure, List.map_cons]

theorem mapM_pure_of_forall {f : α → Eval β} {property : β → Prop} {xs : List α}
    (h : ∀ x ∈ xs, ∃ y, f x = pure y ∧ property y) :
    ∃ ys, xs.mapM f = pure ys ∧ ∀ y ∈ ys, property y := by
  induction xs with
  | nil => exact ⟨[], rfl, by simp⟩
  | cons x xs ih =>
    obtain ⟨y, hy, hp⟩ := h x (.head _)
    obtain ⟨ys, hys, hps⟩ := ih fun z hz => h z (.tail _ hz)
    exact ⟨y :: ys, by simp [List.mapM_cons, hy, hys], List.forall_mem_cons.2 ⟨hp, hps⟩⟩

/-- How the action may end: with a result that has the one property, nothing having been put back
into streams, or with a failure that has the other. -/
def Ends (action : Eval α) (context : Context) (state : State) (post : α → Prop)
    (fails : Failure → Prop) : Prop :=
  match action.outcome context state with
  | (.ok a, after) => state.Before after ∧ post a
  | (.error f, _) => fails f

section Ends

variable {post : α → Prop} {fails : Failure → Prop}

theorem Ends.pure {a : α} (h : post a) : (Pure.pure a : Eval α).Ends context state post fails :=
  ⟨.refl _, h⟩

theorem Ends.throw {f : Failure} (h : fails f) :
    (MonadExcept.throw f : Eval α).Ends context state post fails := h

theorem Ends.bind_run {action : Eval α} {next : α → Eval β} {mid : α → Prop} {post : β → Prop}
    (h : action.Ends context state mid fails)
    (hn : ∀ a after, action.outcome context state = (.ok a, after) → state.Before after → mid a →
      (next a).Ends context after post fails) :
    (action >>= next).Ends context state post fails := by
  rw [Ends] at h ⊢
  match ho : action.outcome context state with
  | (.ok a, after) =>
    rw [ho] at h
    rw [outcome_bind_ok ho]
    have rest := hn a after ho h.1 h.2
    rw [Ends] at rest
    match hr : (next a).outcome context after with
    | (.ok b, last) =>
      rw [hr] at rest
      exact ⟨h.1.trans rest.1, rest.2⟩
    | (.error f, last) =>
      rw [hr] at rest
      exact rest
  | (.error f, after) =>
    rw [ho] at h
    rw [outcome_bind_error ho]
    exact h

theorem Ends.bind {action : Eval α} {next : α → Eval β} {mid : α → Prop} {post : β → Prop}
    (h : action.Ends context state mid fails)
    (hn : ∀ a after, state.Before after → mid a → (next a).Ends context after post fails) :
    (action >>= next).Ends context state post fails :=
  h.bind_run fun a after _ => hn a after

theorem Ends.mono {action : Eval α} {post' : α → Prop} {fails' : Failure → Prop}
    (h : action.Ends context state post fails) (hp : ∀ a, post a → post' a)
    (hf : ∀ f, fails f → fails' f) : action.Ends context state post' fails' := by
  unfold Ends at h ⊢
  split at h
  · exact ⟨h.1, hp _ h.2⟩
  · exact hf _ h

theorem Ends.log_bind {event : Logging.Event} {next : Unit → Eval β} {post : β → Prop}
    (h : (next ()).Ends context (state.logged [event]) post fails) :
    (Eval.log event >>= next).Ends context state post fails := by
  have logged : (Eval.log event).Ends context state (fun _ => True) fails :=
    ⟨state.before_logged [event], trivial⟩
  refine logged.bind_run fun _ after ho _ _ => ?_
  obtain rfl := (Prod.mk.inj ho).2
  exact h

inductive Comes (f : α → Eval β) (context : Context) : List α → State → α → State → Prop
  | here {x : α} {xs : List α} {state : State} : Comes f context (x :: xs) state x state
  | later {x y : α} {xs : List α} {state mid last : State} {r : β} :
      (f x).outcome context state = (.ok r, mid) → Comes f context xs mid y last →
        Comes f context (x :: xs) state y last

theorem Comes.mem {f : α → Eval β} {xs : List α} {x : α} {mid : State}
    (h : Comes f context xs state x mid) : x ∈ xs := by
  induction h with
  | here => exact .head _
  | later _ _ ih => exact .tail _ ih

theorem Ends.mapM_rows {f : α → Eval β} {rel : α → β → Prop} {xs : List α}
    (h : ∀ x mid, Comes f context xs state x mid → state.Before mid →
      (f x).Ends context mid (rel x) fails) :
    (xs.mapM f).Ends context state (List.Forall₂ rel xs) fails := by
  induction xs generalizing state with
  | nil => exact .pure .nil
  | cons x xs ih =>
    rw [List.mapM_cons]
    refine (h x state .here (.refl _)).bind_run fun y after ho hb hy => ?_
    have rest := ih fun z mid hz hm => h z mid (.later ho hz) (hb.trans hm)
    exact rest.bind fun ys _ _ hys => .pure (.cons hy hys)

theorem Ends.mapM {f : α → Eval β} {post : β → Prop} {xs : List α}
    (h : ∀ x mid, Comes f context xs state x mid → state.Before mid →
      (f x).Ends context mid post fails) :
    (xs.mapM f).Ends context state (fun ys => ∀ y ∈ ys, post y) fails := by
  have rows : (xs.mapM f).Ends context state (List.Forall₂ (fun _ y => post y) xs) fails :=
    Ends.mapM_rows h
  refine rows.mono (fun ys hys y hy => ?_) fun _ hf => hf
  obtain ⟨-, -, given⟩ := exists_of_mem_right hys hy
  exact given

end Ends

def Gives (action : Eval α) (a : α) : Prop :=
  ∃ events : List Logging.Event, (∀ event ∈ events, event.origin = .construction) ∧
    ∀ context state, action.outcome context state = (.ok a, state.logged events)

def Refuses (action : Eval α) : Prop :=
  ∃ (defects : List Defect) (events : List Logging.Event),
    defects ≠ [] ∧ (∀ event ∈ events, event.origin = .construction) ∧
    ∀ context state, action.outcome context state = (.error (.schema defects), state.logged events)

/-- The action gives the value if the condition holds, and is refused if not. -/
def Settles (action : Eval α) (a : α) (condition : Prop) : Prop :=
  condition ∧ action.Gives a ∨ ¬condition ∧ action.Refuses

theorem Gives.pure (a : α) : (Pure.pure a : Eval α).Gives a :=
  ⟨[], by simp, by simp⟩

theorem Gives.bind {action : Eval α} {next : α → Eval β} {a : α} {b : β} (h : action.Gives a)
    (hn : (next a).Gives b) : (action >>= next).Gives b := by
  obtain ⟨es, hes, h⟩ := h
  obtain ⟨fs, hfs, hn⟩ := hn
  refine ⟨es ++ fs, List.forall_mem_append.2 ⟨hes, hfs⟩, fun context state => ?_⟩
  rw [outcome_bind_ok (h context state), hn, State.logged_logged]

theorem Gives.bind_refuses {action : Eval α} {next : α → Eval β} {a : α} (h : action.Gives a)
    (hn : (next a).Refuses) : (action >>= next).Refuses := by
  obtain ⟨es, hes, h⟩ := h
  obtain ⟨ds, fs, hd, hfs, hn⟩ := hn
  refine ⟨ds, es ++ fs, hd, List.forall_mem_append.2 ⟨hes, hfs⟩, fun context state => ?_⟩
  rw [outcome_bind_ok (h context state), hn, State.logged_logged]

theorem Refuses.bind {action : Eval α} (h : action.Refuses) (next : α → Eval β) :
    (action >>= next).Refuses := by
  obtain ⟨ds, es, hd, hes, h⟩ := h
  exact ⟨ds, es, hd, hes, fun context state => outcome_bind_error (h context state)⟩

theorem Settles.pure (a : α) : (Pure.pure a : Eval α).Settles a True :=
  .inl ⟨trivial, .pure a⟩

theorem Settles.iff {action : Eval α} {a : α} {p q : Prop} (h : action.Settles a p) (hpq : p ↔ q) :
    action.Settles a q := by
  rwa [← propext hpq]

theorem Settles.bind {action : Eval α} {next : α → Eval β} {a : α} {b : β} {p q : Prop}
    (h : action.Settles a p) (hn : p → (next a).Settles b q) :
    (action >>= next).Settles b (p ∧ q) := by
  obtain ⟨hp, h⟩ | ⟨hp, h⟩ := h
  · obtain ⟨hq, k⟩ | ⟨hq, k⟩ := hn hp
    · exact .inl ⟨⟨hp, hq⟩, h.bind k⟩
    · exact .inr ⟨fun hpq => hq hpq.2, h.bind_refuses k⟩
  · exact .inr ⟨fun hpq => hp hpq.1, h.bind next⟩

def MayGive (action : Eval α) (context : Context) (a : α) : Prop :=
  ∃ before after, action.outcome context before = (.ok a, after)

theorem Settles.of_mayGive {action : Eval α} {a b : α} {p : Prop} (h : action.Settles a p)
    (hg : action.MayGive context b) : p ∧ b = a := by
  obtain ⟨before, after, hg⟩ := hg
  obtain ⟨hp, events, -, h⟩ | ⟨-, defects, events, -, -, h⟩ := h
  · rw [h] at hg
    exact ⟨hp, (Except.ok.inj (Prod.mk.inj hg).1).symm⟩
  · rw [h] at hg
    cases (Prod.mk.inj hg).1

theorem Settles.gives {action : Eval α} {a : α} {p : Prop} (h : action.Settles a p) (hp : p) :
    action.Gives a :=
  h.elim And.right fun hn => absurd hp hn.1

theorem rows_of_mapM_ok {f : α → Eval β} {xs : List α} {ys : List β} {after : State}
    (h : (xs.mapM f).outcome context state = (.ok ys, after)) :
    List.Forall₂ (fun x y => (f x).MayGive context y) xs ys := by
  induction xs generalizing ys state after with
  | nil =>
    obtain rfl : [] = ys := Except.ok.inj (Prod.mk.inj h).1
    exact .nil
  | cons x xs ih =>
    rw [List.mapM_cons] at h
    obtain ⟨y, mid, hy, h⟩ := of_bind_ok h
    obtain ⟨rest, last, hrest, h⟩ := of_bind_ok h
    obtain rfl : y :: rest = ys := Except.ok.inj (Prod.mk.inj h).1
    exact .cons ⟨state, mid, hy⟩ (ih hrest)

def MayFail (action : Eval α) (context : Context) (f : Failure) : Prop :=
  ∃ before after, action.outcome context before = (.error f, after)

def Stateless (action : Eval α) : Prop :=
  ∀ context, ∃ result, ∀ state, action.outcome context state = (result, state)

theorem Stateless.pure (a : α) : (Pure.pure a : Eval α).Stateless :=
  fun _ => ⟨.ok a, fun _ => rfl⟩

theorem Stateless.throw (f : Failure) : (throw f : Eval α).Stateless :=
  fun _ => ⟨.error f, fun _ => rfl⟩

theorem Stateless.settings : Eval.settings.Stateless :=
  fun context => ⟨.ok context.settings, fun _ => rfl⟩

theorem Stateless.read : (read : Eval Context).Stateless :=
  fun context => ⟨.ok context, fun _ => rfl⟩

theorem Stateless.ofExcept (result : Except Failure α) :
    (MonadExcept.ofExcept result : Eval α).Stateless := by
  cases result with
  | ok a => exact .pure a
  | error f => exact .throw f

theorem Stateless.bind {action : Eval α} {next : α → Eval β} (h : action.Stateless)
    (hn : ∀ a, (next a).Stateless) : (action >>= next).Stateless := by
  intro context
  obtain ⟨result, h⟩ := h context
  cases result with
  | ok a =>
    obtain ⟨result, hn⟩ := hn a context
    exact ⟨result, fun state => by rw [outcome_bind_ok (h state), hn]⟩
  | error f => exact ⟨.error f, fun state => outcome_bind_error (h state)⟩

theorem Stateless.outcome {action : Eval α} {context : Context} {a : α} (h : action.Stateless)
    (hg : action.MayGive context a) (state : State) :
    action.outcome context state = (.ok a, state) := by
  obtain ⟨result, h⟩ := h context
  obtain ⟨before, after, hg⟩ := hg
  rw [h] at hg
  rw [h, (Prod.mk.inj hg).1]

theorem Stateless.not_mayFail {action : Eval α} {context : Context} {a : α} {f : Failure}
    (h : action.Stateless) (hg : action.MayGive context a) : ¬action.MayFail context f := by
  rintro ⟨before, after, hf⟩
  rw [h.outcome hg] at hf
  cases hf

theorem Stateless.ends {action : Eval α} {context : Context} {state : State} (h : action.Stateless) :
    action.Ends context state (action.MayGive context) (action.MayFail context) := by
  obtain ⟨result, h⟩ := h context
  rw [Ends, h]
  cases result with
  | ok a => exact ⟨.refl _, state, state, h state⟩
  | error f => exact ⟨state, state, h state⟩

end Eval

namespace Value

variable {α : Type} {context : Context} {state : State}

def remaining (state : State) : Value → Option (List Value)
  | stream identity items => some (items.drop (state.position identity))
  | v => v.items?

theorem remaining_of_before {v : Value} {items : List Value} {after : State}
    (h : v.remaining state = some items) (hb : state.Before after) :
    ∃ rest, v.remaining after = some rest ∧ rest ⊆ items := by
  unfold remaining at h ⊢
  split at h
  next identity all =>
    obtain rfl := Option.some.inj h
    exact ⟨_, rfl, List.drop_subset_drop_left _ (hb identity)⟩
  next => exact ⟨items, h, fun _ hi => hi⟩

theorem mem_drop_of_getElem? {items : List Value} {item : Value} {n : Nat}
    (h : items[n]? = some item) : item ∈ items.drop n := by
  obtain ⟨hlt, rfl⟩ := List.getElem?_eq_some_iff.1 h
  rw [List.drop_eq_getElem_cons hlt]
  exact .head _

/-- Work on the items of a stream comes to an item in a state. An item is taken before it is worked
on. -/
inductive Draws (f : Value → Eval α) (context : Context) (identity : Nat) (items : List Value) :
    State → Value → State → Prop
  | next {state : State} {item : Value} : items[state.position identity]? = some item →
      Draws f context identity items state item (state.advance identity)
  | later {state mid last : State} {item other : Value} {r : α} :
      items[state.position identity]? = some item →
        (f item).outcome context (state.advance identity) = (.ok r, mid) →
          Draws f context identity items mid other last →
            Draws f context identity items state other last

inductive Comes (f : Value → Eval α) (context : Context) (state : State) :
    Value → Value → State → Prop
  | stream {identity : Nat} {items : List Value} {item : Value} {mid : State} :
      Draws f context identity items state item mid →
        Comes f context state (stream identity items) item mid
  | items {v item : Value} {items : List Value} {mid : State} : v.items? = some items →
      Eval.Comes f context items state item mid → Comes f context state v item mid

variable {f : Value → Eval α} {post : α → Prop} {fails : Failure → Prop}

theorem drain_ends {identity : Nat} {items : List Value}
    (h : ∀ item mid, Draws f context identity items state item mid →
      item ∈ items.drop (state.position identity) → state.Before mid →
        (f item).Ends context mid post fails) (bound : Nat) :
    (drain identity items f bound).Ends context state (fun rs => ∀ r ∈ rs, post r) fails := by
  induction bound generalizing state with
  | zero => exact .pure (by simp)
  | succ bound ih =>
    have got : (get : Eval State).Ends context state (fun s => s = state) fails := ⟨.refl _, rfl⟩
    refine got.bind_run fun s t ho _ hs => ?_
    subst hs
    obtain rfl := (Prod.mk.inj ho).2
    split
    next => exact .pure (by simp)
    next item hi =>
      have moved : (modify (·.advance identity) : Eval PUnit).Ends context s (fun _ => True) fails :=
        ⟨s.before_advance identity, trivial⟩
      refine moved.bind_run fun _ u hu hb _ => ?_
      obtain rfl := (Prod.mk.inj hu).2
      refine (h item _ (.next hi) (mem_drop_of_getElem? hi) hb).bind_run fun r v hv hl hr => ?_
      have hlater : s.Before v := hb.trans hl
      -- What the action itself took from the stream only leaves fewer items.
      have rest : (drain identity items f bound).Ends context v (fun rs => ∀ r ∈ rs, post r)
          fails := ih fun other mid hm hi' ha =>
        h other mid (.later hi hv hm) (List.drop_subset_drop_left _ (hlater identity) hi')
          (hlater.trans ha)
      refine rest.bind fun rs _ _ hrs => .pure ?_
      exact List.forall_mem_cons.2 ⟨hr, hrs⟩

theorem forEach_ends {v : Value}
    (h : ∀ items, v.remaining state = some items → ∀ item ∈ items, ∀ mid,
      v.Comes f context state item mid → state.Before mid → (f item).Ends context mid post fails)
    (hn : v.remaining state = none → fails (.notIterable v.typeName)) :
    (v.forEach f).Ends context state (fun rs => ∀ r ∈ rs, post r) fails := by
  unfold forEach
  split
  next identity all => exact drain_ends (fun item mid hd hm => h _ rfl item hm mid (.stream hd)) _
  next hs =>
    have items : v.remaining state = v.items? := by
      unfold remaining
      split
      next => exact absurd rfl (hs _ _)
      next => rfl
    split
    next all hi =>
      exact .mapM fun item mid hc => h all (items.trans hi) item hc.mem mid (.items hi hc)
    next hi => exact .throw (hn (items.trans hi))

end Value

end RecordMarkup
