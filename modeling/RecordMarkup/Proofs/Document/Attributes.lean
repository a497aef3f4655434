import Mathlib.Data.List.Forall2
import RecordMarkup.Proofs.Document.Elements
import RecordMarkup.Proofs.Document.Streams
import RecordMarkup.Proofs.Render.AttributeOrder

namespace RecordMarkup

open Value (text tuple null component hasKind fragment ordered InOrder IsAttribute)

namespace Eval

variable {α β : Type} {context : Context} {state : State}

theorem Gives.mapM {f : α → Eval β} {xs : List α} {ys : List β}
    (h : List.Forall₂ (fun x y => (f x).Gives y) xs ys) : (xs.mapM f).Gives ys := by
  induction h with
  | nil => exact .pure []
  | cons hx _ ih =>
    rw [List.mapM_cons]
    exact hx.bind (ih.bind (.pure _))

end Eval

section Groups

variable {α : Type} {context : Context} {state other : State} {group : Value}
  {pairs : List (Value × Value)} {built : List Value}

/-- The pairs that are left in a group: the entries of a dictionary, or the items of anything else. -/
def Value.HasPairs (state : State) (group : Value) (pairs : List (Value × Value)) : Prop :=
  match group with
  | .dict entries => pairs = entries.map fun (key, value) => (text key, value)
  | group => ∃ items, group.remaining state = some items ∧
      List.Forall₂ (fun item pair => item.items? = some [pair.1, pair.2]) items pairs

theorem Value.HasPairs.of_agreeOn (h : group.HasPairs state pairs)
    (ha : state.AgreeOn group.streams other) : group.HasPairs other pairs := by
  cases group with
  | stream identity items =>
    have position := ha identity (.head _)
    simp only [HasPairs, remaining, position] at h ⊢
    exact h
  | _ => exact h

theorem Value.drain_outcome {f : Value → Eval α} {identity : Nat} {items : List Value}
    {built : List α} {bound : Nat}
    (h : List.Forall₂ (fun item v => (f item).Gives v) (items.drop (state.position identity)) built)
    (hb : items.length ≤ state.position identity + bound) :
    ∃ after, (drain identity items f bound).outcome context state = (.ok built, after) ∧
      ∀ i ≠ identity, after.position i = state.position i := by
  induction bound generalizing state built with
  | zero =>
    rw [List.drop_eq_nil_of_le (by simpa using hb), List.forall₂_nil_left_iff] at h
    exact ⟨state, by rw [h]; rfl, fun _ _ => rfl⟩
  | succ bound ih =>
    have got : (get : Eval State).outcome context state = (.ok state, state) := rfl
    rw [drain, Eval.outcome_bind_ok got]
    cases hi : items[state.position identity]? with
    | none =>
      rw [List.drop_eq_nil_of_le (List.getElem?_eq_none_iff.1 hi), List.forall₂_nil_left_iff] at h
      exact ⟨state, by rw [h]; rfl, fun _ _ => rfl⟩
    | some item =>
      obtain ⟨hlt, rfl⟩ := List.getElem?_eq_some_iff.1 hi
      rw [List.drop_eq_getElem_cons hlt, List.forall₂_cons_left_iff] at h
      obtain ⟨v, rest, ⟨events, -, hv⟩, h, rfl⟩ := h
      have moved : (modify (·.advance identity) : Eval PUnit).outcome context state =
          (.ok ⟨⟩, state.advance identity) := rfl
      have position (i : Nat) : ((state.advance identity).logged events).position i =
          if i = identity then state.position identity + 1 else state.position i :=
        state.position_advance identity i
      have left : ((state.advance identity).logged events).position identity =
          state.position identity + 1 := (position identity).trans (if_pos rfl)
      rw [← left] at h
      obtain ⟨after, ho, hp⟩ := ih h (by omega)
      refine ⟨after, ?_, fun i hi => ?_⟩
      · simp only [Eval.outcome_bind_ok moved, Eval.outcome_bind_ok (hv _ _),
          Eval.outcome_bind_ok ho, Eval.outcome_pure]
      · rw [hp i hi, position, if_neg hi]

theorem Build.pair_eq {item a b : Value} (h : item.items? = some [a, b]) :
    pair item = pure (a, b) := by
  have items : pairItems item = pure [a, b] := by
    unfold pairItems
    split
    next => simp [Value.items?, Value.text?] at h
    next => rw [h]
  rw [pair, items]
  rfl

theorem Build.fromPairs_outcome (context : Context) {build : Value → Value → Eval Value} (hp : group.HasPairs state pairs)
    (h : List.Forall₂ (fun pair v => (build pair.1 pair.2).Gives v) pairs built) :
    ∃ after, (fromPairs group build).outcome context state = (.ok built, after) ∧
      ∀ i ∉ group.streams, after.position i = state.position i := by
  have each {items : List Value} (hi : List.Forall₂
      (fun item pair => item.items? = some [pair.1, pair.2]) items pairs) :
      List.Forall₂ (fun item v => (pair item >>= fun found => build found.1 found.2).Gives v)
        items built := by
    clear hp
    induction hi generalizing built with
    | nil =>
      obtain rfl := List.forall₂_nil_left_iff.1 h
      exact .nil
    | cons hi _ ih =>
      obtain ⟨v, rest, hv, hvs, rfl⟩ := List.forall₂_cons_left_iff.1 h
      exact .cons (by rwa [pair_eq hi, pure_bind]) (ih hvs)
  cases group with
  | dict entries =>
    obtain rfl : pairs = _ := hp
    rw [List.forall₂_map_left_iff] at h
    obtain ⟨events, -, ho⟩ := Eval.Gives.mapM h
    exact ⟨_, ho context state, fun _ _ => rfl⟩
  | stream identity items =>
    obtain ⟨_, hr, hi⟩ := hp
    obtain rfl := Option.some.inj hr
    obtain ⟨after, ho, hs⟩ := Value.drain_outcome (each hi) (Nat.le_add_left _ _)
    exact ⟨after, ho, fun i hn => hs i fun he => hn (he ▸ .head _)⟩
  | _ =>
    obtain ⟨items, hr, hi⟩ := hp
    obtain ⟨events, -, ho⟩ := Eval.Gives.mapM (each hi)
    simp only [Value.remaining] at hr
    refine ⟨state.logged events, ?_, fun _ _ => rfl⟩
    simpa only [fromPairs, Value.forEach, hr] using ho context state

theorem Build.attributes_outcome {statics dynamics others : Value}
    {staticPairs dynamicPairs otherPairs : List (Value × Value)} {ss ds os : List Value}
    (statics_pairs : statics.HasPairs state staticPairs)
    (dynamics_pairs : dynamics.HasPairs state dynamicPairs)
    (others_pairs : others.HasPairs state otherPairs)
    (apart : [dynamics, statics, others].Pairwise fun g h => g.streams.Disjoint h.streams)
    (hs : List.Forall₂ (fun pair v => (static pair.1 pair.2).Gives v) staticPairs ss)
    (hd : List.Forall₂ (fun pair v => (dynamic pair.1 pair.2).Gives v) dynamicPairs ds)
    (ho : List.Forall₂ (fun pair v => (requestAttr pair.1 pair.2).Gives v) otherPairs os)
    (request : Value) :
    ∃ after, (attributes statics dynamics others request).outcome context state =
      (.ok (tuple (ds ++ ss ++ os ++ request.present)), after) := by
  simp only [List.pairwise_cons, List.forall_mem_cons] at apart
  obtain ⟨⟨static_apart, other_apart, -⟩, ⟨others_apart, -⟩, -⟩ := apart
  obtain ⟨s₁, h₁, p₁⟩ := fromPairs_outcome context dynamics_pairs hd
  obtain ⟨s₂, h₂, p₂⟩ := fromPairs_outcome context
    (statics_pairs.of_agreeOn fun i hi => (p₁ i fun h => static_apart h hi).symm) hs
  obtain ⟨s₃, h₃, -⟩ := fromPairs_outcome context
    (others_pairs.of_agreeOn fun i hi => ((p₂ i fun h => others_apart h hi).trans
      (p₁ i fun h => other_apart h hi)).symm) ho
  exact ⟨s₃, by simp only [attributes, Eval.outcome_bind_ok h₁, Eval.outcome_bind_ok h₂,
    Eval.outcome_bind_ok h₃, Eval.outcome_pure, Value.present]⟩

end Groups

namespace Value

variable {record : Value} {sources : List Value}

theorem slot_request (tag content before last : Value) :
    (component (.element tag sources content before last)).slot "request" =
      pure ((sources.filter (hasKind .request)).head?.getD null) := by
  have first (s : Value) : (s.tag?.map (isKind .request)).getD false = s.hasKind .request := by
    rw [hasKind, Value.tag]
    cases s.tag? <;> rfl
  refine slot_eq_pure (by decide) fun space => ?_
  simp only [slot?, Component.slots, List.head?_filter, derivedSlot?, first]
  rfl

theorem openTag_eq {tag content before last : Value} (ht : tag ≠ null)
    (h : ∀ s ∈ sources, s.IsAttribute) :
    (component (.element tag sources content before last)).openTag record = do
      let request ← (sources.filter (hasKind .request)).mapM (fragment record)
      let others ← (tuple (sources.filter fun s => !s.hasKind .request)).renderAttributes record
      return text ("<" ++ tag.display ++ String.join request ++ others ++ ">") := by
  have present : ¬tag.isNull := fun hn => ht (isNull_iff.1 hn)
  have tagged : ∀ s ∈ sources, s.tag?.isSome := fun s hs => (h s hs).tagged
  have rest : ∀ s ∈ sources.filter fun s => !s.hasKind .request, s.tag?.isSome := fun s hs =>
    tagged s (List.mem_filter.1 hs).1
  rw [openTag, if_neg present, renderAttributes_eq tagged, renderAttributes_eq rest,
    ordered_requests]
  simp [List.mapM_append, String.join_append, String.append_assoc]

end Value

namespace Document

variable {context : Context} {state : State}

inductive Content.Given : Content → Value → Prop
  | bare (template : String) : Given (.text template) (.text template)
  | built (c : Content) : Given c c.value

namespace Element

/-- The groups hold what the document says of the attributes of an element. No two of them draw on one
stream. -/
structure Supplied (e : Element) (context : Context) (state : State)
    (statics dynamics others request : Value) : Prop where
  apart : [dynamics, statics, others].Pairwise fun g h => g.streams.Disjoint h.streams
  statics : statics.HasPairs state (e.attrs.map fun (key, value) => (.text key, .text value))
  others : others.HasPairs state (e.hx.map fun (key, value) => (.text key, .text value))
  dynamics : ∃ pairs, dynamics.HasPairs state pairs ∧
    List.Forall₂ (fun pair entry => pair.1 = .text entry.1 ∧ entry.2.Given pair.2) pairs e.dynamic
  request : e.request = none ∧ request = null ∨
    ∃ r, e.request = some r ∧ r.build.MayGive context request

theorem dynamic_gives {entry : String × Content} {v : Value} (hv : entry.2.Given v)
    (hc : entry.2.Sound) (hd : (dynamicComponent entry).Valid) :
    (Build.dynamic (.text entry.1) v).Gives (.component (dynamicComponent entry)) := by
  have built : (Build.dynamic (.text entry.1) entry.2.value).Gives
      (.component (dynamicComponent entry)) := by
    refine (Component.performs (dynamicComponent_typed entry) ?_ rfl).settles.gives hd
    simpa [dynamicComponent, Component.parts] using hc.built
  obtain ⟨key, content⟩ := entry
  cases hv with
  | bare template => exact ((Content.text template).build_settles.gives hc).bind built
  | built => exact built

theorem Supplied.request_present {e : Element} {statics dynamics others request : Value}
    (h : e.Supplied context state statics dynamics others request) :
    request.present = e.request.toList.map Request.value := by
  obtain ⟨hn, rfl⟩ | ⟨r, hr, hg⟩ := h.request
  · rw [hn]
    rfl
  · obtain ⟨-, rfl⟩ := r.build_settles.of_mayGive hg
    rw [hr]
    rfl

theorem Supplied.attributes_outcome {e : Element} {statics dynamics others request : Value}
    (h : e.Supplied context state statics dynamics others request)
    (hd : ∀ entry ∈ e.dynamic, entry.2.Sound ∧ (dynamicComponent entry).Valid)
    (hs : ∀ entry ∈ e.attrs, (staticComponent entry).Valid)
    (ho : ∀ entry ∈ e.hx, (otherComponent entry).Valid) :
    ∃ after, (Build.attributes statics dynamics others request).outcome context state =
      (.ok (tuple (e.dynamic.map (fun entry => .component (dynamicComponent entry)) ++
        e.attrs.map (fun entry => .component (staticComponent entry)) ++
        e.hx.map (fun entry => .component (otherComponent entry)) ++
        e.request.toList.map Request.value)), after) := by
  obtain ⟨pairs, hp, given⟩ := h.dynamics
  rw [← h.request_present]
  refine Build.attributes_outcome h.statics hp h.others h.apart ?_ ?_ ?_ request
  · rw [List.forall₂_map_left_iff, List.forall₂_map_right_iff, List.forall₂_same]
    exact fun entry he => (static_settles entry).gives (hs entry he)
  · rw [List.forall₂_map_right_iff]
    have sound := (List.forall₂_and_left _ _).2 ⟨hd, given.flip⟩
    refine List.Forall₂.flip (sound.imp fun entry pair => ?_)
    rintro ⟨⟨hc, hv⟩, key, hp⟩
    simpa only [flip, key] using dynamic_gives hp hc hv
  · rw [List.forall₂_map_left_iff, List.forall₂_map_right_iff, List.forall₂_same]
    exact fun entry he => (other_settles entry).gives (ho entry he)

theorem Supplied.renders_alike {e : Element} {statics dynamics others request : Value}
    {compiled : List Value} (h : e.Supplied context state statics dynamics others request)
    (hc : e.buildAttributes.MayGive context compiled) (record : Value) :
    ∃ built after, (Build.attributes statics dynamics others request).outcome context state =
        (.ok (tuple built), after) ∧
      (tuple built).renderAttributes record = (tuple compiled).renderAttributes record := by
  obtain ⟨⟨-, hd, hs, ho⟩, rfl⟩ := e.buildAttributes_settles.of_mayGive hc
  obtain ⟨after, built⟩ := h.attributes_outcome hd hs ho
  have tagged : ∀ s ∈ e.attributes, s.tag?.isSome := fun s hs => by
    obtain ⟨k, -, c, rfl, -⟩ := e.typed.2.1 s hs
    rfl
  rw [attributes, List.append_assoc, List.append_assoc, ← List.append_assoc (e.dynamic.map _)]
    at tagged ⊢
  refine ⟨_, after, built, Value.renderAttributes_congr (fun s hs => tagged s ?_) tagged
    fun k _ => ?_⟩
  · exact List.perm_append_comm.mem_iff.1 hs
  · refine Value.filter_moved (fun r hr => ?_) (fun s hs => ?_) k
    · obtain ⟨request, -, rfl⟩ := List.mem_map.1 hr
      simp [Request.value, Request.component, Value.hasKind_component, Component.kind]
    · simp only [List.mem_append, List.mem_map] at hs
      obtain (⟨entry, -, rfl⟩ | ⟨entry, -, rfl⟩) | ⟨entry, -, rfl⟩ := hs
      all_goals simp [Value.hasKind_component, Component.kind, dynamicComponent, staticComponent,
        otherComponent]

end Element

/-- What the order of attributes promises of a record. -/
structure FixedOrder (context : Context) (record : Value) : Prop where
  written (sources : List Value) (h : ∀ s ∈ sources, s.IsAttribute) :
    ∃ sorted, InOrder sources sorted ∧
      (tuple sources).renderAttributes record = String.join <$> sorted.mapM (fragment record) ∧
      ∀ texts : Value → String,
        (∀ s ∈ sources, ∀ state, (fragment record s).outcome context state = (.ok (texts s), state)) →
          ∀ state, ((tuple sources).renderAttributes record).outcome context state =
            (.ok (String.join (sorted.map texts)), state)
  alone (s : Value) (h : s.IsAttribute) : (tuple [s]).renderAttributes record = fragment record s
  regrouped (sources others : List Value) (h : ∀ s ∈ sources, s.IsAttribute)
    (hp : sources.Perm others) (hk : ∀ k, sources.filter (hasKind k) = others.filter (hasKind k)) :
    (tuple sources).renderAttributes record = (tuple others).renderAttributes record
  supplied (e : Element) (state : State) (statics dynamics others request : Value)
    (compiled : List Value) (h : e.Supplied context state statics dynamics others request)
    (hc : e.buildAttributes.MayGive context compiled) :
    ∃ built after, (Build.attributes statics dynamics others request).outcome context state =
        (.ok (tuple built), after) ∧
      (tuple built).renderAttributes record = (tuple compiled).renderAttributes record
  requested (tag attributes content before last element : Value) (state after : State)
    (h : (Build.element tag attributes content before last).outcome context state =
      (.ok element, after)) :
    ∃ sources requests, element.slot "attributes" = pure (tuple sources) ∧
      requests = sources.filter (hasKind .request) ∧ requests.length ≤ 1 ∧
      element.slot "request" = pure (requests.head?.getD null) ∧
      (tag = null → sources = [] ∧ element.openTag record = pure (text "")) ∧
      (tag ≠ null → element.openTag record = do
        let request ← requests.mapM (fragment record)
        let others ← (tuple (sources.filter fun s => !s.hasKind .request)).renderAttributes record
        return text ("<" ++ tag.display ++ String.join request ++ others ++ ">"))

theorem fixedOrder (context : Context) (record : Value) : FixedOrder context record where
  written sources h := by
    refine ⟨ordered sources, Value.inOrder_ordered h, ?_, fun texts ht state => ?_⟩
    · exact Value.renderAttributes_eq fun s hs => (h s hs).tagged
    · have each : ∀ s ∈ ordered sources, ∀ state,
          (fragment record s).outcome context state = (.ok (texts s), state) := fun s hs =>
        ht s ((Value.perm_ordered h).mem_iff.1 hs)
      rw [Value.renderAttributes_eq fun s hs => (h s hs).tagged, map_eq_pure_bind,
        Eval.outcome_bind_ok (Eval.mapM_outcome each state), Eval.outcome_pure]
  alone s h := by
    have sorted : ordered [s] = [s] :=
      List.perm_singleton.1 (Value.perm_ordered (List.forall_mem_singleton.2 h))
    rw [Value.renderAttributes_eq (List.forall_mem_singleton.2 h.tagged), sorted]
    simp [String.join_cons]
  regrouped sources others h hp hk :=
    Value.renderAttributes_congr (fun s hs => (h s hs).tagged)
      (fun s hs => (h s (hp.mem_iff.2 hs)).tagged) fun k _ => hk k
  supplied e state statics dynamics others request compiled h hc := h.renders_alike hc record
  requested tag attributes content before last element state after h := by
    obtain ⟨sources, mid, -, h⟩ := Eval.of_bind_ok h
    obtain ⟨content, mid, -, h⟩ := Eval.of_bind_ok h
    obtain ⟨rfl, mid, hd⟩ := Component.accept_ok h
    simp only [Value.defects_component] at hd
    obtain ⟨known, one, bare⟩ := Value.element_sources hd
    refine ⟨sources, _, Value.slot_element_attributes, rfl, one, Value.slot_request .., fun ht => ?_,
      fun ht => Value.openTag_eq ht known⟩
    subst ht
    exact ⟨bare rfl, rfl⟩

theorem fixedOrder_groups :
    let e : Element :=
      { attrs := [("class", "wide")], dynamic := [("id", .format ⟨"{}", ["name"]⟩)],
        hx := [("target", "#main")], request := some ⟨"GET", "/page", [], false⟩ }
    let context : Context := { mappings := fun _ v => .ok v }
    let statics : Value := .dict [("class", .text "wide")]
    let dynamics : Value := .stream 0 [tuple [.text "id", (Content.format ⟨"{}", ["name"]⟩).value]]
    let others : Value := .list [tuple [.text "target", .text "#main"]]
    let request := (Request.mk "GET" "/page" [] false).value
    let record : Value := .dict [("name", .text "start")]
    e.Supplied context {} statics dynamics others request ∧
      e.buildAttributes.MayGive context e.attributes ∧
      ∃ built after, (Build.attributes statics dynamics others request).outcome context {} =
          (.ok (tuple built), after) ∧
        (tuple built).renderAttributes record = (tuple e.attributes).renderAttributes record := by
  intro e context statics dynamics others request record
  have slot : Template.parse "{}" = .ok [.slot ⟨' ', .left, 0, none⟩] := by
    with_unfolding_all rfl
  have path : Template.parse "/page" = .ok ("/page".toList.map .char) := by
    with_unfolding_all rfl
  have dynamic : (Content.format ⟨"{}", ["name"]⟩).Sound :=
    ⟨⟨_, _, rfl, slot⟩, List.forall_mem_singleton.2 rfl⟩
  have target : (Request.mk "GET" "/page" [] false).Sound :=
    ⟨rfl, ⟨⟨_, _, rfl, path⟩, by simp [Request.target]⟩, ⟨_, _, rfl, path, rfl⟩, nofun⟩
  have sound : (∀ r ∈ e.request.toList, r.Sound) ∧
      (∀ entry ∈ e.dynamic, entry.2.Sound ∧ (Element.dynamicComponent entry).Valid) ∧
      (∀ entry ∈ e.attrs, (Element.staticComponent entry).Valid) ∧
      ∀ entry ∈ e.hx, (Element.otherComponent entry).Valid := by
    refine ⟨List.forall_mem_singleton.2 target, List.forall_mem_singleton.2 ⟨dynamic, rfl, ?_⟩,
      List.forall_mem_singleton.2 ⟨rfl, rfl⟩, List.forall_mem_singleton.2 ⟨rfl, rfl⟩⟩
    exact ⟨_, _, rfl, slot, rfl⟩
  obtain ⟨_, -, compiled⟩ := e.buildAttributes_settles.gives sound
  obtain ⟨_, -, requested⟩ := (Request.mk "GET" "/page" [] false).build_settles.gives target
  have supplied : e.Supplied context {} statics dynamics others request :=
    { apart := by simp [statics, dynamics, others, Value.streams, Value.itemStreams, Value.entryStreams,
        Content.value, Format.value]
      statics := rfl
      others := ⟨_, rfl, .cons rfl .nil⟩
      dynamics := ⟨[(.text "id", (Content.format ⟨"{}", ["name"]⟩).value)],
        ⟨_, rfl, .cons rfl .nil⟩, .cons ⟨rfl, .built _⟩ .nil⟩
      request := .inr ⟨_, rfl, {}, _, requested context {}⟩ }
  have given : e.buildAttributes.MayGive context e.attributes := ⟨{}, _, compiled context {}⟩
  exact ⟨supplied, given, (fixedOrder context record).supplied e {} _ _ _ _ _ supplied given⟩

end Document

end RecordMarkup
