import RecordMarkup.Render

namespace RecordMarkup.Value

theorem depth_lt_of_mem_slots (c : Component Value) :
    ∀ entry ∈ c.slots, entry.2.depth < (component c).depth := by
  cases c <;>
    simp only [Component.slots, List.forall_mem_cons, List.not_mem_nil, depth, depthParts,
      false_implies, implies_true, and_true] <;>
    omega

theorem mem_of_lookup {entries : List (String × Value)} {key : String} {v : Value}
    (h : entries.lookup key = some v) : (key, v) ∈ entries := by
  induction entries with
  | nil => simp at h
  | cons entry entries ih =>
    rw [List.lookup_cons] at h
    split at h
    next hk =>
      obtain rfl := Option.some.inj h
      simp [eq_of_beq hk]
    next => exact .tail _ (ih h)

theorem depthEntries_le {entries : List (String × Value)} {entry : String × Value}
    (h : entry ∈ entries) : entry.2.depth ≤ depthEntries entries := by
  induction entries with
  | nil => simp at h
  | cons e entries ih =>
    obtain rfl | h := List.mem_cons.1 h
    · simp only [depthEntries]; omega
    · have := ih h
      simp only [depthEntries]; omega

theorem depthItems_le {items : List Value} {item : Value} (h : item ∈ items) :
    item.depth ≤ depthItems items := by
  induction items with
  | nil => simp at h
  | cons v items ih =>
    obtain rfl | h := List.mem_cons.1 h
    · simp only [depthItems]; omega
    · have := ih h
      simp only [depthItems]; omega

def innerSlots : List String := ["fields", "policy", "item_schema", "schema"]

theorem depth_of_slot? {space name : String} {v w : Value} (hn : name ∈ innerSlots)
    (h : v.slot? space name = some w) : w.depth < v.depth ∨ ∃ m, w = member m := by
  cases v
  case record i fields => exact .inl (Nat.lt_succ_of_le (depthEntries_le (mem_of_lookup h)))
  case typedRecord t fields => exact .inl (Nat.lt_succ_of_le (depthEntries_le (mem_of_lookup h)))
  all_goals
    simp only [innerSlots, List.mem_cons, List.not_mem_nil, or_false] at hn
  case component c =>
    obtain h | ⟨-, h⟩ := Option.or_eq_some_iff.1 h
    · exact .inl (depth_lt_of_mem_slots c _ (mem_of_lookup h))
    · obtain rfl | rfl | rfl | rfl := hn <;> cases c <;> simp [derivedSlot?] at h
  case member m =>
    obtain rfl | rfl | rfl | rfl := hn <;> cases m <;>
      simp [slot?, Member.slot?, numberSlot?, intSlot?] at h <;>
      exact .inr (h.imp fun _ hm => hm.2.symm)
  all_goals
    obtain rfl | rfl | rfl | rfl := hn <;>
      simp [slot?, Method.slot?, Method.all, Method.name, numberSlot?, intSlot?,
        operationSlot?] at h

theorem depth_of_slot {name : String} {v w : Value} {context : Context} {state state' : State}
    (hn : name ∈ innerSlots) (h : (v.slot name).outcome context state = (.ok w, state')) :
    w.depth < v.depth ∨ ∃ m, w = member m := by
  have hd : name ≠ "display_name" := by
    rintro rfl
    simp [innerSlots] at hn
  rw [slot, if_neg hd, slotAt, Eval.outcome_bind_ok (Eval.outcome_settings ..)] at h
  split at h
  next u hu =>
    obtain ⟨h, -⟩ := Prod.mk.inj h
    obtain rfl := Except.ok.inj h
    exact depth_of_slot? hn hu
  next => simp at h

theorem bind_slot_congr {name : String} (hn : name ∈ innerSlots) {v : Value}
    {f g : Value → Eval α} (h : ∀ w, w.depth ≤ v.depth → f w = g w) :
    v.slot name >>= f = v.slot name >>= g := by
  refine Eval.bind_congr fun _ _ w _ hw => h w ?_
  obtain hlt | ⟨m, rfl⟩ := depth_of_slot hn hw
  · exact Nat.le_of_lt hlt
  · exact Nat.zero_le _

theorem drain_congr {identity : Nat} {items : List Value} {f g : Value → Eval α}
    (h : ∀ item ∈ items, f item = g item) (bound : Nat) :
    drain identity items f bound = drain identity items g bound := by
  induction bound with
  | zero => rfl
  | succ bound ih =>
    simp only [drain, ih]
    refine Eval.bind_congr fun _ _ state _ _ => ?_
    split
    next => rfl
    next item hi => rw [h item (List.mem_of_getElem? hi)]

theorem mapM_congr {items : List Value} {f g : Value → Eval α}
    (h : ∀ item ∈ items, f item = g item) : items.mapM f = items.mapM g := by
  induction items with
  | nil => rfl
  | cons item items ih =>
    rw [List.mapM_cons, List.mapM_cons, h item (.head _), ih fun i hi => h i (.tail _ hi)]

theorem depth_le_of_mem_items {v item : Value} {items : List Value} (h : v.items? = some items)
    (hi : item ∈ items) : item.depth ≤ v.depth := by
  unfold items? at h
  split at h
  · obtain rfl := Option.some.inj h
    obtain ⟨byte, -, rfl⟩ := List.mem_map.1 hi
    simp [depth]
  · obtain rfl := Option.some.inj h
    exact Nat.le_succ_of_le (depthItems_le hi)
  · obtain rfl := Option.some.inj h
    exact Nat.le_succ_of_le (depthItems_le hi)
  · obtain rfl := Option.some.inj h
    obtain ⟨entry, -, rfl⟩ := List.mem_map.1 hi
    simp [depth]
  · obtain ⟨s, -, rfl⟩ := Option.map_eq_some_iff.1 h
    obtain ⟨c, -, rfl⟩ := List.mem_map.1 hi
    simp [depth]

theorem forEach_congr {v : Value} {f g : Value → Eval α}
    (h : ∀ item, item.depth ≤ v.depth → f item = g item) : v.forEach f = v.forEach g := by
  unfold forEach
  split
  next identity items =>
    exact drain_congr (fun item hi => h item (Nat.le_succ_of_le (depthItems_le hi))) _
  next =>
    split
    next items hi => exact mapM_congr fun item hm => h item (depth_le_of_mem_items hi hm)
    next => rfl

theorem renderList_congr {f g : Value → Value → Eval String} {field policy record v : Value}
    (h : ∀ schema r, schema.depth ≤ policy.depth → f schema r = g schema r) :
    renderList f field policy record v = renderList g field policy record v := by
  unfold renderList
  refine Eval.bind_congr fun _ _ nested _ _ => ?_
  split
  next => rfl
  next =>
    refine bind_slot_congr (by simp [innerSlots]) fun item hi => ?_
    rw [funext fun r => h item r hi]

theorem renderNest_congr {f g : Value → Value → Eval String} {field policy record v : Value}
    (h : ∀ schema r, schema.depth ≤ policy.depth → f schema r = g schema r) :
    renderNest f field policy record v = renderNest g field policy record v := by
  unfold renderNest
  refine Eval.bind_congr fun _ _ skipped _ _ => ?_
  split
  next => rfl
  next =>
    refine bind_slot_congr (by simp [innerSlots]) fun schema hs => ?_
    rw [h schema v hs]

theorem renderFieldWith_congr {f g : Value → Value → Eval String} {field record : Value}
    (h : ∀ schema r, schema.depth ≤ field.depth → f schema r = g schema r) :
    renderFieldWith f field record = renderFieldWith g field record := by
  refine bind_slot_congr (by simp [innerSlots]) fun policy hp => ?_
  have inner (schema r : Value) (hs : schema.depth ≤ policy.depth) : f schema r = g schema r :=
    h schema r (Nat.le_trans hs hp)
  refine Eval.bind_congr fun _ _ tag _ _ => ?_
  refine Eval.bind_congr fun _ _ _ _ _ => ?_
  split
  next => rfl
  next kind _ =>
    refine Eval.bind_congr fun _ _ name _ _ => ?_
    refine Eval.bind_congr fun _ _ v _ _ => ?_
    cases kind
    case list => exact renderList_congr inner
    case nest => exact renderNest_congr inner
    all_goals rfl

theorem renderFieldWith_text (f g : Value → Value → Eval String) (s : String) (record : Value) :
    renderFieldWith f (text s) record = renderFieldWith g (text s) record :=
  Eval.bind_congr fun _ _ _ _ h => nomatch h

theorem forEach_member_congr {m : Member} {f g : Value → Eval α}
    (h : ∀ s, f (text s) = g (text s)) : (member m).forEach f = (member m).forEach g := by
  simp only [forEach]
  split
  next items hi =>
    refine mapM_congr fun item hm => ?_
    obtain ⟨s, -, rfl⟩ := Option.map_eq_some_iff.1 hi
    obtain ⟨c, -, rfl⟩ := List.mem_map.1 hm
    exact h _
  next => rfl

theorem renderWith_congr {f g : Value → Value → Eval String} {schema record : Value}
    (h : ∀ inner r, inner.depth < schema.depth → f inner r = g inner r) :
    renderWith f schema record = renderWith g schema record := by
  unfold renderWith
  refine Eval.bind_congr fun _ _ element _ _ => ?_
  refine Eval.bind_congr fun _ _ start _ _ => ?_
  refine Eval.bind_congr fun _ _ fields _ hf => ?_
  obtain hf | ⟨m, rfl⟩ := depth_of_slot (by simp [innerSlots]) hf
  · rw [forEach_congr fun field hi => renderFieldWith_congr fun inner r hr =>
      h inner r (Nat.lt_of_le_of_lt (Nat.le_trans hr hi) hf)]
  · have same : (member m).forEach (fun field => renderFieldWith f field record) =
        (member m).forEach fun field => renderFieldWith g field record :=
      forEach_member_congr fun s => renderFieldWith_text f g s record
    rw [same]

theorem renderTo_eq {schema record : Value} {bound : Nat} (h : schema.depth < bound) :
    renderTo bound schema record = render schema record := by
  -- What is nested in the schema is less deep, so the bound that is left suffices for it.
  generalize hd : schema.depth = d
  induction d using Nat.strongRecOn generalizing schema record bound with
  | ind d ih =>
    obtain ⟨bound, rfl⟩ := Nat.exists_eq_succ_of_ne_zero (Nat.ne_of_gt (Nat.zero_lt_of_lt h))
    refine renderWith_congr fun inner r hi => ?_
    rw [ih inner.depth (hd ▸ hi) (by omega) rfl, ih inner.depth (hd ▸ hi) hi rfl]

/-- The bound never shows: a schema renders what is nested in it as by itself. -/
theorem render_eq (schema record : Value) : render schema record = renderWith render schema record :=
  renderWith_congr fun _ _ h => renderTo_eq h

end RecordMarkup.Value
