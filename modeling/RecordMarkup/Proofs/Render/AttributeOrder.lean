import Mathlib.Data.List.Basic
import RecordMarkup.Proofs.Component.Accepted
import RecordMarkup.Proofs.Render.Element

namespace RecordMarkup

/-- The request stands before what is computed, and the literal attributes stand last, those of the
request framework after the others. -/
def Kind.rank : Kind → Nat
  | .request => 0
  | .dynamic => 1
  | .static => 2
  | _ => 3

namespace Value

variable {record s : Value} {sources others : List Value} {k l : Kind}

section Tag

theorem slot_tag (h : s.tag?.isSome) : s.slot "kind" = pure s.tag := by
  cases s with
  | component c => exact slot_kind c
  | record | typedRecord =>
    obtain ⟨t, ht⟩ := Option.isSome_iff_exists.1 h
    refine slot_eq_pure (by decide) fun space => ?_
    rw [tag, ht]
    exact ht
  | _ => simp [tag?] at h

theorem tagged_of_component (h : ∃ c, s = component c) : s.tag?.isSome := by
  obtain ⟨c, rfl⟩ := h
  rfl

theorem IsAttribute.tagged (h : s.IsAttribute) : s.tag?.isSome := by
  obtain ⟨k, -, hk⟩ := h
  exact tagged_of_hasKind hk

theorem isAttribute_component {c : Component Value} (h : c.kind.isAttribute) :
    (component c).IsAttribute :=
  ⟨c.kind, h, by simp [hasKind_component]⟩

end Tag

def fragment (record s : Value) : Eval String :=
  match s.tag.kind? with
  | some k => s.renderAttribute k record
  | none => return ""

def rank (s : Value) : Nat :=
  match s.tag.kind? with
  | some k => k.rank
  | none => 3

def ordered (sources : List Value) : List Value :=
  attributeOrder.flatMap fun k => sources.filter (hasKind k)

/-- All of the attributes, each as often as it was given: the request first, then what is computed, then
the literal ones. Those of one kind are in the order in which they were given. -/
structure InOrder (sources sorted : List Value) : Prop where
  perm : sorted.Perm sources
  byRank : sorted.Pairwise fun a b => a.rank ≤ b.rank
  stable : ∀ k, sorted.filter (hasKind k) = sources.filter (hasKind k)

section Ordered

theorem ordered_eq (sources : List Value) :
    ordered sources = sources.filter (hasKind .request) ++ sources.filter (hasKind .dynamic) ++
      sources.filter (hasKind .static) ++ sources.filter (hasKind .requestAttr) := by
  simp [ordered, attributeOrder]

theorem mem_attributeOrder (h : k.isAttribute) : k ∈ attributeOrder := by
  cases k <;> first | decide | cases h

variable {kinds : List Kind}

theorem filter_grouped (hn : kinds.Nodup) (k : Kind) :
    (kinds.flatMap fun l => sources.filter (hasKind l)).filter (hasKind k) =
      if k ∈ kinds then sources.filter (hasKind k) else [] := by
  induction kinds with
  | nil => rfl
  | cons l kinds ih =>
    obtain ⟨hl, hn⟩ := List.nodup_cons.1 hn
    rw [List.flatMap_cons, List.filter_append, ih hn]
    by_cases hk : k = l
    · subst hk
      simp [hl]
    · have other : (sources.filter (hasKind l)).filter (hasKind k) = [] := by
        refine List.filter_eq_nil_iff.2 fun s hs hsk => hk ?_
        exact hasKind_unique hsk (List.mem_filter.1 hs).2
      simp [other, hk]

theorem grouped_cons (hn : kinds.Nodup) (hk : k ∈ kinds) (hs : s.hasKind k) :
    (kinds.flatMap fun l => (s :: sources).filter (hasKind l)).Perm
      (s :: kinds.flatMap fun l => sources.filter (hasKind l)) := by
  induction kinds with
  | nil => cases hk
  | cons l kinds ih =>
    obtain ⟨hl, hn⟩ := List.nodup_cons.1 hn
    rw [List.flatMap_cons, List.flatMap_cons]
    by_cases h : k = l
    · subst h
      have others : (kinds.flatMap fun l => (s :: sources).filter (hasKind l)) =
          kinds.flatMap fun l => sources.filter (hasKind l) := by
        refine List.flatMap_congr fun m hm => List.filter_cons_of_neg fun h => hl ?_
        exact hasKind_unique hs h ▸ hm
      rw [others, List.filter_cons_of_pos hs]
      exact .refl _
    · rw [List.filter_cons_of_neg fun h' => h (hasKind_unique hs h')]
      have rest := ih hn ((List.mem_cons.1 hk).resolve_left h)
      exact (rest.append_left _).trans List.perm_middle

theorem nodup_attributeOrder : attributeOrder.Nodup := by decide

theorem perm_ordered (h : ∀ s ∈ sources, s.IsAttribute) : (ordered sources).Perm sources := by
  induction sources with
  | nil => exact .refl _
  | cons s sources ih =>
    obtain ⟨⟨k, hk, hs⟩, h⟩ := List.forall_mem_cons.1 h
    have first : (ordered (s :: sources)).Perm (s :: ordered sources) :=
      grouped_cons nodup_attributeOrder (mem_attributeOrder hk) hs
    exact first.trans ((ih h).cons s)

theorem filter_ordered (hk : k ∈ attributeOrder) :
    (ordered sources).filter (hasKind k) = sources.filter (hasKind k) := by
  rw [ordered, filter_grouped nodup_attributeOrder, if_pos hk]

theorem filter_of_not_isAttribute (h : ∀ s ∈ sources, s.IsAttribute) (hk : k ∉ attributeOrder) :
    sources.filter (hasKind k) = [] := by
  refine List.filter_eq_nil_iff.2 fun s hs hsk => hk ?_
  obtain ⟨l, hl, hsl⟩ := h s hs
  exact hasKind_unique hsl hsk ▸ mem_attributeOrder hl

theorem filter_moved {requests : List Value} (hr : ∀ r ∈ requests, r.hasKind .request)
    (hs : ∀ s ∈ sources, ¬s.hasKind .request) (k : Kind) :
    (sources ++ requests).filter (hasKind k) = (requests ++ sources).filter (hasKind k) := by
  rw [List.filter_append, List.filter_append]
  by_cases hk : k = .request
  · subst hk
    rw [List.filter_eq_nil_iff.2 hs, List.nil_append, List.append_nil]
  · have none : requests.filter (hasKind k) = [] :=
      List.filter_eq_nil_iff.2 fun r hm hrk => hk (hasKind_unique hrk (hr r hm))
    rw [none, List.nil_append, List.append_nil]

theorem ordered_requests (sources : List Value) :
    ordered sources =
      sources.filter (hasKind .request) ++ ordered (sources.filter fun s => !s.hasKind .request) := by
  have none : (sources.filter fun s => !s.hasKind .request).filter (hasKind .request) = [] :=
    List.filter_eq_nil_iff.2 fun s hs hk => by simp [hk] at hs
  have kept {k : Kind} (hk : k ≠ .request) :
      (sources.filter fun s => !s.hasKind .request).filter (hasKind k) =
        sources.filter (hasKind k) := by
    rw [List.filter_filter]
    refine List.filter_congr fun s _ => ?_
    cases hs : s.hasKind k
    · rfl
    · have other : s.hasKind .request = false :=
        Bool.eq_false_iff.2 fun hr => hk (hasKind_unique hs hr)
      rw [other]
      rfl
  rw [ordered_eq, ordered_eq, none, kept (by decide), kept (by decide), kept (by decide)]
  simp

theorem rank_eq (h : s.hasKind k) : s.rank = k.rank := by
  rw [rank, kind?_of_hasKind h]

theorem inOrder_ordered (h : ∀ s ∈ sources, s.IsAttribute) : InOrder sources (ordered sources) where
  perm := perm_ordered h
  byRank := by
    have rank {k : Kind} {s : Value} (hs : s ∈ sources.filter (hasKind k)) : s.rank = k.rank :=
      rank_eq (List.mem_filter.1 hs).2
    have ranks : attributeOrder.Pairwise fun k l => k.rank ≤ l.rank := by decide
    refine List.pairwise_flatMap.2 ⟨fun k _ => ?_, ranks.imp fun hkl a ha b hb => ?_⟩
    · exact List.pairwise_of_forall_mem_list fun a ha b hb =>
        Nat.le_of_eq ((rank ha).trans (rank hb).symm)
    · rwa [rank ha, rank hb]
  stable := by
    intro k
    by_cases hk : k ∈ attributeOrder
    · exact filter_ordered hk
    · have sorted := filter_of_not_isAttribute (fun s hs => h s ((perm_ordered h).mem_iff.1 hs)) hk
      rw [sorted, filter_of_not_isAttribute h hk]

end Ordered

section Written

theorem renderKind_eq (h : ∀ s ∈ sources, s.tag?.isSome) (k : Kind) :
    renderKind sources record k =
      String.join <$> (sources.filter (hasKind k)).mapM (fragment record) := by
  induction sources with
  | nil => rfl
  | cons s sources ih =>
    obtain ⟨hs, h⟩ := List.forall_mem_cons.1 h
    have first : renderKind (s :: sources) record k = do
        let first ← if s.hasKind k then s.renderAttribute k record else pure ""
        let rest ← renderKind sources record k
        return first ++ rest := by
      simp only [renderKind, List.mapM_cons, slot_tag hs, hasKind, pure_bind, bind_assoc,
        String.join_cons]
      split <;> rfl
    rw [first, ih h]
    by_cases hk : s.hasKind k
    · have own : fragment record s = s.renderAttribute k record := by
        rw [fragment, kind?_of_hasKind hk]
      rw [if_pos hk, List.filter_cons_of_pos hk, List.mapM_cons, own]
      simp [String.join_cons]
    · rw [if_neg hk, List.filter_cons_of_neg hk]
      simp

theorem renderAttributes_eq (h : ∀ s ∈ sources, s.tag?.isSome) :
    (tuple sources).renderAttributes record =
      String.join <$> (ordered sources).mapM (fragment record) := by
  simp only [renderAttributes, elements_tuple, pure_bind, attributeOrder, ordered, renderKind_eq h,
    List.mapM_cons, List.mapM_nil, List.flatMap_cons, List.flatMap_nil, List.mapM_append]
  simp [String.join_cons, String.join_append]

theorem renderAttributes_congr (hs : ∀ s ∈ sources, s.tag?.isSome) (ho : ∀ s ∈ others, s.tag?.isSome)
    (h : ∀ k ∈ attributeOrder, sources.filter (hasKind k) = others.filter (hasKind k)) :
    (tuple sources).renderAttributes record = (tuple others).renderAttributes record := by
  rw [renderAttributes_eq hs, renderAttributes_eq ho, ordered, ordered, List.flatMap_congr h]

end Written

end Value

end RecordMarkup
