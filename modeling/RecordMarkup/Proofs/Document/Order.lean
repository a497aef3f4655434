import Mathlib.Data.List.Perm.Basic
import RecordMarkup.Proofs.Document.Compiled
import RecordMarkup.Proofs.Document.Streams

namespace RecordMarkup.Document

variable {documents others mappers : List (String × Value)} {parsed : List (String × Schema)}
  {state base : State}

/-- No stream occurs in two documents. -/
def Unshared (documents : List (String × Value)) : Prop :=
  documents.Pairwise fun d e => ∀ i ∈ d.2.streams, i ∉ e.2.streams

theorem Unshared.perm (h : Unshared documents) (hp : documents.Perm others) : Unshared others :=
  (hp.pairwise_iff fun hd i he hi => hd i hi he).1 h

def ReadsAs (state : State) (d : String × Value) (p : String × Schema) : Prop :=
  d.1 = p.1 ∧ (Schema.read d.2 state).1 = .ok p.2

theorem readsTo_iff_forall (hu : Unshared documents)
    (ha : ∀ d ∈ documents, base.AgreeOn d.2.streams state) :
    (∃ after, ReadsTo documents state parsed after) ↔
      List.Forall₂ (ReadsAs base) documents parsed := by
  induction documents generalizing state parsed with
  | nil =>
    refine ⟨?_, fun h => ?_⟩
    · rintro ⟨after, h⟩
      cases h
      exact .nil
    · cases h
      exact ⟨state, .nil⟩
  | cons d documents ih =>
    obtain ⟨name, v⟩ := d
    obtain ⟨apart, rest⟩ := List.pairwise_cons.1 hu
    obtain ⟨first, ha⟩ := List.forall_mem_cons.1 ha
    have confined := Schema.read_confined v
    have same := (confined.agree base state first).1
    have later : ∀ d ∈ documents, base.AgreeOn d.2.streams (Schema.read v state).2 := by
      intro d hd i hi
      rw [confined.rest state i fun hm => apart d hd i hm hi]
      exact ha d hd i hi
    refine ⟨?_, fun h => ?_⟩
    · rintro ⟨after, h⟩
      cases h with
      | cons hr hrest =>
        rw [hr] at same later
        exact .cons ⟨rfl, same⟩ ((ih rest later).1 ⟨after, hrest⟩)
    · cases h with
      | cons hr hrest =>
        obtain ⟨rfl, hs⟩ := hr
        obtain ⟨after, hrest⟩ := (ih rest later).2 hrest
        exact ⟨after, .cons (Prod.ext (same.symm.trans hs) rfl) hrest⟩

theorem lookup_parsed (h : List.Forall₂ (ReadsAs base) documents parsed) (name : String) :
    parsed.lookup name = (documents.lookup name).bind fun v => (Schema.read v base).1.toOption := by
  induction h with
  | nil => rfl
  | @cons d p documents parsed hr rest ih =>
    obtain ⟨hk, hs⟩ := hr
    rw [List.lookup_cons, List.lookup_cons, hk]
    split
    next => simp [hs, Except.toOption]
    next => exact ih

theorem Defines.of_agree {library other : List (String × Schema)} {name : String} {v : Value}
    (h : Defines ⟨library, mappers⟩ name v)
    (ha : ∀ n, Relation.ReflTransGen (Refers library) name n → library.lookup n = other.lookup n) :
    Defines ⟨other, mappers⟩ name v := by
  induction h with
  | mk found sound inside ih =>
    refine .mk ((ha _ .refl).symm.trans found) sound fun n hn => ih n hn fun m hm => ?_
    exact ha m (.head ⟨_, found, hn⟩ hm)

def Compiles (documents mappers : List (String × Value)) (state : State) : Prop :=
  ∃ parsed after, ReadsTo documents state parsed after ∧
    ∀ d ∈ parsed, ∃ v, Defines ⟨parsed, mappers⟩ d.1 v

theorem Compiles.perm {later : State} (h : Compiles documents mappers state)
    (hn : (documents.map Prod.fst).Nodup) (hu : Unshared documents) (hp : documents.Perm others)
    (hs : ∀ d ∈ documents, state.AgreeOn d.2.streams later) : Compiles others mappers later := by
  obtain ⟨parsed, after, reads, hall⟩ := h
  have each := (readsTo_iff_forall hu fun d _ i _ => rfl).1 ⟨after, reads⟩
  obtain ⟨parsed', each', hperm⟩ := List.perm_comp_forall₂ hp.symm each
  obtain ⟨after', reads'⟩ := (readsTo_iff_forall (hu.perm hp) fun d hd => hs d (hp.mem_iff.2 hd)).2
    each'
  refine ⟨parsed', after', reads', fun d hd => ?_⟩
  obtain ⟨v, hv⟩ := hall d (hperm.mem_iff.1 hd)
  exact ⟨v, hv.of_agree fun n _ => lookup_perm (reads.keys ▸ hn) hperm.symm⟩

theorem lookup_eq_of_agree {context context' : Context} {later after after' : State}
    {schemas schemas' : List (String × Value)} (hn : (documents.map Prod.fst).Nodup)
    (hn' : (others.map Prod.fst).Nodup) (hu : Unshared documents) (hu' : Unshared others)
    (hs : ∀ d ∈ documents, state.AgreeOn d.2.streams later)
    (h : (compile documents mappers).outcome context state = (.ok schemas, after))
    (h' : (compile others mappers).outcome context' later = (.ok schemas', after')) {name : String}
    (ha : ∀ parsed mid, ReadsTo documents state parsed mid →
      ∀ n, Relation.ReflTransGen (Refers parsed) name n → documents.lookup n = others.lookup n) :
    schemas.lookup name = schemas'.lookup name := by
  obtain ⟨parsed, mid, reads, finished⟩ := finished_of_compile h
  obtain ⟨parsed', mid', reads', finished'⟩ := finished_of_compile h'
  have hk : (parsed.map Prod.fst).Nodup := reads.keys ▸ hn
  have hk' : (parsed'.map Prod.fst).Nodup := reads'.keys ▸ hn'
  have each := (readsTo_iff_forall hu fun d _ i _ => rfl).1 ⟨mid, reads⟩
  have each' := (readsTo_iff_forall hu' fun d _ i _ => rfl).1 ⟨mid', reads'⟩
  have agree : ∀ n, Relation.ReflTransGen (Refers parsed) name n →
      parsed.lookup n = parsed'.lookup n := by
    intro n hr
    rw [lookup_parsed each, lookup_parsed each', ← ha parsed mid reads n hr]
    cases hl : documents.lookup n with
    | none => rfl
    | some v =>
      have confined := (Schema.read_confined v).agree state later (hs _ (mem_of_lookup hl))
      simp [confined.1]
  cases hl : schemas.lookup name with
  | some v =>
    have hv := (finished.lookup_iff hk).1 hl
    exact ((finished'.lookup_iff hk').2 (hv.of_agree agree)).symm
  | none =>
    cases hl' : schemas'.lookup name with
    | none => rfl
    | some v =>
      obtain ⟨s, -, found, -⟩ := ((finished'.lookup_iff hk').1 hl').inv
      have found : parsed.lookup name = some s := (agree name .refl).trans found
      obtain ⟨w, hw⟩ := finished.defines _ (mem_of_lookup found)
      simp [(finished.lookup_iff hk).2 hw] at hl

/-- Compilation does not depend on the order of the documents, and what is compiled under a name depends
only on the documents that the name leads to, if no stream occurs in two documents of a set. -/
theorem compile_order (mappers : List (String × Value)) (context context' : Context)
    (state later : State) (hn : (documents.map Prod.fst).Nodup)
    (hn' : (others.map Prod.fst).Nodup) (hu : Unshared documents) (hu' : Unshared others)
    (hs : ∀ d ∈ documents, state.AgreeOn d.2.streams later) :
    (documents.Perm others →
      (∃ schemas schemas' after after',
        (compile documents mappers).outcome context state = (.ok schemas, after) ∧
          (compile others mappers).outcome context' later = (.ok schemas', after') ∧
            ∀ name, schemas.lookup name = schemas'.lookup name) ∨
      ∃ defects defects' after after',
        (compile documents mappers).outcome context state = (.error (.schema defects), after) ∧
          (compile others mappers).outcome context' later = (.error (.schema defects'), after')) ∧
    ∀ name schemas schemas' after after',
      (compile documents mappers).outcome context state = (.ok schemas, after) →
        (compile others mappers).outcome context' later = (.ok schemas', after') →
          (∀ parsed mid, ReadsTo documents state parsed mid →
            ∀ n, Relation.ReflTransGen (Refers parsed) name n →
              documents.lookup n = others.lookup n) →
            schemas.lookup name = schemas'.lookup name := by
  refine ⟨fun hp => ?_, fun name schemas schemas' after after' h h' ha =>
    lookup_eq_of_agree hn hn' hu hu' hs h h' ha⟩
  have same (h : Compiles documents mappers state) : Compiles others mappers later :=
    h.perm hn hu hp hs
  have back (h : Compiles others mappers later) : Compiles documents mappers state :=
    h.perm hn' hu' hp.symm fun d hd i hi => (hs d (hp.mem_iff.2 hd) i hi).symm
  obtain ⟨schemas, after, parsed, mid, h, reads, finished⟩ | ⟨defects, after, h, hnone⟩ :=
    compile_ends documents mappers context state
  · obtain ⟨schemas', after', -, -, h', -⟩ | ⟨defects', after', h', hnone⟩ :=
      compile_ends others mappers context' later
    · exact .inl ⟨schemas, schemas', after, after', h, h', fun name =>
        lookup_eq_of_agree hn hn' hu hu' hs h h' fun _ _ _ n _ => lookup_perm hn hp⟩
    · exact absurd (same ⟨parsed, mid, reads, finished.defines⟩) hnone
  · obtain ⟨schemas', after', parsed', mid', h', reads', finished'⟩ | ⟨defects', after', h', -⟩ :=
      compile_ends others mappers context' later
    · exact absurd (back ⟨parsed', mid', reads', finished'.defines⟩) hnone
    · exact .inr ⟨defects, defects', after, after', h, h'⟩

theorem compile_order_reference :
    let page := Value.dict [("fields", .stream 0 [.dict [("name", .text "item"),
      ("nest", .text "item")]])]
    ∃ schemas schemas' after after',
      (compile [("page", page), ("item", .dict [])] []).outcome { mappings := fun _ v => .ok v } {} =
          (.ok schemas, after) ∧
        (compile [("item", .dict []), ("page", page)] []).outcome { mappings := fun _ v => .ok v } {} =
            (.ok schemas', after') ∧
          ∀ name, schemas.lookup name = schemas'.lookup name := by
  intro page
  have apart : Unshared [("page", page), ("item", .dict [])] := by
    simp [Unshared, Value.streams, Value.entryStreams]
  have swap : [("page", page), ("item", .dict [])].Perm [("item", .dict []), ("page", page)] :=
    .swap _ _ []
  obtain ⟨schemas, after, h⟩ : ∃ schemas after, (compile [("page", page), ("item", .dict [])]
      []).outcome { mappings := fun _ v => .ok v } {} = (.ok schemas, after) := ⟨_, _, rfl⟩
  have both := (compile_order [] { mappings := fun _ v => .ok v } { mappings := fun _ v => .ok v } {} {} (by simp)
    (by simp) apart (apart.perm swap) fun d _ i _ => rfl).1 swap
  obtain both | ⟨defects, defects', after, after', hd, -⟩ := both
  · exact both
  · simp [h] at hd

/-- Where two documents take from one stream, their order tells which of them has its items. -/
theorem compile_order_shared_stream :
    let document := Value.dict [("fields", .stream 0 [.dict [("name", .text "x")]])]
    ∃ schemas schemas' after after',
      (compile [("a", document), ("b", document)] []).outcome { mappings := fun _ v => .ok v } {} =
          (.ok schemas, after) ∧
        (compile [("b", document), ("a", document)] []).outcome { mappings := fun _ v => .ok v } {} =
            (.ok schemas', after') ∧
          schemas.lookup "a" ≠ schemas'.lookup "a" :=
  ⟨_, _, _, _, rfl, rfl, by simp [List.lookup_cons]⟩

end RecordMarkup.Document
