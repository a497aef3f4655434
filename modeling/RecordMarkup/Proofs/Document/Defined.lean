import Mathlib.Data.List.Chain
import Mathlib.Logic.Relation
import RecordMarkup.Proofs.Document.Schemas
import RecordMarkup.Proofs.Lookup

namespace RecordMarkup.Document

open Value (IsA)

def Refers (documents : List (String × Schema)) (name other : String) : Prop :=
  ∃ s, documents.lookup name = some s ∧ other ∈ s.references

/-- What a name stands for in a library. -/
inductive Defines (library : Library) : String → Value → Prop
  | mk {name : String} {s : Schema} {inner : String → Value}
      (found : library.documents.lookup name = some s) (sound : s.Sound library.mappers)
      (inside : ∀ n ∈ s.references, Defines library n (inner n)) :
      Defines library name (s.value library.mappers inner name)

namespace Defines

variable {library : Library} {name : String} {v w : Value}

theorem inv (h : Defines library name v) : ∃ s inner, library.documents.lookup name = some s ∧
    s.Sound library.mappers ∧ (∀ n ∈ s.references, Defines library n (inner n)) ∧
      v = s.value library.mappers inner name := by
  obtain ⟨found, sound, inside⟩ := h
  exact ⟨_, _, found, sound, inside, rfl⟩

theorem inv_of_lookup {s : Schema} (h : Defines library name v)
    (hs : library.documents.lookup name = some s) : ∃ inner, s.Sound library.mappers ∧
      (∀ n ∈ s.references, Defines library n (inner n)) ∧
        v = s.value library.mappers inner name := by
  obtain ⟨t, inner, found, sound, inside, hv⟩ := h.inv
  obtain rfl := Option.some.inj (hs.symm.trans found)
  exact ⟨inner, sound, inside, hv⟩

theorem built (h : Defines library name v) : Built (·.isText) v ∧ IsA .schema v := by
  induction h with
  | mk found sound inside ih => exact ⟨sound.built ih, _, rfl, rfl⟩

theorem unique (h : Defines library name v) (k : Defines library name w) : v = w := by
  induction h generalizing w with
  | mk found sound inside ih =>
    obtain ⟨inner, -, inside', rfl⟩ := k.inv_of_lookup found
    exact Schema.value_congr fun n hn => ih n hn (inside' n hn)

theorem acc (h : Defines library name v) : Acc (fun a b => Refers library.documents b a) name := by
  induction h with
  | mk found sound inside ih =>
    refine .intro _ fun n hn => ?_
    obtain ⟨s, hs, hn⟩ := hn
    obtain rfl := Option.some.inj (found.symm.trans hs)
    exact ih n hn

theorem not_cyclic (h : Defines library name v) :
    ¬Relation.TransGen (Refers library.documents) name name := by
  have hacc := h.acc.transGen
  clear h
  induction hacc with
  | intro name _ ih =>
    intro hc
    exact ih name (Relation.transGen_swap.1 hc) hc

end Defines

/-- The documents under construction, innermost first: each refers to the one before it, the innermost
to the name, and none is met twice. -/
structure Trail (documents : List (String × Schema)) (path : List String) (name : String) : Prop where
  nodup : path.Nodup
  chain : (name :: path).IsChain fun inner outer => Refers documents outer inner

namespace Trail

variable {documents : List (String × Schema)} {path : List String} {name other : String}

theorem nil : Trail documents [] name := ⟨.nil, .singleton name⟩

theorem cons (h : Trail documents path name) (hn : name ∉ path) (hr : Refers documents name other) :
    Trail documents (name :: path) other :=
  ⟨List.nodup_cons.2 ⟨hn, h.nodup⟩, .cons_cons hr h.chain⟩

theorem leads (h : Trail documents path name) :
    ∀ n ∈ path, Relation.TransGen (Refers documents) n name := by
  have further : (name :: path).IsChain (Function.swap (Relation.TransGen (Refers documents))) :=
    h.chain.imp fun _ _ hr => .single hr
  exact fun n hn => further.rel_cons hn

theorem known (h : Trail documents path name) : ∀ n ∈ path, (documents.lookup n).isSome := by
  intro n hn
  obtain ⟨_, ⟨s, hs, -⟩, -⟩ := Relation.TransGen.head'_iff.1 (h.leads n hn)
  simp [hs]

theorem length_le (h : Trail documents path name) : path.length ≤ documents.length := by
  rw [← List.length_map (f := Prod.fst)]
  exact h.nodup.length_le_of_subset fun n hn => mem_keys_of_lookup (h.known n hn)

end Trail

def Closed (documents : List (String × Schema)) : Prop :=
  ∀ name other, Refers documents name other → (documents.lookup other).isSome

theorem Trail.defines {library : Library}
    (sound : ∀ name s, library.documents.lookup name = some s → s.Sound library.mappers)
    (closed : Closed library.documents)
    (acyclic : ∀ name, ¬Relation.TransGen (Refers library.documents) name name) (bound : Nat)
    {path : List String} {name : String} (trail : Trail library.documents path name)
    (room : library.documents.length < bound + path.length)
    (found : (library.documents.lookup name).isSome) : ∃ v, Defines library name v := by
  induction bound generalizing path name with
  | zero =>
    have := trail.length_le
    omega
  | succ bound ih =>
    obtain ⟨s, hs⟩ := Option.isSome_iff_exists.1 found
    have hn : name ∉ path := fun hm => acyclic name (trail.leads name hm)
    have inside : ∀ n, ∃ v, n ∈ s.references → Defines library n v := by
      intro n
      by_cases hm : n ∈ s.references
      · have refers : Refers library.documents name n := ⟨s, hs, hm⟩
        obtain ⟨v, hv⟩ := ih (trail.cons hn refers) (by simp only [List.length_cons]; omega)
          (closed name n refers)
        exact ⟨v, fun _ => hv⟩
      · exact ⟨.null, fun h => absurd h hm⟩
    obtain ⟨inner, hinner⟩ := Classical.skolem.1 inside
    exact ⟨_, .mk hs (sound name s hs) hinner⟩

/-- Every name stands for something exactly if all documents are sound, and the references stay
among the documents and form no cycle. -/
theorem defines_iff {library : Library} (hn : (library.documents.map Prod.fst).Nodup) :
    (∀ d ∈ library.documents, ∃ v, Defines library d.1 v) ↔
      (∀ d ∈ library.documents, d.2.Sound library.mappers) ∧
        (∀ d ∈ library.documents, ∀ n ∈ d.2.references, n ∈ library.documents.map Prod.fst) ∧
        ∀ name, ¬Relation.TransGen (Refers library.documents) name name := by
  refine ⟨fun h => ⟨fun d hd => ?_, fun d hd n hm => ?_, fun name hc => ?_⟩, ?_⟩
  · obtain ⟨v, hv⟩ := h d hd
    obtain ⟨inner, sound, -⟩ := hv.inv_of_lookup (lookup_of_mem hn hd)
    exact sound
  · obtain ⟨v, hv⟩ := h d hd
    obtain ⟨inner, -, inside, -⟩ := hv.inv_of_lookup (lookup_of_mem hn hd)
    obtain ⟨t, -, found, -⟩ := (inside n hm).inv
    exact mem_keys_of_lookup (by simp [found])
  · obtain ⟨other, ⟨s, hs, -⟩, -⟩ := Relation.TransGen.head'_iff.1 hc
    obtain ⟨v, hv⟩ := h _ (mem_of_lookup hs)
    exact hv.not_cyclic hc
  · rintro ⟨sound, closed, acyclic⟩ d hd
    -- The trail from the document grows with every reference; as there is no cycle, it ends.
    refine Trail.defines (fun name s hs => sound _ (mem_of_lookup hs)) ?_ acyclic
      (library.documents.length + 1) .nil (by simp) (by simp [lookup_of_mem hn hd])
    rintro name other ⟨s, hs, hm⟩
    exact lookup_isSome_of_mem (closed _ (mem_of_lookup hs) other hm)

end RecordMarkup.Document
