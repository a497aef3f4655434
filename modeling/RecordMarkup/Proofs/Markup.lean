import Mathlib.Logic.ExistsUnique

/-!
Markup as texts and tags. A text without angle brackets falls into these in one way only, so that it
can be asked of any markup whether its tags are properly nested. What is put together from inert texts,
tag after tag, always is.
-/

namespace RecordMarkup.Markup

def Inert (cs : List Char) : Prop := ∀ c ∈ cs, c ≠ '<' ∧ c ≠ '>'

instance (cs : List Char) : Decidable (Inert cs) := List.decidableBAll _ cs

def isNameChar (c : Char) : Bool := !(['<', '>', '/', ' '].contains c)

def IsName (cs : List Char) : Prop := cs ≠ [] ∧ ∀ c ∈ cs, isNameChar c

def IsTail (cs : List Char) : Prop := Inert cs ∧ (cs = [] ∨ ∃ ds, cs = ' ' :: ds)

inductive Part
  | text (cs : List Char)
  | opening (name tail : List Char)
  | closing (name : List Char)

namespace Part

def chars : Part → List Char
  | text cs => cs
  | opening name tail => '<' :: (name ++ (tail ++ ['>']))
  | closing name => '<' :: '/' :: (name ++ ['>'])

def IsWritten : Part → Prop
  | text cs => Inert cs
  | opening name tail => IsName name ∧ IsTail tail
  | closing name => IsName name

def isText : Part → Bool
  | text _ => true
  | _ => false

end Part

def write (parts : List Part) : List Char := parts.flatMap Part.chars

def IsSplit : List Part → Prop
  | [] => True
  | p :: ps => p.IsWritten ∧ p.chars ≠ [] ∧ (p.isText → ∀ q ∈ ps.head?, ¬q.isText) ∧ IsSplit ps

def close : List (List Char) → List Part → Option (List (List Char))
  | stack, [] => some stack
  | stack, .text _ :: ps => close stack ps
  | stack, .opening name _ :: ps => close (name :: stack) ps
  | [], .closing _ :: _ => none
  | top :: stack, .closing name :: ps => if top = name then close stack ps else none

/-- Every open tag has a close tag of its name, in the order of a stack. -/
def Balanced (parts : List Part) : Prop := close [] parts = some []

instance (parts : List Part) : Decidable (Balanced parts) :=
  inferInstanceAs (Decidable (close [] parts = some []))

def Splits (cs : List Char) (parts : List Part) : Prop := IsSplit parts ∧ write parts = cs

theorem Inert.append {cs ds : List Char} (h : Inert cs) (k : Inert ds) : Inert (cs ++ ds) :=
  List.forall_mem_append.2 ⟨h, k⟩

section Unique

theorem append_inj_of_head {p : Char → Bool} {s t u v : List Char} (hs : ∀ c ∈ s, p c)
    (ht : ∀ c ∈ t, p c) (hu : ∀ c ∈ u.head?, ¬p c) (hv : ∀ c ∈ v.head?, ¬p c)
    (h : s ++ u = t ++ v) : s = t ∧ u = v := by
  induction s generalizing t with
  | nil =>
    cases t with
    | nil => exact ⟨rfl, h⟩
    | cons c t =>
      rw [List.nil_append] at h
      exact absurd (ht c (.head _)) (hu c (by simp [h]))
  | cons c s ih =>
    cases t with
    | nil =>
      rw [List.nil_append] at h
      exact absurd (hs c (.head _)) (hv c (by simp [← h]))
    | cons d t =>
      obtain ⟨hc, rest⟩ := List.cons.inj h
      obtain ⟨hst, huv⟩ := ih (fun c hc => hs c (.tail _ hc)) (fun c hc => ht c (.tail _ hc)) rest
      exact ⟨by rw [hc, hst], huv⟩

theorem Inert.ne_open {cs : List Char} (h : Inert cs) : ∀ c ∈ cs, c != '<' := by
  intro c hc
  simpa using (h c hc).1

theorem Inert.ne_close {cs : List Char} (h : Inert cs) : ∀ c ∈ cs, c != '>' := by
  intro c hc
  simpa using (h c hc).2

theorem head_write {cs : List Char} {ps : List Part} (h : IsSplit (.text cs :: ps)) :
    ∀ c ∈ (write ps).head?, ¬(c != '<') := by
  cases ps with
  | nil => simp [write]
  | cons p ps =>
    cases p with
    | text ds => exact absurd rfl (h.2.2.1 rfl _ rfl)
    | opening | closing => simp [write, Part.chars]

theorem head_tail {cs ds : List Char} (h : IsTail cs) :
    ∀ c ∈ (cs ++ '>' :: ds).head?, ¬isNameChar c := by
  obtain ⟨-, rfl | ⟨es, rfl⟩⟩ := h
  · simp [isNameChar]
  · simp [isNameChar]

theorem text_ne_tag {cs ds es : List Char} (h : Inert cs) (hn : cs ≠ []) :
    cs ++ ds ≠ '<' :: es := by
  cases cs with
  | nil => exact absurd rfl hn
  | cons c cs =>
    intro he
    exact (h c (.head _)).1 (List.cons.inj he).1

theorem name_ne_slash {cs ds es : List Char} (h : IsName cs) : cs ++ ds ≠ '/' :: es := by
  obtain ⟨hn, h⟩ := h
  cases cs with
  | nil => exact absurd rfl hn
  | cons c cs =>
    intro he
    have hc := h c (.head _)
    rw [(List.cons.inj he).1] at hc
    simp [isNameChar] at hc

theorem write_injective {ps qs : List Part} (hp : IsSplit ps) (hq : IsSplit qs)
    (h : write ps = write qs) : ps = qs := by
  induction ps generalizing qs with
  | nil =>
    cases qs with
    | nil => rfl
    | cons q qs =>
      exact absurd (List.append_eq_nil_iff.1 h.symm).1 hq.2.1
  | cons p ps ih =>
    cases qs with
    | nil => exact absurd (List.append_eq_nil_iff.1 h).1 hp.2.1
    | cons q qs =>
      suffices step : p = q ∧ write ps = write qs by
        rw [step.1, ih hp.2.2.2 hq.2.2.2 step.2]
      obtain ⟨hpw, hpn, -⟩ := id hp
      obtain ⟨hqw, hqn, -⟩ := id hq
      change p.chars ++ write ps = q.chars ++ write qs at h
      cases p with
      | text cs =>
        cases q with
        | text ds =>
          obtain ⟨rfl, rest⟩ := append_inj_of_head hpw.ne_open hqw.ne_open (head_write hp)
            (head_write hq) h
          exact ⟨rfl, rest⟩
        | opening | closing => exact absurd h (text_ne_tag hpw hpn)
      | opening name tail =>
        cases q with
        | text ds => exact absurd h.symm (text_ne_tag hqw hqn)
        | opening other tail' =>
          simp only [Part.chars, List.cons_append, List.append_assoc, List.nil_append,
            List.cons.injEq, true_and] at h
          obtain ⟨rfl, after⟩ := append_inj_of_head hpw.1.2 hqw.1.2 (head_tail hpw.2)
            (head_tail hqw.2) h
          obtain ⟨rfl, rest⟩ := append_inj_of_head hpw.2.1.ne_close hqw.2.1.ne_close (by simp)
            (by simp) after
          exact ⟨rfl, (List.cons.inj rest).2⟩
        | closing other =>
          simp only [Part.chars, List.cons_append, List.append_assoc, List.cons.injEq,
            true_and] at h
          exact absurd h (name_ne_slash hpw.1)
      | closing name =>
        cases q with
        | text ds => exact absurd h.symm (text_ne_tag hqw hqn)
        | opening other tail =>
          simp only [Part.chars, List.cons_append, List.append_assoc, List.cons.injEq,
            true_and] at h
          exact absurd h.symm (name_ne_slash hqw.1)
        | closing other =>
          simp only [Part.chars, List.cons_append, List.append_assoc, List.nil_append,
            List.cons.injEq, true_and] at h
          obtain ⟨rfl, rest⟩ := append_inj_of_head hpw.2 hqw.2 (by simp [isNameChar])
            (by simp [isNameChar]) h
          exact ⟨rfl, (List.cons.inj rest).2⟩

end Unique

/-- Markup that is put together from inert texts and from tags around markup. -/
inductive Nested : List Char → Prop
  | text {cs : List Char} (h : Inert cs) : Nested cs
  | append {cs ds : List Char} (h : Nested cs) (k : Nested ds) : Nested (cs ++ ds)
  | element {name tail cs : List Char} (hn : IsName name) (ht : IsTail tail) (h : Nested cs) :
      Nested ((Part.opening name tail).chars ++ (cs ++ (Part.closing name).chars))

section Merge

def push : Part → List Part → List Part
  | .text cs, .text ds :: ps => .text (cs ++ ds) :: ps
  | .text [], ps => ps
  | p, ps => p :: ps

theorem write_push (p : Part) (ps : List Part) : write (push p ps) = p.chars ++ write ps := by
  unfold push
  split
  · simp [write, Part.chars]
  · simp [write, Part.chars]
  · rfl

theorem close_push (p : Part) (ps : List Part) (stack : List (List Char)) :
    close stack (push p ps) = close stack (p :: ps) := by
  unfold push
  split
  · simp only [close]
  · rw [close]
  · rfl

theorem IsSplit.push {p : Part} {ps : List Part} (h : IsSplit ps) (hp : p.IsWritten) :
    IsSplit (push p ps) := by
  unfold Markup.push
  split
  next cs ds ps =>
    obtain ⟨hq, hn, next, rest⟩ := h
    refine ⟨Inert.append hp hq, ?_, next, rest⟩
    simp only [Part.chars] at hn ⊢
    simp [hn]
  next => exact h
  next hempty hjoin =>
    refine ⟨hp, ?_, fun ht q hq hqt => ?_, h⟩
    · cases p with
      | text cs =>
        intro hn
        exact hempty (congrArg Part.text hn)
      | opening | closing => simp [Part.chars]
    · cases p with
      | text cs =>
        cases q with
        | text ds =>
          obtain ⟨qs, rfl⟩ := List.head?_eq_some_iff.1 hq
          exact hjoin cs ds qs rfl rfl
        | opening | closing => cases hqt
      | opening | closing => cases ht

theorem write_merge (ps : List Part) : write (ps.foldr push []) = write ps := by
  induction ps with
  | nil => rfl
  | cons p ps ih =>
    rw [List.foldr_cons, write_push, ih]
    rfl

theorem close_merge (ps : List Part) (stack : List (List Char)) :
    close stack (ps.foldr push []) = close stack ps := by
  induction ps generalizing stack with
  | nil => rfl
  | cons p ps ih =>
    rw [List.foldr_cons, close_push]
    cases p with
    | text | opening => simp only [close, ih]
    | closing =>
      cases stack with
      | nil => rfl
      | cons top stack => simp only [close, ih]

theorem isSplit_merge {ps : List Part} (h : ∀ p ∈ ps, p.IsWritten) :
    IsSplit (ps.foldr push []) := by
  induction ps with
  | nil => trivial
  | cons p ps ih =>
    obtain ⟨hp, h⟩ := List.forall_mem_cons.1 h
    exact (ih h).push hp

end Merge

def Neutral (parts : List Part) : Prop :=
  ∀ stack others, close stack (parts ++ others) = close stack others

theorem Nested.exists_parts {cs : List Char} (h : Nested cs) :
    ∃ parts : List Part, (∀ p ∈ parts, p.IsWritten) ∧ write parts = cs ∧ Neutral parts := by
  induction h with
  | @text cs h =>
    exact ⟨[.text cs], by simpa [Part.IsWritten] using h, by simp [write, Part.chars],
      fun _ _ => rfl⟩
  | append _ _ ih ih' =>
    obtain ⟨ps, hp, rfl, np⟩ := ih
    obtain ⟨qs, hq, rfl, nq⟩ := ih'
    refine ⟨ps ++ qs, List.forall_mem_append.2 ⟨hp, hq⟩, by simp [write], fun stack others => ?_⟩
    rw [List.append_assoc, np, nq]
  | @element name tail cs hn ht _ ih =>
    obtain ⟨ps, hp, rfl, np⟩ := ih
    have closed : ∀ p ∈ [Part.closing name], p.IsWritten := List.forall_mem_singleton.2 hn
    refine ⟨.opening name tail :: (ps ++ [.closing name]), ?_, by simp [write],
      fun stack others => ?_⟩
    · exact List.forall_mem_cons.2 ⟨⟨hn, ht⟩, List.forall_mem_append.2 ⟨hp, closed⟩⟩
    · rw [List.cons_append, close, List.append_assoc, np, List.singleton_append, close, if_pos rfl]

/-- Nested markup falls into texts and tags in one way, and its tags are properly nested. -/
theorem Nested.splits {cs : List Char} (h : Nested cs) :
    (∃! parts, Splits cs parts) ∧ ∀ parts, Splits cs parts → Balanced parts := by
  obtain ⟨ps, hp, rfl, np⟩ := h.exists_parts
  -- Where texts meet they are made one, so that no text could be longer.
  have split : Splits (write ps) (ps.foldr push []) := ⟨isSplit_merge hp, write_merge ps⟩
  have unique (qs : List Part) (hq : Splits (write ps) qs) : qs = ps.foldr push [] :=
    write_injective hq.1 split.1 (hq.2.trans split.2.symm)
  refine ⟨⟨_, split, unique⟩, fun qs hq => ?_⟩
  rw [unique qs hq, Balanced, close_merge, ← List.append_nil ps, np, close]

end RecordMarkup.Markup
