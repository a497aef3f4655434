import RecordMarkup.Document.Basic
import RecordMarkup.Proofs.Eval
import RecordMarkup.Proofs.Lookup

namespace RecordMarkup

namespace Value

mutual

def streams : Value → List Nat
  | list items | tuple items => itemStreams items
  | dict entries => entryStreams entries
  | stream identity items => identity :: itemStreams items
  | _ => []

def itemStreams : List Value → List Nat
  | [] => []
  | v :: vs => streams v ++ itemStreams vs

def entryStreams : List (String × Value) → List Nat
  | [] => []
  | (_, v) :: entries => streams v ++ entryStreams entries

end

theorem streams_subset_items {v : Value} {items : List Value} (h : v ∈ items) :
    v.streams ⊆ itemStreams items := by
  induction items with
  | nil => simp at h
  | cons item items ih =>
    rw [itemStreams]
    obtain rfl | h := List.mem_cons.1 h
    · exact List.subset_append_left _ _
    · exact List.Subset.trans (ih h) (List.subset_append_right _ _)

theorem streams_subset_entries {key : String} {v : Value} {entries : List (String × Value)}
    (h : (key, v) ∈ entries) : v.streams ⊆ entryStreams entries := by
  induction entries with
  | nil => simp at h
  | cons entry entries ih =>
    rw [entryStreams]
    obtain rfl | h := List.mem_cons.1 h
    · exact List.subset_append_left _ _
    · exact List.Subset.trans (ih h) (List.subset_append_right _ _)

end Value

namespace Document

namespace Reading

variable {α β : Type}

def draw (identity : Nat) (items : List Value) (next : Value → Reading (List α)) :
    Reading (List α) := fun state =>
  match items[state.position identity]? with
  | none => (.ok [], state)
  | some item => next item (state.advance identity)

/-- The reading is put together of readings that take items of these streams only. -/
inductive Made : List Nat → {α : Type} → Reading α → Prop
  | pure {streams : List Nat} {α : Type} (a : α) : Made streams (Pure.pure a : Reading α)
  | refuse {streams : List Nat} {α : Type} {issues : List Issue} (h : issues ≠ []) :
      Made streams (Reading.refuse issues : Reading α)
  | seq {streams : List Nat} {α β : Type} {f : Reading (α → β)} {reading : Reading α}
      (hf : Made streams f) (h : Made streams reading) : Made streams (f <*> reading)
  | inside {streams : List Nat} {α : Type} {reading : Reading α} (step : Step)
      (h : Made streams reading) : Made streams (reading.below step)
  | either {streams : List Nat} {α : Type} {first second : Reading α} (hf : Made streams first)
      (hs : Made streams second) : Made streams (first.either second)
  | draw {streams : List Nat} {α : Type} {identity : Nat} {items : List Value}
      {next : Value → Reading (List α)} (hi : identity ∈ streams)
      (h : ∀ item ∈ items, Made streams (next item)) :
      Made streams (Reading.draw identity items next)
  | mono {streams more : List Nat} {α : Type} {reading : Reading α} (h : Made streams reading)
      (hs : streams ⊆ more) : Made more reading

namespace Made

variable {streams : List Nat} {reading : Reading α}

theorem fail (problem : Problem) : Made streams (Reading.fail problem : Reading α) :=
  .refuse (List.cons_ne_nil _ _)

theorem map (f : α → β) (h : Made streams reading) : Made streams (f <$> reading) :=
  (pure f).seq h

theorem each {read : α → Reading β} {xs : List α} (h : ∀ x ∈ xs, Made streams (read x)) :
    Made streams (Reading.each read xs) := by
  induction xs with
  | nil => exact pure []
  | cons x xs ih => exact ((h x (.head _)).map _).seq (ih fun y hy => h y (.tail _ hy))

end Made

end Reading

open Reading (Made)

section Read

variable {α : Type} {streams : List Nat} {read : Value → Reading α}

theorem readText_made (v : Value) : Made v.streams (readText v) := by
  unfold readText
  repeat' split
  all_goals first | exact .pure _ | exact .fail _

theorem orUnclear_made (b : Option Bool) : Made streams (orUnclear b) := by
  cases b with
  | none => exact .fail _
  | some b => exact .pure b

theorem boolOfFloat_made (x : Float) : Made streams (boolOfFloat x) := by
  unfold boolOfFloat
  repeat' split
  all_goals first | exact orUnclear_made _ | exact .fail _

theorem readBool_made (v : Value) : Made v.streams (readBool v) := by
  unfold readBool
  repeat' split
  all_goals
    first | exact orUnclear_made _ | exact boolOfFloat_made _ | exact .pure _ | exact .fail _

theorem noOthers_made (entries : Entries) (keys : List (List String)) :
    Made streams (noOthers entries keys) := by
  simp only [noOthers]
  split
  next => exact .pure ()
  next unknown hu => exact .refuse (by simpa using hu)

theorem lookup_of_find? {entries : Entries} {spellings : List String} {key : String} {v : Value}
    (h : find? entries spellings = some (key, v)) : entries.lookup key = some v := by
  induction spellings with
  | nil => simp [find?] at h
  | cons spelling others ih =>
    rw [find?] at h
    split at h
    next w hw =>
      obtain ⟨rfl, rfl⟩ := Prod.mk.inj (Option.some.inj h)
      exact hw
    next => exact ih h

variable (h : ∀ v : Value, Made v.streams (read v))
include h

theorem readOptional_made (v : Value) : Made v.streams (readOptional read v) := by
  unfold readOptional
  split
  · exact .pure none
  · exact (h v).map some

theorem readItems_made (items : List Value) :
    Made (Value.itemStreams items) (readItems read items) := by
  refine .each fun entry hm => ?_
  exact ((h entry.1).mono (Value.streams_subset_items (List.fst_mem_of_mem_zipIdx hm))).inside _

theorem readRest_made (identity : Nat) (items : List Value) (index bound : Nat) :
    Made (identity :: Value.itemStreams items) (readRest read identity items index bound) := by
  induction bound generalizing index with
  | zero => exact .pure []
  | succ bound ih =>
    change Made _ (Reading.draw identity items fun item =>
      List.cons <$> (read item).below (.index index) <*>
        readRest read identity items (index + 1) bound)
    refine .draw (.head _) fun item hm => ?_
    have first := (h item).mono (Value.streams_subset_items hm)
    exact (((first.mono (List.subset_cons_self _ _)).inside _).map _).seq (ih (index + 1))

theorem readList_made (v : Value) : Made v.streams (readList read v) := by
  unfold readList
  split
  · exact readItems_made h _
  · exact readItems_made h _
  · exact readRest_made h _ _ _ _
  · exact .fail _

theorem readDict_made (v : Value) : Made v.streams (readDict read v) := by
  unfold readDict
  split
  · refine .each fun entry hm => ?_
    exact (((h entry.2).mono (Value.streams_subset_entries hm)).map _).inside _
  · exact .fail _

theorem required_made (entries : Entries) (key : String) :
    Made (Value.entryStreams entries) (required entries key read) := by
  refine .inside _ ?_
  split
  next v hv => exact (h v).mono (Value.streams_subset_entries (mem_of_lookup hv))
  next => exact .fail _

theorem defaulted_made (entries : Entries) (spellings : List String) (default : α) :
    Made (Value.entryStreams entries) (defaulted entries spellings default read) := by
  unfold defaulted
  split
  next key v hv =>
    exact ((h v).mono (Value.streams_subset_entries (mem_of_lookup (lookup_of_find? hv)))).inside _
  next => exact .pure default

end Read

theorem readShape_made {α : Type} {read : Entries → Reading α} (shape : Shape)
    (keys : List (List String)) (h : ∀ entries, Made (Value.entryStreams entries) (read entries))
    (v : Value) : Made v.streams (readShape shape keys read v) := by
  unfold readShape
  split
  next entries => exact ((h entries).map _).seq (noOthers_made entries keys)
  next => exact .fail _

theorem readTexts_made (v : Value) : Made v.streams (readList readText v) :=
  readList_made readText_made v

theorem readOptionalText_made (v : Value) : Made v.streams (readOptional readText v) :=
  readOptional_made readText_made v

theorem Format.read_made (v : Value) : Made v.streams (Format.read v) := by
  refine readShape_made _ _ (fun entries => ?_) v
  exact ((required_made readText_made entries _).map _).seq
    (defaulted_made readTexts_made entries _ _)

theorem Content.read_made (v : Value) : Made v.streams (Content.read v) :=
  (((readText_made v).map _).inside _).either (((Format.read_made v).map _).inside _)

theorem Request.read_made (v : Value) : Made v.streams (Request.read v) := by
  refine readShape_made _ _ (fun entries => ?_) v
  exact (((((required_made readText_made entries _).map _).map _).seq
    (required_made readText_made entries _)).seq
    (defaulted_made readTexts_made entries _ _)).seq
    (defaulted_made readBool_made entries _ _)

theorem Element.read_made (v : Value) : Made v.streams (Element.read v) := by
  have texts (v : Value) : Made v.streams (readDict readText v) := readDict_made readText_made v
  refine readShape_made _ _ (fun entries => ?_) v
  exact ((((((((defaulted_made readOptionalText_made entries _ _).map _).seq
    (defaulted_made texts entries _ _)).seq
    (defaulted_made (readDict_made Content.read_made) entries _ _)).seq
    (defaulted_made texts entries _ _)).seq
    (defaulted_made (readOptional_made Request.read_made) entries _ _)).seq
    (defaulted_made (readOptional_made Content.read_made) entries _ _)).seq
    (defaulted_made readText_made entries _ _)).seq
    (defaulted_made readText_made entries _ _)

theorem Field.read_made (v : Value) : Made v.streams (Field.read v) := by
  refine readShape_made _ _ (fun entries => ?_) v
  exact (((((((required_made readText_made entries _).map _).seq
    (defaulted_made (readOptional_made Element.read_made) entries _ _)).seq
    (defaulted_made readBool_made entries _ _)).seq
    (defaulted_made readOptionalText_made entries _ _)).seq
    (defaulted_made readOptionalText_made entries _ _)).seq
    (defaulted_made readBool_made entries _ _)).seq
    (defaulted_made readOptionalText_made entries _ _)

theorem Schema.read_made (v : Value) : Made v.streams (Schema.read v) := by
  refine readShape_made _ _ (fun entries => ?_) v
  exact ((defaulted_made (readOptional_made Element.read_made) entries _ _).map _).seq
    (defaulted_made (readList_made Field.read_made) entries _ _)

end Document

end RecordMarkup
