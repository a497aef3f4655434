import RecordMarkup.Document.Basic
import RecordMarkup.Proofs.Lookup

namespace RecordMarkup.Document

open Value (dict)

namespace Reading

variable {α β : Type}

@[simp] theorem map_pure (f : α → β) (a : α) : f <$> (pure a : Reading α) = pure (f a) := rfl

@[simp] theorem pure_seq_pure (f : α → β) (a : α) : (pure f : Reading (α → β)) <*> pure a = pure (f a) :=
  rfl

@[simp] theorem pure_seqLeft_pure (a : α) (b : β) : (pure a : Reading α) <* (pure b : Reading β) = pure a :=
  rfl

@[simp] theorem below_pure (step : Step) (a : α) : (pure a : Reading α).below step = pure a := rfl

theorem each_map_eq_pure {γ : Type} {read : β → Reading γ} {f : α → β} {g : α → γ} {xs : List α}
    (h : ∀ x ∈ xs, read (f x) = pure (g x)) : each read (xs.map f) = pure (xs.map g) := by
  induction xs with
  | nil => rfl
  | cons x xs ih =>
    rw [List.map_cons, each, h x (.head _), ih fun y hy => h y (.tail _ hy)]
    rfl

end Reading

section Parts

variable {α : Type} {read : Value → Reading α} {write : α → Value}

def writeList (write : α → Value) (items : List α) : Value := .list (items.map write)

def writeDict (write : α → Value) (entries : List (String × α)) : Value :=
  dict (tableOf (entries.map fun entry => (entry.1, write entry.2)))

def writeOptional (write : α → Value) : Option α → Value
  | none => .null
  | some a => write a

@[simp] theorem readText_text (s : String) : readText (.text s) = pure s := rfl

@[simp] theorem readBool_bool (b : Bool) : readBool (.bool b) = pure b := rfl

theorem readList_writeList {items : List α} (h : ∀ a ∈ items, read (write a) = pure a) :
    readList read (writeList write items) = pure items := by
  rw [writeList, readList, readItems, List.zipIdx_map, Reading.each_map_eq_pure (g := Prod.fst)]
  · rw [List.zipIdx_map_fst]
  · intro entry hm
    have item : read (write entry.1) = pure entry.1 := h _ (List.fst_mem_of_mem_zipIdx hm)
    simp [item]

theorem readDict_writeDict {entries : List (String × α)} (hn : (entries.map Prod.fst).Nodup)
    (h : ∀ entry ∈ entries, read (write entry.2) = pure entry.2) :
    readDict read (writeDict write entries) = pure entries := by
  have keys : (entries.map fun entry => (entry.1, write entry.2)).map Prod.fst =
      entries.map Prod.fst := by simp [Function.comp_def]
  rw [writeDict, tableOf_eq (keys ▸ hn), readDict, Reading.each_map_eq_pure (g := id)]
  · rw [List.map_id]
  · intro entry hm
    simp [h entry hm]

theorem readOptional_writeOptional {a : Option α} (hn : ∀ x, write x ≠ .null)
    (h : ∀ x, a = some x → read (write x) = pure x) :
    readOptional read (writeOptional write a) = pure a := by
  cases a with
  | none => rfl
  | some x =>
    have present : readOptional read (write x) = some <$> read (write x) := by
      unfold readOptional
      split
      next hx => exact absurd hx (hn x)
      next => rfl
    rw [writeOptional, present, h x rfl]
    rfl

end Parts

def Format.write (f : Format) : Value :=
  dict [("template", .text f.template), ("args", writeList .text f.args)]

def Content.write : Content → Value
  | text template => .text template
  | format f => f.write

def Request.write (r : Request) : Value :=
  dict [("method", .text r.method), ("path", .text r.path), ("args", writeList .text r.args),
    ("urlencode", .bool r.urlencode)]

def Element.write (e : Element) : Value :=
  dict [("tag", writeOptional .text e.tag), ("attrs", writeDict .text e.attrs),
    ("dynamic", writeDict Content.write e.dynamic), ("hx", writeDict .text e.hx),
    ("request", writeOptional Request.write e.request),
    ("content", writeOptional Content.write e.content), ("before", .text e.before),
    ("after", .text e.after)]

def Field.write (f : Field) : Value :=
  dict [("name", .text f.name), ("element", writeOptional Element.write f.element),
    ("optional", .bool f.optional), ("default", writeOptional .text f.default),
    ("map", writeOptional .text f.map), ("list", .bool f.list), ("nest", writeOptional .text f.nest)]

def Schema.write (s : Schema) : Value :=
  dict [("element", writeOptional Element.write s.element), ("fields", writeList Field.write s.fields)]

structure Element.Writable (e : Element) : Prop where
  attrs : (e.attrs.map Prod.fst).Nodup
  dynamic : (e.dynamic.map Prod.fst).Nodup
  hx : (e.hx.map Prod.fst).Nodup
  method : ∀ r, e.request = some r → Text.lower r.method = r.method

structure Schema.Writable (s : Schema) : Prop where
  element : ∀ e, s.element = some e → e.Writable
  fields : ∀ f ∈ s.fields, ∀ e, f.element = some e → e.Writable

theorem readTexts_writeList (texts : List String) :
    readList readText (writeList .text texts) = pure texts := readList_writeList fun _ _ => rfl

theorem readOptionalText_writeOptional (s : Option String) :
    readOptional readText (writeOptional .text s) = pure s :=
  readOptional_writeOptional (by simp) fun _ _ => rfl

theorem Format.read_write (f : Format) : Format.read f.write = pure f := by
  simp [Format.read, Format.write, readShape, required, defaulted, find?, List.lookup_cons, noOthers,
    readTexts_writeList]

theorem Content.read_write (c : Content) : Content.read c.write = pure c := by
  cases c with
  | text template => rfl
  | format f =>
    have other : readText f.write = .fail .notText := rfl
    funext state
    simp only [Content.read, Content.write, Format.read_write, other]
    rfl

theorem Request.read_write {r : Request} (h : Text.lower r.method = r.method) :
    Request.read r.write = pure r := by
  simp [Request.read, Request.write, readShape, required, defaulted, find?, List.lookup_cons, noOthers,
    readTexts_writeList, h]

theorem Element.read_write {e : Element} (h : e.Writable) : Element.read e.write = pure e := by
  have attrs : readDict readText (writeDict .text e.attrs) = pure e.attrs :=
    readDict_writeDict h.attrs fun _ _ => rfl
  have dynamic : readDict Content.read (writeDict Content.write e.dynamic) = pure e.dynamic :=
    readDict_writeDict h.dynamic fun entry _ => entry.2.read_write
  have hx : readDict readText (writeDict .text e.hx) = pure e.hx :=
    readDict_writeDict h.hx fun _ _ => rfl
  have request : readOptional Request.read (writeOptional Request.write e.request) =
      pure e.request :=
    readOptional_writeOptional (by simp [Request.write]) fun r hr => Request.read_write (h.method r hr)
  have content : readOptional Content.read (writeOptional Content.write e.content) =
      pure e.content := by
    refine readOptional_writeOptional (fun c => ?_) fun c _ => c.read_write
    cases c <;> simp [Content.write, Format.write]
  simp [Element.read, Element.write, readShape, defaulted, find?, List.lookup_cons, noOthers,
    readOptionalText_writeOptional, attrs, dynamic, hx, request, content]

theorem Field.read_write {f : Field} (h : ∀ e, f.element = some e → e.Writable) :
    Field.read f.write = pure f := by
  have element : readOptional Element.read (writeOptional Element.write f.element) =
      pure f.element :=
    readOptional_writeOptional (by simp [Element.write]) fun e he => Element.read_write (h e he)
  simp [Field.read, Field.write, readShape, required, defaulted, find?, List.lookup_cons, noOthers,
    readOptionalText_writeOptional, element]

theorem Schema.read_write {s : Schema} (h : s.Writable) : Schema.read s.write = pure s := by
  have element : readOptional Element.read (writeOptional Element.write s.element) =
      pure s.element :=
    readOptional_writeOptional (by simp [Element.write]) fun e he =>
      Element.read_write (h.element e he)
  have fields : readList Field.read (writeList Field.write s.fields) = pure s.fields :=
    readList_writeList fun f hf => Field.read_write (h.fields f hf)
  simp [Schema.read, Schema.write, readShape, defaulted, find?, List.lookup_cons, noOthers, element,
    fields]

end RecordMarkup.Document
