import RecordMarkup.Proofs.Eval
import RecordMarkup.Validate

namespace RecordMarkup

namespace Eval

variable {α β : Type} {post : α → Prop}

def Ensures (action : Eval α) (post : α → Prop) : Prop :=
  ∀ context state a after, action.outcome context state = (.ok a, after) → post a

namespace Ensures

theorem pure {a : α} (h : post a) : (Pure.pure a : Eval α).Ensures post := by
  intro context state b after ho
  rw [outcome_pure] at ho
  obtain rfl := Except.ok.inj (Prod.mk.inj ho).1
  exact h

theorem throw (f : Failure) : (throw f : Eval α).Ensures post :=
  fun _ _ _ _ ho => nomatch (Prod.mk.inj ho).1

theorem bind {action : Eval α} {next : α → Eval β} {post' : β → Prop} (h : action.Ensures post)
    (hn : ∀ a, post a → (next a).Ensures post') : (action >>= next).Ensures post' := by
  intro context state b after ho
  obtain ⟨a, mid, ha, hb⟩ := of_bind_ok ho
  exact hn a (h _ _ _ _ ha) _ _ _ _ hb

theorem after {action : Eval α} {next : α → Eval β} {post : β → Prop}
    (hn : ∀ a, (next a).Ensures post) : (action >>= next).Ensures post :=
  have anything : action.Ensures fun _ => True := fun _ _ _ _ _ => trivial
  anything.bind fun a _ => hn a

theorem mapM {f : α → Eval β} {post : β → Prop} (h : ∀ x, (f x).Ensures post) (xs : List α) :
    (xs.mapM f).Ensures fun ys => ∀ y ∈ ys, post y := by
  induction xs with
  | nil => exact .pure nofun
  | cons x xs ih =>
    rw [List.mapM_cons]
    exact .bind (h x) fun y hy => .bind ih fun ys hys => .pure (List.forall_mem_cons.2 ⟨hy, hys⟩)

theorem drain {f : Value → Eval α} (h : ∀ v, (f v).Ensures post) (identity : Nat)
    (items : List Value) (bound : Nat) :
    (Value.drain identity items f bound).Ensures fun ys => ∀ y ∈ ys, post y := by
  induction bound with
  | zero => exact .pure nofun
  | succ bound ih =>
    refine .after fun state => ?_
    split
    next => exact .pure nofun
    next item _ =>
      exact .after fun _ => .bind (h item) fun y hy => .bind ih fun ys hys =>
        .pure (List.forall_mem_cons.2 ⟨hy, hys⟩)

theorem forEach {f : Value → Eval α} (h : ∀ v, (f v).Ensures post) (v : Value) :
    (v.forEach f).Ensures fun ys => ∀ y ∈ ys, post y := by
  unfold Value.forEach
  split
  next identity items => exact drain h identity items _
  next =>
    split
    next items _ => exact mapM h items
    next => exact throw _

end Ensures

end Eval

namespace Defect

/-- The defect is one of the part that is looked at: it is not told of from outside a field, nor is it
one of how documents are written or of what they refer to. -/
def isLocal : Defect → Bool
  | document .. | unknownReference _ | referenceCycle _ | within .. => false
  | _ => true

end Defect

namespace Value

abbrev FindsLocal (check : Eval (List Defect)) : Prop :=
  check.Ensures fun defects => ∀ d ∈ defects, d.isLocal

theorem local_append {ds es : List Defect} (hd : ∀ d ∈ ds, d.isLocal) (he : ∀ d ∈ es, d.isLocal) :
    ∀ d ∈ ds ++ es, d.isLocal := List.forall_mem_append.2 ⟨hd, he⟩

theorem local_flatten {ds : List (List Defect)} (h : ∀ es ∈ ds, ∀ d ∈ es, d.isLocal) :
    ∀ d ∈ ds.flatten, d.isLocal := by
  intro d hd
  obtain ⟨es, he, hd⟩ := List.mem_flatten.1 hd
  exact h es he d hd

theorem local_unless {c : Prop} [Decidable c] {d : Defect} (h : d.isLocal) :
    ∀ e ∈ (if c then [] else [d]), e.isLocal := by
  split
  · exact nofun
  · simpa using h

theorem local_when {c : Prop} [Decidable c] {d : Defect} (h : d.isLocal) :
    ∀ e ∈ (if c then [d] else []), e.isLocal := by
  split
  · simpa using h
  · exact nofun

theorem templateDefects_local (format expected : Value) (place : Place) :
    FindsLocal (format.templateDefects expected place) := by
  refine .after fun template => .after fun parsed => ?_
  split
  next => exact .pure (by simp [Defect.isLocal])
  next => exact .after fun _ => .pure (local_unless rfl)

theorem formatDefects_local (v : Value) : FindsLocal v.formatDefects := by
  refine .after fun template => ?_
  split
  · exact .pure (by simp [Defect.isLocal])
  · refine .after fun parsed => .after fun args => ?_
    have each : ∀ arg : Value, FindsLocal (return if arg.isTextWhere Text.isFieldName then []
        else [Defect.badReference template arg]) := fun arg => .pure (local_unless rfl)
    refine .bind (.forEach each args) fun references hr => ?_
    refine .pure (local_append ?_ (local_flatten hr))
    cases parsed <;> simp [Defect.isLocal]

theorem mappingDefects_local (v : Value) : FindsLocal v.mappingDefects :=
  .after fun _ => .after fun _ => .pure (local_append (local_unless rfl) (local_unless rfl))

theorem keyDefects_local (key : Value) : ∀ d ∈ keyDefects key, d.isLocal := local_unless rfl

theorem literalDefects_local (v : Value) : FindsLocal v.literalDefects :=
  .after fun key => .after fun _ => .pure (local_append (keyDefects_local key) (local_unless rfl))

theorem dynamicDefects_local (v : Value) : FindsLocal v.dynamicDefects :=
  .after fun key => .after fun _ => .after fun _ => .after fun _ =>
    .bind (templateDefects_local _ _ _) fun _ h => .pure (local_append (keyDefects_local key) h)

theorem requestDefects_local (v : Value) : FindsLocal v.requestDefects := by
  refine .after fun path => .after fun args => .after fun count => .after fun m => .after fun name =>
    .bind (templateDefects_local _ _ _) fun defects h => .after fun encode => ?_
  split
  · exact .after fun _ => .pure (local_append h (by simp [Defect.isLocal]))
  · exact .pure h

theorem severalRequestsDefects_local (requests : List Value) :
    FindsLocal (severalRequestsDefects requests) := by
  unfold severalRequestsDefects
  split
  · exact .pure nofun
  · exact .after fun _ => .after fun _ => .pure (by simp [Defect.isLocal])

theorem surroundDefects_local (v : Value) : FindsLocal v.surroundDefects := by
  refine .after fun before => ?_
  split
  · exact .pure (by simp [Defect.isLocal])
  · exact .after fun _ => .pure (local_unless rfl)

theorem elementDefects_local (v : Value) : FindsLocal v.elementDefects := by
  have each : ∀ source : Value, FindsLocal (do
      return if ((← source.kind).map Kind.isAttribute).getD false then []
        else [Defect.unknownAttribute source]) := fun source => .after fun _ => .pure (local_unless rfl)
  refine .after fun tag => .after fun attributes => .bind (.forEach each attributes) fun sources hs =>
    .after fun _ => .bind (severalRequestsDefects_local _) fun several hv =>
      .bind (surroundDefects_local v) fun surround hr => .pure ?_
  refine local_append (local_append (local_append (local_append ?_ (local_flatten hs)) hv) ?_) hr
  · exact local_unless rfl
  · exact local_when rfl

theorem optionalDefects_local (v : Value) : FindsLocal v.optionalDefects := by
  refine .after fun default => ?_
  split
  · exact .pure nofun
  · exact .after fun _ => .pure (local_append (local_unless rfl) (local_unless rfl))

theorem mapDefects_local (v : Value) : FindsLocal v.mapDefects :=
  .after fun _ => .pure (local_unless rfl)

theorem listDefects_local (v : Value) : FindsLocal v.listDefects :=
  .after fun _ => .pure (local_unless rfl)

theorem nestDefects_local (v : Value) : FindsLocal v.nestDefects :=
  .after fun _ => .pure (local_unless rfl)

theorem itemTagDefects_local (name element : Value) (kind : Kind) (nested : Bool) :
    FindsLocal (itemTagDefects name element kind nested) := by
  unfold itemTagDefects
  split
  · exact .pure nofun
  · exact .after fun _ => .pure (local_when rfl)

theorem fieldElementDefects_local (name policy element : Value) (kind : Kind) {errors : List Defect}
    (h : ∀ d ∈ errors, d.isLocal) :
    FindsLocal (fieldElementDefects name policy element kind errors) := by
  refine .after fun nested => .bind (itemTagDefects_local _ _ _ _) fun items hi => ?_
  have both := local_append h hi
  split
  · exact .pure both
  · refine .after fun content => ?_
    split
    · exact .pure both
    · have rest : ∀ errors : List Defect, (∀ d ∈ errors, d.isLocal) → FindsLocal (do
          if !errors.isEmpty then return errors
          let count ← (← content.slot "args").requireLength
          content.templateDefects (int (1 + count)) (.content name)) := by
        intro errors h
        split
        · exact .pure h
        · exact .after fun _ => .after fun _ => templateDefects_local _ _ _
      split
      · exact rest _ (local_append both (by simp [Defect.isLocal]))
      · exact rest _ both

theorem fieldDefects_local (v : Value) : FindsLocal v.fieldDefects := by
  refine .after fun name => .after fun policy => .after fun kind => ?_
  have named : ∀ d ∈ (if name.isTextWhere Text.isFieldName then [] else [Defect.badFieldName name]),
      d.isLocal := local_unless rfl
  split
  · exact .pure (local_append named (by simp [Defect.isLocal]))
  · refine .after fun element => ?_
    split
    · exact .pure (local_append named (by simp [Defect.isLocal]))
    · exact fieldElementDefects_local _ _ _ _ named

theorem nameDefects_local {seen : List Value} {names : List (Defect ⊕ Value)}
    (h : ∀ name ∈ names, ∀ d, name = .inl d → d.isLocal) :
    ∀ d ∈ nameDefects seen names, d.isLocal := by
  induction names generalizing seen with
  | nil => exact nofun
  | cons name names ih =>
    obtain ⟨first, rest⟩ := List.forall_mem_cons.1 h
    cases name with
    | inl defect => exact List.forall_mem_cons.2 ⟨first defect rfl, ih rest⟩
    | inr name =>
      rw [nameDefects]
      split
      · exact List.forall_mem_cons.2 ⟨rfl, ih rest⟩
      · exact ih rest

theorem fieldName_local (v : Value) :
    v.fieldName.Ensures fun name => ∀ d, name = .inl d → d.isLocal := by
  unfold fieldName
  split
  · refine .pure fun d h => ?_
    rw [← Sum.inl.inj h]
    rfl
  · exact .after fun _ => .after fun _ => .pure nofun

theorem recordElementDefects_local (element : Value) :
    FindsLocal (recordElementDefects element) := by
  unfold recordElementDefects
  split
  · exact .pure nofun
  · split
    · exact .pure (by simp [Defect.isLocal])
    · exact .after fun _ => .pure (local_unless rfl)

theorem recordTypeDefects_local (v : Value) : FindsLocal v.recordTypeDefects := by
  refine .after fun type => .after fun declared => ?_
  split
  · exact .pure nofun
  · refine .after fun _ => .after fun _ => .pure fun d hd => ?_
    obtain ⟨name, -, rfl⟩ := List.mem_map.1 hd
    rfl

theorem schemaDefects_local (v : Value) : FindsLocal v.schemaDefects := by
  refine .after fun element => .bind (recordElementDefects_local element) fun own ho =>
    .after fun fields => .bind (.forEach fieldName_local fields) fun names hn => .after fun type => ?_
  split
  · exact .pure (local_append ho (nameDefects_local hn))
  · exact recordTypeDefects_local v

theorem defects_local (v : Value) : FindsLocal v.defects := by
  refine .after fun kind => ?_
  split
  · exact .pure (by simp [Defect.isLocal])
  · exact formatDefects_local v
  · exact mappingDefects_local v
  · exact literalDefects_local v
  · exact literalDefects_local v
  · exact dynamicDefects_local v
  · exact requestDefects_local v
  · exact elementDefects_local v
  · exact .pure nofun
  · exact optionalDefects_local v
  · exact mapDefects_local v
  · exact listDefects_local v
  · exact nestDefects_local v
  · exact fieldDefects_local v
  · exact schemaDefects_local v

end Value

end RecordMarkup
