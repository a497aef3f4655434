import Mathlib.Data.List.Forall2
import Mathlib.Data.List.Induction

namespace RecordMarkup

variable {α : Type} {entries others : List (String × α)} {key : String} {value : α}

theorem mem_of_lookup (h : entries.lookup key = some value) : (key, value) ∈ entries := by
  obtain ⟨before, after, rfl, -⟩ := List.lookup_eq_some_iff.1 h
  simp

theorem mem_keys_of_lookup (h : (entries.lookup key).isSome) : key ∈ entries.map Prod.fst := by
  obtain ⟨value, hv⟩ := Option.isSome_iff_exists.1 h
  exact List.mem_map.2 ⟨_, mem_of_lookup hv, rfl⟩

theorem lookup_isSome_of_mem (h : key ∈ entries.map Prod.fst) : (entries.lookup key).isSome := by
  obtain ⟨entry, hm, rfl⟩ := List.mem_map.1 h
  exact List.lookup_isSome_iff.2 ⟨entry, hm, by simp⟩

theorem not_mem_keys_of_lookup (h : entries.lookup key = none) : key ∉ entries.map Prod.fst := by
  intro hm
  simpa [h] using lookup_isSome_of_mem hm

theorem lookup_of_mem (hn : (entries.map Prod.fst).Nodup) (h : (key, value) ∈ entries) :
    entries.lookup key = some value := by
  induction entries with
  | nil => simp at h
  | cons entry entries ih =>
    obtain ⟨hfirst, hrest⟩ := List.nodup_cons.1 hn
    obtain rfl | h := List.mem_cons.1 h
    · simp
    · have hk : key ≠ entry.1 := by
        rintro rfl
        exact hfirst (List.mem_map.2 ⟨_, h, rfl⟩)
      rw [List.lookup_cons, beq_eq_false_iff_ne.2 hk]
      exact ih hrest h

theorem lookup_eq_some_iff_mem (hn : (entries.map Prod.fst).Nodup) :
    entries.lookup key = some value ↔ (key, value) ∈ entries :=
  ⟨mem_of_lookup, lookup_of_mem hn⟩

theorem lookup_perm (hn : (entries.map Prod.fst).Nodup) (hp : entries.Perm others) :
    entries.lookup key = others.lookup key := by
  refine Option.ext fun value => ?_
  rw [lookup_eq_some_iff_mem hn, lookup_eq_some_iff_mem ((hp.map _).nodup hn), hp.mem_iff]

section Table

variable {entry : String × α}

def setEntry (key : String) (value : α) : List (String × α) → List (String × α)
  | [] => [(key, value)]
  | entry :: entries =>
    if entry.1 = key then (key, value) :: entries else entry :: setEntry key value entries

def tableOf (entries : List (String × α)) : List (String × α) :=
  entries.foldl (fun table entry => setEntry entry.1 entry.2 table) []

theorem setEntry_of_not_mem (h : key ∉ entries.map Prod.fst) :
    setEntry key value entries = entries ++ [(key, value)] := by
  induction entries with
  | nil => rfl
  | cons entry entries ih =>
    simp only [List.map_cons, List.mem_cons, not_or] at h
    rw [setEntry, if_neg (Ne.symm h.1), ih h.2, List.cons_append]

theorem keys_setEntry_of_mem (h : key ∈ entries.map Prod.fst) :
    (setEntry key value entries).map Prod.fst = entries.map Prod.fst := by
  induction entries with
  | nil => simp at h
  | cons entry entries ih =>
    rw [setEntry]
    split
    next hk => simp [hk]
    next hk =>
      obtain h | h := List.mem_cons.1 h
      · exact absurd h.symm hk
      · rw [List.map_cons, List.map_cons, ih h]

theorem lookup_setEntry_self (key : String) (value : α) (entries : List (String × α)) :
    (setEntry key value entries).lookup key = some value := by
  induction entries with
  | nil => simp [setEntry]
  | cons entry entries ih =>
    rw [setEntry]
    split
    next => simp
    next hk => rw [List.lookup_cons, beq_eq_false_iff_ne.2 (Ne.symm hk), ih]

theorem lookup_setEntry_ne {other : String} (h : other ≠ key) (value : α)
    (entries : List (String × α)) :
    (setEntry key value entries).lookup other = entries.lookup other := by
  have differs : (other == key) = false := beq_eq_false_iff_ne.2 h
  induction entries with
  | nil => simp [setEntry, List.lookup_cons, differs]
  | cons entry entries ih =>
    rw [setEntry]
    split
    next hk => rw [List.lookup_cons, List.lookup_cons, hk, differs]
    next => rw [List.lookup_cons, List.lookup_cons, ih]

theorem setEntry_setEntry (key : String) (first second : α) (entries : List (String × α)) :
    setEntry key second (setEntry key first entries) = setEntry key second entries := by
  induction entries with
  | nil => simp [setEntry]
  | cons entry entries ih =>
    by_cases hk : entry.1 = key
    · simp [setEntry, hk]
    · simp [setEntry, hk, ih]

theorem nodup_setEntry (hn : (entries.map Prod.fst).Nodup) :
    ((setEntry key value entries).map Prod.fst).Nodup := by
  by_cases h : key ∈ entries.map Prod.fst
  · rwa [keys_setEntry_of_mem h]
  · rw [setEntry_of_not_mem h, List.map_append]
    refine List.nodup_append.2 ⟨hn, by simp, fun a ha b hb => ?_⟩
    obtain rfl := List.mem_singleton.1 hb
    rintro rfl
    exact h ha

theorem mem_setEntry (hn : (entries.map Prod.fst).Nodup) :
    entry ∈ setEntry key value entries ↔ entry = (key, value) ∨ entry ∈ entries ∧ entry.1 ≠ key := by
  induction entries with
  | nil => simp [setEntry]
  | cons first entries ih =>
    obtain ⟨hfirst, hrest⟩ := List.nodup_cons.1 hn
    rw [setEntry]
    split
    next hk =>
      have others : entry ∈ entries → entry.1 ≠ key := by
        rintro hm rfl
        exact hfirst (hk ▸ List.mem_map_of_mem hm)
      grind
    next hk => grind

theorem tableOf_concat (entries : List (String × α)) (entry : String × α) :
    tableOf (entries ++ [entry]) = setEntry entry.1 entry.2 (tableOf entries) := by
  rw [tableOf, List.foldl_append]
  rfl

theorem nodup_tableOf (entries : List (String × α)) : ((tableOf entries).map Prod.fst).Nodup := by
  induction entries using List.reverseRecOn with
  | nil => exact .nil
  | append_singleton entries entry ih =>
    rw [tableOf_concat]
    exact nodup_setEntry ih

theorem tableOf_eq (hn : (entries.map Prod.fst).Nodup) : tableOf entries = entries := by
  induction entries using List.reverseRecOn with
  | nil => rfl
  | append_singleton entries entry ih =>
    rw [List.map_append] at hn
    obtain ⟨hn, -, hd⟩ := List.nodup_append.1 hn
    have fresh : entry.1 ∉ entries.map Prod.fst := fun h => hd _ h entry.1 (.head _) rfl
    rw [tableOf_concat, ih hn, setEntry_of_not_mem fresh]

theorem mem_tableOf (h : ∀ a ∈ entries, ∀ b ∈ entries, a.1 = b.1 → a = b) :
    entry ∈ tableOf entries ↔ entry ∈ entries := by
  induction entries using List.reverseRecOn generalizing entry with
  | nil => rfl
  | append_singleton entries last ih =>
    have before : ∀ e, e ∈ tableOf entries ↔ e ∈ entries := fun e =>
      ih fun a ha b hb => h a (List.mem_append_left _ ha) b (List.mem_append_left _ hb)
    rw [tableOf_concat, mem_setEntry (nodup_tableOf entries), before, List.mem_append,
      List.mem_singleton]
    grind

end Table

section Rows

variable {β γ : Type} {rel : β → γ → Prop} {xs : List β} {ys : List γ}

theorem exists_of_mem_left {x : β} (h : List.Forall₂ rel xs ys) (hx : x ∈ xs) :
    ∃ y ∈ ys, rel x y := by
  induction h with
  | nil => simp at hx
  | cons hr _ ih =>
    obtain rfl | hx := List.mem_cons.1 hx
    · exact ⟨_, .head _, hr⟩
    · obtain ⟨y, hy, hr⟩ := ih hx
      exact ⟨y, .tail _ hy, hr⟩

theorem exists_of_mem_right {y : γ} (h : List.Forall₂ rel xs ys) (hy : y ∈ ys) :
    ∃ x ∈ xs, rel x y :=
  exists_of_mem_left h.flip hy

end Rows

end RecordMarkup
