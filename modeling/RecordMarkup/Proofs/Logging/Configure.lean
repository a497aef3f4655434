import Mathlib.Data.List.Induction
import RecordMarkup.Proofs.Logging.Format
import RecordMarkup.Text.Case

namespace RecordMarkup.Text

theorem shiftCase_of_lt {c : Char} (h : c.toNat < 0x61) : shiftCase upperShifts c = c := by
  have rows : ∀ row ∈ upperShifts, 0x61 ≤ row.first := by decide +kernel
  have uncovered : upperShifts.find? (·.covers c.toNat) = none := by
    refine List.find?_eq_none.2 fun row hr => ?_
    have := rows row hr
    simp only [CaseShift.covers, Bool.and_eq_true, decide_eq_true_eq]
    omega
  rw [shiftCase, uncovered]

theorem upperChar_of_toUpper {c : Char} (h : c.toUpper.toNat < 0x61) : upperChar c = [c.toUpper] := by
  have small : ∀ n < 0x7B, 0x61 ≤ n → upperChar (Char.ofNat n) = [(Char.ofNat n).toUpper] := by
    decide +kernel
  have expansion : ∀ n < 0x61, upperExpansion? n = none := by decide +kernel
  by_cases hc : 'a'.val ≤ c.val ∧ c.val ≤ 'z'.val
  · have upTo : c.toNat < 0x7B := Nat.lt_succ_of_le (UInt32.le_iff_toNat_le.1 hc.2)
    simpa using small c.toNat upTo (UInt32.le_iff_toNat_le.1 hc.1)
  · have same : c.toUpper = c := dif_neg hc
    rw [same] at h ⊢
    rw [upperChar, expansion _ h, shiftCase_of_lt h, Option.getD_none]

theorem upper_of_capitals {s name : String} (h : s.toList.map Char.toUpper = name.toList)
    (hn : ∀ c ∈ name.toList, c.toNat < 0x61) : upper s = name := by
  have each : ∀ c ∈ s.toList, upperChar c = [c.toUpper] := fun c hc =>
    upperChar_of_toUpper (hn _ (h ▸ List.mem_map_of_mem hc))
  have moved : s.toList.flatMap upperChar = s.toList.map Char.toUpper := by
    rw [List.map_eq_flatMap, List.flatMap_def, List.flatMap_def, List.map_congr_left each]
  rw [upper, moved, h, String.ofList_toList]

end RecordMarkup.Text

namespace RecordMarkup.Logging

theorem Level.capitals_of_ofName? {name : String} {level : Level} (h : ofName? name = some level) :
    ∀ c ∈ name.toList, c.toNat < 0x61 := by
  suffices name.toList.all (·.toNat < 0x61) by simpa using this
  unfold ofName? at h
  split at h
  all_goals first | decide | cases h

/-- The level that a call asks for, by a name that is known in any letter case. A value that is false
asks for the default. -/
inductive Asks (defaults : Defaults) : Value → Level → Prop
  | named {v : Value} {s : String} {level : Level} (hv : v.truthy) (hs : v.text? = some s)
      (hl : Level.ofName? (Text.upper s) = some level) : Asks defaults v level
  | fallback {v : Value} {level : Level} (hv : v.truthy = false)
      (hl : Level.ofName? (Text.upper defaults.level) = some level) : Asks defaults v level

variable {defaults : Defaults} {v : Value} {level start : Level} {logger : Logger} {calls : List Value}

theorem levelName_of_false (hv : v.truthy = false) : levelName defaults v = .ok defaults.level := by
  simp [levelName, hv]

theorem levelName_of_true {s : String} (hv : v.truthy) :
    levelName defaults v = .ok s ↔ v.text? = some s := by
  unfold levelName
  rw [hv]
  simp only [Bool.not_true, Bool.false_eq_true, if_false]
  split
  next => simp [Value.text?]
  next hs => simp [hs]
  next hs => simp [hs]

theorem requestedLevel_of_levelName {s : String} (h : levelName defaults v = .ok s) :
    requestedLevel defaults v = .ok level ↔ Level.ofName? (Text.upper s) = some level := by
  rw [requestedLevel, h]
  simp only [bind, Except.bind]
  cases Level.ofName? (Text.upper s) <;> simp

theorem requestedLevel_iff : requestedLevel defaults v = .ok level ↔ Asks defaults v level := by
  cases hv : v.truthy with
  | false =>
    rw [requestedLevel_of_levelName (levelName_of_false hv)]
    refine ⟨.fallback hv, fun h => ?_⟩
    cases h with
    | named hv' => exact nomatch hv.symm.trans hv'
    | fallback _ hl => exact hl
  | true =>
    constructor
    · intro h
      cases hn : levelName defaults v with
      | error fault => simp [requestedLevel, hn, bind, Except.bind] at h
      | ok s =>
        exact .named hv ((levelName_of_true hv).1 hn) ((requestedLevel_of_levelName hn).1 h)
    · intro h
      cases h with
      | named _ hs hl => exact (requestedLevel_of_levelName ((levelName_of_true hv).2 hs)).2 hl
      | fallback hv' => exact nomatch hv.symm.trans hv'

theorem Asks.unique {other : Level} (h : Asks defaults v level) (k : Asks defaults v other) :
    level = other :=
  Except.ok.inj ((requestedLevel_iff.2 h).symm.trans (requestedLevel_iff.2 k))

namespace Logger

def after (defaults : Defaults) (logger : Logger) (calls : List Value) : Logger :=
  calls.foldl (fun logger v => (logger.configure defaults v).2) logger

theorem after_concat (defaults : Defaults) (logger : Logger) (calls : List Value) (v : Value) :
    logger.after defaults (calls ++ [v]) =
      ((logger.after defaults calls).configure defaults v).2 := by
  simp [after]

theorem configure_of_not_asks (h : ∀ level, ¬Asks defaults v level) (logger : Logger) :
    ∃ fault, logger.configure defaults v = (.error fault, logger) := by
  cases hr : requestedLevel defaults v with
  | error fault => exact ⟨fault, by rw [configure, hr]⟩
  | ok level => exact absurd (requestedLevel_iff.1 hr) (h level)

theorem configure_of_handler (h : Asks defaults v level) (hs : logger.streams ≠ []) :
    logger.configure defaults v = (.ok (), { logger with level }) := by
  have full : logger.streams.isEmpty = false := by simpa using hs
  simp [configure, requestedLevel_iff.2 h, full]

theorem configure_of_format (h : Asks defaults v level) (hs : logger.streams = [])
    (hf : IsFormat defaults.format) :
    ∃ format, logger.configure defaults v = (.ok (), ⟨level, [format]⟩) := by
  obtain ⟨format, made⟩ : ∃ format, handlerFormat defaults = .ok format :=
    ⟨_, handlerFormat_iff.2 ⟨hf, rfl⟩⟩
  exact ⟨format, by simp [configure, requestedLevel_iff.2 h, hs, made]⟩

theorem configure_of_not_format (h : Asks defaults v level) (hs : logger.streams = [])
    (hf : ¬IsFormat defaults.format) :
    ∃ fault, logger.configure defaults v = (.error fault, ⟨level, []⟩) := by
  cases hm : handlerFormat defaults with
  | error fault => exact ⟨fault, by simp [configure, requestedLevel_iff.2 h, hs, hm]⟩
  | ok format => exact absurd (handlerFormat_iff.1 hm).1 hf

end Logger

structure SetUp (defaults : Defaults) (start : Level) (calls : List Value) (logger : Logger) :
    Prop where
  one : logger.streams.length ≤ 1
  handler : logger.streams ≠ [] ↔
    IsFormat defaults.format ∧ ∃ v ∈ calls, ∃ level, Asks defaults v level
  last : ∀ earlier v later level, calls = earlier ++ v :: later → Asks defaults v level →
    (∀ w ∈ later, ∀ other, ¬Asks defaults w other) → logger.level = level
  untouched : (∀ v ∈ calls, ∀ level, ¬Asks defaults v level) → logger.level = start

namespace SetUp

theorem nil (defaults : Defaults) (start : Level) : SetUp defaults start [] { level := start } :=
  ⟨Nat.zero_le 1, by simp, by simp, fun _ => rfl⟩

theorem concat_of_not_asks (h : SetUp defaults start calls logger)
    (hv : ∀ level, ¬Asks defaults v level) : SetUp defaults start (calls ++ [v]) logger := by
  refine ⟨h.one, ?_, ?_, fun hn => h.untouched fun w hw => hn w (List.mem_append_left _ hw)⟩
  · rw [h.handler]
    simp [hv]
  · intro earlier w later level he ha hn
    obtain rfl | ⟨later, u, rfl⟩ := later.eq_nil_or_concat
    · obtain rfl := List.singleton_inj.1 (List.append_inj_right' he rfl)
      exact absurd ha (hv level)
    · rw [List.concat_eq_append] at he hn
      rw [← List.cons_append, ← List.append_assoc] at he
      exact h.last earlier w later level (List.append_inj' he rfl).1 ha
        fun x hx => hn x (List.mem_append_left _ hx)

theorem concat_of_asks (hv : Asks defaults v level) (hl : logger.level = level)
    (one : logger.streams.length ≤ 1) (handler : logger.streams ≠ [] ↔ IsFormat defaults.format) :
    SetUp defaults start (calls ++ [v]) logger := by
  refine ⟨one, ?_, ?_, fun hn => absurd hv (hn v (by simp) level)⟩
  · rw [handler]
    exact ⟨fun hf => ⟨hf, v, by simp, level, hv⟩, And.left⟩
  · intro earlier w later other he ha hn
    obtain rfl | ⟨later, u, rfl⟩ := later.eq_nil_or_concat
    · obtain rfl := List.singleton_inj.1 (List.append_inj_right' he rfl)
      rw [hl, hv.unique ha]
    · rw [List.concat_eq_append] at he hn
      rw [← List.cons_append, ← List.append_assoc] at he
      obtain rfl := List.singleton_inj.1 (List.append_inj' he rfl).2
      exact absurd hv (hn v (by simp) level)

theorem configure (h : SetUp defaults start calls logger) (v : Value) :
    SetUp defaults start (calls ++ [v]) (logger.configure defaults v).2 ∧
      ((logger.configure defaults v).1 = .ok () ↔
        IsFormat defaults.format ∧ ∃ level, Asks defaults v level) := by
  by_cases hv : ∃ level, Asks defaults v level
  · obtain ⟨level, asks⟩ := hv
    by_cases hs : logger.streams = []
    · by_cases hf : IsFormat defaults.format
      · obtain ⟨format, hc⟩ := Logger.configure_of_format asks hs hf
        rw [hc]
        exact ⟨concat_of_asks asks rfl (le_refl 1) (by simp [hf]), fun _ => ⟨hf, level, asks⟩,
          fun _ => rfl⟩
      · obtain ⟨fault, hc⟩ := Logger.configure_of_not_format asks hs hf
        rw [hc]
        exact ⟨concat_of_asks asks rfl (Nat.zero_le 1) (by simp [hf]), nofun,
          fun k => absurd k.1 hf⟩
    · have hf := (h.handler.1 hs).1
      rw [Logger.configure_of_handler asks hs]
      exact ⟨concat_of_asks asks rfl h.one (by simp [hs, hf]), fun _ => ⟨hf, level, asks⟩,
        fun _ => rfl⟩
  · obtain ⟨fault, hc⟩ := Logger.configure_of_not_asks (not_exists.1 hv) logger
    rw [hc]
    exact ⟨h.concat_of_not_asks (not_exists.1 hv), nofun, fun k => absurd k.2 hv⟩

theorem after (defaults : Defaults) (start : Level) (calls : List Value) :
    SetUp defaults start calls (({ level := start } : Logger).after defaults calls) := by
  induction calls using List.reverseRecOn with
  | nil => exact nil defaults start
  | append_singleton calls v ih =>
    rw [Logger.after_concat]
    exact (ih.configure v).1

end SetUp

/-- However often a logger without handlers is set up, it has one handler at most, and one exactly if
the format is one and some call has asked for a level; it has the level that was last asked for, also
if that call failed. A call that asks for no level fails and changes nothing. A known name may have any
letter case, and the absent and the empty text ask for the default. -/
theorem configure_keeps_one_handler (defaults : Defaults) (start : Level) (calls : List Value) :
    let logger := ({ level := start } : Logger).after defaults calls
    SetUp defaults start calls logger ∧
      (∀ v, (logger.configure defaults v).1 = .ok () ↔
        IsFormat defaults.format ∧ ∃ level, Asks defaults v level) ∧
      (∀ v, (∀ level, ¬Asks defaults v level) →
        ∃ fault, logger.configure defaults v = (.error fault, logger)) ∧
      (∀ v ∈ [Value.null, .text ""], ∀ level, Asks defaults v level ↔
        Level.ofName? (Text.upper defaults.level) = some level) ∧
      ∀ s name level, Level.ofName? name = some level → s.toList.map Char.toUpper = name.toList →
        Asks defaults (.text s) level := by
  have setUp := SetUp.after defaults start calls
  refine ⟨setUp, fun v => (setUp.configure v).2, fun v hv => Logger.configure_of_not_asks hv _, ?_, ?_⟩
  · intro v hv level
    have absent : v.truthy = false := by
      simp only [List.mem_cons, List.not_mem_nil, or_false] at hv
      rcases hv with rfl | rfl <;> rfl
    rw [← requestedLevel_iff, requestedLevel_of_levelName (levelName_of_false absent)]
  · intro s name level hl hn
    have upper : Text.upper s = name := Text.upper_of_capitals hn (Level.capitals_of_ofName? hl)
    refine .named (bne_iff_ne.2 ?_) rfl (upper ▸ hl)
    rintro rfl
    obtain rfl : name = "" := upper.symm
    exact nomatch hl

/-- An unknown name changes nothing, and where no name is given the default is meant. -/
example : ({ level := .notSet } : Logger).after { level := "Error" }
    [.text "loud", .null, .text "wArN"] =
      ⟨.warning, ["%(asctime)s %(levelname)s %(name)s: %(message)s"]⟩ := by decide +kernel

end RecordMarkup.Logging
