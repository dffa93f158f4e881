import Mathlib.Data.List.Infix
import Mathlib.Logic.Function.Basic

/-!
# Settings that are set and set back

Settings are values by keys, and a host may refuse to set any of them. `setEach` sets new values one
after the other and gives up at the first one that is refused; `setBack` sets the old values in the
reverse order and never gives up, but remembers the first refusal. `setBack_setEach` says what is
left of it all: every setting is the old one, but for those that were set and refused to be set
back.
-/

namespace Astraea.Base

variable {κ α ε : Type} [DecidableEq κ]

/-- Set the keys to a value, up to the first that is refused: that refusal, the keys that were set,
and the settings. -/
def setEach (refuses : κ → Option ε) (value : α) (settings : κ → α) :
    List κ → Option ε × List κ × (κ → α)
  | [] => (none, [], settings)
  | key :: keys =>
    match refuses key with
    | some e => (some e, [], settings)
    | none =>
      let rest := setEach refuses value (Function.update settings key value) keys
      (rest.1, key :: rest.2.1, rest.2.2)

/-- One turn of setting back. -/
def setBackStep (refuses : κ → Option ε) (previous : κ → α) (state : Option ε × (κ → α)) (key : κ) :
    Option ε × (κ → α) :=
  match refuses key with
  | some e => (state.1.or (some e), state.2)
  | none => (state.1, Function.update state.2 key (previous key))

/-- Set the keys back, the last one first. -/
def setBack (refuses : κ → Option ε) (previous settings : κ → α) (keys : List κ) :
    Option ε × (κ → α) :=
  keys.reverse.foldl (setBackStep refuses previous) (none, settings)

variable {refuses : κ → Option ε} {value : α} {settings previous : κ → α} {keys : List κ}

/-- What is set before the first refusal is a prefix of what was to be set, and nothing else is
changed. -/
theorem setEach_spec (refuses : κ → Option ε) (value : α) (settings : κ → α) (keys : List κ) :
    (setEach refuses value settings keys).2.1 <+: keys ∧
      ∀ key, (setEach refuses value settings keys).2.2 key =
        if key ∈ (setEach refuses value settings keys).2.1 then value else settings key := by
  induction keys generalizing settings with
  | nil => exact ⟨List.nil_prefix, fun key => (if_neg List.not_mem_nil).symm⟩
  | cons first keys ih =>
    rw [setEach]
    cases hfirst : refuses first with
    | some e => exact ⟨List.nil_prefix, fun key => (if_neg List.not_mem_nil).symm⟩
    | none =>
      obtain ⟨hbegins, hsettings⟩ := ih (Function.update settings first value)
      refine ⟨(List.prefix_cons_inj first).mpr hbegins, fun key => ?_⟩
      dsimp only
      rw [hsettings key]
      by_cases hkey : key = first
      · rw [hkey, Function.update_self, if_pos List.mem_cons_self, ite_self]
      · rw [Function.update_of_ne hkey]
        simp only [List.mem_cons, hkey, false_or]

theorem foldl_setBackStep (refuses : κ → Option ε) (previous : κ → α) (keys : List κ)
    (state : Option ε × (κ → α)) :
    ((keys.foldl (setBackStep refuses previous) state).1 = none ↔ state.1 = none ∧
      ∀ key ∈ keys, refuses key = none) ∧
      ∀ key, (keys.foldl (setBackStep refuses previous) state).2 key =
        if key ∈ keys ∧ (refuses key).isNone = true then previous key else state.2 key := by
  induction keys generalizing state with
  | nil => simp
  | cons first keys ih =>
    rw [List.foldl_cons]
    obtain ⟨herror, hsettings⟩ := ih (setBackStep refuses previous state first)
    cases hfirst : refuses first with
    | some e =>
      have hstep : setBackStep refuses previous state first = (state.1.or (some e), state.2) := by
        rw [setBackStep, hfirst]
      rw [hstep] at herror hsettings ⊢
      refine ⟨herror.trans ?_, fun key => (hsettings key).trans ?_⟩
      · simp [hfirst]
      · by_cases hkey : key = first
        · simp [hkey, hfirst]
        · simp [hkey]
    | none =>
      have hstep : setBackStep refuses previous state first =
          (state.1, Function.update state.2 first (previous first)) := by
        rw [setBackStep, hfirst]
      rw [hstep] at herror hsettings ⊢
      refine ⟨herror.trans ?_, fun key => (hsettings key).trans ?_⟩
      · simp [hfirst]
      · by_cases hkey : key = first
        · simp [hkey, hfirst]
        · simp [hkey, Function.update_of_ne]

/-- What setting back leaves: the old values, but for what is refused. -/
theorem setBack_spec (refuses : κ → Option ε) (previous settings : κ → α) (keys : List κ) :
    ((setBack refuses previous settings keys).1 = none ↔ ∀ key ∈ keys, refuses key = none) ∧
      ∀ key, (setBack refuses previous settings keys).2 key =
        if key ∈ keys ∧ (refuses key).isNone = true then previous key else settings key := by
  have hfold := foldl_setBackStep refuses previous keys.reverse (none, settings)
  simp only [List.mem_reverse, true_and] at hfold
  exact hfold

/-- **Setting and setting back.** Afterwards every setting is the old one, but for those that were
set and refused to be set back; and where no refusal is reported, all of them are. -/
theorem setBack_setEach (refusesSet refuses : κ → Option ε) (value : α) (settings : κ → α)
    (keys : List κ) :
    let set := setEach refusesSet value settings keys
    let back := setBack refuses settings set.2.2 set.2.1
    (∀ key, back.2 key = settings key ∨ (refuses key).isSome = true ∧ key ∈ keys ∧
      back.2 key = value) ∧
      (back.1 = none → back.2 = settings) := by
  intro set back
  obtain ⟨hbegins, hset⟩ := setEach_spec refusesSet value settings keys
  obtain ⟨herror, hback⟩ := setBack_spec refuses settings set.2.2 set.2.1
  refine ⟨fun key => ?_, fun hnone => funext fun key => ?_⟩
  · rw [hback key, hset key]
    by_cases hkey : key ∈ set.2.1
    · by_cases hrefused : (refuses key).isNone = true
      · exact .inl (if_pos ⟨hkey, hrefused⟩)
      · refine .inr ⟨?_, hbegins.subset hkey, ?_⟩
        · rwa [Bool.not_eq_true, Option.isNone_eq_false_iff] at hrefused
        · rw [if_neg fun h => hrefused h.2, if_pos hkey]
    · exact .inl (by rw [if_neg fun h => hkey h.1, if_neg hkey])
  · rw [hback key, hset key]
    by_cases hkey : key ∈ set.2.1
    · rw [if_pos ⟨hkey, by rw [herror.mp hnone key hkey]; rfl⟩]
    · rw [if_neg fun h => hkey h.1, if_neg hkey]

end Astraea.Base
