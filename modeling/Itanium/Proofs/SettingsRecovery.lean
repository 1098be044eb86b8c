import Itanium.Proofs.SettingsLayers

/-!
# Settings after a failure

Variables are applied in order, up to the first that is set to no word for on or off. The settings
that are left behind have what was set before it and nothing of what comes later. They are still of
use: once the variable is mended, the environment makes of them what it would have made of the
settings at the start.
-/
namespace Itanium

namespace Settings

variable {environment : Environment} {switches : List Switch} {lower upper : Settings}

/-! ### Runs that reach the end -/

/-- Applied to the settings that they made, the variables change nothing. -/
theorem Overlays.again (overlays : Overlays environment switches lower upper) :
    Overlays environment switches upper upper :=
  ⟨rfl, overlays.means, fun _ _ => rfl⟩

theorem Overlays.isReadable (overlays : Overlays environment switches lower upper) :
    ∀ switch ∈ switches, IsReadable environment switch :=
  fun switch member text set => ⟨_, overlays.means switch member text set⟩

/-- The variables leave no choice. -/
theorem Overlays.unique {other : Settings} (overlays : Overlays environment switches lower upper)
    (also : Overlays environment switches lower other) : upper = other := by
  apply eq_of_get_eq (overlays.base.trans also.base.symm)
  intro switch
  -- A switch is what its variable says if that is applied and set, and what it was if not.
  cases set : environment switch.variableName with
  | none => exact (overlays.kept switch fun _ => set).trans (also.kept switch fun _ => set).symm
  | some text =>
    by_cases member : switch ∈ switches
    · exact (overlays.means switch member text set).unique (also.means switch member text set)
    · exact (overlays.kept switch (absurd · member)).trans (also.kept switch (absurd · member)).symm

theorem Overlays.congr {other : Environment}
    (same : ∀ switch ∈ switches, other switch.variableName = environment switch.variableName)
    (overlays : Overlays environment switches lower upper) :
    Overlays other switches lower upper where
  base := overlays.base
  means := fun switch member text set =>
    overlays.means switch member text ((same switch member).symm.trans set)
  kept := fun switch unset =>
    overlays.kept switch fun member => (same switch member).symm.trans (unset member)

theorem applySwitches_eq_none_iff :
    applySwitches environment lower switches = (upper, none) ↔
      Overlays environment switches lower upper := by
  constructor
  · exact overlays_of_applySwitches
  · intro overlays
    obtain ⟨reached, applied⟩ := exists_applySwitches overlays.isReadable lower
    rw [applied, (overlays_of_applySwitches applied).unique overlays]

/-- What comes after a run that reaches its end starts from where that ended. -/
theorem applySwitches_append (applied : applySwitches environment lower switches = (upper, none))
    (rest : List Switch) :
    applySwitches environment lower (switches ++ rest) = applySwitches environment upper rest := by
  induction switches generalizing lower with
  | nil =>
    cases applied
    rfl
  | cons switch later ih =>
    rw [applySwitches] at applied
    rw [List.cons_append, applySwitches]
    split at applied
    next unset => exact ih applied
    next text set =>
      split at applied
      next value read => exact ih applied
      next => cases applied

/-! ### Runs that stop -/

/-- A variable that says neither on nor off stops the run where it stands. -/
theorem applySwitches_cons_of_not_means {switch : Switch} {text : String}
    (set : environment switch.variableName = some text) (wrong : ∀ value, ¬Means text value)
    (rest : List Switch) :
    applySwitches environment lower (switch :: rest) =
      (lower, some (.notBoolean switch.variableName (String.ofList (foldWord text)))) := by
  have unread : parseSwitch? (foldWord text) = none := by
    rw [Option.eq_none_iff_forall_ne_some]
    exact fun value read => wrong value (parseSwitch?_foldWord.mp read)
  rw [applySwitches, set]
  simp only [unread]

/-- A run that stops has reached the end of the switches before some switch. -/
theorem applySwitches_eq_some_iff {error : SettingsError} :
    applySwitches environment lower switches = (upper, some error) ↔
      ∃ before switch after text, switches = before ++ switch :: after ∧
        Overlays environment before lower upper ∧
        environment switch.variableName = some text ∧ (∀ value, ¬Means text value) ∧
        error = .notBoolean switch.variableName (String.ofList (foldWord text)) := by
  constructor
  · intro stopped
    induction switches generalizing lower with
    | nil => cases stopped
    | cons switch rest ih =>
      rw [applySwitches] at stopped
      split at stopped
      next unset =>
        obtain ⟨before, stop, after, text, rfl, overlays, remaining⟩ := ih stopped
        exact ⟨switch :: before, stop, after, text, rfl, overlays.cons_unset unset, remaining⟩
      next text set =>
        split at stopped
        next value read =>
          have means := parseSwitch?_foldWord.mp read
          obtain ⟨before, stop, after, other, rfl, overlays, remaining⟩ := ih stopped
          exact ⟨switch :: before, stop, after, other, rfl, overlays.cons_set set means, remaining⟩
        -- The first switch itself stops the run, so nothing has been applied.
        next unread =>
          cases stopped
          have wrong : ∀ value, ¬Means text value := by
            intro value means
            rw [parseSwitch?_foldWord.mpr means] at unread
            cases unread
          exact ⟨[], switch, rest, text, rfl, ⟨rfl, by simp, fun _ _ => rfl⟩, set, wrong, rfl⟩
  · rintro ⟨before, switch, after, text, rfl, overlays, set, wrong, rfl⟩
    rw [applySwitches_append (applySwitches_eq_none_iff.mpr overlays),
      applySwitches_cons_of_not_means set wrong]

/-! ### The whole environment -/

/-- The settings with the base of the environment, if it has one. -/
def rebased (settings : Settings) (environment : Environment) : Settings :=
  { settings with base := (environment baseVariable).getD settings.base }

theorem applyVariables_eq_applySwitches (environment : Environment) (settings : Settings) :
    settings.applyVariables environment =
      applySwitches environment (settings.rebased environment) Switch.all :=
  CommandLine.applyVariables_eq environment settings

/-- A base that the environment has set is not replaced again. -/
theorem rebased_eq_self (base : upper.base = (lower.rebased environment).base) :
    upper.rebased environment = upper := by
  have kept : (upper.rebased environment).base = upper.base := by
    rw [rebased, base, rebased]
    cases environment baseVariable <;> rfl
  exact eq_of_get_eq kept fun switch => by cases switch <;> rfl

/-- The variable of a switch is the first that is set to no word for on or off. The base and the
switches before it are replaced where their variables are set, and nothing else is replaced. -/
structure StopsAt (environment : Environment) (lower : Settings) (before : List Switch)
    (switch : Switch) (upper : Settings) : Prop where
  order : before ++ [switch] <+: Switch.all
  readable : ∀ earlier ∈ before, IsReadable environment earlier
  unreadable : ¬IsReadable environment switch
  overlays : Overlays environment before (lower.rebased environment) upper

theorem applyVariables_eq_some_iff {error : SettingsError} :
    lower.applyVariables environment = (upper, some error) ↔
      ∃ before switch text, StopsAt environment lower before switch upper ∧
        environment switch.variableName = some text ∧
        error = .notBoolean switch.variableName (String.ofList (foldWord text)) := by
  rw [applyVariables_eq_applySwitches, applySwitches_eq_some_iff]
  constructor
  · rintro ⟨before, switch, after, text, order, overlays, set, wrong, named⟩
    refine ⟨before, switch, text, ⟨⟨after, ?_⟩, overlays.isReadable, ?_, overlays⟩, set, named⟩
    · rw [order, List.append_assoc, List.singleton_append]
    · intro readable
      obtain ⟨value, means⟩ := readable text set
      exact wrong value means
  · rintro ⟨before, switch, text, stops, set, named⟩
    obtain ⟨after, order⟩ := stops.order
    refine ⟨before, switch, after, text, ?_, stops.overlays, set, ?_, named⟩
    · rw [← order, List.append_assoc, List.singleton_append]
    · intro value means
      apply stops.unreadable
      intro other same
      obtain rfl := Option.some.inj (set.symm.trans same)
      exact ⟨value, means⟩

/-! ### Another environment -/

/-- Another environment makes the same of the settings that are left behind as of those at the
start, if it says the same up to the switch that stopped the first. -/
theorem StopsAt.applyVariables_congr {before : List Switch} {switch : Switch} {other : Environment}
    (stops : StopsAt environment lower before switch upper)
    (base : other baseVariable = environment baseVariable)
    (same : ∀ earlier ∈ before, other earlier.variableName = environment earlier.variableName) :
    upper.applyVariables other = lower.applyVariables other := by
  obtain ⟨after, order⟩ := stops.order
  have start : lower.rebased other = lower.rebased environment := by rw [rebased, rebased, base]
  -- The base has been replaced by the one that would replace it now.
  have kept : upper.rebased other = upper := rebased_eq_self (start ▸ stops.overlays.base)
  have overlays : Overlays other before (lower.rebased other) upper := by
    rw [start]
    exact stops.overlays.congr same
  rw [applyVariables_eq_applySwitches, applyVariables_eq_applySwitches, kept, ← order,
    List.append_assoc, applySwitches_append (applySwitches_eq_none_iff.mpr overlays),
    applySwitches_append (applySwitches_eq_none_iff.mpr overlays.again)]

theorem Switch.variableName_injective : Function.Injective Switch.variableName := by
  intro left right
  cases left <;> cases right <;> decide

theorem Switch.variableName_ne_baseVariable (switch : Switch) :
    switch.variableName ≠ baseVariable := by
  cases switch <;> decide

theorem StopsAt.not_mem {before : List Switch} {switch : Switch}
    (stops : StopsAt environment lower before switch upper) : switch ∉ before := by
  have distinct : Switch.all.Nodup := by decide
  have parts := stops.order.sublist.nodup distinct
  intro member
  exact List.disjoint_of_nodup_append parts member List.mem_cons_self

/-- An environment that fails names the first switch whose variable is neither on nor off. It has
replaced the base and the switches before that one, where they are set, and nothing else. One that
succeeds has replaced everything that is set. When the variable that failed is unset, or set to
anything else, the environment makes the same of the settings that were left behind as of those at
the start. -/
theorem failure_leaves_what_came_before (environment : Environment) (lower : Settings) :
    (∀ upper error, lower.applyVariables environment = (upper, some error) ↔
      ∃ before switch text, StopsAt environment lower before switch upper ∧
        environment switch.variableName = some text ∧
        error = .notBoolean switch.variableName (String.ofList (foldWord text))) ∧
    (∀ upper, lower.applyVariables environment = (upper, none) ↔
      Overlays environment Switch.all (lower.rebased environment) upper) ∧
    ∀ before switch upper, StopsAt environment lower before switch upper →
      ∀ mended : Option String,
        upper.applyVariables (Function.update environment switch.variableName mended) =
          lower.applyVariables (Function.update environment switch.variableName mended) := by
  refine ⟨fun _ _ => applyVariables_eq_some_iff, fun upper => ?_, ?_⟩
  · rw [applyVariables_eq_applySwitches, applySwitches_eq_none_iff]
  · intro before switch upper stops mended
    apply stops.applyVariables_congr
    · exact Function.update_of_ne switch.variableName_ne_baseVariable.symm _ _
    · intro earlier member
      have different : earlier ≠ switch := fun same => stops.not_mem (same ▸ member)
      exact Function.update_of_ne (Switch.variableName_injective.ne different) _ _

/-- The stops are wrong, so the template is replaced and strictness is not. -/
theorem failure_leaves_what_came_before_stops :
    ∃ (environment : Environment) (before : List Switch) (upper mended : Settings),
      environment = ([(baseVariable, "0x100"), ("IA64DEC_SHOW_TEMPLATE", " Off"),
        ("IA64DEC_SHOW_STOPS", "Maybe"), ("IA64DEC_STRICT", "1")].lookup ·) ∧
      upper = ⟨"0x100", true, false, true, false, false⟩ ∧
      mended = ⟨"0x100", true, false, true, false, true⟩ ∧
      standard.applyVariables environment =
        (upper, some (.notBoolean "IA64DEC_SHOW_STOPS" "maybe")) ∧
      StopsAt environment standard before .showStops upper ∧
      standard.applyVariables (Function.update environment "IA64DEC_SHOW_STOPS" none) =
        (mended, none) ∧
      upper.applyVariables (Function.update environment "IA64DEC_SHOW_STOPS" none) =
        (mended, none) := by
  let environment : Environment :=
    ([(baseVariable, "0x100"), ("IA64DEC_SHOW_TEMPLATE", " Off"),
      ("IA64DEC_SHOW_STOPS", "Maybe"), ("IA64DEC_STRICT", "1")].lookup ·)
  have failed : standard.applyVariables environment =
      (⟨"0x100", true, false, true, false, false⟩,
        some (.notBoolean "IA64DEC_SHOW_STOPS" "maybe")) := by decide +kernel
  have repaired :
      standard.applyVariables (Function.update environment "IA64DEC_SHOW_STOPS" none) =
        (⟨"0x100", true, false, true, false, true⟩, none) := by decide +kernel
  obtain ⟨stopped_iff, -, recovers⟩ := failure_leaves_what_came_before environment standard
  obtain ⟨before, switch, text, stops, -, named⟩ := (stopped_iff _ _).mp failed
  obtain rfl : Switch.showStops = switch :=
    Switch.variableName_injective (SettingsError.notBoolean.inj named).1
  exact ⟨environment, before, _, _, rfl, rfl, rfl, failed, stops, repaired,
    (recovers before .showStops _ stops none).trans repaired⟩

end Settings

end Itanium
