import Itanium.Proofs.Run
import Itanium.Proofs.TextParts

/-!
# Layers of settings

The variables of the environment lie over a settings file, or over the standard settings without
one, and the options lie over both. A layer replaces what it sets, and an option can turn its switch
one way only. Settings are loaded if the file is, and if every variable of a switch that is set is a
word for on or off, also where an option has the last word. The base is not looked at before the
layers are put together, so one that is replaced can be anything.
-/
namespace Itanium

namespace Settings

/-! ### Words for on and off -/

def words : Bool → List String
  | true => ["1", "true", "yes", "on"]
  | false => ["0", "false", "no", "off"]

theorem isBlank_of_mem_words {value : Bool} :
    ∀ word ∈ (words value).map String.toList, ∀ c ∈ word, Text.isBlank c = false := by
  cases value <;> simp [words, Text.isBlank]

/-- One of the words for the value, in letters of either case and with blanks around it. -/
def Means (text : String) (value : Bool) : Prop :=
  ∃ before word after, text.toList = before ++ word ++ after ∧
    (∀ c ∈ before ++ after, Text.isBlank c = true) ∧
    Text.lowerAscii word ∈ (words value).map String.toList

theorem toLower_of_isBlank {c : Char} (blank : Text.isBlank c = true) : c.toLower = c := by
  apply Char.toLower_eq_of_not_isUpper
  intro upper
  simp only [Char.isUpper, decide_eq_true_eq, ge_iff_le, UInt32.le_iff_toNat_le] at upper
  simp only [Text.isBlank, Char.toNat, Bool.or_eq_true, Bool.and_eq_true, decide_eq_true_eq,
    beq_iff_eq] at blank
  have bounds : 65 ≤ c.val.toNat ∧ c.val.toNat ≤ 90 := upper
  omega

theorem parseSwitch?_eq_some_iff {text : List Char} {value : Bool} :
    parseSwitch? text = some value ↔ text ∈ (words value).map String.toList := by
  have apart : ∀ word ∈ (words false).map String.toList, word ∉ (words true).map String.toList := by
    decide
  cases value with
  | true =>
    unfold parseSwitch?
    split
    next on => exact iff_of_true rfl on
    next other => split <;> exact iff_of_false (by simp) other
  | false =>
    unfold parseSwitch?
    split
    next on => exact iff_of_false (by simp) fun off => apart text off on
    next other =>
      split
      next off => exact iff_of_true rfl off
      next neither => exact iff_of_false (by simp) neither

theorem parseSwitch?_foldWord {text : String} {value : Bool} :
    parseSwitch? (foldWord text) = some value ↔ Means text value := by
  rw [parseSwitch?_eq_some_iff, foldWord]
  constructor
  · intro word
    obtain ⟨before, after, whole, blank, -, -⟩ := Text.isTrimmed_trim text.toList
    exact ⟨before, _, after, whole, blank, word⟩
  · rintro ⟨before, word, after, whole, blank, folded⟩
    -- Folding keeps blanks, and no word has one, so the word is what trimming leaves.
    have solid : ∀ c ∈ word, Text.isBlank c = false := by
      intro c member
      by_contra other
      have same : c.toLower = c := toLower_of_isBlank (Bool.eq_true_of_not_eq_false other)
      have small : c ∈ Text.lowerAscii word := same ▸ List.mem_map_of_mem member
      exact other (isBlank_of_mem_words _ folded c small)
    have trimmed : Text.IsTrimmed word text.toList :=
      ⟨before, after, whole, blank, fun c first => solid c (List.mem_of_mem_head? first),
        fun c last => solid c (List.mem_of_getLast? last)⟩
    rwa [Text.trim_of_isTrimmed trimmed]

theorem Means.unique {text : String} {first second : Bool} (means : Means text first)
    (also : Means text second) : first = second :=
  Option.some.inj ((parseSwitch?_foldWord.mpr means).symm.trans (parseSwitch?_foldWord.mpr also))

/-! ### Switches -/

section Switches

variable (settings : Settings) (switch : Switch) (value : Bool)

theorem get_set : (settings.set switch value).get switch = value := by
  cases switch <;> rfl

theorem get_set_of_ne {other : Switch} (different : other ≠ switch) :
    (settings.set switch value).get other = settings.get other := by
  cases switch <;> cases other <;> first | rfl | contradiction

theorem base_set : (settings.set switch value).base = settings.base := by
  cases switch <;> rfl

theorem Switch.mem_all : switch ∈ Switch.all := by
  cases switch <;> decide

end Switches

theorem eq_of_get_eq {left right : Settings} (base : left.base = right.base)
    (switches : ∀ switch, left.get switch = right.get switch) : left = right := by
  obtain ⟨_, _, _, _, _, _⟩ := left
  obtain ⟨_, _, _, _, _, _⟩ := right
  simp only [mk.injEq]
  exact ⟨base, switches .showAddress, switches .showTemplate, switches .showStops,
    switches .showRawBits, switches .strict⟩

/-! ### Variables of switches -/

/-- The variable of the switch is a word for on or off, if it is set. -/
def IsReadable (environment : Environment) (switch : Switch) : Prop :=
  ∀ text ∈ environment switch.variableName, ∃ value, Means text value

/-- The variables of some switches replace what lies below them, and nothing else is replaced. -/
structure Overlays (environment : Environment) (switches : List Switch)
    (lower upper : Settings) : Prop where
  base : upper.base = lower.base
  means : ∀ switch ∈ switches, ∀ text ∈ environment switch.variableName,
    Means text (upper.get switch)
  kept : ∀ switch, (switch ∈ switches → environment switch.variableName = none) →
    upper.get switch = lower.get switch

section Variables

variable {environment : Environment} {switches : List Switch} {lower upper : Settings}

theorem Overlays.cons_unset {switch : Switch} (unset : environment switch.variableName = none)
    (overlays : Overlays environment switches lower upper) :
    Overlays environment (switch :: switches) lower upper where
  base := overlays.base
  means := by
    intro other member text set
    rcases List.mem_cons.mp member with rfl | later
    · rw [unset] at set
      cases set
    · exact overlays.means other later text set
  kept := fun other none => overlays.kept other fun later => none (List.mem_cons_of_mem _ later)

/-- A switch may come twice: its variable then says the same again. -/
theorem Overlays.cons_set {switch : Switch} {text : String} {value : Bool}
    (set : environment switch.variableName = some text) (means : Means text value)
    (overlays : Overlays environment switches (lower.set switch value) upper) :
    Overlays environment (switch :: switches) lower upper where
  base := overlays.base.trans (lower.base_set switch value)
  means := by
    intro other member otherText otherSet
    by_cases later : other ∈ switches
    · exact overlays.means other later otherText otherSet
    · obtain rfl := (List.mem_cons.mp member).resolve_right later
      obtain rfl := Option.some.inj (set.symm.trans otherSet)
      rwa [overlays.kept other (absurd · later), get_set]
  kept := by
    intro other none
    have different : other ≠ switch := by
      rintro rfl
      rw [none List.mem_cons_self] at set
      cases set
    rw [overlays.kept other fun later => none (List.mem_cons_of_mem _ later),
      get_set_of_ne _ _ _ different]

/-- Variables that are applied to the last replace what they set. -/
theorem overlays_of_applySwitches
    (applied : applySwitches environment lower switches = (upper, none)) :
    Overlays environment switches lower upper := by
  induction switches generalizing lower with
  | nil =>
    cases applied
    exact ⟨rfl, by simp, fun _ _ => rfl⟩
  | cons switch rest ih =>
    rw [applySwitches] at applied
    split at applied
    next unset => exact (ih applied).cons_unset unset
    next text set =>
      split at applied
      next value read => exact (ih applied).cons_set set (parseSwitch?_foldWord.mp read)
      next => cases applied

theorem exists_applySwitches
    (readable : ∀ switch ∈ switches, IsReadable environment switch) (lower : Settings) :
    ∃ upper, applySwitches environment lower switches = (upper, none) := by
  induction switches generalizing lower with
  | nil => exact ⟨lower, rfl⟩
  | cons switch rest ih =>
    obtain ⟨first, others⟩ := List.forall_mem_cons.mp readable
    rw [applySwitches]
    split
    next unset => exact ih others lower
    next text set =>
      obtain ⟨value, means⟩ := first text set
      rw [parseSwitch?_foldWord.mpr means]
      exact ih others (lower.set switch value)

end Variables

end Settings

namespace CommandLine

open Settings Logged

/-! ### Options -/

/-- What an option makes of its switch. The other way round there is no option, and the template and
the stops have none. -/
def Options.forced? (options : Options) : Switch → Option Bool
  | .showAddress => if options.noAddress then some false else none
  | .showRawBits => if options.bits then some true else none
  | .strict => if options.strict then some true else none
  | .showTemplate | .showStops => none

/-- The settings are what the layers make of a file: each is what the highest layer that sets it
sets it to. -/
structure Options.Layers (options : Options) (environment : Environment)
    (file settings : Settings) : Prop where
  base : settings.base = (options.base.or (environment baseVariable)).getD file.base
  forced : ∀ switch, ∀ value ∈ options.forced? switch, settings.get switch = value
  means : ∀ switch, options.forced? switch = none → ∀ text ∈ environment switch.variableName,
    Means text (settings.get switch)
  kept : ∀ switch, options.forced? switch = none → environment switch.variableName = none →
    settings.get switch = file.get switch

section Layers

variable {options : Options} {environment : Environment} {file settings : Settings}

theorem Options.get_applyTo (options : Options) (settings : Settings) (switch : Switch) :
    (options.applyTo settings).get switch =
      (options.forced? switch).getD (settings.get switch) := by
  cases switch with
  | showAddress => cases given : options.noAddress <;> simp [Settings.get, applyTo, forced?, given]
  | showRawBits => cases given : options.bits <;> simp [Settings.get, applyTo, forced?, given]
  | strict => cases given : options.strict <;> simp [Settings.get, applyTo, forced?, given]
  | showTemplate | showStops => rfl

/-- The layers leave no choice. -/
theorem Options.Layers.unique {other : Settings} (layers : options.Layers environment file settings)
    (also : options.Layers environment file other) : settings = other := by
  apply eq_of_get_eq (layers.base.trans also.base.symm)
  intro switch
  cases given : options.forced? switch with
  | some value =>
    exact (layers.forced switch value given).trans (also.forced switch value given).symm
  | none =>
    cases set : environment switch.variableName with
    | some text =>
      exact (layers.means switch given text set).unique (also.means switch given text set)
    | none => exact (layers.kept switch given set).trans (also.kept switch given set).symm

/-- The base of the environment replaces that of the file before the switches are applied. -/
theorem applyVariables_eq (environment : Environment) (file : Settings) :
    file.applyVariables environment =
      applySwitches environment
        { file with base := (environment baseVariable).getD file.base } Switch.all := by
  rw [applyVariables]
  cases environment baseVariable <;> rfl

theorem layers_of_layer (loaded : layer options environment file = .ok settings) :
    (∀ switch, IsReadable environment switch) ∧ options.Layers environment file settings := by
  rw [layer, applyVariables_eq] at loaded
  split at loaded
  next upper applied =>
    obtain rfl := Except.ok.inj loaded
    have overlays := overlays_of_applySwitches applied
    refine ⟨fun switch text set => ⟨_, overlays.means switch switch.mem_all text set⟩,
      ?_, ?_, ?_, ?_⟩
    · rw [Options.applyTo, overlays.base]
      cases options.base <;> rfl
    · intro switch value given
      rw [options.get_applyTo, given, Option.getD_some]
    · intro switch free text set
      rw [options.get_applyTo, free]
      exact overlays.means switch switch.mem_all text set
    · intro switch free unset
      rw [options.get_applyTo, free]
      exact overlays.kept switch fun _ => unset
  next => cases loaded

theorem exists_layer (options : Options) (readable : ∀ switch, IsReadable environment switch)
    (file : Settings) :
    ∃ settings, layer options environment file = .ok settings := by
  have all : ∀ switch ∈ Switch.all, IsReadable environment switch := fun switch _ => readable switch
  obtain ⟨upper, applied⟩ :=
    exists_applySwitches all { file with base := (environment baseVariable).getD file.base }
  refine ⟨options.applyTo upper, ?_⟩
  rw [layer, applyVariables_eq, applied]

theorem layer_eq_ok_iff : layer options environment file = .ok settings ↔
    (∀ switch, IsReadable environment switch) ∧ options.Layers environment file settings := by
  constructor
  · exact layers_of_layer
  · rintro ⟨readable, layers⟩
    obtain ⟨other, loaded⟩ := exists_layer options readable file
    rw [loaded, layers.unique (layers_of_layer loaded).2]

end Layers

/-! ### The lowest layer -/

/-- What lies below the variables: what the document says that the options name, or the standard
settings if they name none. The document is the text of a file, encoded as UTF-8. -/
inductive LowestLayer (formats : Formats) (surroundings : Surroundings) :
    Option String → Settings → Prop
  | standard : LowestLayer formats surroundings none .standard
  | document {path text : String} {file : Settings}
      (holds : surroundings.read path = .ok text.toUTF8)
      (parsed : formats.readSettings text = .ok file) :
      LowestLayer formats surroundings (some path) file

section LowestLayer

variable {formats : Formats} {surroundings : Surroundings}

theorem fromUTF8?_eq_some_iff {bytes : ByteArray} {text : String} :
    String.fromUTF8? bytes = some text ↔ bytes = text.toUTF8 := by
  rw [String.fromUTF8?]
  constructor
  · intro decoded
    split at decoded
    · rw [← Option.some.inj decoded]
      rfl
    · cases decoded
  · rintro rfl
    exact dif_pos text.isValidUTF8

theorem readText_eq_ok_iff {path text : String} :
    readText surroundings path = .ok text ↔ surroundings.read path = .ok text.toUTF8 := by
  rw [readText]
  cases surroundings.read path with
  | error => simp [bind, Except.bind]
  | ok bytes =>
    rw [Except.ok.injEq, ← fromUTF8?_eq_some_iff]
    simp only [bind, Except.bind]
    cases String.fromUTF8? bytes <;> simp [pure, Except.pure, throw, throwThe, MonadExceptOf.throw]

theorem result_settingsFile_eq_ok_iff {path : Option String} {file : Settings} :
    (settingsFile formats surroundings path).result = .ok file ↔
      LowestLayer formats surroundings path file := by
  cases path with
  | none =>
    rw [settingsFile, result_pure, Except.ok.injEq]
    constructor
    · rintro rfl
      exact .standard
    · rintro ⟨⟩
      rfl
  | some path =>
    -- The text is read, that it was read is logged, and only then is it parsed.
    rw [settingsFile, result_bind, result_ofExcept]
    constructor
    · intro loaded
      obtain ⟨text, read, loaded⟩ := exists_of_bind_eq_ok loaded
      rw [result_bind, result_ofExcept] at loaded
      obtain ⟨_, _, parsed⟩ := exists_of_bind_eq_ok loaded
      exact .document (readText_eq_ok_iff.mp (eq_ok_of_mapError read)) (eq_ok_of_mapError parsed)
    · intro lowest
      cases lowest with
      | document holds parsed =>
        rw [readText_eq_ok_iff.mpr holds]
        simp only [Except.mapError, bind, Except.bind, say, result_ofExcept, parsed]

/-- A file says one thing only. -/
theorem LowestLayer.unique {path : Option String} {file other : Settings}
    (lowest : LowestLayer formats surroundings path file)
    (also : LowestLayer formats surroundings path other) : file = other :=
  Except.ok.inj ((result_settingsFile_eq_ok_iff.mpr lowest).symm.trans
    (result_settingsFile_eq_ok_iff.mpr also))

end LowestLayer

/-! ### All layers -/

/-- The surroundings differ in nothing that settings are made of, except for a base that a higher
layer replaces. -/
structure DifferInReplacedBase (formats : Formats) (options : Options)
    (surroundings other : Surroundings) : Prop where
  files : ∃ file otherFile, LowestLayer formats surroundings options.settings file ∧
    LowestLayer formats other options.settings otherFile ∧
    ∀ switch, otherFile.get switch = file.get switch
  switches : ∀ switch : Switch,
    other.environment switch.variableName = surroundings.environment switch.variableName
  replaced : options.base.isSome = true ∨
    (surroundings.environment baseVariable).isSome = true ∧
      other.environment baseVariable = surroundings.environment baseVariable

section Loading

variable {formats : Formats} {options : Options} {surroundings other : Surroundings} {settings : Settings}

theorem result_loadSettings_eq_ok_iff :
    (loadSettings formats options surroundings).result = .ok settings ↔
      ∃ file, LowestLayer formats surroundings options.settings file ∧
        (∀ switch, IsReadable surroundings.environment switch) ∧
        options.Layers surroundings.environment file settings := by
  simp only [← layer_eq_ok_iff, ← result_settingsFile_eq_ok_iff]
  rw [loadSettings, result_bind]
  cases (settingsFile formats surroundings options.settings).result with
  | error => simp [bind, Except.bind]
  | ok file =>
    simp only [bind, Except.bind, result_ofExcept, Except.ok.injEq, exists_eq_left']
    cases layer options surroundings.environment file <;> simp [Except.mapError]

theorem exists_result_loadSettings_iff :
    (∃ settings, (loadSettings formats options surroundings).result = .ok settings) ↔
      (∃ file, LowestLayer formats surroundings options.settings file) ∧
        ∀ switch, IsReadable surroundings.environment switch := by
  constructor
  · rintro ⟨settings, loaded⟩
    obtain ⟨file, read, readable, -⟩ := result_loadSettings_eq_ok_iff.mp loaded
    exact ⟨⟨file, read⟩, readable⟩
  · rintro ⟨⟨file, read⟩, readable⟩
    obtain ⟨settings, loaded⟩ := exists_layer options readable file
    exact ⟨settings, result_loadSettings_eq_ok_iff.mpr ⟨file, read, layer_eq_ok_iff.mp loaded⟩⟩

theorem DifferInReplacedBase.symm (differ : DifferInReplacedBase formats options surroundings other) :
    DifferInReplacedBase formats options other surroundings where
  files :=
    have ⟨file, otherFile, read, otherRead, same⟩ := differ.files
    ⟨otherFile, file, otherRead, read, fun switch => (same switch).symm⟩
  switches := fun switch => (differ.switches switch).symm
  replaced := by
    rcases differ.replaced with given | ⟨set, same⟩
    · exact .inl given
    · exact .inr ⟨same ▸ set, same.symm⟩

theorem DifferInReplacedBase.loads (differ : DifferInReplacedBase formats options surroundings other)
    (loaded : (loadSettings formats options surroundings).result = .ok settings) :
    (loadSettings formats options other).result = .ok settings := by
  rw [result_loadSettings_eq_ok_iff] at loaded ⊢
  obtain ⟨file, read, readable, layers⟩ := loaded
  obtain ⟨_, otherFile, again, otherRead, same⟩ := differ.files
  obtain rfl := again.unique read
  refine ⟨otherFile, otherRead, ?_, ?_, layers.forced, ?_, ?_⟩
  · intro switch
    rw [IsReadable, differ.switches]
    exact readable switch
  -- The base that counts lies above those that differ.
  · rw [layers.base]
    rcases differ.replaced with given | ⟨set, kept⟩
    · obtain ⟨base, given⟩ := Option.isSome_iff_exists.mp given
      simp only [given, Option.some_or, Option.getD_some]
    · obtain ⟨base, set⟩ := Option.isSome_iff_exists.mp set
      rw [kept, set, Option.or_some]
      rfl
  · intro switch free
    rw [differ.switches]
    exact layers.means switch free
  · intro switch free
    rw [differ.switches, same]
    exact layers.kept switch free

end Loading

/-- Settings are loaded if and only if the file is and every variable of a switch that is set is a
word for on or off. They are then what the layers make of the file. Where a higher layer sets the
base, it makes no difference what a lower one has in its place. -/
theorem settings_come_in_layers (formats : Formats) (options : Options)
    (surroundings : Surroundings) :
    ((∃ settings, (loadSettings formats options surroundings).result = .ok settings) ↔
      (∃ file, LowestLayer formats surroundings options.settings file) ∧
        ∀ switch, IsReadable surroundings.environment switch) ∧
    (∀ settings, (loadSettings formats options surroundings).result = .ok settings ↔
      ∃ file, LowestLayer formats surroundings options.settings file ∧
        (∀ switch, IsReadable surroundings.environment switch) ∧
        options.Layers surroundings.environment file settings) ∧
    ∀ other settings, DifferInReplacedBase formats options surroundings other →
      ((loadSettings formats options other).result = .ok settings ↔
        (loadSettings formats options surroundings).result = .ok settings) :=
  ⟨exists_result_loadSettings_iff, fun _ => result_loadSettings_eq_ok_iff,
    fun _ _ differ => ⟨differ.symm.loads, differ.loads⟩⟩

/-- The option replaces a base of the file that is no address. -/
theorem settings_come_in_layers_rubbish :
    ∃ (options : Options) (surroundings other : Surroundings) (settings : Settings),
      options.settings = some "settings" ∧
      surroundings.read "settings" =
        .ok "base = 'rubbish'\nshow_stops = false # unclear\nstrict = false\n".toUTF8 ∧
      other.read "settings" = .ok "show_stops = false".toUTF8 ∧
      surroundings.environment "IA64DEC_STRICT" = some " TRUE " ∧
      DifferInReplacedBase .standard options surroundings other ∧
      (loadSettings .standard options surroundings).result = .ok settings ∧
      (loadSettings .standard options other).result = .ok settings ∧
      settings = ⟨"0x10", false, true, false, true, true⟩ := by
  let options : Options :=
    { input := "", hex := false, json := false, bits := true, noAddress := true, strict := false,
      base := some "0x10", start := none, count := none, settings := some "settings"
      trace := none }
  let holding (text : String) : Surroundings := { Surroundings.holding text.toUTF8 with
    environment := ([("IA64DEC_STRICT", " TRUE ")].lookup ·) }
  let based := holding "base = 'rubbish'\nshow_stops = false # unclear\nstrict = false\n"
  let bare := holding "show_stops = false"
  have lowest : LowestLayer .standard based options.settings
      ⟨"rubbish", true, true, false, false, false⟩ :=
    .document rfl (by decide +kernel)
  have otherLowest : LowestLayer .standard bare options.settings
      ⟨"0", true, true, false, false, false⟩ :=
    .document rfl (by decide +kernel)
  have means : Means " TRUE " true :=
    ⟨[' '], ['T', 'R', 'U', 'E'], [' '], by decide, by simp [Text.isBlank], by decide⟩
  have readable : ∀ switch, IsReadable based.environment switch := by
    intro switch text set
    cases switch with
    | strict =>
      obtain rfl := Option.some.inj set
      exact ⟨true, means⟩
    | showAddress | showTemplate | showStops | showRawBits => cases set
  have layers : options.Layers based.environment ⟨"rubbish", true, true, false, false, false⟩
      ⟨"0x10", false, true, false, true, true⟩ := by
    refine ⟨rfl, ?_, ?_, ?_⟩
    · intro switch value given
      cases switch <;> cases given <;> rfl
    · intro switch free text set
      cases switch with
      | strict =>
        obtain rfl := Option.some.inj set
        exact means
      | showAddress | showTemplate | showStops | showRawBits => cases set
    · intro switch free unset
      cases switch with
      | showTemplate | showStops => rfl
      | showAddress | showRawBits => cases free
      | strict => cases unset
  -- The two files differ in the base, which the option replaces.
  have differ : DifferInReplacedBase .standard options based bare :=
    ⟨⟨_, _, lowest, otherLowest, fun switch => by cases switch <;> rfl⟩, fun _ => rfl, .inl rfl⟩
  obtain ⟨_, loaded_iff, harmless⟩ := settings_come_in_layers .standard options based
  have loaded := (loaded_iff _).mpr ⟨_, lowest, readable, layers⟩
  exact ⟨options, based, bare, _, rfl, rfl, rfl, rfl, differ, loaded,
    (harmless bare _ differ).mpr loaded, rfl⟩

end CommandLine

end Itanium
