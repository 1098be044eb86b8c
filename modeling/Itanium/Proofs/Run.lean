import Itanium.CommandLine.Run
import Itanium.Proofs.Image
import Itanium.Proofs.JsonReading
import Itanium.Proofs.Session

/-!
# What a run loads

Before a run visits a bundle it loads settings and an image, looks for the first bundle and creates the
file of the trace. A run that comes that far is a session over a window of the image. A run that does
not prints nothing, and reports its failure.
-/
namespace Itanium.CommandLine

open Logged

/-! ### Steps that log -/

namespace Logged

variable {α β ε : Type}

/-- What is logged on the way has no influence on the result. -/
theorem result_bind (step : Logged α) (next : α → Logged β) :
    (step >>= next).result = step.result >>= fun first => (next first).result := by
  obtain ⟨log, result⟩ := step
  cases result <;> rfl

/-- What comes first succeeds if the whole does. -/
theorem exists_of_bind_eq_ok {first : Except ε α} {next : α → Except ε β} {value : β}
    (whole : first >>= next = .ok value) : ∃ result, first = .ok result ∧ next result = .ok value := by
  cases first with
  | error => cases whole
  | ok result => exact ⟨result, rfl, whole⟩

theorem eq_ok_of_mapError {δ : Type} {failure : ε → δ} {result : Except ε α} {value : α}
    (mapped : result.mapError failure = .ok value) : result = .ok value := by
  cases result with
  | error => cases mapped
  | ok => exact congrArg Except.ok (Except.ok.inj mapped)

theorem result_pure (value : α) : (pure value : Logged α).result = .ok value :=
  rfl

theorem result_ofExcept (failure : ε → Failure) (result : Except ε α) :
    (ofExcept failure result).result = result.mapError failure :=
  rfl

end Logged

/-! ### Settings, image and trace -/

/-- The settings and the image that a run works with. -/
structure Loads (formats : Formats) (options : Options) (surroundings : Surroundings)
    (settings : Settings) (image : Image) : Prop where
  loadsSettings : (loadSettings formats options surroundings).result = .ok settings
  loadsImage : ∃ base, settings.baseAddress = .ok base ∧
    (loadImage options surroundings base).result = .ok image

/-- The file of the trace, if the options name one, can be created. -/
def CreatesTrace (options : Options) (surroundings : Surroundings) : Prop :=
  ∀ path ∈ options.trace, surroundings.create path = .ok ()

/-- The tracer of a run, if it has one. -/
def Options.tracer (options : Options) : Option Tracer :=
  options.trace.map fun _ => .start ""

theorem result_openTrace_of_creates {options : Options} {surroundings : Surroundings}
    (creates : CreatesTrace options surroundings) :
    (openTrace surroundings options.trace).result = .ok options.tracer := by
  rw [Options.tracer]
  cases named : options.trace with
  | none => rfl
  | some path =>
    rw [openTrace, result_bind, result_ofExcept, creates path named]
    rfl

theorem eq_tracer_of_result_openTrace {options : Options} {surroundings : Surroundings}
    {tracer : Option Tracer} (opens : (openTrace surroundings options.trace).result = .ok tracer) :
    tracer = options.tracer := by
  rw [Options.tracer]
  cases named : options.trace with
  | none =>
    rw [named] at opens
    exact (Except.ok.inj opens).symm
  | some path =>
    rw [named, openTrace, result_bind, result_ofExcept] at opens
    obtain ⟨_, _, opens⟩ := exists_of_bind_eq_ok opens
    exact (Except.ok.inj opens).symm

/-! ### The first bundle -/

/-- The address from which on bundles are visited: that of the bundle which contains a given address,
or else the base. -/
inductive StartsAt (image : Image) : Option String → Word → Prop
  | base : StartsAt image none image.base
  | given {text : String} {address : Word} (parsed : Address.parse text = .ok address)
      (inside : image.Contains address) : StartsAt image (some text) (address &&& ~~~0xF#64)

section Start

variable {image : Image}

theorem firstBundle_of_startsAt {text : Option String} {start : Word}
    (starts : StartsAt image text start) : firstBundle image text = .ok start := by
  cases starts with
  | base => rfl
  | given parsed inside =>
    obtain ⟨index, same⟩ := Image.contains_iff_exists_index.mp inside
    rw [firstBundle, parsed]
    simp only [Except.mapError, bind, Except.bind, Image.bundleAt_of_address_eq same, pure,
      Except.pure]
    rfl

/-- An address outside the image is refused. -/
theorem firstBundle_of_outside {text : String} {address : Word}
    (parsed : Address.parse text = .ok address) (outside : ¬image.Contains address) :
    firstBundle image (some text) =
      .error (.image (.outOfRange address image.base image.size)) := by
  have missing : image.bundleAt address = .error (.outOfRange address image.base image.size) := by
    apply Image.bundleAt_of_address_ne
    intro index same
    exact outside (Image.contains_iff_exists_index.mpr ⟨index, same⟩)
  rw [firstBundle, parsed]
  simp only [Except.mapError, bind, Except.bind, missing]

end Start

/-! ### Sessions -/

section Sessions

variable {formats : Formats} {options : Options} {surroundings : Surroundings}
  {settings : Settings} {image : Image} {session : Session}

theorem result_prepare (formats : Formats) (options : Options) (surroundings : Surroundings) :
    (prepare formats options surroundings).result = do
      let settings ← (loadSettings formats options surroundings).result
      let base ← settings.baseAddress.mapError .address
      let image ← (loadImage options surroundings base).result
      let start ← firstBundle image options.start
      let tracer ← (openTrace surroundings options.trace).result
      return {
        flags := settings.flags
        strict := settings.strict
        json := options.json
        tracer
        window := window image start options.count } := by
  have same (result : Except Failure Word) : result.mapError id = result := by
    cases result <;> rfl
  simp only [prepare, result_bind, result_ofExcept, result_pure, same]
  rfl

section Loaded

variable (loads : Loads formats options surroundings settings image)

include loads

/-- A run that loads what it needs is a session over the window that it asks for. -/
theorem result_prepare_of_startsAt (creates : CreatesTrace options surroundings) {start : Word}
    (starts : StartsAt image options.start start) :
    (prepare formats options surroundings).result = .ok {
      flags := settings.flags
      strict := settings.strict
      json := options.json
      tracer := options.tracer
      window := window image start options.count } := by
  -- No step of the preparation fails.
  obtain ⟨loadsSettings, base, based, loadsImage⟩ := loads
  have traced := result_openTrace_of_creates creates
  simp only [result_prepare, loadsSettings, based, loadsImage, firstBundle_of_startsAt starts,
    traced, Except.mapError, bind, Except.bind, pure, Except.pure]

theorem result_prepare_of_outside {text : String} {address : Word}
    (named : options.start = some text) (parsed : Address.parse text = .ok address)
    (outside : ¬image.Contains address) :
    (prepare formats options surroundings).result =
      .error (.image (.outOfRange address image.base image.size)) := by
  obtain ⟨loadsSettings, base, based, loadsImage⟩ := loads
  simp only [result_prepare, loadsSettings, based, loadsImage, named,
    firstBundle_of_outside parsed outside, Except.mapError, bind, Except.bind]

end Loaded

/-- The options alone say how a session presents bundles and whether it traces them. -/
theorem sinks_of_prepared (prepared : (prepare formats options surroundings).result = .ok session) :
    session.json = options.json ∧ session.tracer = options.tracer := by
  rw [result_prepare] at prepared
  obtain ⟨settings, -, prepared⟩ := exists_of_bind_eq_ok prepared
  obtain ⟨base, -, prepared⟩ := exists_of_bind_eq_ok prepared
  obtain ⟨image, -, prepared⟩ := exists_of_bind_eq_ok prepared
  obtain ⟨start, -, prepared⟩ := exists_of_bind_eq_ok prepared
  obtain ⟨tracer, opens, prepared⟩ := exists_of_bind_eq_ok prepared
  rw [← Except.ok.inj prepared]
  exact ⟨rfl, eq_tracer_of_result_openTrace opens⟩

/-- The option sets strictness over whatever the lower layers say. -/
theorem result_loadSettings_strict (formats : Formats) (options : Options)
    (surroundings : Surroundings) :
    (loadSettings formats { options with strict := true } surroundings).result =
      ({ · with strict := true }) <$> (loadSettings formats options surroundings).result := by
  rw [loadSettings, loadSettings, result_bind, result_bind]
  -- File and variables are read alike; the options are applied last, over what these say.
  cases (settingsFile formats surroundings options.settings).result with
  | error => rfl
  | ok lower =>
    simp only [bind, Except.bind, result_ofExcept, layer]
    rcases lower.applyVariables surroundings.environment with ⟨applied, error⟩
    cases error with
    | none => simp [Except.mapError, Functor.map, Except.map, Options.applyTo]
    | some => rfl

/-- With the option a run is the same session, but a strict one. -/
theorem result_prepare_strict (formats : Formats) (options : Options)
    (surroundings : Surroundings) :
    (prepare formats { options with strict := true } surroundings).result =
      ({ · with strict := true }) <$> (prepare formats options surroundings).result := by
  simp only [result_prepare, result_loadSettings_strict, bind_map_left, map_bind]
  rfl

end Sessions

/-! ### Reports -/

section Reports

variable {formats : Formats} {options : Options} {surroundings : Surroundings} {session : Session}

/-- A trace file with a header and a line for each of some bundles, if the options name one. -/
def Options.traceOf (options : Options) (bundles : List Placed) :
    Option (String × List String) :=
  options.trace.map fun path => (path, Tracer.header :: bundles.map Placed.traceLine)

section Prepared

variable (prepared : (prepare formats options surroundings).result = .ok session)

include prepared

theorem run_of_prepared :
    run formats options surroundings = {
      exitCode := if (session.run formats).2.isSome then 1 else 0
      output := (session.run formats).1.output
      log := greeting :: (prepare formats options surroundings).log ++
        (session.run formats).1.log ++ failureLog (session.run formats).2
      trace := do return (← options.trace, (← (session.run formats).1.tracer).close) } := by
  simp only [run, prepared]

/-- What is left of the tracer of a session is the file of the trace. -/
theorem trace_of_prepared {bundles : List Placed}
    (traced : (session.run formats).1.tracer.map Tracer.close =
      session.tracer.map fun tracer => (Session.noted tracer bundles).close) :
    (run formats options surroundings).trace = options.traceOf bundles := by
  have started : (Session.noted (.start "") bundles).close =
      Tracer.header :: bundles.map Placed.traceLine := Session.close_noted rfl bundles
  rw [(sinks_of_prepared prepared).2, Options.tracer, Option.map_map] at traced
  rw [run_of_prepared prepared, Options.traceOf]
  cases named : options.trace with
  | none => rfl
  | some path =>
    rw [named] at traced
    obtain ⟨tracer, left, same⟩ := Option.map_eq_some_iff.mp traced
    simp only [left, bind, Option.bind, same, Function.comp_apply, started]
    rfl

end Prepared

/-- The number of bundles visited and of those that did not decode, as the log tells them last. -/
def Report.Totals (report : Report) (visited invalid : Nat) : Prop :=
  report.log.getLast? = some (Session.summary visited invalid)

/-- The run visits these bundles one after the other, and shows nothing else. -/
structure Report.Covers (report : Report) (formats : Formats) (options : Options)
    (flags : Listing.Flags) (bundles : List Placed) : Prop where
  exitCode : report.exitCode = 0
  text : options.json = false → report.output = bundles.flatMap (Placed.block flags)
  records : options.json = true →
    report.output = [formats.printJson (.list (bundles.map Placed.record))]
  trace : report.trace = options.traceOf bundles
  totals : report.Totals bundles.length (bundles.countP (!·.isValid))

theorem covers_of_prepared (prepared : (prepare formats options surroundings).result = .ok session)
    (through : session.GoesThrough) :
    (run formats options surroundings).Covers formats options session.flags session.window := by
  have shows := Session.showsAll formats through
  have json := (sinks_of_prepared prepared).1
  refine ⟨?_, ?_, ?_, trace_of_prepared prepared shows.trace, ?_⟩ <;>
    rw [run_of_prepared prepared]
  · rw [shows.failure]
    rfl
  · intro text
    rw [shows.output, json, text, if_neg Bool.false_ne_true]
  · intro records
    rw [shows.output, json, records, if_pos rfl]
  · rw [Report.Totals, shows.failure, failureLog, List.append_nil, List.getLast?_append,
      shows.getLast?_log]
    rfl

/-- A run that loads what it needs and is not strict visits the window that it asks for. -/
theorem covers_of_startsAt {settings : Settings} {image : Image} {start : Word}
    (loads : Loads formats options surroundings settings image) (lenient : settings.strict = false)
    (creates : CreatesTrace options surroundings) (starts : StartsAt image options.start start) :
    (run formats options surroundings).Covers formats options settings.flags
      (window image start options.count) := by
  have prepared := result_prepare_of_startsAt loads creates starts
  exact covers_of_prepared prepared fun _ _ => .inl lenient

/-- The failure that ends a run, if one does. -/
def failure? (formats : Formats) (options : Options) (surroundings : Surroundings) :
    Option Failure :=
  match (prepare formats options surroundings).result with
  | .error failure => some failure
  | .ok session => (session.run formats).2

/-- The run ends with a failure and says so. -/
structure Fails (formats : Formats) (options : Options) (surroundings : Surroundings)
    (failure : Failure) : Prop where
  cause : failure? formats options surroundings = some failure
  exitCode : (run formats options surroundings).exitCode = 1
  logged : (run formats options surroundings).log.getLast? =
    some ⟨.commandLine, .error, failure.message⟩

theorem fails_of_session {failure : Failure}
    (prepared : (prepare formats options surroundings).result = .ok session)
    (failed : (session.run formats).2 = some failure) :
    Fails formats options surroundings failure where
  cause := by simp only [failure?, prepared, failed]
  exitCode := by rw [run_of_prepared prepared, failed, Option.isSome_some, if_pos rfl]
  logged := by
    rw [run_of_prepared prepared, failed, failureLog, List.getLast?_concat]

/-- A run that is no session fails, and neither prints nor traces. -/
theorem fails_of_prepared {failure : Failure}
    (refused : (prepare formats options surroundings).result = .error failure) :
    Fails formats options surroundings failure ∧ (run formats options surroundings).output = [] ∧
      (run formats options surroundings).trace = none := by
  have report : run formats options surroundings = {
      exitCode := 1
      output := []
      log := greeting :: (prepare formats options surroundings).log ++ failureLog (some failure)
      trace := none } := by
    simp only [run, refused]
  rw [report]
  refine ⟨⟨?_, ?_, ?_⟩, rfl, rfl⟩
  · simp only [failure?, refused]
  · rw [report]
  · rw [report, failureLog, List.getLast?_concat]

end Reports

/-- Surroundings without variables, in which every file holds the same bytes. -/
def Surroundings.holding (bytes : ByteArray) : Surroundings where
  environment := fun _ => none
  read := fun _ => .ok bytes
  create := fun _ => .ok ()

end Itanium.CommandLine
