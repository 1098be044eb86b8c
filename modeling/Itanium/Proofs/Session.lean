import Itanium.CommandLine.Session
import Itanium.Proofs.Operands

/-!
# What a session shows

A session shows each bundle that it visits on its own: its lines on standard output, its record and
its line in the trace depend on nothing but the bundle. One step notes a bundle and shows it, or notes
it and ends the session. So a session visits its whole window, or, if it is strict, ends at the first
bundle that does not decode, which is traced but not printed.
-/
namespace Itanium

/-! ### Traces -/

namespace Tracer

theorem enabled_record (tracer : Tracer) (address : Word) (bytes : Vector UInt8 16)
    (bundle : Option Bundle) : (tracer.record address bytes bundle).enabled = tracer.enabled := by
  rw [record]
  split <;> rfl

/-- A tracer that is on notes one line behind all others, flushed or not. -/
theorem close_record {tracer : Tracer} (enabled : tracer.enabled = true) (address : Word)
    (bytes : Vector UInt8 16) (bundle : Option Bundle) :
    (tracer.record address bytes bundle).close =
      tracer.close ++ [line address (RawBundle.ofBytes bytes) bundle] := by
  rw [record, if_pos enabled]
  simp only [close, flush, List.append_assoc]

theorem close_flush (tracer : Tracer) : tracer.flush.close = tracer.close := by
  simp only [close, flush, List.append_nil]

end Tracer

namespace CommandLine

/-! ### One bundle -/

namespace Placed

/-- What a bundle decodes to. -/
def bundle? (placed : Placed) : Option Bundle :=
  (Bundle.ofBytes placed.2).toOption

def isValid (placed : Placed) : Bool :=
  placed.bundle?.isSome

/-- The record of a bundle. -/
def record (placed : Placed) : Json :=
  CommandLine.record placed.1 placed.bundle?

/-- The lines of a bundle on standard output. -/
def block (flags : Listing.Flags) (placed : Placed) : List String :=
  Listing.block flags (RawBundle.ofBytes placed.2) placed.1 placed.bundle?

/-- The line of a bundle in a trace. -/
def traceLine (placed : Placed) : String :=
  Tracer.line placed.1 (RawBundle.ofBytes placed.2) placed.bundle?

theorem exists_decode_eq (placed : Placed) :
    ∃ reasons, decode placed.2 = (placed.bundle?, reasons) := by
  rw [decode, bundle?]
  cases Bundle.ofBytes placed.2 <;> exact ⟨_, rfl⟩

/-- The record leaves out the bundles that do not decode, and no others. -/
theorem record_null_iff (placed : Placed) :
    placed.record.member? "bundle" = some .null ↔ placed.isValid = false := by
  rw [isValid, record]
  cases placed.bundle? with
  | some bundle => exact iff_of_false nofun nofun
  | none => exact iff_of_true rfl rfl

theorem exists_traceLine_of_invalid {placed : Placed} (invalid : placed.isValid = false) :
    ∃ front, placed.traceLine = front ++ "<invalid>" := by
  rw [isValid] at invalid
  rw [traceLine]
  cases decoded : placed.bundle? with
  | some => rw [decoded] at invalid; cases invalid
  | none => exact ⟨_, rfl⟩

end Placed

/-! ### How far a session comes -/

namespace Session

/-- A tracer that has noted bundles one after the other. -/
def noted (tracer : Tracer) (bundles : List Placed) : Tracer :=
  bundles.foldl (fun tracer placed => tracer.record placed.1 placed.2 placed.bundle?) tracer

theorem close_noted {tracer : Tracer} (enabled : tracer.enabled = true) (bundles : List Placed) :
    (noted tracer bundles).close = tracer.close ++ bundles.map Placed.traceLine := by
  induction bundles generalizing tracer with
  | nil => exact (List.append_nil _).symm
  | cons placed rest ih =>
    rw [noted, List.foldl_cons, ← noted, ih ((Tracer.enabled_record ..).trans enabled),
      Tracer.close_record enabled, List.append_assoc]
    rfl

variable {session : Session} {progress : Progress} {visited shown : List Placed} {placed : Placed}

/-- The session has visited some bundles, and shown some. What it counts and traces are the bundles
that it has visited; what it prints or keeps to be recorded are those that it has shown. -/
structure HasCome (session : Session) (progress : Progress) (visited shown : List Placed) :
    Prop where
  output : progress.output =
    if session.json then [] else shown.flatMap (Placed.block session.flags)
  decoded : progress.decoded =
    if session.json then shown.map fun placed => (placed.1, placed.bundle?) else []
  tracer : progress.tracer = session.tracer.map (noted · visited)
  total : progress.total = visited.length
  invalid : progress.invalid = visited.countP (!·.isValid)

theorem hasCome_start (session : Session) : session.HasCome session.start [] [] where
  output := by simp [start]
  decoded := by simp [start]
  tracer := by simp [start, noted]
  total := rfl
  invalid := rfl

/-! ### One step -/

section Step

variable (come : session.HasCome progress visited shown)

include come

theorem hasCome_note_of_valid (valid : placed.isValid = true) (reasons : List Log.Entry) :
    session.HasCome (progress.note placed placed.bundle? reasons) (visited ++ [placed]) shown where
  output := come.output
  decoded := come.decoded
  tracer := by simp [Progress.note, come.tracer, noted, Function.comp_def]
  total := by simp [Progress.note, come.total]
  invalid := by simp [Progress.note, come.invalid, valid]

theorem hasCome_warn_of_invalid (invalid : placed.isValid = false) (reasons : List Log.Entry)
    (failure : Failure) :
    session.HasCome ((progress.note placed placed.bundle? reasons).warn failure)
      (visited ++ [placed]) shown where
  output := come.output
  decoded := come.decoded
  tracer := by simp [Progress.warn, Progress.note, come.tracer, noted, Function.comp_def]
  total := by simp [Progress.warn, Progress.note, come.total]
  invalid := by simp [Progress.warn, Progress.note, come.invalid, invalid]

/-- To show a bundle changes nothing else. -/
theorem hasCome_present (placed : Placed) :
    session.HasCome (session.present progress placed placed.bundle?) visited
      (shown ++ [placed]) := by
  rw [present]
  split
  next json => exact { come with
    output := by simp [come.output, json]
    decoded := by simp [come.decoded, json] }
  next text => exact { come with
    output := by simp [come.output, text, Placed.block]
    decoded := by simp [come.decoded, text] }

/-- A bundle that does not end the session is noted and shown. -/
theorem step_of_goesOn (goesOn : session.strict = false ∨ placed.isValid = true) :
    ∃ next, session.step progress placed = (next, none) ∧
      session.HasCome next (visited ++ [placed]) (shown ++ [placed]) := by
  obtain ⟨reasons, decodes⟩ := placed.exists_decode_eq
  have validity : placed.isValid = placed.bundle?.isSome := rfl
  simp only [step, decodes]
  cases decoded : placed.bundle? with
  | some bundle =>
    rw [decoded] at validity
    have come := hasCome_present (hasCome_note_of_valid come validity reasons) placed
    rw [decoded] at come
    exact ⟨_, rfl, come⟩
  -- The bundle is counted and warned of before it is shown all the same.
  | none =>
    rw [decoded] at validity
    have lenient : session.strict = false := goesOn.resolve_right (by simp [validity])
    have come := hasCome_present
      (hasCome_warn_of_invalid come validity reasons (.invalidBundle placed.1)) placed
    rw [decoded] at come
    rw [lenient, if_neg Bool.false_ne_true]
    exact ⟨_, rfl, come⟩

/-- A bundle that ends the session is noted, but not shown. -/
theorem step_of_ends (strict : session.strict = true) (invalid : placed.isValid = false) :
    ∃ last, session.step progress placed = (last, some (.invalidBundle placed.1)) ∧
      session.HasCome last (visited ++ [placed]) shown := by
  obtain ⟨reasons, decodes⟩ := placed.exists_decode_eq
  have decoded : placed.bundle? = none := by simpa [Placed.isValid] using invalid
  have come := hasCome_warn_of_invalid come invalid reasons (.invalidBundle placed.1)
  rw [decoded] at come decodes
  simp only [step, decodes, strict, if_pos]
  exact ⟨_, rfl, come⟩

end Step

/-! ### All steps -/

/-- As long as no bundle ends the session, all are noted and shown. -/
theorem visit_of_goesOn (come : session.HasCome progress visited visited) {rest : List Placed}
    (goesOn : ∀ placed ∈ rest, session.strict = false ∨ placed.isValid = true) :
    ∃ next, session.visit progress rest = (next, none) ∧
      session.HasCome next (visited ++ rest) (visited ++ rest) := by
  -- By induction on what remains; up to here the session has shown all that it has visited.
  induction rest generalizing progress visited with
  | nil => exact ⟨progress, rfl, by rwa [List.append_nil]⟩
  | cons placed rest ih =>
    obtain ⟨next, step, come⟩ := step_of_goesOn come (goesOn placed List.mem_cons_self)
    obtain ⟨last, visits, come⟩ :=
      ih come fun placed member => goesOn placed (List.mem_cons_of_mem _ member)
    rw [List.append_assoc] at come
    refine ⟨last, ?_, come⟩
    simp only [visit, step, visits]

/-- Behind bundles that do not end it, the session goes on from where it has come. -/
theorem visit_append {next : Progress} {before : List Placed}
    (visits : session.visit progress before = (next, none)) (after : List Placed) :
    session.visit progress (before ++ after) = session.visit next after := by
  induction before generalizing progress with
  | nil =>
    cases visits
    rfl
  | cons placed rest ih =>
    cases step : session.step progress placed with
    | mk moved failure? =>
      cases failure? with
      | none =>
        simp only [visit, step] at visits
        simp only [List.cons_append, visit, step]
        exact ih visits
      | some _ => simp [visit, step] at visits

/-- What comes behind a bundle that ends the session is not visited. -/
theorem visit_of_ends (come : session.HasCome progress visited visited)
    {before : List Placed} {stop : Placed} (strict : session.strict = true)
    (valid : ∀ placed ∈ before, placed.isValid = true) (invalid : stop.isValid = false)
    (after : List Placed) :
    ∃ last, session.visit progress (before ++ stop :: after) =
        (last, some (.invalidBundle stop.1)) ∧
      session.HasCome last (visited ++ before ++ [stop]) (visited ++ before) := by
  obtain ⟨next, visits, come⟩ :=
    visit_of_goesOn come fun placed member => .inr (valid placed member)
  obtain ⟨last, step, come⟩ := step_of_ends come strict invalid
  refine ⟨last, ?_, come⟩
  rw [visit_append visits]
  simp only [visit, step]

/-! ### Where a session ends -/

/-- The session visits its whole window: no bundle of it is one that ends the session. -/
def GoesThrough (session : Session) : Prop :=
  ∀ placed ∈ session.window, session.strict = false ∨ placed.isValid = true

/-- The session ends at a bundle, the first of its window that does not decode. -/
structure StopsAt (session : Session) (before : List Placed) (stop : Placed)
    (after : List Placed) : Prop where
  window : session.window = before ++ stop :: after
  strict : session.strict = true
  valid : ∀ placed ∈ before, placed.isValid = true
  invalid : stop.isValid = false

theorem exists_stopsAt (strict : session.strict = true)
    (invalid : ∃ placed ∈ session.window, placed.isValid = false) :
    ∃ before stop after, session.StopsAt before stop after := by
  have some : (session.window.find? (!·.isValid)).isSome = true := by
    simpa using invalid
  obtain ⟨stop, found⟩ := Option.isSome_iff_exists.mp some
  obtain ⟨stops, before, after, window, valid⟩ := List.find?_eq_some_iff_append.mp found
  exact ⟨before, stop, after, window, strict, by simpa using valid, by simpa using stops⟩

/-! ### What has been shown by then -/

/-- The entry that ends the log of a session that visits its whole window. -/
def summary (visited invalid : Nat) : Log.Entry :=
  ⟨.commandLine, .info, "Decoded " ++ Numeral.decimal visited ++ " bundles, " ++
    Numeral.decimal invalid ++ " invalid"⟩

/-- A session that visits its whole window shows all of it, and says how many bundles that were. -/
structure ShowsAll (formats : Formats) (session : Session) : Prop where
  failure : (session.run formats).2 = none
  output : (session.run formats).1.output =
    if session.json then [formats.printJson (.list (session.window.map Placed.record))]
    else session.window.flatMap (Placed.block session.flags)
  trace : (session.run formats).1.tracer.map Tracer.close =
    session.tracer.map fun tracer => (noted tracer session.window).close
  getLast?_log : (session.run formats).1.log.getLast? =
    some (summary session.window.length (session.window.countP (!·.isValid)))

/-- A session that ends early shows what comes before the bundle at which it ends, and traces that
bundle as well. -/
structure ShowsUpTo (formats : Formats) (session : Session) (before : List Placed) (stop : Placed) :
    Prop where
  failure : (session.run formats).2 = some (.invalidBundle stop.1)
  output : (session.run formats).1.output =
    if session.json then [] else before.flatMap (Placed.block session.flags)
  trace : (session.run formats).1.tracer.map Tracer.close =
    session.tracer.map fun tracer => (noted tracer (before ++ [stop])).close

theorem showsAll (formats : Formats) (through : session.GoesThrough) :
    session.ShowsAll formats := by
  obtain ⟨last, visits, come⟩ := visit_of_goesOn session.hasCome_start through
  have run : session.run formats = (session.finish formats last, none) := by
    simp only [Session.run, visits]
  rw [List.nil_append] at come
  refine ⟨?_, ?_, ?_, ?_⟩ <;> rw [run]
  · change (if session.json then _ else _) = _
    rw [come.output, come.decoded]
    cases session.json with
    | false => rfl
    | true =>
      simp only [if_pos, List.nil_append, List.map_map]
      rfl
  · simp only [finish, come.tracer, Option.map_map, Function.comp_def, Tracer.close_flush]
  · rw [finish, List.getLast?_concat, come.total, come.invalid]
    rfl

theorem showsUpTo (formats : Formats) {before after : List Placed} {stop : Placed}
    (stops : session.StopsAt before stop after) : session.ShowsUpTo formats before stop := by
  obtain ⟨last, visits, come⟩ :=
    visit_of_ends session.hasCome_start stops.strict stops.valid stops.invalid after
  have run : session.run formats = (last, some (.invalidBundle stop.1)) := by
    simp only [Session.run, stops.window, visits]
  rw [List.nil_append] at come
  refine ⟨?_, ?_, ?_⟩ <;> rw [run]
  · exact come.output
  · rw [come.tracer, Option.map_map]
    rfl

end Session

end CommandLine

end Itanium
