import Itanium.Proofs.Run

/-!
# Strict runs

A strict run over a window does what any other run does until it meets a bundle that does not decode.
That bundle it still traces, and then it ends: of the text it has printed what comes before the bundle,
of the trace it has written what ends with it, and records, which are printed together at the end, it
has printed none.
-/
namespace Itanium.CommandLine

/-- What a strict run shows that ends at a bundle, next to a run that does not end there. -/
structure CutsShort (report strictReport : Report) (session : Session) (before : List Placed)
    (stop : Placed) (after : List Placed) : Prop where
  text : session.json = false →
    strictReport.output = before.flatMap (Placed.block session.flags) ∧
      report.output = strictReport.output ++ (stop :: after).flatMap (Placed.block session.flags)
  records : session.json = true → strictReport.output = []
  trace : strictReport.trace = report.trace.map fun (path, lines) =>
    (path, lines.take (before.length + 2))
  lastLine : ∀ path lines, strictReport.trace = some (path, lines) →
    lines.getLast? = some stop.traceLine ∧ ∃ front, stop.traceLine = front ++ "<invalid>"

section Runs

variable {formats : Formats} {options strictOptions : Options}
  {surroundings strictSurroundings : Surroundings} {session : Session}
  (prepared : (prepare formats options surroundings).result = .ok session)
  (lenient : session.strict = false)
  (strictPrepared : (prepare formats strictOptions strictSurroundings).result =
    .ok { session with strict := true })
  (sameTrace : strictOptions.trace = options.trace)

include prepared lenient strictPrepared sameTrace

theorem same_of_valid (valid : ∀ placed ∈ session.window, placed.isValid = true) :
    let report := run formats options surroundings
    let strictReport := run formats strictOptions strictSurroundings
    strictReport.output = report.output ∧ strictReport.trace = report.trace ∧
      strictReport.exitCode = report.exitCode := by
  have covers := covers_of_prepared prepared fun _ _ => .inl lenient
  have strictCovers := covers_of_prepared strictPrepared fun _ member => .inr (valid _ member)
  have json : strictOptions.json = options.json :=
    (sinks_of_prepared strictPrepared).1.symm.trans (sinks_of_prepared prepared).1
  refine ⟨?_, ?_, ?_⟩
  · cases presented : options.json with
    | false => rw [covers.text presented, strictCovers.text (json.trans presented)]
    | true => rw [covers.records presented, strictCovers.records (json.trans presented)]
  · rw [covers.trace, strictCovers.trace, Options.traceOf, sameTrace, ← Options.traceOf]
  · rw [covers.exitCode, strictCovers.exitCode]

theorem cutsShort_of_stopsAt {before after : List Placed} {stop : Placed}
    (stops : { session with strict := true : Session }.StopsAt before stop after) :
    CutsShort (run formats options surroundings) (run formats strictOptions strictSurroundings)
      session before stop after := by
  have covers := covers_of_prepared prepared fun _ _ => .inl lenient
  have window : session.window = before ++ stop :: after := stops.window
  have json := (sinks_of_prepared prepared).1
  have shows := Session.showsUpTo formats stops
  have output : (run formats strictOptions strictSurroundings).output =
      if session.json then [] else before.flatMap (Placed.block session.flags) := by
    rw [run_of_prepared strictPrepared]
    exact shows.output
  have trace : (run formats strictOptions strictSurroundings).trace =
      options.traceOf (before ++ [stop]) := by
    rw [trace_of_prepared strictPrepared shows.trace, Options.traceOf, sameTrace, Options.traceOf]
  refine ⟨?_, ?_, ?_, ?_⟩
  · intro text
    have printed : (run formats strictOptions strictSurroundings).output =
        before.flatMap (Placed.block session.flags) := by
      rw [output, text, if_neg Bool.false_ne_true]
    refine ⟨printed, ?_⟩
    rw [covers.text (json.symm.trans text), printed, window, List.flatMap_append]
  · intro records
    rw [output, records, if_pos rfl]
  -- What is kept are the header, the bundles before the stop, and the stop.
  · have cut : (Tracer.header :: session.window.map Placed.traceLine).take (before.length + 2) =
        Tracer.header :: (before ++ [stop]).map Placed.traceLine := by
      rw [window, List.take_succ_cons, List.append_cons, List.map_append, List.take_left' (by simp)]
    rw [trace, covers.trace, Options.traceOf, Options.traceOf, Option.map_map]
    simp only [Function.comp_def, cut]
  · intro path lines written
    rw [trace, Options.traceOf] at written
    obtain ⟨_, -, same⟩ := Option.map_eq_some_iff.mp written
    obtain ⟨-, rfl⟩ := Prod.mk.inj same
    refine ⟨?_, Placed.exists_traceLine_of_invalid stops.invalid⟩
    rw [List.map_append, List.map_singleton, ← List.cons_append, List.getLast?_concat]

end Runs

/-- Strictness changes nothing if each bundle of the window decodes, and else cuts off what the run
shows. The option makes any run strict; so may a variable or a file of settings. As JSON a run prints
one array, or nothing. -/
theorem strict_only_truncates {formats : Formats} {options : Options} {surroundings : Surroundings}
    {session : Session} (prints : formats.PrintsJson)
    (prepared : (prepare formats options surroundings).result = .ok session)
    (lenient : session.strict = false) :
    (prepare formats { options with strict := true } surroundings).result =
        .ok { session with strict := true } ∧
      ∀ strictOptions strictSurroundings,
        (prepare formats strictOptions strictSurroundings).result =
          .ok { session with strict := true } →
        strictOptions.trace = options.trace →
        let report := run formats options surroundings
        let strictReport := run formats strictOptions strictSurroundings
        ((∀ placed ∈ session.window, placed.isValid = true) →
            strictReport.output = report.output ∧ strictReport.trace = report.trace ∧
              strictReport.exitCode = report.exitCode) ∧
          ((∃ placed ∈ session.window, placed.isValid = false) →
            ∃ before stop after, session.window = before ++ stop :: after ∧
              (∀ placed ∈ before, placed.isValid = true) ∧ stop.isValid = false ∧
              Fails formats strictOptions strictSurroundings (.invalidBundle stop.1) ∧
              CutsShort report strictReport session before stop after) ∧
          (session.json = true →
            (∃ text, report.output = [text] ∧ ∀ value : Json, value.Spells text.toList ↔
              value = .list (session.window.map Placed.record)) ∧
              (strictReport.output = [] ∨ strictReport.output = report.output)) := by
  have strictPrepared : (prepare formats { options with strict := true } surroundings).result =
      .ok { session with strict := true } := by
    rw [result_prepare_strict, prepared]
    rfl
  refine ⟨strictPrepared, ?_⟩
  intro strictOptions strictSurroundings strictPrepared sameTrace
  have same := same_of_valid prepared lenient strictPrepared sameTrace
  have cut (invalid : ∃ placed ∈ session.window, placed.isValid = false) :
      ∃ before stop after, session.window = before ++ stop :: after ∧
        (∀ placed ∈ before, placed.isValid = true) ∧ stop.isValid = false ∧
        Fails formats strictOptions strictSurroundings (.invalidBundle stop.1) ∧
        CutsShort (run formats options surroundings)
          (run formats strictOptions strictSurroundings) session before stop after := by
    obtain ⟨before, stop, after, stops⟩ :=
      @Session.exists_stopsAt { session with strict := true } rfl invalid
    exact ⟨before, stop, after, stops.window, stops.valid, stops.invalid,
      fails_of_session strictPrepared (Session.showsUpTo formats stops).failure,
      cutsShort_of_stopsAt prepared lenient strictPrepared sameTrace stops⟩
  refine ⟨same, cut, ?_⟩
  intro records
  have covers := covers_of_prepared prepared fun _ _ => .inl lenient
  have presented := (sinks_of_prepared prepared).1.symm.trans records
  refine ⟨⟨_, covers.records presented, prints.spells_iff _⟩, ?_⟩
  -- Records are printed at the end only, so a run that ends early has printed nothing.
  by_cases invalid : ∃ placed ∈ session.window, placed.isValid = false
  · obtain ⟨_, _, _, _, _, _, _, short⟩ := cut invalid
    exact .inl (short.records records)
  · have valid : ∀ placed ∈ session.window, placed.isValid = true := by simpa using invalid
    exact .inr (same valid).1

/-- A reserved template between two bundles that decode. -/
theorem strict_only_truncates_reserved :
    ∃ (options : Options) (surroundings : Surroundings) (session : Session),
      Formats.standard.PrintsJson ∧
        (prepare .standard options surroundings).result = .ok session ∧ session.strict = false ∧
        session.window.map (·.isValid) = [true, false, true] ∧
        Fails .standard { options with strict := true } surroundings (.invalidBundle 0x10) ∧
        (run .standard options surroundings).output.length = 7 ∧
        (run .standard { options with strict := true } surroundings).output =
          (run .standard options surroundings).output.take 3 ∧
        ∃ lines, (run .standard options surroundings).trace = some ("trace", lines) ∧
          lines.length = 4 ∧
          (run .standard { options with strict := true } surroundings).trace =
            some ("trace", lines.take 3) := by
  let options : Options := {
    input := "image", hex := false, json := false, bits := false, noAddress := false
    strict := false, base := some "0", start := none, count := none, settings := none
    trace := some "trace" }
  let surroundings : Surroundings := .holding ⟨(Array.replicate 48 0).set! 16 0x06⟩
  let image : Image :=
    ⟨0, (Array.replicate 48 0).set! 16 0x06, by decide, by decide, by decide⟩
  let settings : Settings := { Settings.standard with base := "0" }
  have loads : Loads .standard options surroundings settings image := ⟨rfl, 0, by decide, rfl⟩
  have prepared := result_prepare_of_startsAt loads (fun _ _ => rfl) .base
  have validity : (window image 0 none).map (·.isValid) = [true, false, true] := by decide
  have addresses : (window image 0 none).map (·.1) = [0, 0x10, 0x20] := by decide
  have covers := covers_of_prepared prepared fun _ _ => .inl rfl
  obtain ⟨strictPrepared, compare⟩ :=
    strict_only_truncates Formats.standard_printsJson prepared rfl
  obtain ⟨-, cut, -⟩ := compare _ _ strictPrepared rfl
  have invalid : ∃ placed ∈ window image 0 none, placed.isValid = false := by
    apply List.mem_map.mp
    rw [validity]
    decide
  obtain ⟨before, stop, after, visited, valid, invalid, fails, short⟩ := cut invalid
  have second : before.length = 1 ∧ stop.1 = 0x10 := by
    change window image 0 none = _ at visited
    rw [visited] at validity addresses
    -- The first bundle decodes, so one comes before the stop; the second does not, so no more do.
    rcases before with _ | ⟨first, _ | ⟨second, rest⟩⟩
    · simp [invalid] at validity
    · exact ⟨rfl, (List.cons.inj (List.cons.inj addresses).2).1⟩
    · simp [valid] at validity
  have trace := short.trace
  rw [covers.trace, second.1] at trace
  rw [second.2] at fails
  refine ⟨options, surroundings, _, Formats.standard_printsJson, prepared, rfl, validity, fails,
    by decide +kernel, by decide +kernel, _, covers.trace, ?_, trace⟩
  have visits : (window image 0 none).length = 3 := by simpa using congrArg List.length addresses
  rw [List.length_cons, List.length_map]
  exact congrArg (· + 1) visits

end Itanium.CommandLine
