import Itanium.Proofs.Run

/-!
# Windows

The window of a run is a slice of the bundles of its image: it begins with the bundle that contains
the start and reaches to the end of the image, or as far as a given number of bundles. A slice and the
one behind it make up a longer one, and so do the listings of runs over them, since each bundle is
listed on its own.
-/
namespace Itanium

/-! ### Slices of an image -/

namespace Image

variable {image : Image} {start : Word} {index : Nat}

/-- All addresses before the start are those of lower index. -/
theorem dropWhile_bundles (placed : start.toNat = image.base.toNat + 16 * index) :
    image.bundles.dropWhile (fun bundle => bundle.1 < start) = image.bundles.drop index := by
  have before : ∀ bundle ∈ image.bundles.take index, decide (bundle.1 < start) = true := by
    intro bundle member
    obtain ⟨position, listed, rfl⟩ := List.mem_iff_getElem.mp member
    rw [List.length_take] at listed
    rw [List.getElem_take, decide_eq_true_eq, BitVec.lt_def, toNat_getElem_bundles]
    omega
  have behind : (image.bundles.drop index).dropWhile (fun bundle => bundle.1 < start) =
      image.bundles.drop index := by
    apply List.dropWhile_eq_self_iff.mpr
    intro some
    rw [List.length_drop] at some
    rw [List.getElem_drop, decide_eq_true_eq, BitVec.lt_def, toNat_getElem_bundles]
    omega
  calc
    image.bundles.dropWhile (fun bundle => bundle.1 < start)
      = (image.bundles.take index ++ image.bundles.drop index).dropWhile
          (fun bundle => bundle.1 < start) := by rw [List.take_append_drop]
    _ = (image.bundles.drop index).dropWhile (fun bundle => bundle.1 < start) :=
        List.dropWhile_append_of_pos before
    _ = image.bundles.drop index := behind

/-- There are fewer bundles than words. -/
theorem bundleCount_lt (image : Image) : image.bundleCount < Word.count := by
  have bytes := image.addressable
  rw [bundleCount]
  omega

end Image

namespace CommandLine

/-- The bundles of an image from an address up to its end, and no more than a given number, each once
and in the order of their addresses. -/
structure IsWindow (image : Image) (start : Word) (count : Option Nat) (bundles : List Placed) :
    Prop where
  length : bundles.length = count.elim ((image.base.toNat + image.size.toNat - start.toNat) / 16)
    (min · ((image.base.toNat + image.size.toNat - start.toNat) / 16))
  toNat_address : ∀ index (listed : index < bundles.length),
    bundles[index].1.toNat = start.toNat + 16 * index
  mem_bundles : ∀ bundle ∈ bundles, bundle ∈ image.bundles

section Windows

variable {image : Image} {start : Word} {index : Nat}

/-- A run starts with a bundle of its image, or with its end if it is empty. -/
theorem exists_index_of_startsAt {text : Option String} (starts : StartsAt image text start) :
    ∃ index ≤ image.bundleCount, start.toNat = image.base.toNat + 16 * index := by
  cases starts with
  | base => exact ⟨0, Nat.zero_le _, rfl⟩
  | given _ inside =>
    obtain ⟨index, same⟩ := Image.contains_iff_exists_index.mp inside
    refine ⟨index, index.isLt.le, ?_⟩
    change (Image.bundleAddress _).toNat = _
    rw [← same, image.toNat_address index.isLt]

section Placed

variable (placed : start.toNat = image.base.toNat + 16 * index)

include placed

theorem window_eq (count : Option Nat) :
    window image start count = (image.bundles.drop index).take (count.getD (Word.count - 1)) := by
  rw [window, Image.dropWhile_bundles placed]

/-- Without a count there is none that could end the window before the image. -/
theorem window_none : window image start none = image.bundles.drop index := by
  have few := image.bundleCount_lt
  rw [window_eq placed, Option.getD_none]
  apply List.take_of_length_le
  rw [List.length_drop, image.length_bundles]
  omega

theorem window_some (count : Nat) :
    window image start (some count) = (image.bundles.drop index).take count :=
  window_eq placed (some count)

theorem isWindow_window (within : index ≤ image.bundleCount) (count : Option Nat) :
    IsWindow image start count (window image start count) := by
  have rest : (image.base.toNat + image.size.toNat - start.toNat) / 16 = image.bundleCount - index := by
    rw [image.toNat_size]
    omega
  have address {position : Nat} (listed : index + position < image.bundles.length) :
      image.bundles[index + position].1.toNat = start.toNat + 16 * position := by
    rw [image.toNat_getElem_bundles]
    omega
  cases count with
  | none =>
    rw [window_none placed]
    refine ⟨?_, ?_, ?_⟩
    · rw [List.length_drop, image.length_bundles, rest, Option.elim_none]
    · intro position listed
      rw [List.getElem_drop]
      exact address _
    · intro bundle member
      exact List.mem_of_mem_drop member
  | some count =>
    rw [window_some placed]
    refine ⟨?_, ?_, ?_⟩
    · rw [List.length_take, List.length_drop, image.length_bundles, rest, Option.elim_some]
    · intro position listed
      rw [List.getElem_take, List.getElem_drop]
      exact address _
    · intro bundle member
      exact List.mem_of_mem_drop (List.mem_of_mem_take member)

/-- A window and the one that starts where it ends make up one window. -/
theorem window_append {next : Word} {count : Nat} (follows : next.toNat = start.toNat + 16 * count)
    (more : Option Nat) :
    window image start (some count) ++ window image next more =
      window image start (more.map (count + ·)) := by
  -- The second window begins so many bundles further on in the same list.
  have placed' : next.toNat = image.base.toNat + 16 * (index + count) := by omega
  cases more with
  | none =>
    rw [window_some placed, window_none placed', Option.map_none, window_none placed,
      ← List.drop_drop, List.take_append_drop]
  | some more =>
    rw [window_some placed, window_some placed', Option.map_some, window_some placed,
      ← List.drop_drop, List.take_add]

end Placed

end Windows

/-! ### Runs over a window -/

/-- Runs over two windows print together what a run over both prints, and their totals add up. -/
theorem Report.Covers.append {formats : Formats} {firstOptions secondOptions wholeOptions : Options}
    {first second whole : Report} {flags : Listing.Flags} {bundles more : List Placed}
    (covers : first.Covers formats firstOptions flags bundles)
    (covers' : second.Covers formats secondOptions flags more)
    (covers'' : whole.Covers formats wholeOptions flags (bundles ++ more))
    (printed : firstOptions.json = false) (printed' : secondOptions.json = false)
    (printed'' : wholeOptions.json = false) :
    first.output ++ second.output = whole.output ∧
      ∃ visited invalid visited' invalid', first.Totals visited invalid ∧
        second.Totals visited' invalid' ∧ whole.Totals (visited + visited') (invalid + invalid') := by
  constructor
  · rw [covers.text printed, covers'.text printed', covers''.text printed'', List.flatMap_append]
  · have totals := covers''.totals
    rw [List.length_append, List.countP_append] at totals
    exact ⟨_, _, _, _, covers.totals, covers'.totals, totals⟩

/-- A run that is not strict visits a slice of its image and shows each bundle on its own; as JSON it
prints one text, which says the array of the records and nothing else. Runs over one slice and over the one behind it
therefore print what a run over both prints. A run that is to start outside its image fails and shows
nothing. -/
theorem windows_are_slices {formats : Formats} {options : Options} {surroundings : Surroundings}
    {settings : Settings} {image : Image} (prints : formats.PrintsJson)
    (loads : Loads formats options surroundings settings image)
    (lenient : settings.strict = false) (creates : CreatesTrace options surroundings) :
    (∀ start, StartsAt image options.start start →
        ∃ bundles, IsWindow image start options.count bundles ∧
          let report := run formats options surroundings
          report.Covers formats options settings.flags bundles ∧
            (options.json = true → ∃ text, report.output = [text] ∧
              ∀ value : Json, value.Spells text.toList ↔
                value = .list (bundles.map Placed.record))) ∧
      (∀ placed : Placed,
        placed.record.member? "bundle" = some .null ↔ placed.isValid = false) ∧
      (∀ start count text next more, options.json = false → StartsAt image options.start start →
        Address.parse text = .ok next → next.toNat = start.toNat + 16 * count →
        image.Contains next →
        let first := run formats { options with count := some count } surroundings
        let second := run formats { options with start := some text, count := more } surroundings
        let whole := run formats { options with count := more.map (count + ·) } surroundings
        first.output ++ second.output = whole.output ∧
          ∃ visited invalid visited' invalid', first.Totals visited invalid ∧
            second.Totals visited' invalid' ∧
            whole.Totals (visited + visited') (invalid + invalid')) ∧
      ∀ text address, options.start = some text → Address.parse text = .ok address →
        ¬image.Contains address →
        Fails formats options surroundings (.image (.outOfRange address image.base image.size)) ∧
          (run formats options surroundings).output = [] ∧
          (run formats options surroundings).trace = none := by
  refine ⟨?_, Placed.record_null_iff, ?_, ?_⟩
  · intro start starts
    obtain ⟨index, within, placed⟩ := exists_index_of_startsAt starts
    have covers := covers_of_startsAt loads lenient creates starts
    exact ⟨_, isWindow_window placed within options.count, covers,
      fun records => ⟨_, covers.records records, prints.spells_iff _⟩⟩
  · intro start count text next more printed starts parsed follows inside
    obtain ⟨index, -, placed⟩ := exists_index_of_startsAt starts
    -- The options for start and count decide nothing of what is loaded.
    have covers (given : Option String) {start : Word} (starts : StartsAt image given start)
        (count : Option Nat) :
        (run formats { options with start := given, count := count } surroundings).Covers formats
          { options with start := given, count := count } settings.flags
          (window image start count) :=
      covers_of_startsAt ⟨loads.loadsSettings, loads.loadsImage⟩ lenient creates starts
    have aligned : (Image.bundleAddress next).toNat = start.toNat + 16 * count := by
      have base := image.toNat_base_mod
      rw [Image.toNat_bundleAddress]
      omega
    have whole := covers options.start starts (more.map (count + ·))
    rw [← window_append placed aligned more] at whole
    exact (covers options.start starts (some count)).append
      (covers (some text) (.given parsed inside) more) whole printed printed printed
  · intro text address named parsed outside
    exact fails_of_prepared (result_prepare_of_outside loads named parsed outside)

/-- Two bundles at the top of the address space, the last with a reserved template, are listed by two
runs as by one. As JSON the last is an array of one record. -/
theorem windows_are_slices_top :
    ∃ (options : Options) (surroundings : Surroundings) (settings : Settings) (image : Image),
      Formats.standard.PrintsJson ∧ Loads .standard options surroundings settings image ∧
        settings.strict = false ∧ CreatesTrace options surroundings ∧
        image.bundles.map (·.1) = [0xFFFFFFFFFFFFFFD0, 0xFFFFFFFFFFFFFFE0, 0xFFFFFFFFFFFFFFF0] ∧
        options.start = some "0xFFFFFFFFFFFFFFE5" ∧
        (run .standard { options with count := some 1 } surroundings).output ++
            (run .standard { options with start := some "0xFFFFFFFFFFFFFFF0", count := some 1 }
              surroundings).output =
          [ "ffffffffffffffe0  [MII]       break.m 0x0",
            "                              break.i 0x0",
            "                              break.i 0x0",
            "fffffffffffffff0  <invalid bundle 00000000000000000000000000000006>" ] ∧
        ∃ bundles text, IsWindow image 0xFFFFFFFFFFFFFFF0 none bundles ∧
          (run .standard { options with json := true, start := some "0xFFFFFFFFFFFFFFF0" }
            surroundings).output = [text] ∧
          (∀ value : Json, value.Spells text.toList ↔ value = .list (bundles.map Placed.record)) ∧
          text = "[\n  \x7b\n    \"address\": \"0xfffffffffffffff0\",\n    \"bundle\": null\n  \x7d\n]" := by
  let options : Options := {
    input := "image", hex := false, json := false, bits := false, noAddress := false
    strict := false, base := some "0xFFFFFFFFFFFFFFD0", start := some "0xFFFFFFFFFFFFFFE5"
    count := none, settings := none, trace := none }
  let surroundings : Surroundings := .holding ⟨(Array.replicate 50 0).set! 32 0x06⟩
  let settings : Settings := { Settings.standard with base := "0xFFFFFFFFFFFFFFD0" }
  let image : Image :=
    ⟨0xFFFFFFFFFFFFFFD0, (Array.replicate 50 0).set! 32 0x06, by decide, by decide, by decide⟩
  have loads : Loads .standard options surroundings settings image :=
    ⟨rfl, 0xFFFFFFFFFFFFFFD0, by decide, rfl⟩
  have creates : CreatesTrace options surroundings := nofun
  have starts : StartsAt image options.start 0xFFFFFFFFFFFFFFE0 :=
    @StartsAt.given image _ 0xFFFFFFFFFFFFFFE5 (by decide) (by decide)
  have last : StartsAt image (some "0xFFFFFFFFFFFFFFF0") 0xFFFFFFFFFFFFFFF0 :=
    @StartsAt.given image _ 0xFFFFFFFFFFFFFFF0 (by decide) (by decide)
  obtain ⟨-, -, append, -⟩ := windows_are_slices Formats.standard_printsJson loads rfl creates
  obtain ⟨printed, -⟩ := append _ 1 "0xFFFFFFFFFFFFFFF0" 0xFFFFFFFFFFFFFFF0 (some 1) rfl starts
    (by decide) (by decide) (by decide)
  have records : Loads .standard
      { options with json := true, start := some "0xFFFFFFFFFFFFFFF0" } surroundings settings image :=
    ⟨loads.loadsSettings, loads.loadsImage⟩
  obtain ⟨slices, -⟩ := windows_are_slices Formats.standard_printsJson records rfl creates
  obtain ⟨bundles, isWindow, -, prints⟩ := slices _ last
  obtain ⟨text, output, reads⟩ := prints rfl
  refine ⟨options, surroundings, settings, image, Formats.standard_printsJson, loads, rfl, creates,
    by decide, rfl, printed.trans (by decide +kernel), bundles, text, isWindow, output, reads, ?_⟩
  exact List.singleton_inj.mp (output.symm.trans (by decide +kernel))

end CommandLine

end Itanium
