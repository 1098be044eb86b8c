import Itanium.Proofs.BundleRecord
import Itanium.Proofs.NumeralReading
import Itanium.Proofs.OneLine
import Itanium.Proofs.Session

/-!
# What a tracer has written

Whatever is asked of a tracer, its counts and its lines are those of the bundles that it was shown
while it was on. Each of them has one line, and its address and its bytes are read back from the
first two columns of the line.
-/
namespace Itanium.Tracer

/-! ### Calls -/

/-- A bundle as it is shown to a tracer. What is listed need not be the decoding of the bytes. -/
structure Note where
  address : Word
  bytes : Vector UInt8 16
  bundle : Option Bundle

def Note.line (note : Note) : String :=
  Tracer.line note.address (RawBundle.ofBytes note.bytes) note.bundle

inductive Call where
  | trace (note : Note)
  | setEnabled (enabled : Bool)
  | flush

def apply (tracer : Tracer) : Call → Tracer
  | .trace note => tracer.record note.address note.bytes note.bundle
  | .setEnabled enabled => tracer.setEnabled enabled
  | .flush => tracer.flush

def run (tracer : Tracer) (calls : List Call) : Tracer :=
  calls.foldl apply tracer

/-- The bundles that are shown to a tracer while it is on, in the order of the calls. -/
def shownWhileOn : Bool → List Call → List Note
  | _, [] => []
  | enabled, .trace note :: rest =>
    if enabled then note :: shownWhileOn enabled rest else shownWhileOn enabled rest
  | _, .setEnabled enabled :: rest => shownWhileOn enabled rest
  | enabled, .flush :: rest => shownWhileOn enabled rest

theorem record_of_disabled {tracer : Tracer} (disabled : tracer.enabled = false) (address : Word)
    (bytes : Vector UInt8 16) (bundle : Option Bundle) :
    tracer.record address bytes bundle = tracer := by
  rw [record, disabled, if_neg Bool.false_ne_true]

/-! ### What holds after each call -/

/-- What a tracer has counted and written, flushed or not, once it has noted some bundles. Its counts
are words, and exact as long as the bundles are fewer than those. -/
structure HasNoted (tracer : Tracer) (title : String) (notes : List Note) : Prop where
  traced : tracer.traced = BitVec.ofNat 64 notes.length
  invalid : tracer.invalid = BitVec.ofNat 64 (notes.countP (·.bundle.isNone))
  lines : tracer.file ++ tracer.pending = title :: notes.map Note.line

section Noted

variable {tracer : Tracer} {title : String} {notes : List Note}

theorem hasNoted_start (time : String) : (start time).HasNoted (header ++ time) [] where
  traced := rfl
  invalid := rfl
  lines := rfl

namespace HasNoted

theorem record (noted : tracer.HasNoted title notes) (enabled : tracer.enabled = true)
    (note : Note) :
    (tracer.record note.address note.bytes note.bundle).HasNoted title (notes ++ [note]) := by
  rw [Tracer.record, if_pos enabled]
  constructor
  case traced =>
    rw [noted.traced, List.length_append, List.length_singleton, BitVec.ofNat_add]
    rfl
  case invalid =>
    rw [noted.invalid, List.countP_append, List.countP_singleton, BitVec.ofNat_add]
    cases note.bundle with
    | some => exact (BitVec.add_zero _).symm
    | none => rfl
  case lines =>
    rw [← List.append_assoc, noted.lines, List.map_append, List.cons_append]
    rfl

theorem setEnabled (noted : tracer.HasNoted title notes) (enabled : Bool) :
    (tracer.setEnabled enabled).HasNoted title notes :=
  ⟨noted.traced, noted.invalid, noted.lines⟩

theorem flush (noted : tracer.HasNoted title notes) : tracer.flush.HasNoted title notes where
  traced := noted.traced
  invalid := noted.invalid
  lines := by
    rw [Tracer.flush, List.append_nil]
    exact noted.lines

/-- After a flush all lines are in the file. -/
theorem file_flush (noted : tracer.HasNoted title notes) :
    tracer.flush.file = title :: notes.map Note.line :=
  noted.lines

section Exact

variable (noted : tracer.HasNoted title notes) (few : notes.length < 2 ^ 64)

include noted few

theorem toNat_traced : tracer.traced.toNat = notes.length := by
  rw [noted.traced, BitVec.toNat_ofNat, Nat.mod_eq_of_lt few]

theorem toNat_invalid : tracer.invalid.toNat = notes.countP (·.bundle.isNone) := by
  have fewer : notes.countP (·.bundle.isNone) < 2 ^ 64 :=
    Nat.lt_of_le_of_lt List.countP_le_length few
  rw [noted.invalid, BitVec.toNat_ofNat, Nat.mod_eq_of_lt fewer]

theorem invalid_le_traced : tracer.invalid ≤ tracer.traced := by
  rw [BitVec.le_def, noted.toNat_invalid few, noted.toNat_traced few]
  exact List.countP_le_length

end Exact

/-- By induction on the calls: what is noted is what is shown while the tracer is on. -/
theorem run (noted : tracer.HasNoted title notes) (calls : List Call) :
    (tracer.run calls).HasNoted title (notes ++ shownWhileOn tracer.enabled calls) := by
  induction calls generalizing tracer notes with
  | nil => rwa [shownWhileOn, List.append_nil]
  | cons call rest ih =>
    rw [Tracer.run, List.foldl_cons]
    cases call with
    -- Only what is shown to a tracer that is on is noted.
    | trace note =>
      rw [shownWhileOn, apply]
      cases enabled : tracer.enabled with
      | true =>
        have next := ih (noted.record enabled note)
        rwa [enabled_record, enabled, List.append_assoc] at next
      | false =>
        rw [record_of_disabled enabled, if_neg Bool.false_ne_true, ← enabled]
        exact ih noted
    | setEnabled enabled => exact ih (noted.setEnabled enabled)
    | flush => exact ih noted.flush

end HasNoted

end Noted

/-! ### What a line shows -/

/-- The address and the bytes that a line begins with: sixteen digits behind `0x`, and thirty-two
between brackets. -/
def columns? (line : String) : Option (Word × Vector UInt8 16) :=
  match Numeral.parse 16 (2 ^ 64) ((line.toList.drop 2).take 16),
    Numeral.parse 16 (2 ^ 128) ((line.toList.drop 20).take 32) with
  | .ok address, .ok raw =>
    some (BitVec.ofNat 64 address, RawBundle.toBytes (BitVec.ofNat 128 raw))
  | _, _ => none

/-- Address and bits stand in front, each in as many columns as the longest of them needs. -/
theorem exists_line_eq (address : Word) (raw : BitVec 128) (bundle : Option Bundle) :
    ∃ rest, Text.IsOneLine rest ∧ line address raw bundle =
      "0x" ++ Numeral.upperHex 16 address.toNat ++ " [" ++ Numeral.upperHex 32 raw.toNat ++
        rest := by
  have rest {name text : String} (short : Text.IsOneLine name) (listed : Text.IsOneLine text) :
      Text.IsOneLine ("] " ++ (padRight 8 name ++ (" | " ++ text))) :=
    .append (.of_all rfl) ((short.append (Text.isOneLine_replicate _)).append
      (.append (.of_all rfl) listed))
  have semicolon : Text.IsOneLine " ; " := .of_all rfl
  have unknown : Text.IsOneLine "????" := .of_all rfl
  have invalid : Text.IsOneLine "<invalid>" := .of_all rfl
  cases bundle with
  | some bundle =>
    have listed : Text.IsOneLine (" ; ".intercalate (Listing.lines .bare bundle address)) :=
      Text.isOneLine_intercalate semicolon fun _ member => Listing.isOneLine_of_mem_lines member
    refine ⟨_, rest bundle.template.isOneLine_name listed, ?_⟩
    simp only [line, String.append_assoc]
  | none =>
    refine ⟨_, rest unknown invalid, ?_⟩
    simp only [line, String.append_assoc]

namespace Note

theorem isOneLine_line (note : Note) : Text.IsOneLine note.line := by
  obtain ⟨rest, stays, split⟩ :=
    exists_line_eq note.address (RawBundle.ofBytes note.bytes) note.bundle
  rw [line, split]
  exact ((((Text.IsOneLine.of_all rfl).append (Numeral.isOneLine_upperHex 16 _)).append
    (.of_all rfl)).append (Numeral.isOneLine_upperHex 32 _)).append stays

theorem columns?_line (note : Note) : columns? note.line = some (note.address, note.bytes) := by
  obtain ⟨rest, -, split⟩ :=
    exists_line_eq note.address (RawBundle.ofBytes note.bytes) note.bundle
  have addressBound := note.address.isLt
  have rawBound := (RawBundle.ofBytes note.bytes).isLt
  have addressLength : (Numeral.upperHex 16 note.address.toNat).toList.length = 16 :=
    Numeral.length_upperHex addressBound
  have rawLength : (Numeral.upperHex 32 (RawBundle.ofBytes note.bytes).toNat).toList.length = 32 :=
    Numeral.length_upperHex rawBound
  have mark : ['0', 'x'].length = 2 := rfl
  have bracket : [' ', '['].length = 2 := rfl
  have bytes : RawBundle.toBytes (RawBundle.ofBytes note.bytes) = note.bytes :=
    RawBundle.ofBytes_injective (RawBundle.ofBytes_toBytes _)
  -- The two numerals stand where the reader looks for them.
  have characters : note.line.toList =
      ['0', 'x'] ++ ((Numeral.upperHex 16 note.address.toNat).toList ++
        ([' ', '['] ++ ((Numeral.upperHex 32 (RawBundle.ofBytes note.bytes).toNat).toList ++
          rest.toList))) := by
    rw [line, split]
    simp only [String.toList_append, List.append_assoc]
    rfl
  have first : (note.line.toList.drop 2).take 16 =
      (Numeral.upperHex 16 note.address.toNat).toList := by
    rw [characters, List.drop_left' mark, List.take_left' addressLength]
  have second : (note.line.toList.drop 20).take 32 =
      (Numeral.upperHex 32 (RawBundle.ofBytes note.bytes).toNat).toList := by
    rw [characters, show 20 = 2 + (16 + 2) from rfl, ← List.drop_drop, List.drop_left' mark,
      ← List.drop_drop, List.drop_left' addressLength, List.drop_left' bracket,
      List.take_left' rawLength]
  rw [columns?, first, second, Numeral.parse_upperHex 16 addressBound,
    Numeral.parse_upperHex 32 rawBound]
  simp only [BitVec.ofNat_toNat, BitVec.setWidth_eq, bytes]

end Note

/-! ### Runs -/

/-- However a new tracer is used, it counts the bundles shown to it while it is on and those of them
that did not decode. Closed, or flushed at any time, its file holds a title and a line for each of
them. What it is shown while it is off changes nothing. No line breaks, and each shows its address
and its bytes. -/
theorem run_writes_what_is_shown (time : String) (calls : List Call) :
    let tracer := (start time).run calls
    let notes := shownWhileOn true calls
    tracer.traced = BitVec.ofNat 64 notes.length ∧
      tracer.invalid = BitVec.ofNat 64 (notes.countP (·.bundle.isNone)) ∧
      (notes.length < 2 ^ 64 → tracer.traced.toNat = notes.length ∧
        tracer.invalid.toNat = notes.countP (·.bundle.isNone) ∧
        tracer.invalid ≤ tracer.traced) ∧
      tracer.close = (header ++ time) :: notes.map Note.line ∧
      ((start time).run (calls ++ [.flush])).file = (header ++ time) :: notes.map Note.line ∧
      (tracer.enabled = false → ∀ note, (start time).run (calls ++ [.trace note]) = tracer) ∧
      ∀ note : Note, '\n' ∉ note.line.toList ∧ '\r' ∉ note.line.toList ∧
        columns? note.line = some (note.address, note.bytes) := by
  have noted : ((start time).run calls).HasNoted (header ++ time) (shownWhileOn true calls) :=
    (hasNoted_start time).run calls
  have last (call : Call) :
      (start time).run (calls ++ [call]) = ((start time).run calls).apply call := by
    rw [run, List.foldl_append]
    rfl
  refine ⟨noted.traced, noted.invalid, ?_, noted.file_flush, ?_, ?_, ?_⟩
  · intro few
    exact ⟨noted.toNat_traced few, noted.toNat_invalid few, noted.invalid_le_traced few⟩
  · rw [last]
    exact noted.file_flush
  · intro disabled note
    rw [last]
    exact record_of_disabled disabled note.address note.bytes note.bundle
  · intro note
    obtain ⟨unbroken, unreturned⟩ := note.isOneLine_line.no_break
    exact ⟨unbroken, unreturned, note.columns?_line⟩

/-- A tracer is shown a bundle, another one with a reserved template, and is switched off. -/
theorem run_writes_what_is_shown_off :
    let shown : List Call := [
      .trace ⟨0x4000, .replicate 16 0, (Bundle.ofBytes (.replicate 16 0)).toOption⟩,
      .trace ⟨0x4010, (Vector.replicate 16 0).set 0 0x06, none⟩,
      .setEnabled false]
    let tracer := (start "now").run shown
    tracer.traced.toNat = 2 ∧ tracer.invalid.toNat = 1 ∧ tracer.invalid ≤ tracer.traced ∧
      ((start "now").run (shown ++ [.flush])).file = [
        "# ia64dec trace started now",
        "0x0000000000004000 [00000000000000000000000000000000] MII      | " ++
          "break.m 0x0 ; break.i 0x0 ; break.i 0x0",
        "0x0000000000004010 [00000000000000000000000000000006] ????     | <invalid>"] ∧
      ∀ note, (start "now").run (shown ++ [.trace note]) = tracer := by
  intro shown tracer
  obtain ⟨-, -, counts, -, flushed, unchanged, -⟩ := run_writes_what_is_shown "now" shown
  obtain ⟨traced, invalid, fewer⟩ := counts (by decide)
  exact ⟨traced, invalid, fewer, flushed.trans (by decide +kernel), unchanged rfl⟩

end Itanium.Tracer
