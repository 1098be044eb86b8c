import Itanium.OpcodeSpace.Page

/-!
# Long-immediate opcodes

Major opcodes of the X unit, whose syllables continue in the syllable before.
-/
namespace Itanium.OpcodeSpace

def longPages : List Page := [
  .single 0 [(⟨33, 3⟩, 0), (⟨27, 6⟩, 0)] .breakX .x1,
  .within 0 [(⟨33, 3⟩, 0), (⟨27, 6⟩, 1)] ⟨26, 1⟩ (assign .x5 [(0, .nopX), (1, .hintX)]),
  .single 6 [(⟨20, 1⟩, 0)] .movl .x2,
  .single 0xC [(⟨6, 3⟩, 0)] .brlCond .x3,
  .single 0xD [] .brlCall .x4]

end Itanium.OpcodeSpace
