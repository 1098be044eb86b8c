import Itanium.OpcodeSpace.Page

/-!
# Branch opcodes

Major opcodes of the B unit.
-/
namespace Itanium.OpcodeSpace

/-- The code is `x6`. -/
def branchMisc : List (Nat × Encoding) := [
  (0x00, ⟨.breakB, .b9⟩), (0x02, ⟨.cover, .b8⟩), (0x04, ⟨.clrrrb, .b8⟩), (0x05, ⟨.clrrrbPr, .b8⟩),
  (0x08, ⟨.rfi, .b8⟩), (0x0C, ⟨.bsw0, .b8⟩), (0x0D, ⟨.bsw1, .b8⟩), (0x10, ⟨.epc, .b8⟩),
  (0x18, ⟨.vmsw0, .b8⟩), (0x19, ⟨.vmsw1, .b8⟩)]

def branchPages : List Page := [
  .within 0 [] ⟨27, 6⟩ branchMisc,
  .within 0 [(⟨27, 6⟩, 0x20)] ⟨6, 3⟩ (assign .b4 [(0, .brCond), (1, .brIa)]),
  .within 0 [(⟨27, 6⟩, 0x21)] ⟨6, 3⟩ (assign .b4 [(4, .brRet)]),
  .single 1 [] .brCall .b5,
  .within 2 [] ⟨27, 6⟩ [(0x00, ⟨.nopB, .b9⟩), (0x01, ⟨.hintB, .b9⟩), (0x10, ⟨.brp, .b7⟩),
    (0x11, ⟨.brpRet, .b7⟩)],
  .within 4 [] ⟨6, 3⟩ (assign .b1 [(0, .brCond), (2, .brWexit), (3, .brWtop)] ++
    assign .b2 [(5, .brCloop), (6, .brCexit), (7, .brCtop)]),
  .single 5 [] .brCall .b3,
  .single 7 [] .brp .b6]

end Itanium.OpcodeSpace
