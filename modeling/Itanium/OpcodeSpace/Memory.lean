import Itanium.OpcodeSpace.Page

/-!
# Memory opcodes

Major opcodes 0 to 7 of the M unit. Loads and stores come in up to three forms, each with a table of
its own: plain, with a register added to the base, and with an immediate added to the base.
-/
namespace Itanium.OpcodeSpace

/-- Cache, serialization and `break`; the code is `x6`. -/
def systemMemory : List (Nat × Encoding) := [
  (0x00, ⟨.breakM, .m37⟩), (0x0A, ⟨.loadrs, .m25⟩), (0x0C, ⟨.flushrs, .m25⟩),
  (0x10, ⟨.invala, .m24⟩), (0x12, ⟨.invalaE, .m26⟩), (0x13, ⟨.invalaE, .m27⟩), (0x20, ⟨.fwb, .m24⟩),
  (0x22, ⟨.mf, .m24⟩), (0x23, ⟨.mfA, .m24⟩), (0x28, ⟨.movM, .m30⟩), (0x30, ⟨.srlzD, .m24⟩),
  (0x31, ⟨.srlzI, .m24⟩), (0x33, ⟨.syncI, .m24⟩)]

/-- The code is `x4`. -/
def userMask : List (Nat × Operation) := [
  (0x4, .sum), (0x5, .rum), (0x6, .ssm), (0x7, .rsm)]

/-- The code is `x3`. -/
def advancedChecks : List (Nat × Encoding) := [
  (4, ⟨.chkANc, .m22⟩), (5, ⟨.chkAClr, .m22⟩), (6, ⟨.chkANc, .m23⟩), (7, ⟨.chkAClr, .m23⟩)]

/-- System registers, probes and translation; the code is `x6`. -/
def systemRegisters : List (Nat × Encoding) := [
  (0x00, ⟨.movRr, .m42⟩), (0x01, ⟨.movDbr, .m42⟩), (0x02, ⟨.movIbr, .m42⟩), (0x03, ⟨.movPkr, .m42⟩),
  (0x04, ⟨.movPmc, .m42⟩), (0x05, ⟨.movPmd, .m42⟩), (0x06, ⟨.movMsr, .m42⟩), (0x09, ⟨.ptcL, .m45⟩),
  (0x0A, ⟨.ptcG, .m45⟩), (0x0B, ⟨.ptcGa, .m45⟩), (0x0C, ⟨.ptrD, .m45⟩), (0x0D, ⟨.ptrI, .m45⟩),
  (0x0E, ⟨.itrD, .m42⟩), (0x0F, ⟨.itrI, .m42⟩), (0x10, ⟨.movRr, .m43⟩), (0x11, ⟨.movDbr, .m43⟩),
  (0x12, ⟨.movIbr, .m43⟩), (0x13, ⟨.movPkr, .m43⟩), (0x14, ⟨.movPmc, .m43⟩),
  (0x15, ⟨.movPmd, .m43⟩), (0x16, ⟨.movMsr, .m43⟩), (0x17, ⟨.movCpuid, .m43⟩),
  (0x18, ⟨.probeR, .m39⟩), (0x19, ⟨.probeW, .m39⟩), (0x1A, ⟨.thash, .m46⟩), (0x1B, ⟨.ttag, .m46⟩),
  (0x1E, ⟨.tpa, .m46⟩), (0x1F, ⟨.tak, .m46⟩), (0x21, ⟨.movPsrUm, .m36⟩), (0x22, ⟨.movM, .m31⟩),
  (0x24, ⟨.mov, .m33⟩), (0x25, ⟨.movPsr, .m36⟩), (0x29, ⟨.movPsrUm, .m35⟩), (0x2A, ⟨.movM, .m29⟩),
  (0x2C, ⟨.mov, .m32⟩), (0x2D, ⟨.movPsrL, .m35⟩), (0x2E, ⟨.itcD, .m41⟩), (0x2F, ⟨.itcI, .m41⟩),
  (0x31, ⟨.probeRwFault, .m40⟩), (0x32, ⟨.probeRFault, .m40⟩), (0x33, ⟨.probeWFault, .m40⟩),
  (0x34, ⟨.ptcE, .m47⟩), (0x38, ⟨.probeR, .m38⟩), (0x39, ⟨.probeW, .m38⟩)]

/-- The code is `x3`. -/
def speculationChecks : List (Nat × Encoding) := [
  (1, ⟨.chkSM, .m20⟩), (3, ⟨.chkS, .m21⟩), (6, ⟨.alloc, .m34⟩)]

/-- Loads and stores of the integer registers; the code is `m` and `x6`. -/
def integerLoads : List (Nat × Operation) := [
  (0x00, .ld1), (0x01, .ld2), (0x02, .ld4), (0x03, .ld8), (0x04, .ld1S), (0x05, .ld2S),
  (0x06, .ld4S), (0x07, .ld8S), (0x08, .ld1A), (0x09, .ld2A), (0x0A, .ld4A), (0x0B, .ld8A),
  (0x0C, .ld1Sa), (0x0D, .ld2Sa), (0x0E, .ld4Sa), (0x0F, .ld8Sa), (0x10, .ld1Bias),
  (0x11, .ld2Bias), (0x12, .ld4Bias), (0x13, .ld8Bias), (0x14, .ld1Acq), (0x15, .ld2Acq),
  (0x16, .ld4Acq), (0x17, .ld8Acq), (0x1B, .ld8Fill), (0x20, .ld1CClr), (0x21, .ld2CClr),
  (0x22, .ld4CClr), (0x23, .ld8CClr), (0x24, .ld1CNc), (0x25, .ld2CNc), (0x26, .ld4CNc),
  (0x27, .ld8CNc), (0x28, .ld1CClrAcq), (0x29, .ld2CClrAcq), (0x2A, .ld4CClrAcq),
  (0x2B, .ld8CClrAcq)]

def integerStores : List (Nat × Operation) := [
  (0x30, .st1), (0x31, .st2), (0x32, .st4), (0x33, .st8), (0x34, .st1Rel), (0x35, .st2Rel),
  (0x36, .st4Rel), (0x37, .st8Rel), (0x3B, .st8Spill)]

/-- The loads that add a register to the base have the bit `m` set. -/
def integerLoadsByRegister : List (Nat × Operation) := [
  (0x40, .ld1), (0x41, .ld2), (0x42, .ld4), (0x43, .ld8), (0x44, .ld1S), (0x45, .ld2S),
  (0x46, .ld4S), (0x47, .ld8S), (0x48, .ld1A), (0x49, .ld2A), (0x4A, .ld4A), (0x4B, .ld8A),
  (0x4C, .ld1Sa), (0x4D, .ld2Sa), (0x4E, .ld4Sa), (0x4F, .ld8Sa), (0x50, .ld1Bias),
  (0x51, .ld2Bias), (0x52, .ld4Bias), (0x53, .ld8Bias), (0x54, .ld1Acq), (0x55, .ld2Acq),
  (0x56, .ld4Acq), (0x57, .ld8Acq), (0x5B, .ld8Fill), (0x60, .ld1CClr), (0x61, .ld2CClr),
  (0x62, .ld4CClr), (0x63, .ld8CClr), (0x64, .ld1CNc), (0x65, .ld2CNc), (0x66, .ld4CNc),
  (0x67, .ld8CNc), (0x68, .ld1CClrAcq), (0x69, .ld2CClrAcq), (0x6A, .ld4CClrAcq),
  (0x6B, .ld8CClrAcq)]

/-- The forms that add an immediate; the code is `x6`. -/
def integerLoadsByImmediate : List (Nat × Operation) := [
  (0x00, .ld1), (0x01, .ld2), (0x02, .ld4), (0x03, .ld8), (0x04, .ld1S), (0x05, .ld2S),
  (0x06, .ld4S), (0x07, .ld8S), (0x08, .ld1A), (0x09, .ld2A), (0x0A, .ld4A), (0x0B, .ld8A),
  (0x0C, .ld1Sa), (0x0D, .ld2Sa), (0x0E, .ld4Sa), (0x0F, .ld8Sa), (0x10, .ld1Bias),
  (0x11, .ld2Bias), (0x12, .ld4Bias), (0x13, .ld8Bias), (0x14, .ld1Acq), (0x15, .ld2Acq),
  (0x16, .ld4Acq), (0x17, .ld8Acq), (0x1B, .ld8Fill), (0x20, .ld1CClr), (0x21, .ld2CClr),
  (0x22, .ld4CClr), (0x23, .ld8CClr), (0x24, .ld1CNc), (0x25, .ld2CNc), (0x26, .ld4CNc),
  (0x27, .ld8CNc), (0x28, .ld1CClrAcq), (0x29, .ld2CClrAcq), (0x2A, .ld4CClrAcq),
  (0x2B, .ld8CClrAcq)]

def integerStoresByImmediate : List (Nat × Operation) := [
  (0x30, .st1), (0x31, .st2), (0x32, .st4), (0x33, .st8), (0x34, .st1Rel), (0x35, .st2Rel),
  (0x36, .st4Rel), (0x37, .st8Rel), (0x3B, .st8Spill)]

/-- Semaphores, 16-byte accesses and moves from floating-point registers; the code is `m` and
`x6`. -/
def semaphores : List (Nat × Encoding) := [
  (0x00, ⟨.cmpxchg1Acq, .m16⟩), (0x01, ⟨.cmpxchg2Acq, .m16⟩), (0x02, ⟨.cmpxchg4Acq, .m16⟩),
  (0x03, ⟨.cmpxchg8Acq, .m16⟩), (0x04, ⟨.cmpxchg1Rel, .m16⟩), (0x05, ⟨.cmpxchg2Rel, .m16⟩),
  (0x06, ⟨.cmpxchg4Rel, .m16⟩), (0x07, ⟨.cmpxchg8Rel, .m16⟩), (0x08, ⟨.xchg1, .m16⟩),
  (0x09, ⟨.xchg2, .m16⟩), (0x0A, ⟨.xchg4, .m16⟩), (0x0B, ⟨.xchg8, .m16⟩),
  (0x12, ⟨.fetchadd4Acq, .m17⟩), (0x13, ⟨.fetchadd8Acq, .m17⟩), (0x16, ⟨.fetchadd4Rel, .m17⟩),
  (0x17, ⟨.fetchadd8Rel, .m17⟩), (0x1C, ⟨.getfSig, .m19⟩), (0x1D, ⟨.getfExp, .m19⟩),
  (0x1E, ⟨.getfS, .m19⟩), (0x1F, ⟨.getfD, .m19⟩), (0x20, ⟨.cmp8xchg16Acq, .m16⟩),
  (0x24, ⟨.cmp8xchg16Rel, .m16⟩), (0x28, ⟨.ld16, .m1⟩), (0x2C, ⟨.ld16Acq, .m1⟩),
  (0x30, ⟨.st16, .m4⟩), (0x34, ⟨.st16Rel, .m4⟩)]

/-- Loads and stores of the floating-point registers; the code is `m` and `x6`. -/
def floatLoads : List (Nat × Operation) := [
  (0x00, .ldfe), (0x01, .ldf8), (0x02, .ldfs), (0x03, .ldfd), (0x04, .ldfeS), (0x05, .ldf8S),
  (0x06, .ldfsS), (0x07, .ldfdS), (0x08, .ldfeA), (0x09, .ldf8A), (0x0A, .ldfsA), (0x0B, .ldfdA),
  (0x0C, .ldfeSa), (0x0D, .ldf8Sa), (0x0E, .ldfsSa), (0x0F, .ldfdSa), (0x1B, .ldfFill),
  (0x20, .ldfeCClr), (0x21, .ldf8CClr), (0x22, .ldfsCClr), (0x23, .ldfdCClr), (0x24, .ldfeCNc),
  (0x25, .ldf8CNc), (0x26, .ldfsCNc), (0x27, .ldfdCNc)]

def lineFetches : List (Nat × Operation) := [
  (0x2C, .lfetch), (0x2D, .lfetchExcl), (0x2E, .lfetchFault), (0x2F, .lfetchFaultExcl)]

def floatStores : List (Nat × Operation) := [
  (0x30, .stfe), (0x31, .stf8), (0x32, .stfs), (0x33, .stfd), (0x3B, .stfSpill)]

/-- The bit `m` is set. -/
def floatLoadsByRegister : List (Nat × Operation) := [
  (0x40, .ldfe), (0x41, .ldf8), (0x42, .ldfs), (0x43, .ldfd), (0x44, .ldfeS), (0x45, .ldf8S),
  (0x46, .ldfsS), (0x47, .ldfdS), (0x48, .ldfeA), (0x49, .ldf8A), (0x4A, .ldfsA), (0x4B, .ldfdA),
  (0x4C, .ldfeSa), (0x4D, .ldf8Sa), (0x4E, .ldfsSa), (0x4F, .ldfdSa), (0x5B, .ldfFill),
  (0x60, .ldfeCClr), (0x61, .ldf8CClr), (0x62, .ldfsCClr), (0x63, .ldfdCClr), (0x64, .ldfeCNc),
  (0x65, .ldf8CNc), (0x66, .ldfsCNc), (0x67, .ldfdCNc)]

def lineFetchesByRegister : List (Nat × Operation) := [
  (0x6C, .lfetch), (0x6D, .lfetchExcl), (0x6E, .lfetchFault), (0x6F, .lfetchFaultExcl)]

/-- Loads of two floating-point registers and moves to one; the code is `m` and `x6`. -/
def floatPairLoads : List (Nat × Operation) := [
  (0x01, .ldfp8), (0x02, .ldfps), (0x03, .ldfpd), (0x05, .ldfp8S), (0x06, .ldfpsS), (0x07, .ldfpdS),
  (0x09, .ldfp8A), (0x0A, .ldfpsA), (0x0B, .ldfpdA), (0x0D, .ldfp8Sa), (0x0E, .ldfpsSa),
  (0x0F, .ldfpdSa), (0x21, .ldfp8CClr), (0x22, .ldfpsCClr), (0x23, .ldfpdCClr), (0x25, .ldfp8CNc),
  (0x26, .ldfpsCNc), (0x27, .ldfpdCNc)]

def floatSets : List (Nat × Operation) := [
  (0x1C, .setfSig), (0x1D, .setfExp), (0x1E, .setfS), (0x1F, .setfD)]

/-- The bit `m` is set, and the size of the pair is added to the base. -/
def floatPairLoadsByImmediate : List (Nat × Operation) := [
  (0x41, .ldfp8), (0x42, .ldfps), (0x43, .ldfpd), (0x45, .ldfp8S), (0x46, .ldfpsS), (0x47, .ldfpdS),
  (0x49, .ldfp8A), (0x4A, .ldfpsA), (0x4B, .ldfpdA), (0x4D, .ldfp8Sa), (0x4E, .ldfpsSa),
  (0x4F, .ldfpdSa), (0x61, .ldfp8CClr), (0x62, .ldfpsCClr), (0x63, .ldfpdCClr), (0x65, .ldfp8CNc),
  (0x66, .ldfpsCNc), (0x67, .ldfpdCNc)]

/-- The forms that add an immediate; the code is `x6`. -/
def floatLoadsByImmediate : List (Nat × Operation) := [
  (0x00, .ldfe), (0x01, .ldf8), (0x02, .ldfs), (0x03, .ldfd), (0x04, .ldfeS), (0x05, .ldf8S),
  (0x06, .ldfsS), (0x07, .ldfdS), (0x08, .ldfeA), (0x09, .ldf8A), (0x0A, .ldfsA), (0x0B, .ldfdA),
  (0x0C, .ldfeSa), (0x0D, .ldf8Sa), (0x0E, .ldfsSa), (0x0F, .ldfdSa), (0x1B, .ldfFill),
  (0x20, .ldfeCClr), (0x21, .ldf8CClr), (0x22, .ldfsCClr), (0x23, .ldfdCClr), (0x24, .ldfeCNc),
  (0x25, .ldf8CNc), (0x26, .ldfsCNc), (0x27, .ldfdCNc)]

def lineFetchesByImmediate : List (Nat × Operation) := [
  (0x2C, .lfetch), (0x2D, .lfetchExcl), (0x2E, .lfetchFault), (0x2F, .lfetchFaultExcl)]

def floatStoresByImmediate : List (Nat × Operation) := [
  (0x30, .stfe), (0x31, .stf8), (0x32, .stfs), (0x33, .stfd), (0x3B, .stfSpill)]

/-- Major opcode 4 with the bit `x` clear. -/
def integerAccess : List (Nat × Encoding) :=
  assign .m1 integerLoads ++ assign .m4 integerStores ++ assign .m2 integerLoadsByRegister

/-- Major opcode 5. -/
def integerAccessByImmediate : List (Nat × Encoding) :=
  assign .m3 integerLoadsByImmediate ++ assign .m5 integerStoresByImmediate

/-- Major opcode 6 with the bit `x` clear. -/
def floatAccess : List (Nat × Encoding) :=
  assign .m6 floatLoads ++ assign .m13 lineFetches ++ assign .m9 floatStores ++
    assign .m7 floatLoadsByRegister ++ assign .m14 lineFetchesByRegister

/-- Major opcode 6 with the bit `x` set. -/
def floatPairAccess : List (Nat × Encoding) :=
  assign .m11 floatPairLoads ++ assign .m18 floatSets ++ assign .m12 floatPairLoadsByImmediate

/-- Major opcode 7. -/
def floatAccessByImmediate : List (Nat × Encoding) :=
  assign .m8 floatLoadsByImmediate ++ assign .m15 lineFetchesByImmediate ++
    assign .m10 floatStoresByImmediate

def memoryPages : List Page := [
  .within 0 [(⟨33, 3⟩, 0)] ⟨27, 6⟩ systemMemory,
  .within 0 [(⟨33, 3⟩, 0), (⟨27, 6⟩, 1)] ⟨26, 1⟩ (assign .m48 [(0, .nopM), (1, .hintM)]),
  .within 0 [(⟨33, 3⟩, 0)] ⟨27, 4⟩ (assign .m44 userMask),
  .within 0 [] ⟨33, 3⟩ advancedChecks,
  .within 1 [(⟨33, 3⟩, 0)] ⟨27, 6⟩ systemRegisters,
  .within 1 [(⟨33, 3⟩, 0), (⟨27, 6⟩, 0x30)] ⟨36, 1⟩ (assign .m28 [(0, .fc), (1, .fcI)]),
  .within 1 [] ⟨33, 3⟩ speculationChecks,
  .within 4 [(⟨27, 1⟩, 0)] ⟨30, 7⟩ integerAccess,
  .within 4 [(⟨27, 1⟩, 1)] ⟨30, 7⟩ semaphores,
  .within 5 [] ⟨30, 6⟩ integerAccessByImmediate,
  .within 6 [(⟨27, 1⟩, 0)] ⟨30, 7⟩ floatAccess,
  .within 6 [(⟨27, 1⟩, 1)] ⟨30, 7⟩ floatPairAccess,
  .within 7 [] ⟨30, 6⟩ floatAccessByImmediate]

end Itanium.OpcodeSpace
