import Itanium.Completer
import Itanium.Mnemonic
import Itanium.Operand
import Itanium.Operation

/-!
# Assembly of an operation

The mnemonic of each operation, the completers its opcode selects, in the order in which they are
written, and the kind of system register it moves (`none` if it moves none).
-/
namespace Itanium

structure Assembly where
  mnemonic : Mnemonic
  completers : List Completer
  systemRegister : OperandKind
deriving DecidableEq

def Operation.assembly : Operation → Assembly
  | .add => ⟨.add, [], .none⟩
  | .addl => ⟨.addl, [], .none⟩
  | .addp4 => ⟨.addp4, [], .none⟩
  | .adds => ⟨.adds, [], .none⟩
  | .alloc => ⟨.alloc, [], .none⟩
  | .and => ⟨.and, [], .none⟩
  | .andcm => ⟨.andcm, [], .none⟩
  | .breakB => ⟨.brk, [⟨.unit, .b⟩], .none⟩
  | .breakF => ⟨.brk, [⟨.unit, .f⟩], .none⟩
  | .breakI => ⟨.brk, [⟨.unit, .i⟩], .none⟩
  | .breakM => ⟨.brk, [⟨.unit, .m⟩], .none⟩
  | .breakX => ⟨.brk, [⟨.unit, .x⟩], .none⟩
  | .brlCall => ⟨.brl, [⟨.btype, .call⟩], .none⟩
  | .brlCond => ⟨.brl, [⟨.btype, .cond⟩], .none⟩
  | .brp => ⟨.brp, [⟨.btype, .none⟩], .none⟩
  | .brpRet => ⟨.brp, [⟨.btype, .ret⟩], .none⟩
  | .brCall => ⟨.br, [⟨.btype, .call⟩], .none⟩
  | .brCexit => ⟨.br, [⟨.btype, .cexit⟩], .none⟩
  | .brCloop => ⟨.br, [⟨.btype, .cloop⟩], .none⟩
  | .brCond => ⟨.br, [⟨.btype, .cond⟩], .none⟩
  | .brCtop => ⟨.br, [⟨.btype, .ctop⟩], .none⟩
  | .brIa => ⟨.br, [⟨.btype, .ia⟩], .none⟩
  | .brRet => ⟨.br, [⟨.btype, .ret⟩], .none⟩
  | .brWexit => ⟨.br, [⟨.btype, .wexit⟩], .none⟩
  | .brWtop => ⟨.br, [⟨.btype, .wtop⟩], .none⟩
  | .bsw0 => ⟨.bsw, [⟨.bsw, .zero⟩], .none⟩
  | .bsw1 => ⟨.bsw, [⟨.bsw, .one⟩], .none⟩
  | .chkAClr => ⟨.chk, [⟨.chk, .a⟩, ⟨.aclr, .clr⟩], .none⟩
  | .chkANc => ⟨.chk, [⟨.chk, .a⟩, ⟨.aclr, .nc⟩], .none⟩
  | .chkS => ⟨.chk, [⟨.chk, .s⟩], .none⟩
  | .chkSI => ⟨.chk, [⟨.chk, .s⟩, ⟨.unit, .i⟩], .none⟩
  | .chkSM => ⟨.chk, [⟨.chk, .s⟩, ⟨.unit, .m⟩], .none⟩
  | .clrrrb => ⟨.clrrrb, [⟨.clrrrb, .none⟩], .none⟩
  | .clrrrbPr => ⟨.clrrrb, [⟨.clrrrb, .pr⟩], .none⟩
  | .cmp4Eq => ⟨.cmp4, [⟨.crel, .eq⟩, ⟨.ctype, .none⟩], .none⟩
  | .cmp4EqAnd => ⟨.cmp4, [⟨.crel, .eq⟩, ⟨.ctype, .and⟩], .none⟩
  | .cmp4EqOr => ⟨.cmp4, [⟨.crel, .eq⟩, ⟨.ctype, .or⟩], .none⟩
  | .cmp4EqOrAndcm => ⟨.cmp4, [⟨.crel, .eq⟩, ⟨.ctype, .orAndcm⟩], .none⟩
  | .cmp4EqUnc => ⟨.cmp4, [⟨.crel, .eq⟩, ⟨.ctype, .unc⟩], .none⟩
  | .cmp4GeAnd => ⟨.cmp4, [⟨.crel, .ge⟩, ⟨.ctype, .and⟩], .none⟩
  | .cmp4GeOr => ⟨.cmp4, [⟨.crel, .ge⟩, ⟨.ctype, .or⟩], .none⟩
  | .cmp4GeOrAndcm => ⟨.cmp4, [⟨.crel, .ge⟩, ⟨.ctype, .orAndcm⟩], .none⟩
  | .cmp4GtAnd => ⟨.cmp4, [⟨.crel, .gt⟩, ⟨.ctype, .and⟩], .none⟩
  | .cmp4GtOr => ⟨.cmp4, [⟨.crel, .gt⟩, ⟨.ctype, .or⟩], .none⟩
  | .cmp4GtOrAndcm => ⟨.cmp4, [⟨.crel, .gt⟩, ⟨.ctype, .orAndcm⟩], .none⟩
  | .cmp4LeAnd => ⟨.cmp4, [⟨.crel, .le⟩, ⟨.ctype, .and⟩], .none⟩
  | .cmp4LeOr => ⟨.cmp4, [⟨.crel, .le⟩, ⟨.ctype, .or⟩], .none⟩
  | .cmp4LeOrAndcm => ⟨.cmp4, [⟨.crel, .le⟩, ⟨.ctype, .orAndcm⟩], .none⟩
  | .cmp4Lt => ⟨.cmp4, [⟨.crel, .lt⟩, ⟨.ctype, .none⟩], .none⟩
  | .cmp4Ltu => ⟨.cmp4, [⟨.crel, .ltu⟩, ⟨.ctype, .none⟩], .none⟩
  | .cmp4LtuUnc => ⟨.cmp4, [⟨.crel, .ltu⟩, ⟨.ctype, .unc⟩], .none⟩
  | .cmp4LtAnd => ⟨.cmp4, [⟨.crel, .lt⟩, ⟨.ctype, .and⟩], .none⟩
  | .cmp4LtOr => ⟨.cmp4, [⟨.crel, .lt⟩, ⟨.ctype, .or⟩], .none⟩
  | .cmp4LtOrAndcm => ⟨.cmp4, [⟨.crel, .lt⟩, ⟨.ctype, .orAndcm⟩], .none⟩
  | .cmp4LtUnc => ⟨.cmp4, [⟨.crel, .lt⟩, ⟨.ctype, .unc⟩], .none⟩
  | .cmp4NeAnd => ⟨.cmp4, [⟨.crel, .ne⟩, ⟨.ctype, .and⟩], .none⟩
  | .cmp4NeOr => ⟨.cmp4, [⟨.crel, .ne⟩, ⟨.ctype, .or⟩], .none⟩
  | .cmp4NeOrAndcm => ⟨.cmp4, [⟨.crel, .ne⟩, ⟨.ctype, .orAndcm⟩], .none⟩
  | .cmp8xchg16Acq => ⟨.cmp8xchg16, [⟨.sem, .acq⟩], .none⟩
  | .cmp8xchg16Rel => ⟨.cmp8xchg16, [⟨.sem, .rel⟩], .none⟩
  | .cmpxchg1Acq => ⟨.cmpxchg1, [⟨.sem, .acq⟩], .none⟩
  | .cmpxchg1Rel => ⟨.cmpxchg1, [⟨.sem, .rel⟩], .none⟩
  | .cmpxchg2Acq => ⟨.cmpxchg2, [⟨.sem, .acq⟩], .none⟩
  | .cmpxchg2Rel => ⟨.cmpxchg2, [⟨.sem, .rel⟩], .none⟩
  | .cmpxchg4Acq => ⟨.cmpxchg4, [⟨.sem, .acq⟩], .none⟩
  | .cmpxchg4Rel => ⟨.cmpxchg4, [⟨.sem, .rel⟩], .none⟩
  | .cmpxchg8Acq => ⟨.cmpxchg8, [⟨.sem, .acq⟩], .none⟩
  | .cmpxchg8Rel => ⟨.cmpxchg8, [⟨.sem, .rel⟩], .none⟩
  | .cmpEq => ⟨.cmp, [⟨.crel, .eq⟩, ⟨.ctype, .none⟩], .none⟩
  | .cmpEqAnd => ⟨.cmp, [⟨.crel, .eq⟩, ⟨.ctype, .and⟩], .none⟩
  | .cmpEqOr => ⟨.cmp, [⟨.crel, .eq⟩, ⟨.ctype, .or⟩], .none⟩
  | .cmpEqOrAndcm => ⟨.cmp, [⟨.crel, .eq⟩, ⟨.ctype, .orAndcm⟩], .none⟩
  | .cmpEqUnc => ⟨.cmp, [⟨.crel, .eq⟩, ⟨.ctype, .unc⟩], .none⟩
  | .cmpGeAnd => ⟨.cmp, [⟨.crel, .ge⟩, ⟨.ctype, .and⟩], .none⟩
  | .cmpGeOr => ⟨.cmp, [⟨.crel, .ge⟩, ⟨.ctype, .or⟩], .none⟩
  | .cmpGeOrAndcm => ⟨.cmp, [⟨.crel, .ge⟩, ⟨.ctype, .orAndcm⟩], .none⟩
  | .cmpGtAnd => ⟨.cmp, [⟨.crel, .gt⟩, ⟨.ctype, .and⟩], .none⟩
  | .cmpGtOr => ⟨.cmp, [⟨.crel, .gt⟩, ⟨.ctype, .or⟩], .none⟩
  | .cmpGtOrAndcm => ⟨.cmp, [⟨.crel, .gt⟩, ⟨.ctype, .orAndcm⟩], .none⟩
  | .cmpLeAnd => ⟨.cmp, [⟨.crel, .le⟩, ⟨.ctype, .and⟩], .none⟩
  | .cmpLeOr => ⟨.cmp, [⟨.crel, .le⟩, ⟨.ctype, .or⟩], .none⟩
  | .cmpLeOrAndcm => ⟨.cmp, [⟨.crel, .le⟩, ⟨.ctype, .orAndcm⟩], .none⟩
  | .cmpLt => ⟨.cmp, [⟨.crel, .lt⟩, ⟨.ctype, .none⟩], .none⟩
  | .cmpLtu => ⟨.cmp, [⟨.crel, .ltu⟩, ⟨.ctype, .none⟩], .none⟩
  | .cmpLtuUnc => ⟨.cmp, [⟨.crel, .ltu⟩, ⟨.ctype, .unc⟩], .none⟩
  | .cmpLtAnd => ⟨.cmp, [⟨.crel, .lt⟩, ⟨.ctype, .and⟩], .none⟩
  | .cmpLtOr => ⟨.cmp, [⟨.crel, .lt⟩, ⟨.ctype, .or⟩], .none⟩
  | .cmpLtOrAndcm => ⟨.cmp, [⟨.crel, .lt⟩, ⟨.ctype, .orAndcm⟩], .none⟩
  | .cmpLtUnc => ⟨.cmp, [⟨.crel, .lt⟩, ⟨.ctype, .unc⟩], .none⟩
  | .cmpNeAnd => ⟨.cmp, [⟨.crel, .ne⟩, ⟨.ctype, .and⟩], .none⟩
  | .cmpNeOr => ⟨.cmp, [⟨.crel, .ne⟩, ⟨.ctype, .or⟩], .none⟩
  | .cmpNeOrAndcm => ⟨.cmp, [⟨.crel, .ne⟩, ⟨.ctype, .orAndcm⟩], .none⟩
  | .cover => ⟨.cover, [], .none⟩
  | .czx1L => ⟨.czx1, [⟨.lr, .l⟩], .none⟩
  | .czx1R => ⟨.czx1, [⟨.lr, .r⟩], .none⟩
  | .czx2L => ⟨.czx2, [⟨.lr, .l⟩], .none⟩
  | .czx2R => ⟨.czx2, [⟨.lr, .r⟩], .none⟩
  | .dep => ⟨.dep, [⟨.dep, .none⟩], .none⟩
  | .depZ => ⟨.dep, [⟨.dep, .z⟩], .none⟩
  | .epc => ⟨.epc, [], .none⟩
  | .extr => ⟨.extr, [], .none⟩
  | .famax => ⟨.famax, [], .none⟩
  | .famin => ⟨.famin, [], .none⟩
  | .fand => ⟨.fand, [], .none⟩
  | .fandcm => ⟨.fandcm, [], .none⟩
  | .fchkf => ⟨.fchkf, [], .none⟩
  | .fclassM => ⟨.fclass, [⟨.fcrel, .m⟩], .none⟩
  | .fclrf => ⟨.fclrf, [], .none⟩
  | .fcmp => ⟨.fcmp, [], .none⟩
  | .fcvtFx => ⟨.fcvt, [⟨.fcvt, .fx⟩, ⟨.trunc, .none⟩], .none⟩
  | .fcvtFxu => ⟨.fcvt, [⟨.fcvt, .fxu⟩, ⟨.trunc, .none⟩], .none⟩
  | .fcvtFxuTrunc => ⟨.fcvt, [⟨.fcvt, .fxu⟩, ⟨.trunc, .trunc⟩], .none⟩
  | .fcvtFxTrunc => ⟨.fcvt, [⟨.fcvt, .fx⟩, ⟨.trunc, .trunc⟩], .none⟩
  | .fcvtXf => ⟨.fcvt, [⟨.fcvt, .xf⟩, ⟨.trunc, .none⟩], .none⟩
  | .fc => ⟨.fc, [⟨.fc, .none⟩], .none⟩
  | .fcI => ⟨.fc, [⟨.fc, .i⟩], .none⟩
  | .fetchadd4Acq => ⟨.fetchadd4, [⟨.sem, .acq⟩], .none⟩
  | .fetchadd4Rel => ⟨.fetchadd4, [⟨.sem, .rel⟩], .none⟩
  | .fetchadd8Acq => ⟨.fetchadd8, [⟨.sem, .acq⟩], .none⟩
  | .fetchadd8Rel => ⟨.fetchadd8, [⟨.sem, .rel⟩], .none⟩
  | .flushrs => ⟨.flushrs, [], .none⟩
  | .fmax => ⟨.fmax, [], .none⟩
  | .fma => ⟨.fma, [⟨.pc, .none⟩], .none⟩
  | .fmaD => ⟨.fma, [⟨.pc, .d⟩], .none⟩
  | .fmaS => ⟨.fma, [⟨.pc, .s⟩], .none⟩
  | .fmergeNs => ⟨.fmerge, [⟨.fmerge, .ns⟩], .none⟩
  | .fmergeS => ⟨.fmerge, [⟨.fmerge, .s⟩], .none⟩
  | .fmergeSe => ⟨.fmerge, [⟨.fmerge, .se⟩], .none⟩
  | .fmin => ⟨.fmin, [], .none⟩
  | .fmixL => ⟨.fmix, [⟨.lr, .l⟩], .none⟩
  | .fmixLr => ⟨.fmix, [⟨.lr, .lr⟩], .none⟩
  | .fmixR => ⟨.fmix, [⟨.lr, .r⟩], .none⟩
  | .fms => ⟨.fms, [⟨.pc, .none⟩], .none⟩
  | .fmsD => ⟨.fms, [⟨.pc, .d⟩], .none⟩
  | .fmsS => ⟨.fms, [⟨.pc, .s⟩], .none⟩
  | .fnma => ⟨.fnma, [⟨.pc, .none⟩], .none⟩
  | .fnmaD => ⟨.fnma, [⟨.pc, .d⟩], .none⟩
  | .fnmaS => ⟨.fnma, [⟨.pc, .s⟩], .none⟩
  | .fOr => ⟨.fOr, [], .none⟩
  | .fpack => ⟨.fpack, [], .none⟩
  | .fpamax => ⟨.fpamax, [], .none⟩
  | .fpamin => ⟨.fpamin, [], .none⟩
  | .fpcmpEq => ⟨.fpcmp, [⟨.frel, .eq⟩], .none⟩
  | .fpcmpLe => ⟨.fpcmp, [⟨.frel, .le⟩], .none⟩
  | .fpcmpLt => ⟨.fpcmp, [⟨.frel, .lt⟩], .none⟩
  | .fpcmpNeq => ⟨.fpcmp, [⟨.frel, .neq⟩], .none⟩
  | .fpcmpNle => ⟨.fpcmp, [⟨.frel, .nle⟩], .none⟩
  | .fpcmpNlt => ⟨.fpcmp, [⟨.frel, .nlt⟩], .none⟩
  | .fpcmpOrd => ⟨.fpcmp, [⟨.frel, .ord⟩], .none⟩
  | .fpcmpUnord => ⟨.fpcmp, [⟨.frel, .unord⟩], .none⟩
  | .fpcvtFx => ⟨.fpcvt, [⟨.fcvt, .fx⟩, ⟨.trunc, .none⟩], .none⟩
  | .fpcvtFxu => ⟨.fpcvt, [⟨.fcvt, .fxu⟩, ⟨.trunc, .none⟩], .none⟩
  | .fpcvtFxuTrunc => ⟨.fpcvt, [⟨.fcvt, .fxu⟩, ⟨.trunc, .trunc⟩], .none⟩
  | .fpcvtFxTrunc => ⟨.fpcvt, [⟨.fcvt, .fx⟩, ⟨.trunc, .trunc⟩], .none⟩
  | .fpma => ⟨.fpma, [], .none⟩
  | .fpmax => ⟨.fpmax, [], .none⟩
  | .fpmergeNs => ⟨.fpmerge, [⟨.fmerge, .ns⟩], .none⟩
  | .fpmergeS => ⟨.fpmerge, [⟨.fmerge, .s⟩], .none⟩
  | .fpmergeSe => ⟨.fpmerge, [⟨.fmerge, .se⟩], .none⟩
  | .fpmin => ⟨.fpmin, [], .none⟩
  | .fpms => ⟨.fpms, [], .none⟩
  | .fpnma => ⟨.fpnma, [], .none⟩
  | .fprcpa => ⟨.fprcpa, [], .none⟩
  | .fprsqrta => ⟨.fprsqrta, [], .none⟩
  | .frcpa => ⟨.frcpa, [], .none⟩
  | .frsqrta => ⟨.frsqrta, [], .none⟩
  | .fselect => ⟨.fselect, [], .none⟩
  | .fsetc => ⟨.fsetc, [], .none⟩
  | .fswap => ⟨.fswap, [⟨.fswap, .none⟩], .none⟩
  | .fswapNl => ⟨.fswap, [⟨.fswap, .nl⟩], .none⟩
  | .fswapNr => ⟨.fswap, [⟨.fswap, .nr⟩], .none⟩
  | .fsxtL => ⟨.fsxt, [⟨.lr, .l⟩], .none⟩
  | .fsxtR => ⟨.fsxt, [⟨.lr, .r⟩], .none⟩
  | .fwb => ⟨.fwb, [], .none⟩
  | .fxor => ⟨.fxor, [], .none⟩
  | .getfD => ⟨.getf, [⟨.getf, .d⟩], .none⟩
  | .getfExp => ⟨.getf, [⟨.getf, .exp⟩], .none⟩
  | .getfS => ⟨.getf, [⟨.getf, .s⟩], .none⟩
  | .getfSig => ⟨.getf, [⟨.getf, .sig⟩], .none⟩
  | .hintB => ⟨.hint, [⟨.unit, .b⟩], .none⟩
  | .hintF => ⟨.hint, [⟨.unit, .f⟩], .none⟩
  | .hintI => ⟨.hint, [⟨.unit, .i⟩], .none⟩
  | .hintM => ⟨.hint, [⟨.unit, .m⟩], .none⟩
  | .hintX => ⟨.hint, [⟨.unit, .x⟩], .none⟩
  | .invala => ⟨.invala, [⟨.invala, .none⟩], .none⟩
  | .invalaE => ⟨.invala, [⟨.invala, .e⟩], .none⟩
  | .itcD => ⟨.itc, [⟨.itc, .d⟩], .none⟩
  | .itcI => ⟨.itc, [⟨.itc, .i⟩], .none⟩
  | .itrD => ⟨.itr, [⟨.itr, .d⟩], .dtr⟩
  | .itrI => ⟨.itr, [⟨.itr, .i⟩], .itr⟩
  | .ld16 => ⟨.ld16, [⟨.ldtype, .none⟩], .none⟩
  | .ld16Acq => ⟨.ld16, [⟨.ldtype, .acq⟩], .none⟩
  | .ld1 => ⟨.ld1, [⟨.ldtype, .none⟩], .none⟩
  | .ld1A => ⟨.ld1, [⟨.ldtype, .a⟩], .none⟩
  | .ld1Acq => ⟨.ld1, [⟨.ldtype, .acq⟩], .none⟩
  | .ld1Bias => ⟨.ld1, [⟨.ldtype, .bias⟩], .none⟩
  | .ld1CClr => ⟨.ld1, [⟨.ldtype, .cClr⟩], .none⟩
  | .ld1CClrAcq => ⟨.ld1, [⟨.ldtype, .cClrAcq⟩], .none⟩
  | .ld1CNc => ⟨.ld1, [⟨.ldtype, .cNc⟩], .none⟩
  | .ld1S => ⟨.ld1, [⟨.ldtype, .s⟩], .none⟩
  | .ld1Sa => ⟨.ld1, [⟨.ldtype, .sa⟩], .none⟩
  | .ld2 => ⟨.ld2, [⟨.ldtype, .none⟩], .none⟩
  | .ld2A => ⟨.ld2, [⟨.ldtype, .a⟩], .none⟩
  | .ld2Acq => ⟨.ld2, [⟨.ldtype, .acq⟩], .none⟩
  | .ld2Bias => ⟨.ld2, [⟨.ldtype, .bias⟩], .none⟩
  | .ld2CClr => ⟨.ld2, [⟨.ldtype, .cClr⟩], .none⟩
  | .ld2CClrAcq => ⟨.ld2, [⟨.ldtype, .cClrAcq⟩], .none⟩
  | .ld2CNc => ⟨.ld2, [⟨.ldtype, .cNc⟩], .none⟩
  | .ld2S => ⟨.ld2, [⟨.ldtype, .s⟩], .none⟩
  | .ld2Sa => ⟨.ld2, [⟨.ldtype, .sa⟩], .none⟩
  | .ld4 => ⟨.ld4, [⟨.ldtype, .none⟩], .none⟩
  | .ld4A => ⟨.ld4, [⟨.ldtype, .a⟩], .none⟩
  | .ld4Acq => ⟨.ld4, [⟨.ldtype, .acq⟩], .none⟩
  | .ld4Bias => ⟨.ld4, [⟨.ldtype, .bias⟩], .none⟩
  | .ld4CClr => ⟨.ld4, [⟨.ldtype, .cClr⟩], .none⟩
  | .ld4CClrAcq => ⟨.ld4, [⟨.ldtype, .cClrAcq⟩], .none⟩
  | .ld4CNc => ⟨.ld4, [⟨.ldtype, .cNc⟩], .none⟩
  | .ld4S => ⟨.ld4, [⟨.ldtype, .s⟩], .none⟩
  | .ld4Sa => ⟨.ld4, [⟨.ldtype, .sa⟩], .none⟩
  | .ld8 => ⟨.ld8, [⟨.ldtype, .none⟩], .none⟩
  | .ld8A => ⟨.ld8, [⟨.ldtype, .a⟩], .none⟩
  | .ld8Acq => ⟨.ld8, [⟨.ldtype, .acq⟩], .none⟩
  | .ld8Bias => ⟨.ld8, [⟨.ldtype, .bias⟩], .none⟩
  | .ld8CClr => ⟨.ld8, [⟨.ldtype, .cClr⟩], .none⟩
  | .ld8CClrAcq => ⟨.ld8, [⟨.ldtype, .cClrAcq⟩], .none⟩
  | .ld8CNc => ⟨.ld8, [⟨.ldtype, .cNc⟩], .none⟩
  | .ld8Fill => ⟨.ld8, [⟨.ldtype, .fill⟩], .none⟩
  | .ld8S => ⟨.ld8, [⟨.ldtype, .s⟩], .none⟩
  | .ld8Sa => ⟨.ld8, [⟨.ldtype, .sa⟩], .none⟩
  | .ldf8 => ⟨.ldf8, [⟨.fldtype, .none⟩], .none⟩
  | .ldf8A => ⟨.ldf8, [⟨.fldtype, .a⟩], .none⟩
  | .ldf8CClr => ⟨.ldf8, [⟨.fldtype, .cClr⟩], .none⟩
  | .ldf8CNc => ⟨.ldf8, [⟨.fldtype, .cNc⟩], .none⟩
  | .ldf8S => ⟨.ldf8, [⟨.fldtype, .s⟩], .none⟩
  | .ldf8Sa => ⟨.ldf8, [⟨.fldtype, .sa⟩], .none⟩
  | .ldfd => ⟨.ldfd, [⟨.fldtype, .none⟩], .none⟩
  | .ldfdA => ⟨.ldfd, [⟨.fldtype, .a⟩], .none⟩
  | .ldfdCClr => ⟨.ldfd, [⟨.fldtype, .cClr⟩], .none⟩
  | .ldfdCNc => ⟨.ldfd, [⟨.fldtype, .cNc⟩], .none⟩
  | .ldfdS => ⟨.ldfd, [⟨.fldtype, .s⟩], .none⟩
  | .ldfdSa => ⟨.ldfd, [⟨.fldtype, .sa⟩], .none⟩
  | .ldfe => ⟨.ldfe, [⟨.fldtype, .none⟩], .none⟩
  | .ldfeA => ⟨.ldfe, [⟨.fldtype, .a⟩], .none⟩
  | .ldfeCClr => ⟨.ldfe, [⟨.fldtype, .cClr⟩], .none⟩
  | .ldfeCNc => ⟨.ldfe, [⟨.fldtype, .cNc⟩], .none⟩
  | .ldfeS => ⟨.ldfe, [⟨.fldtype, .s⟩], .none⟩
  | .ldfeSa => ⟨.ldfe, [⟨.fldtype, .sa⟩], .none⟩
  | .ldfp8 => ⟨.ldfp8, [⟨.fldtype, .none⟩], .none⟩
  | .ldfp8A => ⟨.ldfp8, [⟨.fldtype, .a⟩], .none⟩
  | .ldfp8CClr => ⟨.ldfp8, [⟨.fldtype, .cClr⟩], .none⟩
  | .ldfp8CNc => ⟨.ldfp8, [⟨.fldtype, .cNc⟩], .none⟩
  | .ldfp8S => ⟨.ldfp8, [⟨.fldtype, .s⟩], .none⟩
  | .ldfp8Sa => ⟨.ldfp8, [⟨.fldtype, .sa⟩], .none⟩
  | .ldfpd => ⟨.ldfpd, [⟨.fldtype, .none⟩], .none⟩
  | .ldfpdA => ⟨.ldfpd, [⟨.fldtype, .a⟩], .none⟩
  | .ldfpdCClr => ⟨.ldfpd, [⟨.fldtype, .cClr⟩], .none⟩
  | .ldfpdCNc => ⟨.ldfpd, [⟨.fldtype, .cNc⟩], .none⟩
  | .ldfpdS => ⟨.ldfpd, [⟨.fldtype, .s⟩], .none⟩
  | .ldfpdSa => ⟨.ldfpd, [⟨.fldtype, .sa⟩], .none⟩
  | .ldfps => ⟨.ldfps, [⟨.fldtype, .none⟩], .none⟩
  | .ldfpsA => ⟨.ldfps, [⟨.fldtype, .a⟩], .none⟩
  | .ldfpsCClr => ⟨.ldfps, [⟨.fldtype, .cClr⟩], .none⟩
  | .ldfpsCNc => ⟨.ldfps, [⟨.fldtype, .cNc⟩], .none⟩
  | .ldfpsS => ⟨.ldfps, [⟨.fldtype, .s⟩], .none⟩
  | .ldfpsSa => ⟨.ldfps, [⟨.fldtype, .sa⟩], .none⟩
  | .ldfs => ⟨.ldfs, [⟨.fldtype, .none⟩], .none⟩
  | .ldfsA => ⟨.ldfs, [⟨.fldtype, .a⟩], .none⟩
  | .ldfsCClr => ⟨.ldfs, [⟨.fldtype, .cClr⟩], .none⟩
  | .ldfsCNc => ⟨.ldfs, [⟨.fldtype, .cNc⟩], .none⟩
  | .ldfsS => ⟨.ldfs, [⟨.fldtype, .s⟩], .none⟩
  | .ldfsSa => ⟨.ldfs, [⟨.fldtype, .sa⟩], .none⟩
  | .ldfFill => ⟨.ldf, [⟨.fldtype, .fill⟩], .none⟩
  | .lfetch => ⟨.lfetch, [⟨.lftype, .none⟩, ⟨.lfetch, .none⟩], .none⟩
  | .lfetchExcl => ⟨.lfetch, [⟨.lftype, .none⟩, ⟨.lfetch, .excl⟩], .none⟩
  | .lfetchFault => ⟨.lfetch, [⟨.lftype, .fault⟩, ⟨.lfetch, .none⟩], .none⟩
  | .lfetchFaultExcl => ⟨.lfetch, [⟨.lftype, .fault⟩, ⟨.lfetch, .excl⟩], .none⟩
  | .loadrs => ⟨.loadrs, [], .none⟩
  | .mf => ⟨.mf, [⟨.mf, .none⟩], .none⟩
  | .mfA => ⟨.mf, [⟨.mf, .a⟩], .none⟩
  | .mix1L => ⟨.mix1, [⟨.lr, .l⟩], .none⟩
  | .mix1R => ⟨.mix1, [⟨.lr, .r⟩], .none⟩
  | .mix2L => ⟨.mix2, [⟨.lr, .l⟩], .none⟩
  | .mix2R => ⟨.mix2, [⟨.lr, .r⟩], .none⟩
  | .mix4L => ⟨.mix4, [⟨.lr, .l⟩], .none⟩
  | .mix4R => ⟨.mix4, [⟨.lr, .r⟩], .none⟩
  | .movl => ⟨.movl, [], .none⟩
  | .mov => ⟨.mov, [⟨.mov, .none⟩], .none⟩
  | .movCpuid => ⟨.mov, [], .cpuid⟩
  | .movDbr => ⟨.mov, [], .dbr⟩
  | .movI => ⟨.mov, [⟨.unit, .i⟩], .none⟩
  | .movIbr => ⟨.mov, [], .ibr⟩
  | .movIp => ⟨.mov, [], .ip⟩
  | .movM => ⟨.mov, [⟨.unit, .m⟩], .none⟩
  | .movMsr => ⟨.mov, [], .msr⟩
  | .movPkr => ⟨.mov, [], .pkr⟩
  | .movPmc => ⟨.mov, [], .pmc⟩
  | .movPmd => ⟨.mov, [], .pmd⟩
  | .movPr => ⟨.mov, [], .pr⟩
  | .movPsr => ⟨.mov, [], .psr⟩
  | .movPsrL => ⟨.mov, [], .psrL⟩
  | .movPsrUm => ⟨.mov, [], .psrUm⟩
  | .movRet => ⟨.mov, [⟨.mov, .ret⟩], .none⟩
  | .movRr => ⟨.mov, [], .rr⟩
  | .mux1 => ⟨.mux1, [], .none⟩
  | .mux2 => ⟨.mux2, [], .none⟩
  | .nopB => ⟨.nop, [⟨.unit, .b⟩], .none⟩
  | .nopF => ⟨.nop, [⟨.unit, .f⟩], .none⟩
  | .nopI => ⟨.nop, [⟨.unit, .i⟩], .none⟩
  | .nopM => ⟨.nop, [⟨.unit, .m⟩], .none⟩
  | .nopX => ⟨.nop, [⟨.unit, .x⟩], .none⟩
  | .or => ⟨.or, [], .none⟩
  | .pack2Sss => ⟨.pack2, [⟨.sat, .sss⟩], .none⟩
  | .pack2Uss => ⟨.pack2, [⟨.sat, .uss⟩], .none⟩
  | .pack4Sss => ⟨.pack4, [⟨.sat, .sss⟩], .none⟩
  | .padd1 => ⟨.padd1, [⟨.sat, .none⟩], .none⟩
  | .padd1Sss => ⟨.padd1, [⟨.sat, .sss⟩], .none⟩
  | .padd1Uus => ⟨.padd1, [⟨.sat, .uus⟩], .none⟩
  | .padd1Uuu => ⟨.padd1, [⟨.sat, .uuu⟩], .none⟩
  | .padd2 => ⟨.padd2, [⟨.sat, .none⟩], .none⟩
  | .padd2Sss => ⟨.padd2, [⟨.sat, .sss⟩], .none⟩
  | .padd2Uus => ⟨.padd2, [⟨.sat, .uus⟩], .none⟩
  | .padd2Uuu => ⟨.padd2, [⟨.sat, .uuu⟩], .none⟩
  | .padd4 => ⟨.padd4, [], .none⟩
  | .pavg1 => ⟨.pavg1, [⟨.pavg, .none⟩], .none⟩
  | .pavg1Raz => ⟨.pavg1, [⟨.pavg, .raz⟩], .none⟩
  | .pavg2 => ⟨.pavg2, [⟨.pavg, .none⟩], .none⟩
  | .pavg2Raz => ⟨.pavg2, [⟨.pavg, .raz⟩], .none⟩
  | .pavgsub1 => ⟨.pavgsub1, [], .none⟩
  | .pavgsub2 => ⟨.pavgsub2, [], .none⟩
  | .pcmp1Eq => ⟨.pcmp1, [⟨.prel, .eq⟩], .none⟩
  | .pcmp1Gt => ⟨.pcmp1, [⟨.prel, .gt⟩], .none⟩
  | .pcmp2Eq => ⟨.pcmp2, [⟨.prel, .eq⟩], .none⟩
  | .pcmp2Gt => ⟨.pcmp2, [⟨.prel, .gt⟩], .none⟩
  | .pcmp4Eq => ⟨.pcmp4, [⟨.prel, .eq⟩], .none⟩
  | .pcmp4Gt => ⟨.pcmp4, [⟨.prel, .gt⟩], .none⟩
  | .pmax1U => ⟨.pmax1, [⟨.uns, .u⟩], .none⟩
  | .pmax2 => ⟨.pmax2, [], .none⟩
  | .pmin1U => ⟨.pmin1, [⟨.uns, .u⟩], .none⟩
  | .pmin2 => ⟨.pmin2, [], .none⟩
  | .pmpy2L => ⟨.pmpy2, [⟨.lr, .l⟩], .none⟩
  | .pmpy2R => ⟨.pmpy2, [⟨.lr, .r⟩], .none⟩
  | .pmpyshr2 => ⟨.pmpyshr2, [⟨.uns, .none⟩], .none⟩
  | .pmpyshr2U => ⟨.pmpyshr2, [⟨.uns, .u⟩], .none⟩
  | .popcnt => ⟨.popcnt, [], .none⟩
  | .probeR => ⟨.probe, [⟨.rw, .r⟩, ⟨.prtype, .none⟩], .none⟩
  | .probeRwFault => ⟨.probe, [⟨.rw, .rw⟩, ⟨.prtype, .fault⟩], .none⟩
  | .probeRFault => ⟨.probe, [⟨.rw, .r⟩, ⟨.prtype, .fault⟩], .none⟩
  | .probeW => ⟨.probe, [⟨.rw, .w⟩, ⟨.prtype, .none⟩], .none⟩
  | .probeWFault => ⟨.probe, [⟨.rw, .w⟩, ⟨.prtype, .fault⟩], .none⟩
  | .psad1 => ⟨.psad1, [], .none⟩
  | .pshl2 => ⟨.pshl2, [], .none⟩
  | .pshl4 => ⟨.pshl4, [], .none⟩
  | .pshladd2 => ⟨.pshladd2, [], .none⟩
  | .pshr2 => ⟨.pshr2, [⟨.uns, .none⟩], .none⟩
  | .pshr2U => ⟨.pshr2, [⟨.uns, .u⟩], .none⟩
  | .pshr4 => ⟨.pshr4, [⟨.uns, .none⟩], .none⟩
  | .pshr4U => ⟨.pshr4, [⟨.uns, .u⟩], .none⟩
  | .pshradd2 => ⟨.pshradd2, [], .none⟩
  | .psub1 => ⟨.psub1, [⟨.sat, .none⟩], .none⟩
  | .psub1Sss => ⟨.psub1, [⟨.sat, .sss⟩], .none⟩
  | .psub1Uus => ⟨.psub1, [⟨.sat, .uus⟩], .none⟩
  | .psub1Uuu => ⟨.psub1, [⟨.sat, .uuu⟩], .none⟩
  | .psub2 => ⟨.psub2, [⟨.sat, .none⟩], .none⟩
  | .psub2Sss => ⟨.psub2, [⟨.sat, .sss⟩], .none⟩
  | .psub2Uus => ⟨.psub2, [⟨.sat, .uus⟩], .none⟩
  | .psub2Uuu => ⟨.psub2, [⟨.sat, .uuu⟩], .none⟩
  | .psub4 => ⟨.psub4, [], .none⟩
  | .ptcE => ⟨.ptc, [⟨.ptc, .e⟩], .none⟩
  | .ptcG => ⟨.ptc, [⟨.ptc, .g⟩], .none⟩
  | .ptcGa => ⟨.ptc, [⟨.ptc, .ga⟩], .none⟩
  | .ptcL => ⟨.ptc, [⟨.ptc, .l⟩], .none⟩
  | .ptrD => ⟨.ptr, [⟨.ptr, .d⟩], .none⟩
  | .ptrI => ⟨.ptr, [⟨.ptr, .i⟩], .none⟩
  | .rfi => ⟨.rfi, [], .none⟩
  | .rsm => ⟨.rsm, [], .none⟩
  | .rum => ⟨.rum, [], .none⟩
  | .setfD => ⟨.setf, [⟨.setf, .d⟩], .none⟩
  | .setfExp => ⟨.setf, [⟨.setf, .exp⟩], .none⟩
  | .setfS => ⟨.setf, [⟨.setf, .s⟩], .none⟩
  | .setfSig => ⟨.setf, [⟨.setf, .sig⟩], .none⟩
  | .shl => ⟨.shl, [], .none⟩
  | .shladd => ⟨.shladd, [], .none⟩
  | .shladdp4 => ⟨.shladdp4, [], .none⟩
  | .shrp => ⟨.shrp, [], .none⟩
  | .shr => ⟨.shr, [⟨.uns, .none⟩], .none⟩
  | .shrU => ⟨.shr, [⟨.uns, .u⟩], .none⟩
  | .srlzD => ⟨.srlz, [⟨.srlz, .d⟩], .none⟩
  | .srlzI => ⟨.srlz, [⟨.srlz, .i⟩], .none⟩
  | .ssm => ⟨.ssm, [], .none⟩
  | .st16 => ⟨.st16, [⟨.sttype, .none⟩], .none⟩
  | .st16Rel => ⟨.st16, [⟨.sttype, .rel⟩], .none⟩
  | .st1 => ⟨.st1, [⟨.sttype, .none⟩], .none⟩
  | .st1Rel => ⟨.st1, [⟨.sttype, .rel⟩], .none⟩
  | .st2 => ⟨.st2, [⟨.sttype, .none⟩], .none⟩
  | .st2Rel => ⟨.st2, [⟨.sttype, .rel⟩], .none⟩
  | .st4 => ⟨.st4, [⟨.sttype, .none⟩], .none⟩
  | .st4Rel => ⟨.st4, [⟨.sttype, .rel⟩], .none⟩
  | .st8 => ⟨.st8, [⟨.sttype, .none⟩], .none⟩
  | .st8Rel => ⟨.st8, [⟨.sttype, .rel⟩], .none⟩
  | .st8Spill => ⟨.st8, [⟨.sttype, .spill⟩], .none⟩
  | .stf8 => ⟨.stf8, [], .none⟩
  | .stfd => ⟨.stfd, [], .none⟩
  | .stfe => ⟨.stfe, [], .none⟩
  | .stfs => ⟨.stfs, [], .none⟩
  | .stfSpill => ⟨.stf, [⟨.sttype, .spill⟩], .none⟩
  | .sub => ⟨.sub, [], .none⟩
  | .sum => ⟨.sum, [], .none⟩
  | .sxt1 => ⟨.sxt1, [], .none⟩
  | .sxt2 => ⟨.sxt2, [], .none⟩
  | .sxt4 => ⟨.sxt4, [], .none⟩
  | .syncI => ⟨.sync, [⟨.sync, .i⟩], .none⟩
  | .tak => ⟨.tak, [], .none⟩
  | .tbitNzAnd => ⟨.tbit, [⟨.trel, .nz⟩, ⟨.ctype, .and⟩], .none⟩
  | .tbitNzOr => ⟨.tbit, [⟨.trel, .nz⟩, ⟨.ctype, .or⟩], .none⟩
  | .tbitNzOrAndcm => ⟨.tbit, [⟨.trel, .nz⟩, ⟨.ctype, .orAndcm⟩], .none⟩
  | .tbitZ => ⟨.tbit, [⟨.trel, .z⟩, ⟨.ctype, .none⟩], .none⟩
  | .tbitZAnd => ⟨.tbit, [⟨.trel, .z⟩, ⟨.ctype, .and⟩], .none⟩
  | .tbitZOr => ⟨.tbit, [⟨.trel, .z⟩, ⟨.ctype, .or⟩], .none⟩
  | .tbitZOrAndcm => ⟨.tbit, [⟨.trel, .z⟩, ⟨.ctype, .orAndcm⟩], .none⟩
  | .tbitZUnc => ⟨.tbit, [⟨.trel, .z⟩, ⟨.ctype, .unc⟩], .none⟩
  | .tfNzAnd => ⟨.tf, [⟨.trel, .nz⟩, ⟨.ctype, .and⟩], .none⟩
  | .tfNzOr => ⟨.tf, [⟨.trel, .nz⟩, ⟨.ctype, .or⟩], .none⟩
  | .tfNzOrAndcm => ⟨.tf, [⟨.trel, .nz⟩, ⟨.ctype, .orAndcm⟩], .none⟩
  | .tfZ => ⟨.tf, [⟨.trel, .z⟩, ⟨.ctype, .none⟩], .none⟩
  | .tfZAnd => ⟨.tf, [⟨.trel, .z⟩, ⟨.ctype, .and⟩], .none⟩
  | .tfZOr => ⟨.tf, [⟨.trel, .z⟩, ⟨.ctype, .or⟩], .none⟩
  | .tfZOrAndcm => ⟨.tf, [⟨.trel, .z⟩, ⟨.ctype, .orAndcm⟩], .none⟩
  | .tfZUnc => ⟨.tf, [⟨.trel, .z⟩, ⟨.ctype, .unc⟩], .none⟩
  | .thash => ⟨.thash, [], .none⟩
  | .tnatNzAnd => ⟨.tnat, [⟨.trel, .nz⟩, ⟨.ctype, .and⟩], .none⟩
  | .tnatNzOr => ⟨.tnat, [⟨.trel, .nz⟩, ⟨.ctype, .or⟩], .none⟩
  | .tnatNzOrAndcm => ⟨.tnat, [⟨.trel, .nz⟩, ⟨.ctype, .orAndcm⟩], .none⟩
  | .tnatZ => ⟨.tnat, [⟨.trel, .z⟩, ⟨.ctype, .none⟩], .none⟩
  | .tnatZAnd => ⟨.tnat, [⟨.trel, .z⟩, ⟨.ctype, .and⟩], .none⟩
  | .tnatZOr => ⟨.tnat, [⟨.trel, .z⟩, ⟨.ctype, .or⟩], .none⟩
  | .tnatZOrAndcm => ⟨.tnat, [⟨.trel, .z⟩, ⟨.ctype, .orAndcm⟩], .none⟩
  | .tnatZUnc => ⟨.tnat, [⟨.trel, .z⟩, ⟨.ctype, .unc⟩], .none⟩
  | .tpa => ⟨.tpa, [], .none⟩
  | .ttag => ⟨.ttag, [], .none⟩
  | .unpack1H => ⟨.unpack1, [⟨.unpack, .h⟩], .none⟩
  | .unpack1L => ⟨.unpack1, [⟨.unpack, .l⟩], .none⟩
  | .unpack2H => ⟨.unpack2, [⟨.unpack, .h⟩], .none⟩
  | .unpack2L => ⟨.unpack2, [⟨.unpack, .l⟩], .none⟩
  | .unpack4H => ⟨.unpack4, [⟨.unpack, .h⟩], .none⟩
  | .unpack4L => ⟨.unpack4, [⟨.unpack, .l⟩], .none⟩
  | .vmsw0 => ⟨.vmsw, [⟨.vmsw, .zero⟩], .none⟩
  | .vmsw1 => ⟨.vmsw, [⟨.vmsw, .one⟩], .none⟩
  | .xchg1 => ⟨.xchg1, [], .none⟩
  | .xchg2 => ⟨.xchg2, [], .none⟩
  | .xchg4 => ⟨.xchg4, [], .none⟩
  | .xchg8 => ⟨.xchg8, [], .none⟩
  | .xmaH => ⟨.xma, [⟨.xma, .h⟩], .none⟩
  | .xmaHu => ⟨.xma, [⟨.xma, .hu⟩], .none⟩
  | .xmaL => ⟨.xma, [⟨.xma, .l⟩], .none⟩
  | .xor => ⟨.xor, [], .none⟩
  | .zxt1 => ⟨.zxt1, [], .none⟩
  | .zxt2 => ⟨.zxt2, [], .none⟩
  | .zxt4 => ⟨.zxt4, [], .none⟩

def Operation.mnemonic (op : Operation) : Mnemonic :=
  op.assembly.mnemonic

end Itanium
