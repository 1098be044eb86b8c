/-!
# Operations

What an opcode table assigns to an encoding: one operation for each distinct encoding, the
completers that the opcode itself selects included. `ld8Sa` and `ld8` are two operations of one
mnemonic.
-/
namespace Itanium

inductive Operation where
  | add | addl | addp4 | adds | alloc | and | andcm | breakB | breakF | breakI | breakM | breakX
  | brlCall | brlCond | brp | brpRet | brCall | brCexit | brCloop | brCond | brCtop | brIa | brRet
  | brWexit | brWtop | bsw0 | bsw1 | chkAClr | chkANc | chkS | chkSI | chkSM | clrrrb | clrrrbPr
  | cmp4Eq | cmp4EqAnd | cmp4EqOr | cmp4EqOrAndcm | cmp4EqUnc | cmp4GeAnd | cmp4GeOr | cmp4GeOrAndcm
  | cmp4GtAnd | cmp4GtOr | cmp4GtOrAndcm | cmp4LeAnd | cmp4LeOr | cmp4LeOrAndcm | cmp4Lt | cmp4Ltu
  | cmp4LtuUnc | cmp4LtAnd | cmp4LtOr | cmp4LtOrAndcm | cmp4LtUnc | cmp4NeAnd | cmp4NeOr
  | cmp4NeOrAndcm | cmp8xchg16Acq | cmp8xchg16Rel | cmpxchg1Acq | cmpxchg1Rel | cmpxchg2Acq
  | cmpxchg2Rel | cmpxchg4Acq | cmpxchg4Rel | cmpxchg8Acq | cmpxchg8Rel | cmpEq | cmpEqAnd | cmpEqOr
  | cmpEqOrAndcm | cmpEqUnc | cmpGeAnd | cmpGeOr | cmpGeOrAndcm | cmpGtAnd | cmpGtOr | cmpGtOrAndcm
  | cmpLeAnd | cmpLeOr | cmpLeOrAndcm | cmpLt | cmpLtu | cmpLtuUnc | cmpLtAnd | cmpLtOr
  | cmpLtOrAndcm | cmpLtUnc | cmpNeAnd | cmpNeOr | cmpNeOrAndcm | cover | czx1L | czx1R | czx2L
  | czx2R | dep | depZ | epc | extr | famax | famin | fand | fandcm | fchkf | fclassM | fclrf | fcmp
  | fcvtFx | fcvtFxu | fcvtFxuTrunc | fcvtFxTrunc | fcvtXf | fc | fcI | fetchadd4Acq | fetchadd4Rel
  | fetchadd8Acq | fetchadd8Rel | flushrs | fmax | fma | fmaD | fmaS | fmergeNs | fmergeS | fmergeSe
  | fmin | fmixL | fmixLr | fmixR | fms | fmsD | fmsS | fnma | fnmaD | fnmaS | fOr | fpack | fpamax
  | fpamin | fpcmpEq | fpcmpLe | fpcmpLt | fpcmpNeq | fpcmpNle | fpcmpNlt | fpcmpOrd | fpcmpUnord
  | fpcvtFx | fpcvtFxu | fpcvtFxuTrunc | fpcvtFxTrunc | fpma | fpmax | fpmergeNs | fpmergeS
  | fpmergeSe | fpmin | fpms | fpnma | fprcpa | fprsqrta | frcpa | frsqrta | fselect | fsetc | fswap
  | fswapNl | fswapNr | fsxtL | fsxtR | fwb | fxor | getfD | getfExp | getfS | getfSig | hintB
  | hintF | hintI | hintM | hintX | invala | invalaE | itcD | itcI | itrD | itrI | ld16 | ld16Acq
  | ld1 | ld1A | ld1Acq | ld1Bias | ld1CClr | ld1CClrAcq | ld1CNc | ld1S | ld1Sa | ld2 | ld2A
  | ld2Acq | ld2Bias | ld2CClr | ld2CClrAcq | ld2CNc | ld2S | ld2Sa | ld4 | ld4A | ld4Acq | ld4Bias
  | ld4CClr | ld4CClrAcq | ld4CNc | ld4S | ld4Sa | ld8 | ld8A | ld8Acq | ld8Bias | ld8CClr
  | ld8CClrAcq | ld8CNc | ld8Fill | ld8S | ld8Sa | ldf8 | ldf8A | ldf8CClr | ldf8CNc | ldf8S
  | ldf8Sa | ldfd | ldfdA | ldfdCClr | ldfdCNc | ldfdS | ldfdSa | ldfe | ldfeA | ldfeCClr | ldfeCNc
  | ldfeS | ldfeSa | ldfp8 | ldfp8A | ldfp8CClr | ldfp8CNc | ldfp8S | ldfp8Sa | ldfpd | ldfpdA
  | ldfpdCClr | ldfpdCNc | ldfpdS | ldfpdSa | ldfps | ldfpsA | ldfpsCClr | ldfpsCNc | ldfpsS
  | ldfpsSa | ldfs | ldfsA | ldfsCClr | ldfsCNc | ldfsS | ldfsSa | ldfFill | lfetch | lfetchExcl
  | lfetchFault | lfetchFaultExcl | loadrs | mf | mfA | mix1L | mix1R | mix2L | mix2R | mix4L
  | mix4R | movl | mov | movCpuid | movDbr | movI | movIbr | movIp | movM | movMsr | movPkr | movPmc
  | movPmd | movPr | movPsr | movPsrL | movPsrUm | movRet | movRr | mux1 | mux2 | nopB | nopF | nopI
  | nopM | nopX | or | pack2Sss | pack2Uss | pack4Sss | padd1 | padd1Sss | padd1Uus | padd1Uuu
  | padd2 | padd2Sss | padd2Uus | padd2Uuu | padd4 | pavg1 | pavg1Raz | pavg2 | pavg2Raz | pavgsub1
  | pavgsub2 | pcmp1Eq | pcmp1Gt | pcmp2Eq | pcmp2Gt | pcmp4Eq | pcmp4Gt | pmax1U | pmax2 | pmin1U
  | pmin2 | pmpy2L | pmpy2R | pmpyshr2 | pmpyshr2U | popcnt | probeR | probeRwFault | probeRFault
  | probeW | probeWFault | psad1 | pshl2 | pshl4 | pshladd2 | pshr2 | pshr2U | pshr4 | pshr4U
  | pshradd2 | psub1 | psub1Sss | psub1Uus | psub1Uuu | psub2 | psub2Sss | psub2Uus | psub2Uuu
  | psub4 | ptcE | ptcG | ptcGa | ptcL | ptrD | ptrI | rfi | rsm | rum | setfD | setfExp | setfS
  | setfSig | shl | shladd | shladdp4 | shrp | shr | shrU | srlzD | srlzI | ssm | st16 | st16Rel
  | st1 | st1Rel | st2 | st2Rel | st4 | st4Rel | st8 | st8Rel | st8Spill | stf8 | stfd | stfe | stfs
  | stfSpill | sub | sum | sxt1 | sxt2 | sxt4 | syncI | tak | tbitNzAnd | tbitNzOr | tbitNzOrAndcm
  | tbitZ | tbitZAnd | tbitZOr | tbitZOrAndcm | tbitZUnc | tfNzAnd | tfNzOr | tfNzOrAndcm | tfZ
  | tfZAnd | tfZOr | tfZOrAndcm | tfZUnc | thash | tnatNzAnd | tnatNzOr | tnatNzOrAndcm | tnatZ
  | tnatZAnd | tnatZOr | tnatZOrAndcm | tnatZUnc | tpa | ttag | unpack1H | unpack1L | unpack2H
  | unpack2L | unpack4H | unpack4L | vmsw0 | vmsw1 | xchg1 | xchg2 | xchg4 | xchg8 | xmaH | xmaHu
  | xmaL | xor | zxt1 | zxt2 | zxt4
deriving DecidableEq

/-- Every operation, in the order of the constructors. -/
def Operation.all : List Operation := [
  .add, .addl, .addp4, .adds, .alloc, .and, .andcm, .breakB, .breakF, .breakI, .breakM, .breakX,
  .brlCall, .brlCond, .brp, .brpRet, .brCall, .brCexit, .brCloop, .brCond, .brCtop, .brIa, .brRet,
  .brWexit, .brWtop, .bsw0, .bsw1, .chkAClr, .chkANc, .chkS, .chkSI, .chkSM, .clrrrb, .clrrrbPr,
  .cmp4Eq, .cmp4EqAnd, .cmp4EqOr, .cmp4EqOrAndcm, .cmp4EqUnc, .cmp4GeAnd, .cmp4GeOr, .cmp4GeOrAndcm,
  .cmp4GtAnd, .cmp4GtOr, .cmp4GtOrAndcm, .cmp4LeAnd, .cmp4LeOr, .cmp4LeOrAndcm, .cmp4Lt, .cmp4Ltu,
  .cmp4LtuUnc, .cmp4LtAnd, .cmp4LtOr, .cmp4LtOrAndcm, .cmp4LtUnc, .cmp4NeAnd, .cmp4NeOr,
  .cmp4NeOrAndcm, .cmp8xchg16Acq, .cmp8xchg16Rel, .cmpxchg1Acq, .cmpxchg1Rel, .cmpxchg2Acq,
  .cmpxchg2Rel, .cmpxchg4Acq, .cmpxchg4Rel, .cmpxchg8Acq, .cmpxchg8Rel, .cmpEq, .cmpEqAnd, .cmpEqOr,
  .cmpEqOrAndcm, .cmpEqUnc, .cmpGeAnd, .cmpGeOr, .cmpGeOrAndcm, .cmpGtAnd, .cmpGtOr, .cmpGtOrAndcm,
  .cmpLeAnd, .cmpLeOr, .cmpLeOrAndcm, .cmpLt, .cmpLtu, .cmpLtuUnc, .cmpLtAnd, .cmpLtOr,
  .cmpLtOrAndcm, .cmpLtUnc, .cmpNeAnd, .cmpNeOr, .cmpNeOrAndcm, .cover, .czx1L, .czx1R, .czx2L,
  .czx2R, .dep, .depZ, .epc, .extr, .famax, .famin, .fand, .fandcm, .fchkf, .fclassM, .fclrf, .fcmp,
  .fcvtFx, .fcvtFxu, .fcvtFxuTrunc, .fcvtFxTrunc, .fcvtXf, .fc, .fcI, .fetchadd4Acq, .fetchadd4Rel,
  .fetchadd8Acq, .fetchadd8Rel, .flushrs, .fmax, .fma, .fmaD, .fmaS, .fmergeNs, .fmergeS, .fmergeSe,
  .fmin, .fmixL, .fmixLr, .fmixR, .fms, .fmsD, .fmsS, .fnma, .fnmaD, .fnmaS, .fOr, .fpack, .fpamax,
  .fpamin, .fpcmpEq, .fpcmpLe, .fpcmpLt, .fpcmpNeq, .fpcmpNle, .fpcmpNlt, .fpcmpOrd, .fpcmpUnord,
  .fpcvtFx, .fpcvtFxu, .fpcvtFxuTrunc, .fpcvtFxTrunc, .fpma, .fpmax, .fpmergeNs, .fpmergeS,
  .fpmergeSe, .fpmin, .fpms, .fpnma, .fprcpa, .fprsqrta, .frcpa, .frsqrta, .fselect, .fsetc, .fswap,
  .fswapNl, .fswapNr, .fsxtL, .fsxtR, .fwb, .fxor, .getfD, .getfExp, .getfS, .getfSig, .hintB,
  .hintF, .hintI, .hintM, .hintX, .invala, .invalaE, .itcD, .itcI, .itrD, .itrI, .ld16, .ld16Acq,
  .ld1, .ld1A, .ld1Acq, .ld1Bias, .ld1CClr, .ld1CClrAcq, .ld1CNc, .ld1S, .ld1Sa, .ld2, .ld2A,
  .ld2Acq, .ld2Bias, .ld2CClr, .ld2CClrAcq, .ld2CNc, .ld2S, .ld2Sa, .ld4, .ld4A, .ld4Acq, .ld4Bias,
  .ld4CClr, .ld4CClrAcq, .ld4CNc, .ld4S, .ld4Sa, .ld8, .ld8A, .ld8Acq, .ld8Bias, .ld8CClr,
  .ld8CClrAcq, .ld8CNc, .ld8Fill, .ld8S, .ld8Sa, .ldf8, .ldf8A, .ldf8CClr, .ldf8CNc, .ldf8S,
  .ldf8Sa, .ldfd, .ldfdA, .ldfdCClr, .ldfdCNc, .ldfdS, .ldfdSa, .ldfe, .ldfeA, .ldfeCClr, .ldfeCNc,
  .ldfeS, .ldfeSa, .ldfp8, .ldfp8A, .ldfp8CClr, .ldfp8CNc, .ldfp8S, .ldfp8Sa, .ldfpd, .ldfpdA,
  .ldfpdCClr, .ldfpdCNc, .ldfpdS, .ldfpdSa, .ldfps, .ldfpsA, .ldfpsCClr, .ldfpsCNc, .ldfpsS,
  .ldfpsSa, .ldfs, .ldfsA, .ldfsCClr, .ldfsCNc, .ldfsS, .ldfsSa, .ldfFill, .lfetch, .lfetchExcl,
  .lfetchFault, .lfetchFaultExcl, .loadrs, .mf, .mfA, .mix1L, .mix1R, .mix2L, .mix2R, .mix4L,
  .mix4R, .movl, .mov, .movCpuid, .movDbr, .movI, .movIbr, .movIp, .movM, .movMsr, .movPkr, .movPmc,
  .movPmd, .movPr, .movPsr, .movPsrL, .movPsrUm, .movRet, .movRr, .mux1, .mux2, .nopB, .nopF, .nopI,
  .nopM, .nopX, .or, .pack2Sss, .pack2Uss, .pack4Sss, .padd1, .padd1Sss, .padd1Uus, .padd1Uuu,
  .padd2, .padd2Sss, .padd2Uus, .padd2Uuu, .padd4, .pavg1, .pavg1Raz, .pavg2, .pavg2Raz, .pavgsub1,
  .pavgsub2, .pcmp1Eq, .pcmp1Gt, .pcmp2Eq, .pcmp2Gt, .pcmp4Eq, .pcmp4Gt, .pmax1U, .pmax2, .pmin1U,
  .pmin2, .pmpy2L, .pmpy2R, .pmpyshr2, .pmpyshr2U, .popcnt, .probeR, .probeRwFault, .probeRFault,
  .probeW, .probeWFault, .psad1, .pshl2, .pshl4, .pshladd2, .pshr2, .pshr2U, .pshr4, .pshr4U,
  .pshradd2, .psub1, .psub1Sss, .psub1Uus, .psub1Uuu, .psub2, .psub2Sss, .psub2Uus, .psub2Uuu,
  .psub4, .ptcE, .ptcG, .ptcGa, .ptcL, .ptrD, .ptrI, .rfi, .rsm, .rum, .setfD, .setfExp, .setfS,
  .setfSig, .shl, .shladd, .shladdp4, .shrp, .shr, .shrU, .srlzD, .srlzI, .ssm, .st16, .st16Rel,
  .st1, .st1Rel, .st2, .st2Rel, .st4, .st4Rel, .st8, .st8Rel, .st8Spill, .stf8, .stfd, .stfe, .stfs,
  .stfSpill, .sub, .sum, .sxt1, .sxt2, .sxt4, .syncI, .tak, .tbitNzAnd, .tbitNzOr, .tbitNzOrAndcm,
  .tbitZ, .tbitZAnd, .tbitZOr, .tbitZOrAndcm, .tbitZUnc, .tfNzAnd, .tfNzOr, .tfNzOrAndcm, .tfZ,
  .tfZAnd, .tfZOr, .tfZOrAndcm, .tfZUnc, .thash, .tnatNzAnd, .tnatNzOr, .tnatNzOrAndcm, .tnatZ,
  .tnatZAnd, .tnatZOr, .tnatZOrAndcm, .tnatZUnc, .tpa, .ttag, .unpack1H, .unpack1L, .unpack2H,
  .unpack2L, .unpack4H, .unpack4L, .vmsw0, .vmsw1, .xchg1, .xchg2, .xchg4, .xchg8, .xmaH, .xmaHu,
  .xmaL, .xor, .zxt1, .zxt2, .zxt4]

end Itanium
