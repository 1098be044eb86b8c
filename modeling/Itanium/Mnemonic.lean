/-!
# Mnemonics

The assembler name of an instruction, without its completers.
-/
namespace Itanium

inductive Mnemonic where
  | add | addl | addp4 | adds | alloc | and | andcm | br | brk | brl | brp | bsw | chk | clrrrb
  | cmp | cmp4 | cmp8xchg16 | cmpxchg1 | cmpxchg2 | cmpxchg4 | cmpxchg8 | cover | czx1 | czx2 | dep
  | epc | extr | famax | famin | fand | fandcm | fc | fchkf | fclass | fclrf | fcmp | fcvt
  | fetchadd4 | fetchadd8 | flushrs | fma | fmax | fmerge | fmin | fmix | fms | fnma | fOr | fpack
  | fpamax | fpamin | fpcmp | fpcvt | fpma | fpmax | fpmerge | fpmin | fpms | fpnma | fprcpa
  | fprsqrta | frcpa | frsqrta | fselect | fsetc | fswap | fsxt | fwb | fxor | getf | hint | invala
  | itc | itr | ld1 | ld16 | ld2 | ld4 | ld8 | ldf | ldf8 | ldfd | ldfe | ldfp8 | ldfpd | ldfps
  | ldfs | lfetch | loadrs | mf | mix1 | mix2 | mix4 | mov | movl | mux1 | mux2 | nop | or | pack2
  | pack4 | padd1 | padd2 | padd4 | pavg1 | pavg2 | pavgsub1 | pavgsub2 | pcmp1 | pcmp2 | pcmp4
  | pmax1 | pmax2 | pmin1 | pmin2 | pmpy2 | pmpyshr2 | popcnt | probe | psad1 | pshl2 | pshl4
  | pshladd2 | pshr2 | pshr4 | pshradd2 | psub1 | psub2 | psub4 | ptc | ptr | rfi | rsm | rum | setf
  | shl | shladd | shladdp4 | shr | shrp | srlz | ssm | st1 | st16 | st2 | st4 | st8 | stf | stf8
  | stfd | stfe | stfs | sub | sum | sxt1 | sxt2 | sxt4 | sync | tak | tbit | tf | thash | tnat
  | tpa | ttag | unpack1 | unpack2 | unpack4 | vmsw | xchg1 | xchg2 | xchg4 | xchg8 | xma | xor
  | zxt1 | zxt2 | zxt4
deriving DecidableEq

namespace Mnemonic

/-- Every mnemonic, in the order of the constructors. -/
def all : List Mnemonic := [
  .add, .addl, .addp4, .adds, .alloc, .and, .andcm, .br, .brk, .brl, .brp, .bsw, .chk, .clrrrb,
  .cmp, .cmp4, .cmp8xchg16, .cmpxchg1, .cmpxchg2, .cmpxchg4, .cmpxchg8, .cover, .czx1, .czx2, .dep,
  .epc, .extr, .famax, .famin, .fand, .fandcm, .fc, .fchkf, .fclass, .fclrf, .fcmp, .fcvt,
  .fetchadd4, .fetchadd8, .flushrs, .fma, .fmax, .fmerge, .fmin, .fmix, .fms, .fnma, .fOr, .fpack,
  .fpamax, .fpamin, .fpcmp, .fpcvt, .fpma, .fpmax, .fpmerge, .fpmin, .fpms, .fpnma, .fprcpa,
  .fprsqrta, .frcpa, .frsqrta, .fselect, .fsetc, .fswap, .fsxt, .fwb, .fxor, .getf, .hint, .invala,
  .itc, .itr, .ld1, .ld16, .ld2, .ld4, .ld8, .ldf, .ldf8, .ldfd, .ldfe, .ldfp8, .ldfpd, .ldfps,
  .ldfs, .lfetch, .loadrs, .mf, .mix1, .mix2, .mix4, .mov, .movl, .mux1, .mux2, .nop, .or, .pack2,
  .pack4, .padd1, .padd2, .padd4, .pavg1, .pavg2, .pavgsub1, .pavgsub2, .pcmp1, .pcmp2, .pcmp4,
  .pmax1, .pmax2, .pmin1, .pmin2, .pmpy2, .pmpyshr2, .popcnt, .probe, .psad1, .pshl2, .pshl4,
  .pshladd2, .pshr2, .pshr4, .pshradd2, .psub1, .psub2, .psub4, .ptc, .ptr, .rfi, .rsm, .rum, .setf,
  .shl, .shladd, .shladdp4, .shr, .shrp, .srlz, .ssm, .st1, .st16, .st2, .st4, .st8, .stf, .stf8,
  .stfd, .stfe, .stfs, .sub, .sum, .sxt1, .sxt2, .sxt4, .sync, .tak, .tbit, .tf, .thash, .tnat,
  .tpa, .ttag, .unpack1, .unpack2, .unpack4, .vmsw, .xchg1, .xchg2, .xchg4, .xchg8, .xma, .xor,
  .zxt1, .zxt2, .zxt4]

/-- The spelling in listings and records. -/
def text : Mnemonic → String
  | .add => "add"
  | .addl => "addl"
  | .addp4 => "addp4"
  | .adds => "adds"
  | .alloc => "alloc"
  | .and => "and"
  | .andcm => "andcm"
  | .br => "br"
  | .brk => "break"
  | .brl => "brl"
  | .brp => "brp"
  | .bsw => "bsw"
  | .chk => "chk"
  | .clrrrb => "clrrrb"
  | .cmp => "cmp"
  | .cmp4 => "cmp4"
  | .cmp8xchg16 => "cmp8xchg16"
  | .cmpxchg1 => "cmpxchg1"
  | .cmpxchg2 => "cmpxchg2"
  | .cmpxchg4 => "cmpxchg4"
  | .cmpxchg8 => "cmpxchg8"
  | .cover => "cover"
  | .czx1 => "czx1"
  | .czx2 => "czx2"
  | .dep => "dep"
  | .epc => "epc"
  | .extr => "extr"
  | .famax => "famax"
  | .famin => "famin"
  | .fand => "fand"
  | .fandcm => "fandcm"
  | .fc => "fc"
  | .fchkf => "fchkf"
  | .fclass => "fclass"
  | .fclrf => "fclrf"
  | .fcmp => "fcmp"
  | .fcvt => "fcvt"
  | .fetchadd4 => "fetchadd4"
  | .fetchadd8 => "fetchadd8"
  | .flushrs => "flushrs"
  | .fma => "fma"
  | .fmax => "fmax"
  | .fmerge => "fmerge"
  | .fmin => "fmin"
  | .fmix => "fmix"
  | .fms => "fms"
  | .fnma => "fnma"
  | .fOr => "for"
  | .fpack => "fpack"
  | .fpamax => "fpamax"
  | .fpamin => "fpamin"
  | .fpcmp => "fpcmp"
  | .fpcvt => "fpcvt"
  | .fpma => "fpma"
  | .fpmax => "fpmax"
  | .fpmerge => "fpmerge"
  | .fpmin => "fpmin"
  | .fpms => "fpms"
  | .fpnma => "fpnma"
  | .fprcpa => "fprcpa"
  | .fprsqrta => "fprsqrta"
  | .frcpa => "frcpa"
  | .frsqrta => "frsqrta"
  | .fselect => "fselect"
  | .fsetc => "fsetc"
  | .fswap => "fswap"
  | .fsxt => "fsxt"
  | .fwb => "fwb"
  | .fxor => "fxor"
  | .getf => "getf"
  | .hint => "hint"
  | .invala => "invala"
  | .itc => "itc"
  | .itr => "itr"
  | .ld1 => "ld1"
  | .ld16 => "ld16"
  | .ld2 => "ld2"
  | .ld4 => "ld4"
  | .ld8 => "ld8"
  | .ldf => "ldf"
  | .ldf8 => "ldf8"
  | .ldfd => "ldfd"
  | .ldfe => "ldfe"
  | .ldfp8 => "ldfp8"
  | .ldfpd => "ldfpd"
  | .ldfps => "ldfps"
  | .ldfs => "ldfs"
  | .lfetch => "lfetch"
  | .loadrs => "loadrs"
  | .mf => "mf"
  | .mix1 => "mix1"
  | .mix2 => "mix2"
  | .mix4 => "mix4"
  | .mov => "mov"
  | .movl => "movl"
  | .mux1 => "mux1"
  | .mux2 => "mux2"
  | .nop => "nop"
  | .or => "or"
  | .pack2 => "pack2"
  | .pack4 => "pack4"
  | .padd1 => "padd1"
  | .padd2 => "padd2"
  | .padd4 => "padd4"
  | .pavg1 => "pavg1"
  | .pavg2 => "pavg2"
  | .pavgsub1 => "pavgsub1"
  | .pavgsub2 => "pavgsub2"
  | .pcmp1 => "pcmp1"
  | .pcmp2 => "pcmp2"
  | .pcmp4 => "pcmp4"
  | .pmax1 => "pmax1"
  | .pmax2 => "pmax2"
  | .pmin1 => "pmin1"
  | .pmin2 => "pmin2"
  | .pmpy2 => "pmpy2"
  | .pmpyshr2 => "pmpyshr2"
  | .popcnt => "popcnt"
  | .probe => "probe"
  | .psad1 => "psad1"
  | .pshl2 => "pshl2"
  | .pshl4 => "pshl4"
  | .pshladd2 => "pshladd2"
  | .pshr2 => "pshr2"
  | .pshr4 => "pshr4"
  | .pshradd2 => "pshradd2"
  | .psub1 => "psub1"
  | .psub2 => "psub2"
  | .psub4 => "psub4"
  | .ptc => "ptc"
  | .ptr => "ptr"
  | .rfi => "rfi"
  | .rsm => "rsm"
  | .rum => "rum"
  | .setf => "setf"
  | .shl => "shl"
  | .shladd => "shladd"
  | .shladdp4 => "shladdp4"
  | .shr => "shr"
  | .shrp => "shrp"
  | .srlz => "srlz"
  | .ssm => "ssm"
  | .st1 => "st1"
  | .st16 => "st16"
  | .st2 => "st2"
  | .st4 => "st4"
  | .st8 => "st8"
  | .stf => "stf"
  | .stf8 => "stf8"
  | .stfd => "stfd"
  | .stfe => "stfe"
  | .stfs => "stfs"
  | .sub => "sub"
  | .sum => "sum"
  | .sxt1 => "sxt1"
  | .sxt2 => "sxt2"
  | .sxt4 => "sxt4"
  | .sync => "sync"
  | .tak => "tak"
  | .tbit => "tbit"
  | .tf => "tf"
  | .thash => "thash"
  | .tnat => "tnat"
  | .tpa => "tpa"
  | .ttag => "ttag"
  | .unpack1 => "unpack1"
  | .unpack2 => "unpack2"
  | .unpack4 => "unpack4"
  | .vmsw => "vmsw"
  | .xchg1 => "xchg1"
  | .xchg2 => "xchg2"
  | .xchg4 => "xchg4"
  | .xchg8 => "xchg8"
  | .xma => "xma"
  | .xor => "xor"
  | .zxt1 => "zxt1"
  | .zxt2 => "zxt2"
  | .zxt4 => "zxt4"

/-- The mnemonic of a spelling. -/
def ofText? (text : String) : Option Mnemonic :=
  all.find? (·.text == text)

end Mnemonic

end Itanium
