/-!
# Completers

A completer refines a mnemonic: `ld8.c.clr.nt1` is `ld8` with a load type and a locality hint. It
has a role, which says what it refines, and a form, which is what the listing shows after the dot.
The form `none` is the default of its role: it is recorded but not listed.
-/
namespace Itanium

inductive CompleterRole where
  | aclr | bsw | btype | bwh | chk | clrrrb | crel | ctype | dep | dh | fc | fcrel | fctype | fcvt
  | fldtype | fmerge | frel | fswap | getf | ih | invala | ipwh | itc | itr | ldhint | ldtype
  | lfetch | lfhint | lftype | lr | mf | mov | mwh | pavg | pc | ph | prel | prtype | ptc | ptr
  | pvec | rw | sat | sem | setf | sf | srlz | sthint | sttype | sync | trel | trunc | unit | unpack
  | uns | vmsw | xma
deriving DecidableEq

def CompleterRole.text : CompleterRole → String
  | .aclr => "aclr"
  | .bsw => "bsw"
  | .btype => "btype"
  | .bwh => "bwh"
  | .chk => "chk"
  | .clrrrb => "clrrrb"
  | .crel => "crel"
  | .ctype => "ctype"
  | .dep => "dep"
  | .dh => "dh"
  | .fc => "fc"
  | .fcrel => "fcrel"
  | .fctype => "fctype"
  | .fcvt => "fcvt"
  | .fldtype => "fldtype"
  | .fmerge => "fmerge"
  | .frel => "frel"
  | .fswap => "fswap"
  | .getf => "getf"
  | .ih => "ih"
  | .invala => "invala"
  | .ipwh => "ipwh"
  | .itc => "itc"
  | .itr => "itr"
  | .ldhint => "ldhint"
  | .ldtype => "ldtype"
  | .lfetch => "lfetch"
  | .lfhint => "lfhint"
  | .lftype => "lftype"
  | .lr => "lr"
  | .mf => "mf"
  | .mov => "mov"
  | .mwh => "mwh"
  | .pavg => "pavg"
  | .pc => "pc"
  | .ph => "ph"
  | .prel => "prel"
  | .prtype => "prtype"
  | .ptc => "ptc"
  | .ptr => "ptr"
  | .pvec => "pvec"
  | .rw => "rw"
  | .sat => "sat"
  | .sem => "sem"
  | .setf => "setf"
  | .sf => "sf"
  | .srlz => "srlz"
  | .sthint => "sthint"
  | .sttype => "sttype"
  | .sync => "sync"
  | .trel => "trel"
  | .trunc => "trunc"
  | .unit => "unit"
  | .unpack => "unpack"
  | .uns => "uns"
  | .vmsw => "vmsw"
  | .xma => "xma"

inductive CompleterForm where
  | zero | one | a | acq | and | b | bias | call | cexit | cloop | clr | cond | ctop | cClr
  | cClrAcq | cNc | d | dcDc | dcNt | dpnt | dptk | e | eq | excl | exit | exp | f | fault | few
  | fill | fx | fxu | g | ga | ge | gt | h | hu | i | ia | imp | l | le | loop | lr | lt | ltu | m
  | many | nc | ne | neq | nl | nle | nlt | none | nr | ns | nt1 | nt2 | nta | ntDc | ntNt | ntTk
  | nz | or | ord | orAndcm | pr | r | raz | rel | ret | rw | s | s0 | s1 | s2 | s3 | sa | se | sig
  | spill | spnt | sptk | sss | tkDc | tkNt | tkTk | trunc | u | unc | unord | uss | uus | uuu | w
  | wexit | wtop | x | xf | z
deriving DecidableEq

def CompleterForm.text : CompleterForm → String
  | .zero => "0"
  | .one => "1"
  | .a => "a"
  | .acq => "acq"
  | .and => "and"
  | .b => "b"
  | .bias => "bias"
  | .call => "call"
  | .cexit => "cexit"
  | .cloop => "cloop"
  | .clr => "clr"
  | .cond => "cond"
  | .ctop => "ctop"
  | .cClr => "c.clr"
  | .cClrAcq => "c.clr.acq"
  | .cNc => "c.nc"
  | .d => "d"
  | .dcDc => "dc.dc"
  | .dcNt => "dc.nt"
  | .dpnt => "dpnt"
  | .dptk => "dptk"
  | .e => "e"
  | .eq => "eq"
  | .excl => "excl"
  | .exit => "exit"
  | .exp => "exp"
  | .f => "f"
  | .fault => "fault"
  | .few => "few"
  | .fill => "fill"
  | .fx => "fx"
  | .fxu => "fxu"
  | .g => "g"
  | .ga => "ga"
  | .ge => "ge"
  | .gt => "gt"
  | .h => "h"
  | .hu => "hu"
  | .i => "i"
  | .ia => "ia"
  | .imp => "imp"
  | .l => "l"
  | .le => "le"
  | .loop => "loop"
  | .lr => "lr"
  | .lt => "lt"
  | .ltu => "ltu"
  | .m => "m"
  | .many => "many"
  | .nc => "nc"
  | .ne => "ne"
  | .neq => "neq"
  | .nl => "nl"
  | .nle => "nle"
  | .nlt => "nlt"
  | .none => "none"
  | .nr => "nr"
  | .ns => "ns"
  | .nt1 => "nt1"
  | .nt2 => "nt2"
  | .nta => "nta"
  | .ntDc => "nt.dc"
  | .ntNt => "nt.nt"
  | .ntTk => "nt.tk"
  | .nz => "nz"
  | .or => "or"
  | .ord => "ord"
  | .orAndcm => "or.andcm"
  | .pr => "pr"
  | .r => "r"
  | .raz => "raz"
  | .rel => "rel"
  | .ret => "ret"
  | .rw => "rw"
  | .s => "s"
  | .s0 => "s0"
  | .s1 => "s1"
  | .s2 => "s2"
  | .s3 => "s3"
  | .sa => "sa"
  | .se => "se"
  | .sig => "sig"
  | .spill => "spill"
  | .spnt => "spnt"
  | .sptk => "sptk"
  | .sss => "sss"
  | .tkDc => "tk.dc"
  | .tkNt => "tk.nt"
  | .tkTk => "tk.tk"
  | .trunc => "trunc"
  | .u => "u"
  | .unc => "unc"
  | .unord => "unord"
  | .uss => "uss"
  | .uus => "uus"
  | .uuu => "uuu"
  | .w => "w"
  | .wexit => "wexit"
  | .wtop => "wtop"
  | .x => "x"
  | .xf => "xf"
  | .z => "z"

structure Completer where
  role : CompleterRole
  form : CompleterForm
deriving DecidableEq

end Itanium
