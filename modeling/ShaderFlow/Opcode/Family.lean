import ShaderFlow.Code

/-!
# Opcode families

The opcodes of the token format, divided by what they mean to a reader of whole programs: control
flow, the two groups of declarations that are understood, instructions and declarations of stages
that are not, instructions that use views, and all others. Each family has one table of numbers,
assembly names and dump identifiers.
-/

namespace ShaderFlow

/-- Structured control flow: opening, dividing, closing and leaving scopes. -/
inductive FlowOp where
  | beginIf | elseArm | endIf | beginLoop | endLoop | beginSwitch | caseLabel | defaultLabel
  | endSwitch | breakOut | breakIf | continueLoop | continueIf | ret | retIf | discard
  deriving DecidableEq

namespace FlowOp

/-- Number and names of each member. -/
def code : FlowOp → Code
  | .beginIf => .listed 31 "if" "If"
  | .elseArm => .listed 18 "else" "Else"
  | .endIf => .listed 21 "endif" "EndIf"
  | .beginLoop => .listed 48 "loop" "Loop"
  | .endLoop => .listed 22 "endloop" "EndLoop"
  | .beginSwitch => .listed 76 "switch" "Switch"
  | .caseLabel => .listed 6 "case" "Case"
  | .defaultLabel => .listed 10 "default" "Default"
  | .endSwitch => .listed 23 "endswitch" "EndSwitch"
  | .breakOut => .listed 2 "break" "Break"
  | .breakIf => .listed 3 "breakc" "Breakc"
  | .continueLoop => .listed 7 "continue" "Continue"
  | .continueIf => .listed 8 "continuec" "Continuec"
  | .ret => .listed 62 "ret" "Ret"
  | .retIf => .listed 63 "retc" "Retc"
  | .discard => .listed 13 "discard" "Discard"

/-- The members of the family. -/
def all : List FlowOp :=
  [.beginIf, .elseArm, .endIf, .beginLoop, .endLoop, .beginSwitch, .caseLabel, .defaultLabel,
   .endSwitch, .breakOut, .breakIf, .continueLoop, .continueIf, .ret, .retIf, .discard]

end FlowOp

/-- Declarations of bindings, registers, shared memory and program-wide settings. -/
inductive ResourceDcl where
  | constantBuffer | sampler | resource | resourceRaw | resourceStructured | uavTyped | uavRaw
  | uavStructured | temps | indexableTemp | threadGroup | sharedRaw | sharedStructured
  | globalFlags | indexRange
  deriving DecidableEq

namespace ResourceDcl

/-- Number and names of each member. -/
def code : ResourceDcl → Code
  | .constantBuffer => .listed 89 "dcl_constantbuffer" "DclConstantBuffer"
  | .sampler => .listed 90 "dcl_sampler" "DclSampler"
  | .resource => .listed 88 "dcl_resource" "DclResource"
  | .resourceRaw => .listed 161 "dcl_resource_raw" "DclResourceRaw"
  | .resourceStructured => .listed 162 "dcl_resource_structured" "DclResourceStructured"
  | .uavTyped => .listed 156 "dcl_uav_typed" "DclUavTyped"
  | .uavRaw => .listed 157 "dcl_uav_raw" "DclUavRaw"
  | .uavStructured => .listed 158 "dcl_uav_structured" "DclUavStructured"
  | .temps => .listed 104 "dcl_temps" "DclTemps"
  | .indexableTemp => .listed 105 "dcl_indexableTemp" "DclIndexableTemp"
  | .threadGroup => .listed 155 "dcl_thread_group" "DclThreadGroup"
  | .sharedRaw => .listed 159 "dcl_tgsm_raw" "DclTgsmRaw"
  | .sharedStructured => .listed 160 "dcl_tgsm_structured" "DclTgsmStructured"
  | .globalFlags => .listed 106 "dcl_globalFlags" "DclGlobalFlags"
  | .indexRange => .listed 91 "dcl_indexrange" "DclIndexRange"

/-- The members of the family. -/
def all : List ResourceDcl :=
  [.constantBuffer, .sampler, .resource, .resourceRaw, .resourceStructured, .uavTyped, .uavRaw,
   .uavStructured, .temps, .indexableTemp, .threadGroup, .sharedRaw, .sharedStructured,
   .globalFlags, .indexRange]

end ResourceDcl

/-- Declarations of stage inputs and outputs. A *generated* value is produced by the fixed-function
pipeline, an *interpreted* one is also consumed by it. -/
inductive StageDcl where
  | input | inputGenerated | inputInterpreted | pixelInput | pixelInputGenerated
  | pixelInputInterpreted | output | outputGenerated | outputInterpreted
  deriving DecidableEq

namespace StageDcl

/-- Number and names of each member. -/
def code : StageDcl → Code
  | .input => .listed 95 "dcl_input" "DclInput"
  | .inputGenerated => .listed 96 "dcl_input_sgv" "DclInputSgv"
  | .inputInterpreted => .listed 97 "dcl_input_siv" "DclInputSiv"
  | .pixelInput => .listed 98 "dcl_input_ps" "DclInputPs"
  | .pixelInputGenerated => .listed 99 "dcl_input_ps_sgv" "DclInputPsSgv"
  | .pixelInputInterpreted => .listed 100 "dcl_input_ps_siv" "DclInputPsSiv"
  | .output => .listed 101 "dcl_output" "DclOutput"
  | .outputGenerated => .listed 102 "dcl_output_sgv" "DclOutputSgv"
  | .outputInterpreted => .listed 103 "dcl_output_siv" "DclOutputSiv"

/-- The members of the family. -/
def all : List StageDcl :=
  [.input, .inputGenerated, .inputInterpreted, .pixelInput, .pixelInputGenerated,
   .pixelInputInterpreted, .output, .outputGenerated, .outputInterpreted]

end StageDcl

/-- Declarations of geometry, hull and domain shaders and of dynamic linkage. -/
inductive ForeignDcl where
  | gsOutputPrimitiveTopology | gsInputPrimitive | maxOutputVertexCount | stream | functionBody
  | functionTable | interface | inputControlPointCount | outputControlPointCount | tessDomain
  | tessPartitioning | tessOutputPrimitive | hsMaxTessFactor | hsForkPhaseInstanceCount
  | hsJoinPhaseInstanceCount | gsInstanceCount
  deriving DecidableEq

namespace ForeignDcl

/-- Number and names of each member. -/
def code : ForeignDcl → Code
  | .gsOutputPrimitiveTopology => .listed 92 "dcl_outputtopology" "DclGsOutputPrimitiveTopology"
  | .gsInputPrimitive => .listed 93 "dcl_inputprimitive" "DclGsInputPrimitive"
  | .maxOutputVertexCount => .listed 94 "dcl_maxout" "DclMaxOutputVertexCount"
  | .stream => .listed 143 "dcl_stream" "DclStream"
  | .functionBody => .listed 144 "dcl_function_body" "DclFunctionBody"
  | .functionTable => .listed 145 "dcl_function_table" "DclFunctionTable"
  | .interface => .listed 146 "dcl_interface" "DclInterface"
  | .inputControlPointCount =>
    .listed 147 "dcl_input_control_point_count" "DclInputControlPointCount"
  | .outputControlPointCount =>
    .listed 148 "dcl_output_control_point_count" "DclOutputControlPointCount"
  | .tessDomain => .listed 149 "dcl_tessellator_domain" "DclTessDomain"
  | .tessPartitioning => .listed 150 "dcl_tessellator_partitioning" "DclTessPartitioning"
  | .tessOutputPrimitive => .listed 151 "dcl_tessellator_output_primitive" "DclTessOutputPrimitive"
  | .hsMaxTessFactor => .listed 152 "dcl_hs_max_tessfactor" "DclHsMaxTessFactor"
  | .hsForkPhaseInstanceCount =>
    .listed 153 "dcl_hs_fork_phase_instance_count" "DclHsForkPhaseInstanceCount"
  | .hsJoinPhaseInstanceCount =>
    .listed 154 "dcl_hs_join_phase_instance_count" "DclHsJoinPhaseInstanceCount"
  | .gsInstanceCount => .listed 206 "dcl_gs_instance_count" "DclGsInstanceCount"

/-- The members of the family. -/
def all : List ForeignDcl :=
  [.gsOutputPrimitiveTopology, .gsInputPrimitive, .maxOutputVertexCount, .stream, .functionBody,
   .functionTable, .interface, .inputControlPointCount, .outputControlPointCount, .tessDomain,
   .tessPartitioning, .tessOutputPrimitive, .hsMaxTessFactor, .hsForkPhaseInstanceCount,
   .hsJoinPhaseInstanceCount, .gsInstanceCount]

end ForeignDcl

/-- Instructions of geometry and hull shaders and subroutine calls. -/
inductive ForeignOp where
  | emit | cut | emitThenCut | emitStream | cutStream | emitThenCutStream | hsDecls
  | hsControlPointPhase | hsForkPhase | hsJoinPhase | label | call | callc | interfaceCall
  deriving DecidableEq

namespace ForeignOp

/-- Number and names of each member. -/
def code : ForeignOp → Code
  | .emit => .listed 19 "emit" "Emit"
  | .cut => .listed 9 "cut" "Cut"
  | .emitThenCut => .listed 20 "emitthen_cut" "EmitThenCut"
  | .emitStream => .listed 117 "emit_stream" "EmitStream"
  | .cutStream => .listed 118 "cut_stream" "CutStream"
  | .emitThenCutStream => .listed 119 "emitthen_cut_stream" "EmitThenCutStream"
  | .hsDecls => .listed 113 "hs_decls" "HsDecls"
  | .hsControlPointPhase => .listed 114 "hs_control_point_phase" "HsControlPointPhase"
  | .hsForkPhase => .listed 115 "hs_fork_phase" "HsForkPhase"
  | .hsJoinPhase => .listed 116 "hs_join_phase" "HsJoinPhase"
  | .label => .listed 44 "label" "Label"
  | .call => .listed 4 "call" "Call"
  | .callc => .listed 5 "callc" "Callc"
  | .interfaceCall => .listed 120 "fcall" "InterfaceCall"

/-- The members of the family. -/
def all : List ForeignOp :=
  [.emit, .cut, .emitThenCut, .emitStream, .cutStream, .emitThenCutStream, .hsDecls,
   .hsControlPointPhase, .hsForkPhase, .hsJoinPhase, .label, .call, .callc, .interfaceCall]

end ForeignOp

/-- Instructions that read a resource view through a sampler. -/
inductive SampleOp where
  | sample | sampleL | sampleD | sampleB | gather4 | gather4Po | lod | sampleC | sampleCLz
  | gather4C | gather4PoC
  deriving DecidableEq

namespace SampleOp

/-- Number and names of each member. -/
def code : SampleOp → Code
  | .sample => .listed 69 "sample" "Sample"
  | .sampleL => .listed 72 "sample_l" "SampleL"
  | .sampleD => .listed 73 "sample_d" "SampleD"
  | .sampleB => .listed 74 "sample_b" "SampleB"
  | .gather4 => .listed 109 "gather4" "Gather4"
  | .gather4Po => .listed 127 "gather4_po" "Gather4Po"
  | .lod => .listed 108 "lod" "Lod"
  | .sampleC => .listed 70 "sample_c" "SampleC"
  | .sampleCLz => .listed 71 "sample_c_lz" "SampleCLz"
  | .gather4C => .listed 126 "gather4_c" "Gather4C"
  | .gather4PoC => .listed 128 "gather4_po_c" "Gather4PoC"

/-- The members of the family. -/
def all : List SampleOp :=
  [.sample, .sampleL, .sampleD, .sampleB, .gather4, .gather4Po, .lod, .sampleC, .sampleCLz,
   .gather4C, .gather4PoC]

end SampleOp

/-- Loads from and stores to unordered access views. -/
inductive ViewOp where
  | ldUavTyped | ldRaw | ldStructured | storeUavTyped | storeRaw | storeStructured
  deriving DecidableEq

namespace ViewOp

/-- Number and names of each member. -/
def code : ViewOp → Code
  | .ldUavTyped => .listed 163 "ld_uav_typed" "LdUavTyped"
  | .ldRaw => .listed 165 "ld_raw" "LdRaw"
  | .ldStructured => .listed 167 "ld_structured" "LdStructured"
  | .storeUavTyped => .listed 164 "store_uav_typed" "StoreUavTyped"
  | .storeRaw => .listed 166 "store_raw" "StoreRaw"
  | .storeStructured => .listed 168 "store_structured" "StoreStructured"

/-- The members of the family. -/
def all : List ViewOp :=
  [.ldUavTyped, .ldRaw, .ldStructured, .storeUavTyped, .storeRaw, .storeStructured]

end ViewOp

/-- Read-modify-write instructions. -/
inductive AtomicOp where
  | atomicAnd | atomicOr | atomicXor | atomicCmpStore | atomicIadd | atomicImax | atomicImin
  | atomicUmax | atomicUmin | immAtomicAlloc | immAtomicConsume | immAtomicIadd | immAtomicAnd
  | immAtomicOr | immAtomicXor | immAtomicExch | immAtomicCmpExch | immAtomicImax
  | immAtomicImin | immAtomicUmax | immAtomicUmin
  deriving DecidableEq

namespace AtomicOp

/-- Number and names of each member. -/
def code : AtomicOp → Code
  | .atomicAnd => .listed 169 "atomic_and" "AtomicAnd"
  | .atomicOr => .listed 170 "atomic_or" "AtomicOr"
  | .atomicXor => .listed 171 "atomic_xor" "AtomicXor"
  | .atomicCmpStore => .listed 172 "atomic_cmp_store" "AtomicCmpStore"
  | .atomicIadd => .listed 173 "atomic_iadd" "AtomicIadd"
  | .atomicImax => .listed 174 "atomic_imax" "AtomicImax"
  | .atomicImin => .listed 175 "atomic_imin" "AtomicImin"
  | .atomicUmax => .listed 176 "atomic_umax" "AtomicUmax"
  | .atomicUmin => .listed 177 "atomic_umin" "AtomicUmin"
  | .immAtomicAlloc => .listed 178 "imm_atomic_alloc" "ImmAtomicAlloc"
  | .immAtomicConsume => .listed 179 "imm_atomic_consume" "ImmAtomicConsume"
  | .immAtomicIadd => .listed 180 "imm_atomic_iadd" "ImmAtomicIadd"
  | .immAtomicAnd => .listed 181 "imm_atomic_and" "ImmAtomicAnd"
  | .immAtomicOr => .listed 182 "imm_atomic_or" "ImmAtomicOr"
  | .immAtomicXor => .listed 183 "imm_atomic_xor" "ImmAtomicXor"
  | .immAtomicExch => .listed 184 "imm_atomic_exch" "ImmAtomicExch"
  | .immAtomicCmpExch => .listed 185 "imm_atomic_cmp_exch" "ImmAtomicCmpExch"
  | .immAtomicImax => .listed 186 "imm_atomic_imax" "ImmAtomicImax"
  | .immAtomicImin => .listed 187 "imm_atomic_imin" "ImmAtomicImin"
  | .immAtomicUmax => .listed 188 "imm_atomic_umax" "ImmAtomicUmax"
  | .immAtomicUmin => .listed 189 "imm_atomic_umin" "ImmAtomicUmin"

/-- The members of the family. -/
def all : List AtomicOp :=
  [.atomicAnd, .atomicOr, .atomicXor, .atomicCmpStore, .atomicIadd, .atomicImax, .atomicImin,
   .atomicUmax, .atomicUmin, .immAtomicAlloc, .immAtomicConsume, .immAtomicIadd, .immAtomicAnd,
   .immAtomicOr, .immAtomicXor, .immAtomicExch, .immAtomicCmpExch, .immAtomicImax,
   .immAtomicImin, .immAtomicUmax, .immAtomicUmin]

end AtomicOp

/-- Instructions that neither branch nor change how a view is used: arithmetic, conversions, moves,
plain loads, queries and synchronisation. -/
inductive PlainOp where
  | add | and | derivRtx | derivRty | div | dp2 | dp3 | dp4 | eq | exp | frc | ftoi | ftou | ge
  | iadd | ieq | ige | ilt | imad | imax | imin | imul | ine | ineg | ishl | ishr | itof | ld
  | ldMs | log | lt | mad | min | max | mov | movc | mul | ne | not | or | resInfo | roundNe
  | roundNi | roundPi | roundZ | rsq | sqrt | sinCos | udiv | ult | uge | umul | umad | umax
  | umin | ushr | utof | xor | samplePos | sampleInfo | bufInfo | derivRtxCoarse | derivRtxFine
  | derivRtyCoarse | derivRtyFine | rcp | f32ToF16 | f16ToF32 | uaddc | usubb | countBits
  | firstBitHi | firstBitLo | firstBitShi | ubfe | ibfe | bfi | bfrev | swapc | sync | dadd
  | dmax | dmin | dmul | deq | dge | dlt | dne | dmov | dmovc | dtof | ftod | evalSnapped
  | evalSampleIndex | evalCentroid | abort | debugBreak | ddiv | dfma | drcp | msad | dtoi
  | dtou | itod | utod
  deriving DecidableEq

namespace PlainOp

/-- Number and names of each member. -/
def code : PlainOp → Code
  | .add => .listed 0 "add" "Add"
  | .and => .listed 1 "and" "And"
  | .derivRtx => .listed 11 "deriv_rtx" "DerivRtx"
  | .derivRty => .listed 12 "deriv_rty" "DerivRty"
  | .div => .listed 14 "div" "Div"
  | .dp2 => .listed 15 "dp2" "Dp2"
  | .dp3 => .listed 16 "dp3" "Dp3"
  | .dp4 => .listed 17 "dp4" "Dp4"
  | .eq => .listed 24 "eq" "Eq"
  | .exp => .listed 25 "exp" "Exp"
  | .frc => .listed 26 "frc" "Frc"
  | .ftoi => .listed 27 "ftoi" "Ftoi"
  | .ftou => .listed 28 "ftou" "Ftou"
  | .ge => .listed 29 "ge" "Ge"
  | .iadd => .listed 30 "iadd" "Iadd"
  | .ieq => .listed 32 "ieq" "Ieq"
  | .ige => .listed 33 "ige" "Ige"
  | .ilt => .listed 34 "ilt" "Ilt"
  | .imad => .listed 35 "imad" "Imad"
  | .imax => .listed 36 "imax" "Imax"
  | .imin => .listed 37 "imin" "Imin"
  | .imul => .listed 38 "imul" "Imul"
  | .ine => .listed 39 "ine" "Ine"
  | .ineg => .listed 40 "ineg" "Ineg"
  | .ishl => .listed 41 "ishl" "Ishl"
  | .ishr => .listed 42 "ishr" "Ishr"
  | .itof => .listed 43 "itof" "Itof"
  | .ld => .listed 45 "ld" "Ld"
  | .ldMs => .listed 46 "ld_ms" "LdMs"
  | .log => .listed 47 "log" "Log"
  | .lt => .listed 49 "lt" "Lt"
  | .mad => .listed 50 "mad" "Mad"
  | .min => .listed 51 "min" "Min"
  | .max => .listed 52 "max" "Max"
  | .mov => .listed 54 "mov" "Mov"
  | .movc => .listed 55 "movc" "Movc"
  | .mul => .listed 56 "mul" "Mul"
  | .ne => .listed 57 "ne" "Ne"
  | .not => .listed 59 "not" "Not"
  | .or => .listed 60 "or" "Or"
  | .resInfo => .listed 61 "resinfo" "ResInfo"
  | .roundNe => .listed 64 "round_ne" "RoundNe"
  | .roundNi => .listed 65 "round_ni" "RoundNi"
  | .roundPi => .listed 66 "round_pi" "RoundPi"
  | .roundZ => .listed 67 "round_z" "RoundZ"
  | .rsq => .listed 68 "rsq" "Rsq"
  | .sqrt => .listed 75 "sqrt" "Sqrt"
  | .sinCos => .listed 77 "sincos" "SinCos"
  | .udiv => .listed 78 "udiv" "Udiv"
  | .ult => .listed 79 "ult" "Ult"
  | .uge => .listed 80 "uge" "Uge"
  | .umul => .listed 81 "umul" "Umul"
  | .umad => .listed 82 "umad" "Umad"
  | .umax => .listed 83 "umax" "Umax"
  | .umin => .listed 84 "umin" "Umin"
  | .ushr => .listed 85 "ushr" "Ushr"
  | .utof => .listed 86 "utof" "Utof"
  | .xor => .listed 87 "xor" "Xor"
  | .samplePos => .listed 110 "samplepos" "SamplePos"
  | .sampleInfo => .listed 111 "sampleinfo" "SampleInfo"
  | .bufInfo => .listed 121 "bufinfo" "BufInfo"
  | .derivRtxCoarse => .listed 122 "deriv_rtx_coarse" "DerivRtxCoarse"
  | .derivRtxFine => .listed 123 "deriv_rtx_fine" "DerivRtxFine"
  | .derivRtyCoarse => .listed 124 "deriv_rty_coarse" "DerivRtyCoarse"
  | .derivRtyFine => .listed 125 "deriv_rty_fine" "DerivRtyFine"
  | .rcp => .listed 129 "rcp" "Rcp"
  | .f32ToF16 => .listed 130 "f32tof16" "F32ToF16"
  | .f16ToF32 => .listed 131 "f16tof32" "F16ToF32"
  | .uaddc => .listed 132 "uaddc" "Uaddc"
  | .usubb => .listed 133 "usubb" "Usubb"
  | .countBits => .listed 134 "countbits" "CountBits"
  | .firstBitHi => .listed 135 "firstbit_hi" "FirstBitHi"
  | .firstBitLo => .listed 136 "firstbit_lo" "FirstBitLo"
  | .firstBitShi => .listed 137 "firstbit_shi" "FirstBitShi"
  | .ubfe => .listed 138 "ubfe" "Ubfe"
  | .ibfe => .listed 139 "ibfe" "Ibfe"
  | .bfi => .listed 140 "bfi" "Bfi"
  | .bfrev => .listed 141 "bfrev" "Bfrev"
  | .swapc => .listed 142 "swapc" "Swapc"
  | .sync => .listed 190 "sync" "Sync"
  | .dadd => .listed 191 "dadd" "Dadd"
  | .dmax => .listed 192 "dmax" "Dmax"
  | .dmin => .listed 193 "dmin" "Dmin"
  | .dmul => .listed 194 "dmul" "Dmul"
  | .deq => .listed 195 "deq" "Deq"
  | .dge => .listed 196 "dge" "Dge"
  | .dlt => .listed 197 "dlt" "Dlt"
  | .dne => .listed 198 "dne" "Dne"
  | .dmov => .listed 199 "dmov" "Dmov"
  | .dmovc => .listed 200 "dmovc" "Dmovc"
  | .dtof => .listed 201 "dtof" "Dtof"
  | .ftod => .listed 202 "ftod" "Ftod"
  | .evalSnapped => .listed 203 "eval_snapped" "EvalSnapped"
  | .evalSampleIndex => .listed 204 "eval_sample_index" "EvalSampleIndex"
  | .evalCentroid => .listed 205 "eval_centroid" "EvalCentroid"
  | .abort => .listed 207 "abort" "Abort"
  | .debugBreak => .listed 208 "debug_break" "DebugBreak"
  | .ddiv => .listed 210 "ddiv" "Ddiv"
  | .dfma => .listed 211 "dfma" "Dfma"
  | .drcp => .listed 212 "drcp" "Drcp"
  | .msad => .listed 213 "msad" "Msad"
  | .dtoi => .listed 214 "dtoi" "Dtoi"
  | .dtou => .listed 215 "dtou" "Dtou"
  | .itod => .listed 216 "itod" "Itod"
  | .utod => .listed 217 "utod" "Utod"

/-- The members of the family. -/
def all : List PlainOp :=
  [.add, .and, .derivRtx, .derivRty, .div, .dp2, .dp3, .dp4, .eq, .exp, .frc, .ftoi, .ftou, .ge,
   .iadd, .ieq, .ige, .ilt, .imad, .imax, .imin, .imul, .ine, .ineg, .ishl, .ishr, .itof, .ld,
   .ldMs, .log, .lt, .mad, .min, .max, .mov, .movc, .mul, .ne, .not, .or, .resInfo, .roundNe,
   .roundNi, .roundPi, .roundZ, .rsq, .sqrt, .sinCos, .udiv, .ult, .uge, .umul, .umad, .umax,
   .umin, .ushr, .utof, .xor, .samplePos, .sampleInfo, .bufInfo, .derivRtxCoarse, .derivRtxFine,
   .derivRtyCoarse, .derivRtyFine, .rcp, .f32ToF16, .f16ToF32, .uaddc, .usubb, .countBits,
   .firstBitHi, .firstBitLo, .firstBitShi, .ubfe, .ibfe, .bfi, .bfrev, .swapc, .sync, .dadd,
   .dmax, .dmin, .dmul, .deq, .dge, .dlt, .dne, .dmov, .dmovc, .dtof, .ftod, .evalSnapped,
   .evalSampleIndex, .evalCentroid, .abort, .debugBreak, .ddiv, .dfma, .drcp, .msad, .dtoi,
   .dtou, .itod, .utod]

end PlainOp

end ShaderFlow
