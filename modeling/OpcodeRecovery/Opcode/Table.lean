import OpcodeRecovery.Opcode

/-!
The table of opcodes: mnemonic and encoding of each, and the ways back from both. Looking an
opcode up by what the table says of it finds that opcode.
-/
namespace OpcodeRecovery

/-- Two bytes name an opcode: the page is 0xFE for the extended opcodes and 0x00 for all others. -/
structure Encoding where
  page : UInt8
  byte : UInt8
  deriving DecidableEq, Repr

namespace Opcode

def mnemonic : Opcode → String
  | .nop => "nop"
  | .breakpoint => "break"
  | .ldarg0 => "ldarg.0"
  | .ldarg1 => "ldarg.1"
  | .ldarg2 => "ldarg.2"
  | .ldarg3 => "ldarg.3"
  | .ldloc0 => "ldloc.0"
  | .ldloc1 => "ldloc.1"
  | .ldloc2 => "ldloc.2"
  | .ldloc3 => "ldloc.3"
  | .stloc0 => "stloc.0"
  | .stloc1 => "stloc.1"
  | .stloc2 => "stloc.2"
  | .stloc3 => "stloc.3"
  | .ldargS => "ldarg.s"
  | .ldargaS => "ldarga.s"
  | .stargS => "starg.s"
  | .ldlocS => "ldloc.s"
  | .ldlocaS => "ldloca.s"
  | .stlocS => "stloc.s"
  | .ldnull => "ldnull"
  | .ldcI4M1 => "ldc.i4.m1"
  | .ldcI4_0 => "ldc.i4.0"
  | .ldcI4_1 => "ldc.i4.1"
  | .ldcI4_2 => "ldc.i4.2"
  | .ldcI4_3 => "ldc.i4.3"
  | .ldcI4_4 => "ldc.i4.4"
  | .ldcI4_5 => "ldc.i4.5"
  | .ldcI4_6 => "ldc.i4.6"
  | .ldcI4_7 => "ldc.i4.7"
  | .ldcI4_8 => "ldc.i4.8"
  | .ldcI4S => "ldc.i4.s"
  | .ldcI4 => "ldc.i4"
  | .ldcI8 => "ldc.i8"
  | .ldcR4 => "ldc.r4"
  | .ldcR8 => "ldc.r8"
  | .dup => "dup"
  | .pop => "pop"
  | .jmp => "jmp"
  | .call => "call"
  | .calli => "calli"
  | .ret => "ret"
  | .brS => "br.s"
  | .brfalseS => "brfalse.s"
  | .brtrueS => "brtrue.s"
  | .beqS => "beq.s"
  | .bgeS => "bge.s"
  | .bgtS => "bgt.s"
  | .bleS => "ble.s"
  | .bltS => "blt.s"
  | .bneUnS => "bne.un.s"
  | .bgeUnS => "bge.un.s"
  | .bgtUnS => "bgt.un.s"
  | .bleUnS => "ble.un.s"
  | .bltUnS => "blt.un.s"
  | .br => "br"
  | .brfalse => "brfalse"
  | .brtrue => "brtrue"
  | .beq => "beq"
  | .bge => "bge"
  | .bgt => "bgt"
  | .ble => "ble"
  | .blt => "blt"
  | .bneUn => "bne.un"
  | .bgeUn => "bge.un"
  | .bgtUn => "bgt.un"
  | .bleUn => "ble.un"
  | .bltUn => "blt.un"
  | .switch => "switch"
  | .ldindI1 => "ldind.i1"
  | .ldindU1 => "ldind.u1"
  | .ldindI2 => "ldind.i2"
  | .ldindU2 => "ldind.u2"
  | .ldindI4 => "ldind.i4"
  | .ldindU4 => "ldind.u4"
  | .ldindI8 => "ldind.i8"
  | .ldindI => "ldind.i"
  | .ldindR4 => "ldind.r4"
  | .ldindR8 => "ldind.r8"
  | .ldindRef => "ldind.ref"
  | .stindRef => "stind.ref"
  | .stindI1 => "stind.i1"
  | .stindI2 => "stind.i2"
  | .stindI4 => "stind.i4"
  | .stindI8 => "stind.i8"
  | .stindR4 => "stind.r4"
  | .stindR8 => "stind.r8"
  | .add => "add"
  | .sub => "sub"
  | .mul => "mul"
  | .div => "div"
  | .divUn => "div.un"
  | .rem => "rem"
  | .remUn => "rem.un"
  | .and => "and"
  | .or => "or"
  | .xor => "xor"
  | .shl => "shl"
  | .shr => "shr"
  | .shrUn => "shr.un"
  | .neg => "neg"
  | .not => "not"
  | .convI1 => "conv.i1"
  | .convI2 => "conv.i2"
  | .convI4 => "conv.i4"
  | .convI8 => "conv.i8"
  | .convR4 => "conv.r4"
  | .convR8 => "conv.r8"
  | .convU4 => "conv.u4"
  | .convU8 => "conv.u8"
  | .callvirt => "callvirt"
  | .cpobj => "cpobj"
  | .ldobj => "ldobj"
  | .ldstr => "ldstr"
  | .newobj => "newobj"
  | .castclass => "castclass"
  | .isinst => "isinst"
  | .convRUn => "conv.r.un"
  | .unbox => "unbox"
  | .throw => "throw"
  | .ldfld => "ldfld"
  | .ldflda => "ldflda"
  | .stfld => "stfld"
  | .ldsfld => "ldsfld"
  | .ldsflda => "ldsflda"
  | .stsfld => "stsfld"
  | .stobj => "stobj"
  | .convOvfI1Un => "conv.ovf.i1.un"
  | .convOvfI2Un => "conv.ovf.i2.un"
  | .convOvfI4Un => "conv.ovf.i4.un"
  | .convOvfI8Un => "conv.ovf.i8.un"
  | .convOvfU1Un => "conv.ovf.u1.un"
  | .convOvfU2Un => "conv.ovf.u2.un"
  | .convOvfU4Un => "conv.ovf.u4.un"
  | .convOvfU8Un => "conv.ovf.u8.un"
  | .convOvfIUn => "conv.ovf.i.un"
  | .convOvfUUn => "conv.ovf.u.un"
  | .box => "box"
  | .newarr => "newarr"
  | .ldlen => "ldlen"
  | .ldelema => "ldelema"
  | .ldelemI1 => "ldelem.i1"
  | .ldelemU1 => "ldelem.u1"
  | .ldelemI2 => "ldelem.i2"
  | .ldelemU2 => "ldelem.u2"
  | .ldelemI4 => "ldelem.i4"
  | .ldelemU4 => "ldelem.u4"
  | .ldelemI8 => "ldelem.i8"
  | .ldelemI => "ldelem.i"
  | .ldelemR4 => "ldelem.r4"
  | .ldelemR8 => "ldelem.r8"
  | .ldelemRef => "ldelem.ref"
  | .stelemI => "stelem.i"
  | .stelemI1 => "stelem.i1"
  | .stelemI2 => "stelem.i2"
  | .stelemI4 => "stelem.i4"
  | .stelemI8 => "stelem.i8"
  | .stelemR4 => "stelem.r4"
  | .stelemR8 => "stelem.r8"
  | .stelemRef => "stelem.ref"
  | .ldelem => "ldelem"
  | .stelem => "stelem"
  | .unboxAny => "unbox.any"
  | .convOvfI1 => "conv.ovf.i1"
  | .convOvfU1 => "conv.ovf.u1"
  | .convOvfI2 => "conv.ovf.i2"
  | .convOvfU2 => "conv.ovf.u2"
  | .convOvfI4 => "conv.ovf.i4"
  | .convOvfU4 => "conv.ovf.u4"
  | .convOvfI8 => "conv.ovf.i8"
  | .convOvfU8 => "conv.ovf.u8"
  | .refanyval => "refanyval"
  | .ckfinite => "ckfinite"
  | .mkrefany => "mkrefany"
  | .ldtoken => "ldtoken"
  | .convU2 => "conv.u2"
  | .convU1 => "conv.u1"
  | .convI => "conv.i"
  | .convOvfI => "conv.ovf.i"
  | .convOvfU => "conv.ovf.u"
  | .addOvf => "add.ovf"
  | .addOvfUn => "add.ovf.un"
  | .mulOvf => "mul.ovf"
  | .mulOvfUn => "mul.ovf.un"
  | .subOvf => "sub.ovf"
  | .subOvfUn => "sub.ovf.un"
  | .endfinally => "endfinally"
  | .leave => "leave"
  | .leaveS => "leave.s"
  | .stindI => "stind.i"
  | .convU => "conv.u"
  | .arglist => "arglist"
  | .ceq => "ceq"
  | .cgt => "cgt"
  | .cgtUn => "cgt.un"
  | .clt => "clt"
  | .cltUn => "clt.un"
  | .ldftn => "ldftn"
  | .ldvirtftn => "ldvirtftn"
  | .ldarg => "ldarg"
  | .ldarga => "ldarga"
  | .starg => "starg"
  | .ldloc => "ldloc"
  | .ldloca => "ldloca"
  | .stloc => "stloc"
  | .localloc => "localloc"
  | .endfilter => "endfilter"
  | .unaligned => "unaligned."
  | .volatile => "volatile."
  | .tail => "tail."
  | .initobj => "initobj"
  | .constrained => "constrained."
  | .cpblk => "cpblk"
  | .initblk => "initblk"
  | .no => "no."
  | .rethrow => "rethrow"
  | .sizeof => "sizeof"
  | .refanytype => "refanytype"
  | .readonly => "readonly."
  | .unknown => "<unknown>"

def encoding? : Opcode → Option Encoding
  | .nop => some ⟨0x00, 0x00⟩
  | .breakpoint => some ⟨0x00, 0x01⟩
  | .ldarg0 => some ⟨0x00, 0x02⟩
  | .ldarg1 => some ⟨0x00, 0x03⟩
  | .ldarg2 => some ⟨0x00, 0x04⟩
  | .ldarg3 => some ⟨0x00, 0x05⟩
  | .ldloc0 => some ⟨0x00, 0x06⟩
  | .ldloc1 => some ⟨0x00, 0x07⟩
  | .ldloc2 => some ⟨0x00, 0x08⟩
  | .ldloc3 => some ⟨0x00, 0x09⟩
  | .stloc0 => some ⟨0x00, 0x0A⟩
  | .stloc1 => some ⟨0x00, 0x0B⟩
  | .stloc2 => some ⟨0x00, 0x0C⟩
  | .stloc3 => some ⟨0x00, 0x0D⟩
  | .ldargS => some ⟨0x00, 0x0E⟩
  | .ldargaS => some ⟨0x00, 0x0F⟩
  | .stargS => some ⟨0x00, 0x10⟩
  | .ldlocS => some ⟨0x00, 0x11⟩
  | .ldlocaS => some ⟨0x00, 0x12⟩
  | .stlocS => some ⟨0x00, 0x13⟩
  | .ldnull => some ⟨0x00, 0x14⟩
  | .ldcI4M1 => some ⟨0x00, 0x15⟩
  | .ldcI4_0 => some ⟨0x00, 0x16⟩
  | .ldcI4_1 => some ⟨0x00, 0x17⟩
  | .ldcI4_2 => some ⟨0x00, 0x18⟩
  | .ldcI4_3 => some ⟨0x00, 0x19⟩
  | .ldcI4_4 => some ⟨0x00, 0x1A⟩
  | .ldcI4_5 => some ⟨0x00, 0x1B⟩
  | .ldcI4_6 => some ⟨0x00, 0x1C⟩
  | .ldcI4_7 => some ⟨0x00, 0x1D⟩
  | .ldcI4_8 => some ⟨0x00, 0x1E⟩
  | .ldcI4S => some ⟨0x00, 0x1F⟩
  | .ldcI4 => some ⟨0x00, 0x20⟩
  | .ldcI8 => some ⟨0x00, 0x21⟩
  | .ldcR4 => some ⟨0x00, 0x22⟩
  | .ldcR8 => some ⟨0x00, 0x23⟩
  | .dup => some ⟨0x00, 0x25⟩
  | .pop => some ⟨0x00, 0x26⟩
  | .jmp => some ⟨0x00, 0x27⟩
  | .call => some ⟨0x00, 0x28⟩
  | .calli => some ⟨0x00, 0x29⟩
  | .ret => some ⟨0x00, 0x2A⟩
  | .brS => some ⟨0x00, 0x2B⟩
  | .brfalseS => some ⟨0x00, 0x2C⟩
  | .brtrueS => some ⟨0x00, 0x2D⟩
  | .beqS => some ⟨0x00, 0x2E⟩
  | .bgeS => some ⟨0x00, 0x2F⟩
  | .bgtS => some ⟨0x00, 0x30⟩
  | .bleS => some ⟨0x00, 0x31⟩
  | .bltS => some ⟨0x00, 0x32⟩
  | .bneUnS => some ⟨0x00, 0x33⟩
  | .bgeUnS => some ⟨0x00, 0x34⟩
  | .bgtUnS => some ⟨0x00, 0x35⟩
  | .bleUnS => some ⟨0x00, 0x36⟩
  | .bltUnS => some ⟨0x00, 0x37⟩
  | .br => some ⟨0x00, 0x38⟩
  | .brfalse => some ⟨0x00, 0x39⟩
  | .brtrue => some ⟨0x00, 0x3A⟩
  | .beq => some ⟨0x00, 0x3B⟩
  | .bge => some ⟨0x00, 0x3C⟩
  | .bgt => some ⟨0x00, 0x3D⟩
  | .ble => some ⟨0x00, 0x3E⟩
  | .blt => some ⟨0x00, 0x3F⟩
  | .bneUn => some ⟨0x00, 0x40⟩
  | .bgeUn => some ⟨0x00, 0x41⟩
  | .bgtUn => some ⟨0x00, 0x42⟩
  | .bleUn => some ⟨0x00, 0x43⟩
  | .bltUn => some ⟨0x00, 0x44⟩
  | .switch => some ⟨0x00, 0x45⟩
  | .ldindI1 => some ⟨0x00, 0x46⟩
  | .ldindU1 => some ⟨0x00, 0x47⟩
  | .ldindI2 => some ⟨0x00, 0x48⟩
  | .ldindU2 => some ⟨0x00, 0x49⟩
  | .ldindI4 => some ⟨0x00, 0x4A⟩
  | .ldindU4 => some ⟨0x00, 0x4B⟩
  | .ldindI8 => some ⟨0x00, 0x4C⟩
  | .ldindI => some ⟨0x00, 0x4D⟩
  | .ldindR4 => some ⟨0x00, 0x4E⟩
  | .ldindR8 => some ⟨0x00, 0x4F⟩
  | .ldindRef => some ⟨0x00, 0x50⟩
  | .stindRef => some ⟨0x00, 0x51⟩
  | .stindI1 => some ⟨0x00, 0x52⟩
  | .stindI2 => some ⟨0x00, 0x53⟩
  | .stindI4 => some ⟨0x00, 0x54⟩
  | .stindI8 => some ⟨0x00, 0x55⟩
  | .stindR4 => some ⟨0x00, 0x56⟩
  | .stindR8 => some ⟨0x00, 0x57⟩
  | .add => some ⟨0x00, 0x58⟩
  | .sub => some ⟨0x00, 0x59⟩
  | .mul => some ⟨0x00, 0x5A⟩
  | .div => some ⟨0x00, 0x5B⟩
  | .divUn => some ⟨0x00, 0x5C⟩
  | .rem => some ⟨0x00, 0x5D⟩
  | .remUn => some ⟨0x00, 0x5E⟩
  | .and => some ⟨0x00, 0x5F⟩
  | .or => some ⟨0x00, 0x60⟩
  | .xor => some ⟨0x00, 0x61⟩
  | .shl => some ⟨0x00, 0x62⟩
  | .shr => some ⟨0x00, 0x63⟩
  | .shrUn => some ⟨0x00, 0x64⟩
  | .neg => some ⟨0x00, 0x65⟩
  | .not => some ⟨0x00, 0x66⟩
  | .convI1 => some ⟨0x00, 0x67⟩
  | .convI2 => some ⟨0x00, 0x68⟩
  | .convI4 => some ⟨0x00, 0x69⟩
  | .convI8 => some ⟨0x00, 0x6A⟩
  | .convR4 => some ⟨0x00, 0x6B⟩
  | .convR8 => some ⟨0x00, 0x6C⟩
  | .convU4 => some ⟨0x00, 0x6D⟩
  | .convU8 => some ⟨0x00, 0x6E⟩
  | .callvirt => some ⟨0x00, 0x6F⟩
  | .cpobj => some ⟨0x00, 0x70⟩
  | .ldobj => some ⟨0x00, 0x71⟩
  | .ldstr => some ⟨0x00, 0x72⟩
  | .newobj => some ⟨0x00, 0x73⟩
  | .castclass => some ⟨0x00, 0x74⟩
  | .isinst => some ⟨0x00, 0x75⟩
  | .convRUn => some ⟨0x00, 0x76⟩
  | .unbox => some ⟨0x00, 0x79⟩
  | .throw => some ⟨0x00, 0x7A⟩
  | .ldfld => some ⟨0x00, 0x7B⟩
  | .ldflda => some ⟨0x00, 0x7C⟩
  | .stfld => some ⟨0x00, 0x7D⟩
  | .ldsfld => some ⟨0x00, 0x7E⟩
  | .ldsflda => some ⟨0x00, 0x7F⟩
  | .stsfld => some ⟨0x00, 0x80⟩
  | .stobj => some ⟨0x00, 0x81⟩
  | .convOvfI1Un => some ⟨0x00, 0x82⟩
  | .convOvfI2Un => some ⟨0x00, 0x83⟩
  | .convOvfI4Un => some ⟨0x00, 0x84⟩
  | .convOvfI8Un => some ⟨0x00, 0x85⟩
  | .convOvfU1Un => some ⟨0x00, 0x86⟩
  | .convOvfU2Un => some ⟨0x00, 0x87⟩
  | .convOvfU4Un => some ⟨0x00, 0x88⟩
  | .convOvfU8Un => some ⟨0x00, 0x89⟩
  | .convOvfIUn => some ⟨0x00, 0x8A⟩
  | .convOvfUUn => some ⟨0x00, 0x8B⟩
  | .box => some ⟨0x00, 0x8C⟩
  | .newarr => some ⟨0x00, 0x8D⟩
  | .ldlen => some ⟨0x00, 0x8E⟩
  | .ldelema => some ⟨0x00, 0x8F⟩
  | .ldelemI1 => some ⟨0x00, 0x90⟩
  | .ldelemU1 => some ⟨0x00, 0x91⟩
  | .ldelemI2 => some ⟨0x00, 0x92⟩
  | .ldelemU2 => some ⟨0x00, 0x93⟩
  | .ldelemI4 => some ⟨0x00, 0x94⟩
  | .ldelemU4 => some ⟨0x00, 0x95⟩
  | .ldelemI8 => some ⟨0x00, 0x96⟩
  | .ldelemI => some ⟨0x00, 0x97⟩
  | .ldelemR4 => some ⟨0x00, 0x98⟩
  | .ldelemR8 => some ⟨0x00, 0x99⟩
  | .ldelemRef => some ⟨0x00, 0x9A⟩
  | .stelemI => some ⟨0x00, 0x9B⟩
  | .stelemI1 => some ⟨0x00, 0x9C⟩
  | .stelemI2 => some ⟨0x00, 0x9D⟩
  | .stelemI4 => some ⟨0x00, 0x9E⟩
  | .stelemI8 => some ⟨0x00, 0x9F⟩
  | .stelemR4 => some ⟨0x00, 0xA0⟩
  | .stelemR8 => some ⟨0x00, 0xA1⟩
  | .stelemRef => some ⟨0x00, 0xA2⟩
  | .ldelem => some ⟨0x00, 0xA3⟩
  | .stelem => some ⟨0x00, 0xA4⟩
  | .unboxAny => some ⟨0x00, 0xA5⟩
  | .convOvfI1 => some ⟨0x00, 0xB3⟩
  | .convOvfU1 => some ⟨0x00, 0xB4⟩
  | .convOvfI2 => some ⟨0x00, 0xB5⟩
  | .convOvfU2 => some ⟨0x00, 0xB6⟩
  | .convOvfI4 => some ⟨0x00, 0xB7⟩
  | .convOvfU4 => some ⟨0x00, 0xB8⟩
  | .convOvfI8 => some ⟨0x00, 0xB9⟩
  | .convOvfU8 => some ⟨0x00, 0xBA⟩
  | .refanyval => some ⟨0x00, 0xC2⟩
  | .ckfinite => some ⟨0x00, 0xC3⟩
  | .mkrefany => some ⟨0x00, 0xC6⟩
  | .ldtoken => some ⟨0x00, 0xD0⟩
  | .convU2 => some ⟨0x00, 0xD1⟩
  | .convU1 => some ⟨0x00, 0xD2⟩
  | .convI => some ⟨0x00, 0xD3⟩
  | .convOvfI => some ⟨0x00, 0xD4⟩
  | .convOvfU => some ⟨0x00, 0xD5⟩
  | .addOvf => some ⟨0x00, 0xD6⟩
  | .addOvfUn => some ⟨0x00, 0xD7⟩
  | .mulOvf => some ⟨0x00, 0xD8⟩
  | .mulOvfUn => some ⟨0x00, 0xD9⟩
  | .subOvf => some ⟨0x00, 0xDA⟩
  | .subOvfUn => some ⟨0x00, 0xDB⟩
  | .endfinally => some ⟨0x00, 0xDC⟩
  | .leave => some ⟨0x00, 0xDD⟩
  | .leaveS => some ⟨0x00, 0xDE⟩
  | .stindI => some ⟨0x00, 0xDF⟩
  | .convU => some ⟨0x00, 0xE0⟩
  | .arglist => some ⟨0xFE, 0x00⟩
  | .ceq => some ⟨0xFE, 0x01⟩
  | .cgt => some ⟨0xFE, 0x02⟩
  | .cgtUn => some ⟨0xFE, 0x03⟩
  | .clt => some ⟨0xFE, 0x04⟩
  | .cltUn => some ⟨0xFE, 0x05⟩
  | .ldftn => some ⟨0xFE, 0x06⟩
  | .ldvirtftn => some ⟨0xFE, 0x07⟩
  | .ldarg => some ⟨0xFE, 0x09⟩
  | .ldarga => some ⟨0xFE, 0x0A⟩
  | .starg => some ⟨0xFE, 0x0B⟩
  | .ldloc => some ⟨0xFE, 0x0C⟩
  | .ldloca => some ⟨0xFE, 0x0D⟩
  | .stloc => some ⟨0xFE, 0x0E⟩
  | .localloc => some ⟨0xFE, 0x0F⟩
  | .endfilter => some ⟨0xFE, 0x11⟩
  | .unaligned => some ⟨0xFE, 0x12⟩
  | .volatile => some ⟨0xFE, 0x13⟩
  | .tail => some ⟨0xFE, 0x14⟩
  | .initobj => some ⟨0xFE, 0x15⟩
  | .constrained => some ⟨0xFE, 0x16⟩
  | .cpblk => some ⟨0xFE, 0x17⟩
  | .initblk => some ⟨0xFE, 0x18⟩
  | .no => some ⟨0xFE, 0x19⟩
  | .rethrow => some ⟨0xFE, 0x1A⟩
  | .sizeof => some ⟨0xFE, 0x1C⟩
  | .refanytype => some ⟨0xFE, 0x1D⟩
  | .readonly => some ⟨0xFE, 0x1E⟩
  | .unknown => none

def all : List Opcode :=
  [.nop, .breakpoint, .ldarg0, .ldarg1, .ldarg2, .ldarg3, .ldloc0, .ldloc1, .ldloc2, .ldloc3,
   .stloc0, .stloc1, .stloc2, .stloc3, .ldargS, .ldargaS, .stargS, .ldlocS, .ldlocaS, .stlocS,
   .ldnull, .ldcI4M1, .ldcI4_0, .ldcI4_1, .ldcI4_2, .ldcI4_3, .ldcI4_4, .ldcI4_5, .ldcI4_6,
   .ldcI4_7, .ldcI4_8, .ldcI4S, .ldcI4, .ldcI8, .ldcR4, .ldcR8, .dup, .pop, .jmp, .call, .calli,
   .ret, .brS, .brfalseS, .brtrueS, .beqS, .bgeS, .bgtS, .bleS, .bltS, .bneUnS, .bgeUnS, .bgtUnS,
   .bleUnS, .bltUnS, .br, .brfalse, .brtrue, .beq, .bge, .bgt, .ble, .blt, .bneUn, .bgeUn,
   .bgtUn, .bleUn, .bltUn, .switch, .ldindI1, .ldindU1, .ldindI2, .ldindU2, .ldindI4, .ldindU4,
   .ldindI8, .ldindI, .ldindR4, .ldindR8, .ldindRef, .stindRef, .stindI1, .stindI2, .stindI4,
   .stindI8, .stindR4, .stindR8, .add, .sub, .mul, .div, .divUn, .rem, .remUn, .and, .or, .xor,
   .shl, .shr, .shrUn, .neg, .not, .convI1, .convI2, .convI4, .convI8, .convR4, .convR8, .convU4,
   .convU8, .callvirt, .cpobj, .ldobj, .ldstr, .newobj, .castclass, .isinst, .convRUn, .unbox,
   .throw, .ldfld, .ldflda, .stfld, .ldsfld, .ldsflda, .stsfld, .stobj, .convOvfI1Un,
   .convOvfI2Un, .convOvfI4Un, .convOvfI8Un, .convOvfU1Un, .convOvfU2Un, .convOvfU4Un,
   .convOvfU8Un, .convOvfIUn, .convOvfUUn, .box, .newarr, .ldlen, .ldelema, .ldelemI1, .ldelemU1,
   .ldelemI2, .ldelemU2, .ldelemI4, .ldelemU4, .ldelemI8, .ldelemI, .ldelemR4, .ldelemR8,
   .ldelemRef, .stelemI, .stelemI1, .stelemI2, .stelemI4, .stelemI8, .stelemR4, .stelemR8,
   .stelemRef, .ldelem, .stelem, .unboxAny, .convOvfI1, .convOvfU1, .convOvfI2, .convOvfU2,
   .convOvfI4, .convOvfU4, .convOvfI8, .convOvfU8, .refanyval, .ckfinite, .mkrefany, .ldtoken,
   .convU2, .convU1, .convI, .convOvfI, .convOvfU, .addOvf, .addOvfUn, .mulOvf, .mulOvfUn,
   .subOvf, .subOvfUn, .endfinally, .leave, .leaveS, .stindI, .convU, .arglist, .ceq, .cgt,
   .cgtUn, .clt, .cltUn, .ldftn, .ldvirtftn, .ldarg, .ldarga, .starg, .ldloc, .ldloca, .stloc,
   .localloc, .endfilter, .unaligned, .volatile, .tail, .initobj, .constrained, .cpblk, .initblk,
   .no, .rethrow, .sizeof, .refanytype, .readonly, .unknown]

def count : Nat := all.length

def ordinal (c : Opcode) : Nat := all.idxOf c

/-- Lengthens a name by a dotted part: the part is capitalised, and an underscore keeps two digits
    apart that would meet. -/
def extendTag (name part : String) : String :=
  if name.back.isDigit && part.front.isDigit then name ++ "_" ++ part else name ++ part.capitalize

def tag : Opcode → String
  | .unknown => "Unknown"
  | c => (c.mnemonic.splitOn ".").foldl extendTag ""

def ofMnemonic? (s : String) : Option Opcode := all.find? fun c => c.mnemonic == s

def ofEncoding? (e : Encoding) : Option Opcode := all.find? fun c => c.encoding? == some e

end Opcode
end OpcodeRecovery
