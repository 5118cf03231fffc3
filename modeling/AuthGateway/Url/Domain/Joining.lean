import AuthGateway.Text.CombiningClass

/-!
How the characters of cursive scripts join their neighbours, and where a label
may hold the two characters that ask for a join or for none: behind a sign that
mutes a vowel, and the latter also between characters that would join.
-/
namespace AuthGateway.Url

inductive Joining where
  /-- Joins the character in front of it. -/
  | before
  /-- Joins the character behind it. -/
  | behind
  | both
  /-- Is written over or under others, which join across it. -/
  | transparent
  | none
deriving DecidableEq

namespace Joining

def ofLetter : Char → Joining
  | 'R' => .before
  | 'L' => .behind
  | 'D' => .both
  | 'T' => .transparent
  | _ => .none

def ofWords (ws : List Nat) : Joining :=
  ofLetter (Char.ofNat (ws.headD 0))

/-- The characters that join or are transparent. Those that no label can hold
are counted with their neighbours. -/
def table : CodeTable Joining := .ofLines ofWords [
  0x1_800300_00036F_000054_800483_000489_000054_800591_0005BD_000054_C005BF_000054,
  0x1_8005C1_0005C2_000054_8005C4_0005C5_000054_C005C7_000054_800610_00061A_000054_C00620_000044,
  0x1_800622_000625_000052_C00626_000044_C00627_000052_C00628_000044_C00629_000052,
  0x1_80062A_00062E_000044_80062F_000632_000052_800633_00063F_000044_800641_000647_000044,
  0x1_C00648_000052_800649_00064A_000044_80064B_00065F_000054_80066E_00066F_000044_C00670_000054,
  0x1_800671_000673_000052_800679_000687_000044_800688_000699_000052_80069A_0006BF_000044,
  0x1_C006C0_000052_8006C1_0006C2_000044_8006C3_0006CB_000052_C006CC_000044_C006CD_000052,
  0x1_C006CE_000044_C006CF_000052_8006D0_0006D1_000044_8006D2_0006D3_000052_C006D5_000052,
  0x1_8006D6_0006DC_000054_8006DF_0006E4_000054_8006E7_0006E8_000054_8006EA_0006ED_000054,
  0x1_8006EE_0006EF_000052_8006FA_0006FC_000044_C006FF_000044_C00710_000052_C00711_000054,
  0x1_800712_000714_000044_800715_000719_000052_80071A_00071D_000044_C0071E_000052,
  0x1_80071F_000727_000044_C00728_000052_C00729_000044_C0072A_000052_C0072B_000044_C0072C_000052,
  0x1_80072D_00072E_000044_C0072F_000052_800730_00074A_000054_C0074D_000052_80074E_000758_000044,
  0x1_800759_00075B_000052_80075C_00076A_000044_80076B_00076C_000052_80076D_000770_000044,
  0x1_C00771_000052_C00772_000044_800773_000774_000052_800775_000777_000044_800778_000779_000052,
  0x1_80077A_00077F_000044_8007A6_0007B0_000054_8007CA_0007EA_000044_8007EB_0007F3_000054,
  0x1_C007FD_000054_800816_000819_000054_80081B_000823_000054_800825_000827_000054,
  0x1_800829_00082D_000054_C00840_000052_800841_000845_000044_800846_000847_000052_C00848_000044,
  0x1_C00849_000052_80084A_000853_000044_C00854_000052_C00855_000044_800856_000858_000052,
  0x1_800859_00085B_000054_C00860_000044_800862_000865_000044_C00867_000052_C00868_000044,
  0x1_800869_000882_000052_C00886_000044_800889_00088D_000044_C0088E_000052_C0088F_000044,
  0x1_800897_00089F_000054_8008A0_0008A9_000044_8008AA_0008AC_000052_C008AE_000052,
  0x1_8008AF_0008B0_000044_8008B1_0008B2_000052_8008B3_0008B8_000044_C008B9_000052,
  0x1_8008BA_0008C8_000044_8008CA_000902_000054_C0093A_000054_C0093C_000054_800941_000948_000054,
  0x1_C0094D_000054_800951_000957_000054_800962_000963_000054_C00981_000054_C009BC_000054,
  0x1_8009C1_0009C4_000054_C009CD_000054_8009E2_0009E3_000054_8009FE_000A02_000054_C00A3C_000054,
  0x1_800A41_000A51_000054_800A70_000A71_000054_C00A75_000054_800A81_000A82_000054_C00ABC_000054,
  0x1_800AC1_000AC8_000054_C00ACD_000054_800AE2_000AE3_000054_800AFA_000B01_000054_C00B3C_000054,
  0x1_C00B3F_000054_800B41_000B44_000054_800B4D_000B56_000054_800B62_000B63_000054_C00B82_000054,
  0x1_C00BC0_000054_C00BCD_000054_C00C00_000054_C00C04_000054_C00C3C_000054_800C3E_000C40_000054,
  0x1_800C46_000C56_000054_800C62_000C63_000054_C00C81_000054_C00CBC_000054_C00CBF_000054,
  0x1_C00CC6_000054_800CCC_000CCD_000054_800CE2_000CE3_000054_800D00_000D01_000054,
  0x1_800D3B_000D3C_000054_800D41_000D44_000054_C00D4D_000054_800D62_000D63_000054_C00D81_000054,
  0x1_C00DCA_000054_800DD2_000DD6_000054_C00E31_000054_800E34_000E3A_000054_800E47_000E4E_000054,
  0x1_C00EB1_000054_800EB4_000EBC_000054_800EC8_000ECE_000054_800F18_000F19_000054_C00F35_000054,
  0x1_C00F37_000054_C00F39_000054_800F71_000F7E_000054_800F80_000F84_000054_800F86_000F87_000054,
  0x1_800F8D_000FBC_000054_C00FC6_000054_80102D_001030_000054_801032_001037_000054,
  0x1_801039_00103A_000054_80103D_00103E_000054_801058_001059_000054_80105E_001060_000054,
  0x1_801071_001074_000054_C01082_000054_801085_001086_000054_C0108D_000054_C0109D_000054,
  0x1_80135D_00135F_000054_801712_001714_000054_801732_001733_000054_801752_001753_000054,
  0x1_801772_001773_000054_8017B7_0017BD_000054_C017C6_000054_8017C9_0017D3_000054_C017DD_000054,
  0x1_C01807_000044_801820_001878_000044_801885_001886_000054_801887_0018A8_000044_C018A9_000054,
  0x1_C018AA_000044_801920_001922_000054_801927_001928_000054_C01932_000054_801939_00193B_000054,
  0x1_801A17_001A18_000054_C01A1B_000054_C01A56_000054_801A58_001A60_000054_C01A62_000054,
  0x1_801A65_001A6C_000054_801A73_001A7F_000054_801AB0_001B03_000054_C01B34_000054,
  0x1_801B36_001B3A_000054_C01B3C_000054_C01B42_000054_801B6B_001B73_000054_801B80_001B81_000054,
  0x1_801BA2_001BA5_000054_801BA8_001BA9_000054_801BAB_001BAD_000054_C01BE6_000054,
  0x1_801BE8_001BE9_000054_C01BED_000054_801BEF_001BF1_000054_801C2C_001C33_000054,
  0x1_801C36_001C37_000054_801CD0_001CD2_000054_801CD4_001CE0_000054_801CE2_001CE8_000054,
  0x1_C01CED_000054_C01CF4_000054_801CF8_001CF9_000054_801DC0_001DFF_000054_8020D0_0020F0_000054,
  0x1_802CEF_002CF1_000054_C02D7F_000054_802DE0_002DFF_000054_80302A_00302D_000054,
  0x1_803099_00309A_000054_80A66F_00A672_000054_80A674_00A67D_000054_80A69E_00A69F_000054,
  0x1_80A6F0_00A6F1_000054_C0A802_000054_C0A806_000054_C0A80B_000054_80A825_00A826_000054,
  0x1_C0A82C_000054_80A840_00A871_000044_C0A872_00004C_80A8C4_00A8C5_000054_80A8E0_00A8F1_000054,
  0x1_C0A8FF_000054_80A926_00A92D_000054_80A947_00A951_000054_80A980_00A982_000054_C0A9B3_000054,
  0x1_80A9B6_00A9B9_000054_80A9BC_00A9BD_000054_C0A9E5_000054_80AA29_00AA2E_000054,
  0x1_80AA31_00AA32_000054_80AA35_00AA36_000054_C0AA43_000054_C0AA4C_000054_C0AA7C_000054,
  0x1_C0AAB0_000054_80AAB2_00AAB4_000054_80AAB7_00AAB8_000054_80AABE_00AABF_000054_C0AAC1_000054,
  0x1_80AAEC_00AAED_000054_C0AAF6_000054_C0ABE5_000054_C0ABE8_000054_C0ABED_000054_C0FB1E_000054,
  0x1_80FE20_00FE2F_000054_C101FD_000054_C102E0_000054_810376_01037A_000054_810A01_010A0F_000054,
  0x1_810A38_010A3F_000054_810AC0_010AC4_000044_C10AC5_000052_C10AC7_000052_810AC9_010ACA_000052,
  0x1_C10ACD_00004C_810ACE_010AD2_000052_810AD3_010AD6_000044_C10AD7_00004C_810AD8_010ADC_000044,
  0x1_C10ADD_000052_810ADE_010AE0_000044_C10AE1_000052_C10AE4_000052_810AE5_010AE6_000054,
  0x1_810AEB_010AEE_000044_C10AEF_000052_C10B80_000044_C10B81_000052_C10B82_000044,
  0x1_810B83_010B85_000052_810B86_010B88_000044_C10B89_000052_810B8A_010B8B_000044_C10B8C_000052,
  0x1_C10B8D_000044_810B8E_010B8F_000052_C10B90_000044_C10B91_000052_810BA9_010BAC_000052,
  0x1_810BAD_010BAE_000044_C10D00_00004C_810D01_010D21_000044_C10D22_000052_C10D23_000044,
  0x1_810D24_010D27_000054_810D69_010D6D_000054_810EAB_010EAC_000054_C10EC2_000052,
  0x1_810EC3_010EC4_000044_810EC6_010EC7_000044_810EFA_010EFF_000054_810F30_010F32_000044,
  0x1_C10F33_000052_810F34_010F44_000044_810F46_010F50_000054_810F51_010F53_000044_C10F54_000052,
  0x1_810F70_010F73_000044_810F74_010F75_000052_810F76_010F81_000044_810F82_010F85_000054,
  0x1_C10FB0_000044_810FB2_010FB3_000044_810FB4_010FB6_000052_C10FB8_000044_810FB9_010FBA_000052,
  0x1_810FBB_010FBC_000044_C10FBD_000052_810FBE_010FBF_000044_C10FC1_000044_810FC2_010FC3_000052,
  0x1_C10FC4_000044_C10FC9_000052_C10FCA_000044_C10FCB_00004C_C11001_000054_811038_011046_000054,
  0x1_C11070_000054_811073_011074_000054_81107F_011081_000054_8110B3_0110B6_000054,
  0x1_8110B9_0110BA_000054_C110C2_000054_811100_011102_000054_811127_01112B_000054,
  0x1_81112D_011134_000054_C11173_000054_811180_011181_000054_8111B6_0111BE_000054,
  0x1_8111C9_0111CC_000054_C111CF_000054_81122F_011231_000054_C11234_000054_811236_011237_000054,
  0x1_C1123E_000054_C11241_000054_C112DF_000054_8112E3_0112EA_000054_811300_011301_000054,
  0x1_81133B_01133C_000054_C11340_000054_811366_011374_000054_8113BB_0113C0_000054_C113CE_000054,
  0x1_C113D0_000054_C113D2_000054_8113E1_0113E2_000054_811438_01143F_000054_811442_011444_000054,
  0x1_C11446_000054_C1145E_000054_8114B3_0114B8_000054_C114BA_000054_8114BF_0114C0_000054,
  0x1_8114C2_0114C3_000054_8115B2_0115B5_000054_8115BC_0115BD_000054_8115BF_0115C0_000054,
  0x1_8115DC_0115DD_000054_811633_01163A_000054_C1163D_000054_81163F_011640_000054_C116AB_000054,
  0x1_C116AD_000054_8116B0_0116B5_000054_C116B7_000054_C1171D_000054_C1171F_000054,
  0x1_811722_011725_000054_811727_01172B_000054_81182F_011837_000054_811839_01183A_000054,
  0x1_81193B_01193C_000054_C1193E_000054_C11943_000054_8119D4_0119DB_000054_C119E0_000054,
  0x1_811A01_011A0A_000054_811A33_011A38_000054_811A3B_011A3E_000054_C11A47_000054,
  0x1_811A51_011A56_000054_811A59_011A5B_000054_811A8A_011A96_000054_811A98_011A99_000054,
  0x1_C11B60_000054_811B62_011B64_000054_C11B66_000054_811C30_011C3D_000054_C11C3F_000054,
  0x1_811C92_011CA7_000054_811CAA_011CB0_000054_811CB2_011CB3_000054_811CB5_011CB6_000054,
  0x1_811D31_011D45_000054_C11D47_000054_811D90_011D91_000054_C11D95_000054_C11D97_000054,
  0x1_811EF3_011EF4_000054_811F00_011F01_000054_811F36_011F3A_000054_C11F40_000054_C11F42_000054,
  0x1_C11F5A_000054_C13440_000054_813447_013455_000054_81611E_016129_000054_81612D_01612F_000054,
  0x1_816AF0_016AF4_000054_816B30_016B36_000054_C16F4F_000054_816F8F_016F92_000054_C16FE4_000054,
  0x1_81BC9D_01BC9E_000054_81CF00_01CF46_000054_81D167_01D169_000054_81D17B_01D182_000054,
  0x1_81D185_01D18B_000054_81D1AA_01D1AD_000054_81D242_01D244_000054_81DA00_01DA36_000054,
  0x1_81DA3B_01DA6C_000054_C1DA75_000054_C1DA84_000054_81DA9B_01DAAF_000054_81E000_01E08F_000054,
  0x1_81E130_01E136_000054_C1E2AE_000054_81E2EC_01E2EF_000054_81E4EC_01E4EF_000054,
  0x1_81E5EE_01E5EF_000054_C1E6E3_000054_C1E6E6_000054_81E6EE_01E6EF_000054_C1E6F5_000054,
  0x1_81E8D0_01E8D6_000054_81E922_01E943_000044_81E944_01E94B_000054]

def of (c : Char) : Joining :=
  match table.find? c.toNat with
  | some r => r.value
  | Option.none => .none

end Joining

def nonJoiner : Char := '\u200C'

def joiner : Char := '\u200D'

def reachesJoin (side : Joining) (cs : List Char) : Bool :=
  match (cs.map Joining.of).find? (· != .transparent) with
  | some j => j == side || j == .both
  | none => false

def mutingClass : Nat := 9

/-- Whether some characters, which are in reverse, end in a sign that mutes a vowel. -/
def endsMuted (reversed : List Char) : Bool :=
  match reversed with
  | [] => false
  | c :: _ => combiningClass c.toNat == mutingClass

/-- Whether joiners stand where they may, behind some characters in reverse. -/
def areJoinersPlaced (reversed : List Char) : List Char → Bool
  | [] => true
  | c :: rest =>
    (if c = joiner then endsMuted reversed
      else if c = nonJoiner then
        endsMuted reversed || (reachesJoin .behind reversed && reachesJoin .before rest)
      else true) &&
    areJoinersPlaced (c :: reversed) rest

end AuthGateway.Url
