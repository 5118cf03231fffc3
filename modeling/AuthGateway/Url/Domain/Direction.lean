import AuthGateway.Text.Ascii
import AuthGateway.Text.CodeTable

/-!
The direction in which the characters of labels are written, and the order that
a label has to keep so that it reads the same wherever it stands: it starts with
a letter, ends in a letter or digit, and does not mix the two directions.
-/
namespace AuthGateway.Url

inductive Direction where
  | left
  | right
  | europeanDigit
  | arabicDigit
  | mark
  | neutral
deriving DecidableEq

namespace Direction

def ofLetter : Char → Direction
  | 'R' => .right
  | 'E' => .europeanDigit
  | 'A' => .arabicDigit
  | 'N' => .mark
  | 'O' => .neutral
  | _ => .left

def ofWords (ws : List Nat) : Direction :=
  ofLetter (Char.ofNat (ws.headD 0))

/-- The characters outside ASCII that are not written from left to right. Those
that no label can hold are counted with their neighbours. -/
def table : CodeTable Direction := .ofLines ofWords [
  0x1_8000A1_0000D7_00004F_C000F7_00004F_8002B9_0002BA_00004F_8002C2_0002CF_00004F,
  0x1_8002D2_0002ED_00004F_8002EF_0002FF_00004F_800300_00036F_00004E_C00375_00004F_C003F6_00004F,
  0x1_800483_000489_00004E_80058A_00058F_00004F_800591_0005BD_00004E_C005BE_000052_C005BF_00004E,
  0x1_C005C0_000052_8005C1_0005C2_00004E_C005C3_000052_8005C4_0005C5_00004E_C005C6_000052,
  0x1_C005C7_00004E_8005D0_0005F4_000052_800606_000607_00004F_C00608_000052_800609_00060A_00004F,
  0x1_C0060B_000052_C0060C_00004F_C0060D_000052_80060E_00060F_00004F_800610_00061A_00004E,
  0x1_80061B_00064A_000052_80064B_00065F_00004E_800660_000669_000041_C0066A_00004F,
  0x1_80066B_00066C_000041_80066D_00066F_000052_C00670_00004E_800671_0006D5_000052,
  0x1_8006D6_0006DC_00004E_C006DE_00004F_8006DF_0006E4_00004E_8006E5_0006E6_000052,
  0x1_8006E7_0006E8_00004E_C006E9_00004F_8006EA_0006ED_00004E_8006EE_0006EF_000052,
  0x1_8006F0_0006F9_000045_8006FA_000710_000052_C00711_00004E_800712_00072F_000052,
  0x1_800730_00074A_00004E_80074D_0007A5_000052_8007A6_0007B0_00004E_8007B1_0007EA_000052,
  0x1_8007EB_0007F3_00004E_8007F4_0007F5_000052_8007F6_0007F9_00004F_C007FA_000052_C007FD_00004E,
  0x1_8007FE_000815_000052_800816_000819_00004E_C0081A_000052_80081B_000823_00004E_C00824_000052,
  0x1_800825_000827_00004E_C00828_000052_800829_00082D_00004E_800830_000858_000052,
  0x1_800859_00085B_00004E_80085E_00088F_000052_800897_00089F_00004E_8008A0_0008C9_000052,
  0x1_8008CA_000902_00004E_C0093A_00004E_C0093C_00004E_800941_000948_00004E_C0094D_00004E,
  0x1_800951_000957_00004E_800962_000963_00004E_C00981_00004E_C009BC_00004E_8009C1_0009C4_00004E,
  0x1_C009CD_00004E_8009E2_0009E3_00004E_8009F2_0009F3_00004F_C009FB_00004F_8009FE_000A02_00004E,
  0x1_C00A3C_00004E_800A41_000A51_00004E_800A70_000A71_00004E_C00A75_00004E_800A81_000A82_00004E,
  0x1_C00ABC_00004E_800AC1_000AC8_00004E_C00ACD_00004E_800AE2_000AE3_00004E_C00AF1_00004F,
  0x1_800AFA_000B01_00004E_C00B3C_00004E_C00B3F_00004E_800B41_000B44_00004E_800B4D_000B56_00004E,
  0x1_800B62_000B63_00004E_C00B82_00004E_C00BC0_00004E_C00BCD_00004E_800BF3_000BFA_00004F,
  0x1_C00C00_00004E_C00C04_00004E_C00C3C_00004E_800C3E_000C40_00004E_800C46_000C56_00004E,
  0x1_800C62_000C63_00004E_800C78_000C7E_00004F_C00C81_00004E_C00CBC_00004E_800CCC_000CCD_00004E,
  0x1_800CE2_000CE3_00004E_800D00_000D01_00004E_800D3B_000D3C_00004E_800D41_000D44_00004E,
  0x1_C00D4D_00004E_800D62_000D63_00004E_C00D81_00004E_C00DCA_00004E_800DD2_000DD6_00004E,
  0x1_C00E31_00004E_800E34_000E3A_00004E_C00E3F_00004F_800E47_000E4E_00004E_C00EB1_00004E,
  0x1_800EB4_000EBC_00004E_800EC8_000ECE_00004E_800F18_000F19_00004E_C00F35_00004E_C00F37_00004E,
  0x1_C00F39_00004E_800F3A_000F3D_00004F_800F71_000F7E_00004E_800F80_000F84_00004E,
  0x1_800F86_000F87_00004E_800F8D_000FBC_00004E_C00FC6_00004E_80102D_001030_00004E,
  0x1_801032_001037_00004E_801039_00103A_00004E_80103D_00103E_00004E_801058_001059_00004E,
  0x1_80105E_001060_00004E_801071_001074_00004E_C01082_00004E_801085_001086_00004E_C0108D_00004E,
  0x1_C0109D_00004E_80135D_00135F_00004E_801390_001399_00004F_C01400_00004F_80169B_00169C_00004F,
  0x1_801712_001714_00004E_801732_001733_00004E_801752_001753_00004E_801772_001773_00004E,
  0x1_8017B7_0017BD_00004E_C017C6_00004E_8017C9_0017D3_00004E_C017DB_00004F_C017DD_00004E,
  0x1_8017F0_00180A_00004F_801885_001886_00004E_C018A9_00004E_801920_001922_00004E,
  0x1_801927_001928_00004E_C01932_00004E_801939_00193B_00004E_801940_001945_00004F,
  0x1_8019DE_0019FF_00004F_801A17_001A18_00004E_C01A1B_00004E_C01A56_00004E_801A58_001A60_00004E,
  0x1_C01A62_00004E_801A65_001A6C_00004E_801A73_001A7F_00004E_801AB0_001B03_00004E_C01B34_00004E,
  0x1_801B36_001B3A_00004E_C01B3C_00004E_C01B42_00004E_801B6B_001B73_00004E_801B80_001B81_00004E,
  0x1_801BA2_001BA5_00004E_801BA8_001BA9_00004E_801BAB_001BAD_00004E_C01BE6_00004E,
  0x1_801BE8_001BE9_00004E_C01BED_00004E_801BEF_001BF1_00004E_801C2C_001C33_00004E,
  0x1_801C36_001C37_00004E_801CD0_001CD2_00004E_801CD4_001CE0_00004E_801CE2_001CE8_00004E,
  0x1_C01CED_00004E_C01CF4_00004E_801CF8_001CF9_00004E_801DC0_001DFF_00004E_80200C_0020C1_00004F,
  0x1_8020D0_0020F0_00004E_802104_00214D_00004F_80218A_002335_00004F_80237B_002394_00004F,
  0x1_802396_0026AB_00004F_8026AD_0027FF_00004F_802900_002BFF_00004F_802CE5_002CEA_00004F,
  0x1_802CEF_002CF1_00004E_802CF9_002CFF_00004F_C02D7F_00004E_802DE0_002DFF_00004E,
  0x1_802E00_003004_00004F_803008_003020_00004F_80302A_00302D_00004E_C03030_00004F_C03037_00004F,
  0x1_80303D_00303F_00004F_803099_00309A_00004E_C030A0_00004F_C030FB_00004F_8031C0_0031E5_00004F,
  0x1_804DC0_004DFF_00004F_80A490_00A4C6_00004F_80A60D_00A60F_00004F_80A66F_00A672_00004E,
  0x1_C0A673_00004F_80A674_00A67D_00004E_80A67E_00A67F_00004F_80A69E_00A69F_00004E,
  0x1_80A6F0_00A6F1_00004E_80A700_00A721_00004F_C0A788_00004F_C0A802_00004E_C0A806_00004E,
  0x1_C0A80B_00004E_80A825_00A826_00004E_80A828_00A82B_00004F_C0A82C_00004E_80A838_00A839_00004F,
  0x1_80A874_00A877_00004F_80A8C4_00A8C5_00004E_80A8E0_00A8F1_00004E_C0A8FF_00004E,
  0x1_80A926_00A92D_00004E_80A947_00A951_00004E_80A980_00A982_00004E_C0A9B3_00004E,
  0x1_80A9B6_00A9B9_00004E_80A9BC_00A9BD_00004E_C0A9E5_00004E_80AA29_00AA2E_00004E,
  0x1_80AA31_00AA32_00004E_80AA35_00AA36_00004E_C0AA43_00004E_C0AA4C_00004E_C0AA7C_00004E,
  0x1_C0AAB0_00004E_80AAB2_00AAB4_00004E_80AAB7_00AAB8_00004E_80AABE_00AABF_00004E_C0AAC1_00004E,
  0x1_80AAEC_00AAED_00004E_C0AAF6_00004E_80AB6A_00AB6B_00004F_C0ABE5_00004E_C0ABE8_00004E,
  0x1_C0ABED_00004E_C0FB1E_00004E_80FBB2_00FBC2_000052_80FBC3_00FDFF_00004F_80FE20_00FE2F_00004E,
  0x1_80FE45_00FE46_00004F_C0FE73_000052_C10101_00004F_810140_01018C_00004F_810190_0101A0_00004F,
  0x1_C101FD_00004E_C102E0_00004E_8102E1_0102FB_000045_810376_01037A_00004E_810800_01091B_000052,
  0x1_C1091F_00004F_810920_010A00_000052_810A01_010A0F_00004E_810A10_010A35_000052,
  0x1_810A38_010A3F_00004E_810A40_010AE4_000052_810AE5_010AE6_00004E_810AEB_010B35_000052,
  0x1_810B39_010B3F_00004F_810B40_010D23_000052_810D24_010D27_00004E_810D30_010D39_000041,
  0x1_810D40_010D4F_000052_810D69_010D6D_00004E_C10D6E_00004F_810D6F_010D8F_000052,
  0x1_810E60_010E7E_000041_810E80_010EA9_000052_810EAB_010EAC_00004E_810EAD_010EC7_000052,
  0x1_810ED0_010ED8_00004F_810EFA_010EFF_00004E_810F00_010F45_000052_810F46_010F50_00004E,
  0x1_810F51_010F81_000052_810F82_010F85_00004E_810F86_010FF6_000052_C11001_00004E,
  0x1_811038_011046_00004E_811052_011065_00004F_C11070_00004E_811073_011074_00004E,
  0x1_81107F_011081_00004E_8110B3_0110B6_00004E_8110B9_0110BA_00004E_C110C2_00004E,
  0x1_811100_011102_00004E_811127_01112B_00004E_81112D_011134_00004E_C11173_00004E,
  0x1_811180_011181_00004E_8111B6_0111BE_00004E_8111C9_0111CC_00004E_C111CF_00004E,
  0x1_81122F_011231_00004E_C11234_00004E_811236_011237_00004E_C1123E_00004E_C11241_00004E,
  0x1_C112DF_00004E_8112E3_0112EA_00004E_811300_011301_00004E_81133B_01133C_00004E_C11340_00004E,
  0x1_811366_011374_00004E_8113BB_0113C0_00004E_C113CE_00004E_C113D0_00004E_C113D2_00004E,
  0x1_8113E1_0113E2_00004E_811438_01143F_00004E_811442_011444_00004E_C11446_00004E_C1145E_00004E,
  0x1_8114B3_0114B8_00004E_C114BA_00004E_8114BF_0114C0_00004E_8114C2_0114C3_00004E,
  0x1_8115B2_0115B5_00004E_8115BC_0115BD_00004E_8115BF_0115C0_00004E_8115DC_0115DD_00004E,
  0x1_811633_01163A_00004E_C1163D_00004E_81163F_011640_00004E_811660_01166C_00004F_C116AB_00004E,
  0x1_C116AD_00004E_8116B0_0116B5_00004E_C116B7_00004E_C1171D_00004E_C1171F_00004E,
  0x1_811722_011725_00004E_811727_01172B_00004E_81182F_011837_00004E_811839_01183A_00004E,
  0x1_81193B_01193C_00004E_C1193E_00004E_C11943_00004E_8119D4_0119DB_00004E_C119E0_00004E,
  0x1_811A01_011A06_00004E_811A09_011A0A_00004E_811A33_011A38_00004E_811A3B_011A3E_00004E,
  0x1_C11A47_00004E_811A51_011A56_00004E_811A59_011A5B_00004E_811A8A_011A96_00004E,
  0x1_811A98_011A99_00004E_C11B60_00004E_811B62_011B64_00004E_C11B66_00004E_811C30_011C3D_00004E,
  0x1_811C92_011CA7_00004E_811CAA_011CB0_00004E_811CB2_011CB3_00004E_811CB5_011CB6_00004E,
  0x1_811D31_011D45_00004E_C11D47_00004E_811D90_011D91_00004E_C11D95_00004E_C11D97_00004E,
  0x1_811EF3_011EF4_00004E_811F00_011F01_00004E_811F36_011F3A_00004E_C11F40_00004E_C11F42_00004E,
  0x1_C11F5A_00004E_811FD5_011FF1_00004F_C13440_00004E_813447_013455_00004E_81611E_016129_00004E,
  0x1_81612D_01612F_00004E_816AF0_016AF4_00004E_816B30_016B36_00004E_C16F4F_00004E,
  0x1_816F8F_016F92_00004E_C16FE2_00004F_C16FE4_00004E_81BC9D_01BC9E_00004E_81CC00_01CEF0_00004F,
  0x1_81CF00_01CF46_00004E_81D167_01D169_00004E_81D17B_01D182_00004E_81D185_01D18B_00004E,
  0x1_81D1AA_01D1AD_00004E_81D1E9_01D241_00004F_81D242_01D244_00004E_C1D245_00004F,
  0x1_81D300_01D356_00004F_81DA00_01DA36_00004E_81DA3B_01DA6C_00004E_C1DA75_00004E_C1DA84_00004E,
  0x1_81DA9B_01DAAF_00004E_81E000_01E08F_00004E_81E130_01E136_00004E_C1E2AE_00004E,
  0x1_81E2EC_01E2EF_00004E_C1E2FF_00004F_81E4EC_01E4EF_00004E_81E5EE_01E5EF_00004E_C1E6E3_00004E,
  0x1_C1E6E6_00004E_81E6EE_01E6EF_00004E_C1E6F5_00004E_81E800_01E8CF_000052_81E8D0_01E8D6_00004E,
  0x1_81E922_01E943_000052_81E944_01E94A_00004E_81E94B_01ED3D_000052_81EEF0_01F12F_00004F,
  0x1_81F16D_01F16F_00004F_C1F1AD_00004F_81F260_01FBFA_00004F]

def of (c : Char) : Direction :=
  if c.toNat < 128 then
    if Ascii.isLetter c then .left else if Ascii.isDigit c then .europeanDigit else .neutral
  else
    match table.find? c.toNat with
    | some r => r.value
    | none => .left

end Direction

def hasRightToLeft (label : List Char) : Bool :=
  label.any fun c => Direction.of c == .right || Direction.of c == .arabicDigit

/-- Whether the directions of a label, marks at the end aside, keep the order. -/
def isOrderedFrom (first : Direction) (directions : List Direction) : Bool :=
  let last := directions.getLast?.getD first
  match first with
  | .left =>
    !directions.contains .right && !directions.contains .arabicDigit &&
      (last == .left || last == .europeanDigit)
  | .right =>
    !directions.contains .left &&
      (last == .right || last == .europeanDigit || last == .arabicDigit) &&
      !(directions.contains .europeanDigit && directions.contains .arabicDigit)
  | _ => false

def isOrdered (label : List Char) : Bool :=
  match label.map Direction.of with
  | [] => true
  | first :: rest =>
    isOrderedFrom first ((rest.reverse.dropWhile (· == .mark)).reverse)

end AuthGateway.Url
