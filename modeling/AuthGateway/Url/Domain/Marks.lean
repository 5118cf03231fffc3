import AuthGateway.Text.CodeTable

/-!
Marks, which combine with the character in front of them, so that no label
starts with one.
-/
namespace AuthGateway.Url

/-- The characters of labels that are marks. Those that no label can hold are
counted with their neighbours. -/
def marks : CodeTable Unit := .ofLines (fun _ => ()) [
  0x1_800300_00036F_800483_000489_800591_0005BD_C005BF_8005C1_0005C2_8005C4_0005C5_C005C7,
  0x1_800610_00061A_80064B_00065F_C00670_8006D6_0006DC_8006DF_0006E4_8006E7_0006E8_8006EA_0006ED,
  0x1_C00711_800730_00074A_8007A6_0007B0_8007EB_0007F3_C007FD_800816_000819_80081B_000823,
  0x1_800825_000827_800829_00082D_800859_00085B_800897_00089F_8008CA_000903_80093A_00093C,
  0x1_80093E_00094F_800951_000957_800962_000963_800981_000983_C009BC_8009BE_0009CD_C009D7,
  0x1_8009E2_0009E3_8009FE_000A03_800A3C_000A51_800A70_000A71_C00A75_800A81_000A83_C00ABC,
  0x1_800ABE_000ACD_800AE2_000AE3_800AFA_000B03_C00B3C_800B3E_000B57_800B62_000B63_C00B82,
  0x1_800BBE_000BCD_C00BD7_800C00_000C04_C00C3C_800C3E_000C56_800C62_000C63_800C81_000C83_C00CBC,
  0x1_800CBE_000CD6_800CE2_000CE3_800CF3_000D03_800D3B_000D3C_800D3E_000D4D_C00D57_800D62_000D63,
  0x1_800D81_000D83_800DCA_000DDF_800DF2_000DF3_C00E31_800E34_000E3A_800E47_000E4E_C00EB1,
  0x1_800EB4_000EBC_800EC8_000ECE_800F18_000F19_C00F35_C00F37_C00F39_800F3E_000F3F_800F71_000F84,
  0x1_800F86_000F87_800F8D_000FBC_C00FC6_80102B_00103E_801056_001059_80105E_001060_801062_001064,
  0x1_801067_00106D_801071_001074_801082_00108D_C0108F_80109A_00109D_80135D_00135F_801712_001715,
  0x1_801732_001734_801752_001753_801772_001773_8017B6_0017D3_C017DD_801885_001886_C018A9,
  0x1_801920_00193B_801A17_001A1B_801A55_001A7F_801AB0_001B04_801B34_001B44_801B6B_001B73,
  0x1_801B80_001B82_801BA1_001BAD_801BE6_001BF3_801C24_001C37_801CD0_001CD2_801CD4_001CE8_C01CED,
  0x1_C01CF4_801CF7_001CF9_801DC0_001DFF_8020D0_0020F0_802CEF_002CF1_C02D7F_802DE0_002DFF,
  0x1_80302A_00302F_803099_00309A_80A66F_00A672_80A674_00A67D_80A69E_00A69F_80A6F0_00A6F1_C0A802,
  0x1_C0A806_C0A80B_80A823_00A827_C0A82C_80A880_00A881_80A8B4_00A8C5_80A8E0_00A8F1_C0A8FF,
  0x1_80A926_00A92D_80A947_00A953_80A980_00A983_80A9B3_00A9C0_C0A9E5_80AA29_00AA36_C0AA43,
  0x1_80AA4C_00AA4D_80AA7B_00AA7D_C0AAB0_80AAB2_00AAB4_80AAB7_00AAB8_80AABE_00AABF_C0AAC1,
  0x1_80AAEB_00AAEF_80AAF5_00AAF6_80ABE3_00ABEA_80ABEC_00ABED_C0FB1E_80FE20_00FE2F_C101FD_C102E0,
  0x1_810376_01037A_810A01_010A0F_810A38_010A3F_810AE5_010AE6_810D24_010D27_810D69_010D6D,
  0x1_810EAB_010EAC_810EFA_010EFF_810F46_010F50_810F82_010F85_811000_011002_811038_011046_C11070,
  0x1_811073_011074_81107F_011082_8110B0_0110BA_C110C2_811100_011102_811127_011134_811145_011146,
  0x1_C11173_811180_011182_8111B3_0111C0_8111C9_0111CC_8111CE_0111CF_81122C_011237_C1123E_C11241,
  0x1_8112DF_0112EA_811300_011303_81133B_01133C_81133E_01134D_C11357_811362_011374_8113B8_0113D0,
  0x1_C113D2_8113E1_0113E2_811435_011446_C1145E_8114B0_0114C3_8115AF_0115C0_8115DC_0115DD,
  0x1_811630_011640_8116AB_0116B7_81171D_01172B_81182C_01183A_811930_01193E_C11940_811942_011943,
  0x1_8119D1_0119E0_C119E4_811A01_011A0A_811A33_011A39_811A3B_011A3E_C11A47_811A51_011A5B,
  0x1_811A8A_011A99_811B60_011B67_811C2F_011C3F_811C92_011CB6_811D31_011D45_C11D47_811D8A_011D97,
  0x1_811EF3_011EF6_811F00_011F01_C11F03_811F34_011F42_C11F5A_C13440_813447_013455_81611E_01612F,
  0x1_816AF0_016AF4_816B30_016B36_C16F4F_816F51_016F92_816FE4_016FF1_81BC9D_01BC9E_81CF00_01CF46,
  0x1_81D165_01D169_81D16D_01D182_81D185_01D18B_81D1AA_01D1AD_81D242_01D244_81DA00_01DA36,
  0x1_81DA3B_01DA6C_C1DA75_C1DA84_81DA9B_01DAAF_81E000_01E08F_81E130_01E136_C1E2AE_81E2EC_01E2EF,
  0x1_81E4EC_01E4EF_81E5EE_01E5EF_C1E6E3_C1E6E6_81E6EE_01E6EF_C1E6F5_81E8D0_01E8D6_81E944_01E94A]

def isMark (c : Char) : Bool :=
  marks.contains c

end AuthGateway.Url
