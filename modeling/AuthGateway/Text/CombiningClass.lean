import AuthGateway.Text.CodeTable

/-!
The classes of combining marks. Marks of different classes do not touch each
other, so that their order means nothing; all other characters have class zero.
-/
namespace AuthGateway

def combiningClasses : CodeTable Nat := .ofLines (·.headD 0) [
  0x1_800300_000314_0000E6_C00315_0000E8_800316_000319_0000DC_C0031A_0000E8_C0031B_0000D8,
  0x1_80031C_000320_0000DC_800321_000322_0000CA_800323_000326_0000DC_800327_000328_0000CA,
  0x1_800329_000333_0000DC_800334_000338_000001_800339_00033C_0000DC_80033D_00033F_0000E6,
  0x1_C00342_0000E6_C00345_0000F0_C00346_0000E6_800347_000349_0000DC_80034A_00034C_0000E6,
  0x1_80034D_00034E_0000DC_800350_000352_0000E6_800353_000356_0000DC_C00357_0000E6_C00358_0000E8,
  0x1_800359_00035A_0000DC_C0035B_0000E6_C0035C_0000E9_80035D_00035E_0000EA_C0035F_0000E9,
  0x1_800360_000361_0000EA_C00362_0000E9_800363_00036F_0000E6_800483_000487_0000E6_C00591_0000DC,
  0x1_800592_000595_0000E6_C00596_0000DC_800597_000599_0000E6_C0059A_0000DE_C0059B_0000DC,
  0x1_80059C_0005A1_0000E6_8005A2_0005A7_0000DC_8005A8_0005A9_0000E6_C005AA_0000DC,
  0x1_8005AB_0005AC_0000E6_C005AD_0000DE_C005AE_0000E4_C005AF_0000E6_C005B0_00000A_C005B1_00000B,
  0x1_C005B2_00000C_C005B3_00000D_C005B4_00000E_C005B5_00000F_C005B6_000010_C005B7_000011,
  0x1_C005B8_000012_8005B9_0005BA_000013_C005BB_000014_C005BC_000015_C005BD_000016_C005BF_000017,
  0x1_C005C1_000018_C005C2_000019_C005C4_0000E6_C005C5_0000DC_C005C7_000012_800610_000617_0000E6,
  0x1_C00618_00001E_C00619_00001F_C0061A_000020_C0064B_00001B_C0064C_00001C_C0064D_00001D,
  0x1_C0064E_00001E_C0064F_00001F_C00650_000020_C00651_000021_C00652_000022_800653_000654_0000E6,
  0x1_800655_000656_0000DC_800657_00065B_0000E6_C0065C_0000DC_80065D_00065E_0000E6_C0065F_0000DC,
  0x1_C00670_000023_8006D6_0006DC_0000E6_8006DF_0006E2_0000E6_C006E3_0000DC_C006E4_0000E6,
  0x1_8006E7_0006E8_0000E6_C006EA_0000DC_8006EB_0006EC_0000E6_C006ED_0000DC_C00711_000024,
  0x1_C00730_0000E6_C00731_0000DC_800732_000733_0000E6_C00734_0000DC_800735_000736_0000E6,
  0x1_800737_000739_0000DC_C0073A_0000E6_80073B_00073C_0000DC_C0073D_0000E6_C0073E_0000DC,
  0x1_80073F_000741_0000E6_C00742_0000DC_C00743_0000E6_C00744_0000DC_C00745_0000E6_C00746_0000DC,
  0x1_C00747_0000E6_C00748_0000DC_800749_00074A_0000E6_8007EB_0007F1_0000E6_C007F2_0000DC,
  0x1_C007F3_0000E6_C007FD_0000DC_800816_000819_0000E6_80081B_000823_0000E6_800825_000827_0000E6,
  0x1_800829_00082D_0000E6_800859_00085B_0000DC_800897_000898_0000E6_800899_00089B_0000DC,
  0x1_80089C_00089F_0000E6_8008CA_0008CE_0000E6_8008CF_0008D3_0000DC_8008D4_0008E1_0000E6,
  0x1_C008E3_0000DC_8008E4_0008E5_0000E6_C008E6_0000DC_8008E7_0008E8_0000E6_C008E9_0000DC,
  0x1_8008EA_0008EC_0000E6_8008ED_0008EF_0000DC_C008F0_00001B_C008F1_00001C_C008F2_00001D,
  0x1_8008F3_0008F5_0000E6_C008F6_0000DC_8008F7_0008F8_0000E6_8008F9_0008FA_0000DC,
  0x1_8008FB_0008FF_0000E6_C0093C_000007_C0094D_000009_C00951_0000E6_C00952_0000DC,
  0x1_800953_000954_0000E6_C009BC_000007_C009CD_000009_C009FE_0000E6_C00A3C_000007_C00A4D_000009,
  0x1_C00ABC_000007_C00ACD_000009_C00B3C_000007_C00B4D_000009_C00BCD_000009_C00C3C_000007,
  0x1_C00C4D_000009_C00C55_000054_C00C56_00005B_C00CBC_000007_C00CCD_000009_800D3B_000D3C_000009,
  0x1_C00D4D_000009_C00DCA_000009_800E38_000E39_000067_C00E3A_000009_800E48_000E4B_00006B,
  0x1_800EB8_000EB9_000076_C00EBA_000009_800EC8_000ECB_00007A_800F18_000F19_0000DC_C00F35_0000DC,
  0x1_C00F37_0000DC_C00F39_0000D8_C00F71_000081_C00F72_000082_C00F74_000084_800F7A_000F7D_000082,
  0x1_C00F80_000082_800F82_000F83_0000E6_C00F84_000009_800F86_000F87_0000E6_C00FC6_0000DC,
  0x1_C01037_000007_801039_00103A_000009_C0108D_0000DC_80135D_00135F_0000E6_801714_001715_000009,
  0x1_C01734_000009_C017D2_000009_C017DD_0000E6_C018A9_0000E4_C01939_0000DE_C0193A_0000E6,
  0x1_C0193B_0000DC_C01A17_0000E6_C01A18_0000DC_C01A60_000009_801A75_001A7C_0000E6_C01A7F_0000DC,
  0x1_801AB0_001AB4_0000E6_801AB5_001ABA_0000DC_801ABB_001ABC_0000E6_C01ABD_0000DC,
  0x1_801ABF_001AC0_0000DC_801AC1_001AC2_0000E6_801AC3_001AC4_0000DC_801AC5_001AC9_0000E6,
  0x1_C01ACA_0000DC_801ACB_001ADC_0000E6_C01ADD_0000DC_801AE0_001AE5_0000E6_C01AE6_0000DC,
  0x1_801AE7_001AEA_0000E6_C01AEB_0000EA_C01B34_000007_C01B44_000009_C01B6B_0000E6_C01B6C_0000DC,
  0x1_801B6D_001B73_0000E6_801BAA_001BAB_000009_C01BE6_000007_801BF2_001BF3_000009_C01C37_000007,
  0x1_801CD0_001CD2_0000E6_C01CD4_000001_801CD5_001CD9_0000DC_801CDA_001CDB_0000E6,
  0x1_801CDC_001CDF_0000DC_C01CE0_0000E6_801CE2_001CE8_000001_C01CED_0000DC_C01CF4_0000E6,
  0x1_801CF8_001CF9_0000E6_801DC0_001DC1_0000E6_C01DC2_0000DC_801DC3_001DC9_0000E6_C01DCA_0000DC,
  0x1_801DCB_001DCC_0000E6_C01DCD_0000EA_C01DCE_0000D6_C01DCF_0000DC_C01DD0_0000CA,
  0x1_801DD1_001DF5_0000E6_C01DF6_0000E8_801DF7_001DF8_0000E4_C01DF9_0000DC_C01DFA_0000DA,
  0x1_C01DFB_0000E6_C01DFC_0000E9_C01DFD_0000DC_C01DFE_0000E6_C01DFF_0000DC_8020D0_0020D1_0000E6,
  0x1_8020D2_0020D3_000001_8020D4_0020D7_0000E6_8020D8_0020DA_000001_8020DB_0020DC_0000E6,
  0x1_C020E1_0000E6_8020E5_0020E6_000001_C020E7_0000E6_C020E8_0000DC_C020E9_0000E6,
  0x1_8020EA_0020EB_000001_8020EC_0020EF_0000DC_C020F0_0000E6_802CEF_002CF1_0000E6_C02D7F_000009,
  0x1_802DE0_002DFF_0000E6_C0302A_0000DA_C0302B_0000E4_C0302C_0000E8_C0302D_0000DE,
  0x1_80302E_00302F_0000E0_803099_00309A_000008_C0A66F_0000E6_80A674_00A67D_0000E6,
  0x1_80A69E_00A69F_0000E6_80A6F0_00A6F1_0000E6_C0A806_000009_C0A82C_000009_C0A8C4_000009,
  0x1_80A8E0_00A8F1_0000E6_80A92B_00A92D_0000DC_C0A953_000009_C0A9B3_000007_C0A9C0_000009,
  0x1_C0AAB0_0000E6_80AAB2_00AAB3_0000E6_C0AAB4_0000DC_80AAB7_00AAB8_0000E6_80AABE_00AABF_0000E6,
  0x1_C0AAC1_0000E6_C0AAF6_000009_C0ABED_000009_C0FB1E_00001A_80FE20_00FE26_0000E6,
  0x1_80FE27_00FE2D_0000DC_80FE2E_00FE2F_0000E6_C101FD_0000DC_C102E0_0000DC_810376_01037A_0000E6,
  0x1_C10A0D_0000DC_C10A0F_0000E6_C10A38_0000E6_C10A39_000001_C10A3A_0000DC_C10A3F_000009,
  0x1_C10AE5_0000E6_C10AE6_0000DC_810D24_010D27_0000E6_810D69_010D6D_0000E6_810EAB_010EAC_0000E6,
  0x1_810EFA_010EFB_0000DC_810EFD_010EFF_0000DC_810F46_010F47_0000DC_810F48_010F4A_0000E6,
  0x1_C10F4B_0000DC_C10F4C_0000E6_810F4D_010F50_0000DC_C10F82_0000E6_C10F83_0000DC_C10F84_0000E6,
  0x1_C10F85_0000DC_C11046_000009_C11070_000009_C1107F_000009_C110B9_000009_C110BA_000007,
  0x1_811100_011102_0000E6_811133_011134_000009_C11173_000007_C111C0_000009_C111CA_000007,
  0x1_C11235_000009_C11236_000007_C112E9_000007_C112EA_000009_81133B_01133C_000007_C1134D_000009,
  0x1_811366_01136C_0000E6_811370_011374_0000E6_8113CE_0113D0_000009_C11442_000009_C11446_000007,
  0x1_C1145E_0000E6_C114C2_000009_C114C3_000007_C115BF_000009_C115C0_000007_C1163F_000009,
  0x1_C116B6_000009_C116B7_000007_C1172B_000009_C11839_000009_C1183A_000007_81193D_01193E_000009,
  0x1_C11943_000007_C119E0_000009_C11A34_000009_C11A47_000009_C11A99_000009_C11C3F_000009,
  0x1_C11D42_000007_811D44_011D45_000009_C11D97_000009_811F41_011F42_000009_C1612F_000009,
  0x1_816AF0_016AF4_000001_816B30_016B36_0000E6_816FF0_016FF1_000006_C1BC9E_000001,
  0x1_81D165_01D166_0000D8_81D167_01D169_000001_C1D16D_0000E2_81D16E_01D172_0000D8,
  0x1_81D17B_01D182_0000DC_81D185_01D189_0000E6_81D18A_01D18B_0000DC_81D1AA_01D1AD_0000E6,
  0x1_81D242_01D244_0000E6_81E000_01E006_0000E6_81E008_01E018_0000E6_81E01B_01E021_0000E6,
  0x1_81E023_01E024_0000E6_81E026_01E02A_0000E6_C1E08F_0000E6_81E130_01E136_0000E6_C1E2AE_0000E6,
  0x1_81E2EC_01E2EF_0000E6_81E4EC_01E4ED_0000E8_C1E4EE_0000DC_C1E4EF_0000E6_C1E5EE_0000E6,
  0x1_C1E5EF_0000DC_C1E6E3_0000E6_C1E6E6_0000E6_81E6EE_01E6EF_0000E6_C1E6F5_0000E6,
  0x1_81E8D0_01E8D6_0000DC_81E944_01E949_0000E6_C1E94A_000007]

def combiningClass (n : Nat) : Nat :=
  match combiningClasses.find? n with
  | some r => r.value
  | none => 0

end AuthGateway
