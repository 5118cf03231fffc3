import AuthGateway.Text.Ascii
import AuthGateway.Text.CodeTable

/-!
What stands for a character of a domain when the domain is looked up: letters in
lower case, one spelling for characters that have several, and nothing for those
that cannot be seen. Some characters stand for themselves, and some are refused.
-/
namespace AuthGateway.Url.Mapping

def refused : CodeTable Unit := .ofLines (fun _ => ()) [
  0x1_800080_00009F_800378_000379_800380_000383_C0038B_C0038D_C003A2_C00530_800557_000558,
  0x1_80058B_00058C_C00590_8005C8_0005CF_8005EB_0005EE_8005F5_000605_C0061C_C006DD_80070E_00070F,
  0x1_80074B_00074C_8007B2_0007BF_8007FB_0007FC_80082E_00082F_C0083F_80085C_00085D_C0085F,
  0x1_80086B_00086F_800890_000896_C008E2_C00984_80098D_00098E_800991_000992_C009A9_C009B1,
  0x1_8009B3_0009B5_8009BA_0009BB_8009C5_0009C6_8009C9_0009CA_8009CF_0009D6_8009D8_0009DB_C009DE,
  0x1_8009E4_0009E5_8009FF_000A00_C00A04_800A0B_000A0E_800A11_000A12_C00A29_C00A31_C00A34_C00A37,
  0x1_800A3A_000A3B_C00A3D_800A43_000A46_800A49_000A4A_800A4E_000A50_800A52_000A58_C00A5D,
  0x1_800A5F_000A65_800A77_000A80_C00A84_C00A8E_C00A92_C00AA9_C00AB1_C00AB4_800ABA_000ABB_C00AC6,
  0x1_C00ACA_800ACE_000ACF_800AD1_000ADF_800AE4_000AE5_800AF2_000AF8_C00B00_C00B04_800B0D_000B0E,
  0x1_800B11_000B12_C00B29_C00B31_C00B34_800B3A_000B3B_800B45_000B46_800B49_000B4A_800B4E_000B54,
  0x1_800B58_000B5B_C00B5E_800B64_000B65_800B78_000B81_C00B84_800B8B_000B8D_C00B91_800B96_000B98,
  0x1_C00B9B_C00B9D_800BA0_000BA2_800BA5_000BA7_800BAB_000BAD_800BBA_000BBD_800BC3_000BC5_C00BC9,
  0x1_800BCE_000BCF_800BD1_000BD6_800BD8_000BE5_800BFB_000BFF_C00C0D_C00C11_C00C29_800C3A_000C3B,
  0x1_C00C45_C00C49_800C4E_000C54_C00C57_C00C5B_800C5E_000C5F_800C64_000C65_800C70_000C76_C00C8D,
  0x1_C00C91_C00CA9_C00CB4_800CBA_000CBB_C00CC5_C00CC9_800CCE_000CD4_800CD7_000CDB_C00CDF,
  0x1_800CE4_000CE5_C00CF0_800CF4_000CFF_C00D0D_C00D11_C00D45_C00D49_800D50_000D53_800D64_000D65,
  0x1_C00D80_C00D84_800D97_000D99_C00DB2_C00DBC_800DBE_000DBF_800DC7_000DC9_800DCB_000DCE_C00DD5,
  0x1_C00DD7_800DE0_000DE5_800DF0_000DF1_800DF5_000E00_800E3B_000E3E_800E5C_000E80_C00E83_C00E85,
  0x1_C00E8B_C00EA4_C00EA6_800EBE_000EBF_C00EC5_C00EC7_C00ECF_800EDA_000EDB_800EE0_000EFF_C00F48,
  0x1_800F6D_000F70_C00F98_C00FBD_C00FCD_800FDB_000FFF_C010C6_8010C8_0010CC_8010CE_0010CF_C01249,
  0x1_80124E_00124F_C01257_C01259_80125E_00125F_C01289_80128E_00128F_C012B1_8012B6_0012B7_C012BF,
  0x1_C012C1_8012C6_0012C7_C012D7_C01311_801316_001317_80135B_00135C_80137D_00137F_80139A_00139F,
  0x1_8013F6_0013F7_8013FE_0013FF_C01680_80169D_00169F_8016F9_0016FF_801716_00171E_801737_00173F,
  0x1_801754_00175F_C0176D_C01771_801774_00177F_8017DE_0017DF_8017EA_0017EF_8017FA_0017FF,
  0x1_80181A_00181F_801879_00187F_8018AB_0018AF_8018F6_0018FF_C0191F_80192C_00192F_80193C_00193F,
  0x1_801941_001943_80196E_00196F_801975_00197F_8019AC_0019AF_8019CA_0019CF_8019DB_0019DD,
  0x1_801A1C_001A1D_C01A5F_801A7D_001A7E_801A8A_001A8F_801A9A_001A9F_801AAE_001AAF_801ADE_001ADF,
  0x1_801AEC_001AFF_C01B4D_801BF4_001BFB_801C38_001C3A_801C4A_001C4C_801C8B_001C8F_801CBB_001CBC,
  0x1_801CC8_001CCF_801CFB_001CFF_801F16_001F17_801F1E_001F1F_801F46_001F47_801F4E_001F4F_C01F58,
  0x1_C01F5A_C01F5C_C01F5E_801F7E_001F7F_C01FB5_C01FC5_801FD4_001FD5_C01FDC_801FF0_001FF1_C01FF5,
  0x1_C01FFF_80200E_00200F_802024_002026_802028_00202E_802065_002069_802072_002073_C0208F,
  0x1_80209D_00209F_8020C2_0020CF_8020F1_0020FF_80218C_00218F_80242A_00243F_80244B_00245F,
  0x1_802488_00249B_802B74_002B75_802CF4_002CF8_C02D26_802D28_002D2C_802D2E_002D2F_802D68_002D6E,
  0x1_802D71_002D7E_802D97_002D9F_C02DA7_C02DAF_C02DB7_C02DBF_C02DC7_C02DCF_C02DD7_C02DDF,
  0x1_802E5E_002E7F_C02E9A_802EF4_002EFF_802FD6_002FFF_C03040_803097_003098_803100_003104_C03130,
  0x1_C0318F_8031E6_0031EF_C0321F_C033C2_C033C7_C033D8_80A48D_00A48F_80A4C7_00A4CF_80A62C_00A63F,
  0x1_80A6F8_00A6FF_80A7DD_00A7F0_80A82D_00A82F_80A83A_00A83F_80A878_00A87F_80A8C6_00A8CD,
  0x1_80A8DA_00A8DF_80A954_00A95E_80A97D_00A97F_C0A9CE_80A9DA_00A9DD_C0A9FF_80AA37_00AA3F,
  0x1_80AA4E_00AA4F_80AA5A_00AA5B_80AAC3_00AADA_80AAF7_00AB00_80AB07_00AB08_80AB0F_00AB10,
  0x1_80AB17_00AB1F_C0AB27_C0AB2F_80AB6C_00AB6F_80ABEE_00ABEF_80ABFA_00ABFF_80D7A4_00D7AF,
  0x1_80D7C7_00D7CA_80D7FC_00F8FF_80FA6E_00FA6F_80FADA_00FAFF_80FB07_00FB12_80FB18_00FB1C_C0FB37,
  0x1_C0FB3D_C0FB3F_C0FB42_C0FB45_80FDD0_00FDEF_C0FE12_80FE19_00FE1F_C0FE30_80FE52_00FE53_C0FE67,
  0x1_80FE6C_00FE6F_C0FE75_80FEFD_00FEFE_C0FF00_80FFBF_00FFC1_80FFC8_00FFC9_80FFD0_00FFD1,
  0x1_80FFD8_00FFD9_80FFDD_00FFDF_C0FFE7_80FFEF_00FFFF_C1000C_C10027_C1003B_C1003E_81004E_01004F,
  0x1_81005E_01007F_8100FB_0100FF_810103_010106_810134_010136_C1018F_81019D_01019F_8101A1_0101CF,
  0x1_8101FE_01027F_81029D_01029F_8102D1_0102DF_8102FC_0102FF_810324_01032C_81034B_01034F,
  0x1_81037B_01037F_C1039E_8103C4_0103C7_8103D6_0103FF_81049E_01049F_8104AA_0104AF_8104D4_0104D7,
  0x1_8104FC_0104FF_810528_01052F_810564_01056E_C1057B_C1058B_C10593_C10596_C105A2_C105B2_C105BA,
  0x1_8105BD_0105BF_8105F4_0105FF_810737_01073F_810756_01075F_810768_01077F_C10786_C107B1,
  0x1_8107BB_0107FF_810806_010807_C10809_C10836_810839_01083B_81083D_01083E_C10856_81089F_0108A6,
  0x1_8108B0_0108DF_C108F3_8108F6_0108FA_81091C_01091E_81093A_01093E_81095A_01097F_8109B8_0109BB,
  0x1_8109D0_0109D1_C10A04_810A07_010A0B_C10A14_C10A18_810A36_010A37_810A3B_010A3E_810A49_010A4F,
  0x1_810A59_010A5F_810AA0_010ABF_810AE7_010AEA_810AF7_010AFF_810B36_010B38_810B56_010B57,
  0x1_810B73_010B77_810B92_010B98_810B9D_010BA8_810BB0_010BFF_810C49_010C7F_810CB3_010CBF,
  0x1_810CF3_010CF9_810D28_010D2F_810D3A_010D3F_810D66_010D68_810D86_010D8D_810D90_010E5F_C10E7F,
  0x1_C10EAA_810EAE_010EAF_810EB2_010EC1_810EC8_010ECF_810ED9_010EF9_810F28_010F2F_810F5A_010F6F,
  0x1_810F8A_010FAF_810FCC_010FDF_810FF7_010FFF_81104E_011051_811076_01107E_C110BD_8110C3_0110CF,
  0x1_8110E9_0110EF_8110FA_0110FF_C11135_811148_01114F_811177_01117F_C111E0_8111F5_0111FF_C11212,
  0x1_811242_01127F_C11287_C11289_C1128E_C1129E_8112AA_0112AF_8112EB_0112EF_8112FA_0112FF_C11304,
  0x1_81130D_01130E_811311_011312_C11329_C11331_C11334_C1133A_811345_011346_811349_01134A,
  0x1_81134E_01134F_811351_011356_811358_01135C_811364_011365_81136D_01136F_811375_01137F_C1138A,
  0x1_81138C_01138D_C1138F_C113B6_C113C1_8113C3_0113C4_C113C6_C113CB_C113D6_8113D9_0113E0,
  0x1_8113E3_0113FF_C1145C_811462_01147F_8114C8_0114CF_8114DA_01157F_8115B6_0115B7_8115DE_0115FF,
  0x1_811645_01164F_81165A_01165F_81166D_01167F_8116BA_0116BF_8116CA_0116CF_8116E4_0116FF,
  0x1_81171B_01171C_81172C_01172F_811747_0117FF_81183C_01189F_8118F3_0118FE_811907_011908,
  0x1_81190A_01190B_C11914_C11917_C11936_811939_01193A_811947_01194F_81195A_01199F_8119A8_0119A9,
  0x1_8119D8_0119D9_8119E5_0119FF_811A48_011A4F_811AA3_011AAF_811AF9_011AFF_811B0A_011B5F,
  0x1_811B68_011BBF_811BE2_011BEF_811BFA_011BFF_C11C09_C11C37_811C46_011C4F_811C6D_011C6F,
  0x1_811C90_011C91_C11CA8_811CB7_011CFF_C11D07_C11D0A_811D37_011D39_C11D3B_C11D3E_811D48_011D4F,
  0x1_811D5A_011D5F_C11D66_C11D69_C11D8F_C11D92_811D99_011D9F_811DAA_011DAF_811DDC_011DDF,
  0x1_811DEA_011EDF_811EF9_011EFF_C11F11_811F3B_011F3D_811F5B_011FAF_811FB1_011FBF_811FF2_011FFE,
  0x1_81239A_0123FF_C1246F_812475_01247F_812544_012F8F_812FF3_012FFF_813430_01343F_813456_01345F,
  0x1_8143FB_0143FF_814647_0160FF_81613A_0167FF_816A39_016A3F_C16A5F_816A6A_016A6D_C16ABF,
  0x1_816ACA_016ACF_816AEE_016AEF_816AF6_016AFF_816B46_016B4F_C16B5A_C16B62_816B78_016B7C,
  0x1_816B90_016D3F_816D7A_016E3F_816E9B_016E9F_816EB9_016EBA_816ED4_016EFF_816F4B_016F4E,
  0x1_816F88_016F8E_816FA0_016FDF_816FE5_016FEF_816FF7_016FFF_818CD6_018CFE_818D1F_018D7F,
  0x1_818DF3_01AFEF_C1AFF4_C1AFFC_C1AFFF_81B123_01B131_81B133_01B14F_81B153_01B154_81B156_01B163,
  0x1_81B168_01B16F_81B2FC_01BBFF_81BC6B_01BC6F_81BC7D_01BC7F_81BC89_01BC8F_81BC9A_01BC9B,
  0x1_81BCA4_01CBFF_81CCFD_01CCFF_81CEB4_01CEB9_81CED1_01CEDF_81CEF1_01CEFF_81CF2E_01CF2F,
  0x1_81CF47_01CF4F_81CFC4_01CFFF_81D0F6_01D0FF_81D127_01D128_81D1EB_01D1FF_81D246_01D2BF,
  0x1_81D2D4_01D2DF_81D2F4_01D2FF_81D357_01D35F_81D379_01D3FF_C1D455_C1D49D_81D4A0_01D4A1,
  0x1_81D4A3_01D4A4_81D4A7_01D4A8_C1D4AD_C1D4BA_C1D4BC_C1D4C4_C1D506_81D50B_01D50C_C1D515_C1D51D,
  0x1_C1D53A_C1D53F_C1D545_81D547_01D549_C1D551_81D6A6_01D6A7_81D7CC_01D7CD_81DA8C_01DA9A_C1DAA0,
  0x1_81DAB0_01DEFF_81DF1F_01DF24_81DF2B_01DFFF_C1E007_81E019_01E01A_C1E022_C1E025_81E02B_01E02F,
  0x1_81E06E_01E08E_81E090_01E0FF_81E12D_01E12F_81E13E_01E13F_81E14A_01E14D_81E150_01E28F,
  0x1_81E2AF_01E2BF_81E2FA_01E2FE_81E300_01E4CF_81E4FA_01E5CF_81E5FB_01E5FE_81E600_01E6BF_C1E6DF,
  0x1_81E6F6_01E6FD_81E700_01E7DF_C1E7E7_C1E7EC_C1E7EF_C1E7FF_81E8C5_01E8C6_81E8D7_01E8FF,
  0x1_81E94C_01E94F_81E95A_01E95D_81E960_01EC70_81ECB5_01ED00_81ED3E_01EDFF_C1EE04_C1EE20_C1EE23,
  0x1_81EE25_01EE26_C1EE28_C1EE33_C1EE38_C1EE3A_81EE3C_01EE41_81EE43_01EE46_C1EE48_C1EE4A_C1EE4C,
  0x1_C1EE50_C1EE53_81EE55_01EE56_C1EE58_C1EE5A_C1EE5C_C1EE5E_C1EE60_C1EE63_81EE65_01EE66_C1EE6B,
  0x1_C1EE73_C1EE78_C1EE7D_C1EE7F_C1EE8A_81EE9C_01EEA0_C1EEA4_C1EEAA_81EEBC_01EEEF_81EEF2_01EFFF,
  0x1_81F02C_01F02F_81F094_01F09F_81F0AF_01F0B0_C1F0C0_C1F0D0_81F0F6_01F100_81F1AE_01F1E5,
  0x1_81F203_01F20F_81F23C_01F23F_81F249_01F24F_81F252_01F25F_81F266_01F2FF_81F6D9_01F6DB,
  0x1_81F6ED_01F6EF_81F6FD_01F6FF_81F7DA_01F7DF_81F7EC_01F7EF_81F7F1_01F7FF_81F80C_01F80F,
  0x1_81F848_01F84F_81F85A_01F85F_81F888_01F88F_81F8AE_01F8AF_81F8BC_01F8BF_81F8C2_01F8CF,
  0x1_81F8D9_01F8FF_81FA58_01FA5F_81FA6E_01FA6F_81FA7D_01FA7F_81FA8B_01FA8D_C1FAC7_81FAC9_01FACC,
  0x1_81FADD_01FADE_81FAEB_01FAEE_81FAF9_01FAFF_C1FB93_81FBFB_01FFFF_82A6E0_02A6FF_82B81E_02B81F,
  0x1_82CEAE_02CEAF_82EBE1_02EBEF_82EE5E_02F7FF_82FA1E_02FFFF_83134B_03134F_83347A_0E00FF,
  0x1_8E01F0_10FFFF]

def ignored : CodeTable Unit := .ofLines (fun _ => ()) [
  0x1_C000AD_C0034F_80115F_001160_8017B4_0017B5_80180B_00180F_C0200B_802060_002064_80206A_00206F,
  0x1_C03164_80FE00_00FE0F_C0FEFF_C0FFA0_81BCA0_01BCA3_81D173_01D17A_8E0100_0E01EF]

/-- The characters that others stand for, of a range in the same order. -/
def replaced : CodeTable (List Nat) := .ofLines id [
  0x1_C000A0_000020_C000A8_000020_000308_C000AA_000061_C000AF_000020_000304_8000B2_0000B3_000032,
  0x1_C000B4_000020_000301_C000B5_0003BC_C000B8_000020_000327_C000B9_000031_C000BA_00006F,
  0x1_C000BC_000031_002044_000034_C000BD_000031_002044_000032_C000BE_000033_002044_000034,
  0x1_8000C0_0000D6_0000E0_8000D8_0000DE_0000F8_C00100_000101_C00102_000103_C00104_000105,
  0x1_C00106_000107_C00108_000109_C0010A_00010B_C0010C_00010D_C0010E_00010F_C00110_000111,
  0x1_C00112_000113_C00114_000115_C00116_000117_C00118_000119_C0011A_00011B_C0011C_00011D,
  0x1_C0011E_00011F_C00120_000121_C00122_000123_C00124_000125_C00126_000127_C00128_000129,
  0x1_C0012A_00012B_C0012C_00012D_C0012E_00012F_C00130_000069_000307_C00132_000069_00006A,
  0x1_C00133_000069_00006A_C00134_000135_C00136_000137_C00139_00013A_C0013B_00013C_C0013D_00013E,
  0x1_C0013F_00006C_0000B7_C00140_00006C_0000B7_C00141_000142_C00143_000144_C00145_000146,
  0x1_C00147_000148_C00149_0002BC_00006E_C0014A_00014B_C0014C_00014D_C0014E_00014F_C00150_000151,
  0x1_C00152_000153_C00154_000155_C00156_000157_C00158_000159_C0015A_00015B_C0015C_00015D,
  0x1_C0015E_00015F_C00160_000161_C00162_000163_C00164_000165_C00166_000167_C00168_000169,
  0x1_C0016A_00016B_C0016C_00016D_C0016E_00016F_C00170_000171_C00172_000173_C00174_000175,
  0x1_C00176_000177_C00178_0000FF_C00179_00017A_C0017B_00017C_C0017D_00017E_C0017F_000073,
  0x1_C00181_000253_C00182_000183_C00184_000185_C00186_000254_C00187_000188_800189_00018A_000256,
  0x1_C0018B_00018C_C0018E_0001DD_C0018F_000259_C00190_00025B_C00191_000192_C00193_000260,
  0x1_C00194_000263_C00196_000269_C00197_000268_C00198_000199_C0019C_00026F_C0019D_000272,
  0x1_C0019F_000275_C001A0_0001A1_C001A2_0001A3_C001A4_0001A5_C001A6_000280_C001A7_0001A8,
  0x1_C001A9_000283_C001AC_0001AD_C001AE_000288_C001AF_0001B0_8001B1_0001B2_00028A_C001B3_0001B4,
  0x1_C001B5_0001B6_C001B7_000292_C001B8_0001B9_C001BC_0001BD_C001C4_000064_00017E,
  0x1_C001C5_000064_00017E_C001C6_000064_00017E_C001C7_00006C_00006A_C001C8_00006C_00006A,
  0x1_C001C9_00006C_00006A_C001CA_00006E_00006A_C001CB_00006E_00006A_C001CC_00006E_00006A,
  0x1_C001CD_0001CE_C001CF_0001D0_C001D1_0001D2_C001D3_0001D4_C001D5_0001D6_C001D7_0001D8,
  0x1_C001D9_0001DA_C001DB_0001DC_C001DE_0001DF_C001E0_0001E1_C001E2_0001E3_C001E4_0001E5,
  0x1_C001E6_0001E7_C001E8_0001E9_C001EA_0001EB_C001EC_0001ED_C001EE_0001EF_C001F1_000064_00007A,
  0x1_C001F2_000064_00007A_C001F3_000064_00007A_C001F4_0001F5_C001F6_000195_C001F7_0001BF,
  0x1_C001F8_0001F9_C001FA_0001FB_C001FC_0001FD_C001FE_0001FF_C00200_000201_C00202_000203,
  0x1_C00204_000205_C00206_000207_C00208_000209_C0020A_00020B_C0020C_00020D_C0020E_00020F,
  0x1_C00210_000211_C00212_000213_C00214_000215_C00216_000217_C00218_000219_C0021A_00021B,
  0x1_C0021C_00021D_C0021E_00021F_C00220_00019E_C00222_000223_C00224_000225_C00226_000227,
  0x1_C00228_000229_C0022A_00022B_C0022C_00022D_C0022E_00022F_C00230_000231_C00232_000233,
  0x1_C0023A_002C65_C0023B_00023C_C0023D_00019A_C0023E_002C66_C00241_000242_C00243_000180,
  0x1_C00244_000289_C00245_00028C_C00246_000247_C00248_000249_C0024A_00024B_C0024C_00024D,
  0x1_C0024E_00024F_C002B0_000068_C002B1_000266_C002B2_00006A_C002B3_000072_C002B4_000279,
  0x1_C002B5_00027B_C002B6_000281_C002B7_000077_C002B8_000079_C002D8_000020_000306,
  0x1_C002D9_000020_000307_C002DA_000020_00030A_C002DB_000020_000328_C002DC_000020_000303,
  0x1_C002DD_000020_00030B_C002E0_000263_C002E1_00006C_C002E2_000073_C002E3_000078_C002E4_000295,
  0x1_800340_000341_000300_C00343_000313_C00344_000308_000301_C00345_0003B9_C00370_000371,
  0x1_C00372_000373_C00374_0002B9_C00376_000377_C0037A_000020_0003B9_C0037E_00003B_C0037F_0003F3,
  0x1_C00384_000020_000301_C00385_000020_000308_000301_C00386_0003AC_C00387_0000B7,
  0x1_800388_00038A_0003AD_C0038C_0003CC_80038E_00038F_0003CD_800391_0003A1_0003B1,
  0x1_8003A3_0003AB_0003C3_C003CF_0003D7_C003D0_0003B2_C003D1_0003B8_C003D2_0003C5_C003D3_0003CD,
  0x1_C003D4_0003CB_C003D5_0003C6_C003D6_0003C0_C003D8_0003D9_C003DA_0003DB_C003DC_0003DD,
  0x1_C003DE_0003DF_C003E0_0003E1_C003E2_0003E3_C003E4_0003E5_C003E6_0003E7_C003E8_0003E9,
  0x1_C003EA_0003EB_C003EC_0003ED_C003EE_0003EF_C003F0_0003BA_C003F1_0003C1_C003F2_0003C3,
  0x1_C003F4_0003B8_C003F5_0003B5_C003F7_0003F8_C003F9_0003C3_C003FA_0003FB_8003FD_0003FF_00037B,
  0x1_800400_00040F_000450_800410_00042F_000430_C00460_000461_C00462_000463_C00464_000465,
  0x1_C00466_000467_C00468_000469_C0046A_00046B_C0046C_00046D_C0046E_00046F_C00470_000471,
  0x1_C00472_000473_C00474_000475_C00476_000477_C00478_000479_C0047A_00047B_C0047C_00047D,
  0x1_C0047E_00047F_C00480_000481_C0048A_00048B_C0048C_00048D_C0048E_00048F_C00490_000491,
  0x1_C00492_000493_C00494_000495_C00496_000497_C00498_000499_C0049A_00049B_C0049C_00049D,
  0x1_C0049E_00049F_C004A0_0004A1_C004A2_0004A3_C004A4_0004A5_C004A6_0004A7_C004A8_0004A9,
  0x1_C004AA_0004AB_C004AC_0004AD_C004AE_0004AF_C004B0_0004B1_C004B2_0004B3_C004B4_0004B5,
  0x1_C004B6_0004B7_C004B8_0004B9_C004BA_0004BB_C004BC_0004BD_C004BE_0004BF_C004C0_0004CF,
  0x1_C004C1_0004C2_C004C3_0004C4_C004C5_0004C6_C004C7_0004C8_C004C9_0004CA_C004CB_0004CC,
  0x1_C004CD_0004CE_C004D0_0004D1_C004D2_0004D3_C004D4_0004D5_C004D6_0004D7_C004D8_0004D9,
  0x1_C004DA_0004DB_C004DC_0004DD_C004DE_0004DF_C004E0_0004E1_C004E2_0004E3_C004E4_0004E5,
  0x1_C004E6_0004E7_C004E8_0004E9_C004EA_0004EB_C004EC_0004ED_C004EE_0004EF_C004F0_0004F1,
  0x1_C004F2_0004F3_C004F4_0004F5_C004F6_0004F7_C004F8_0004F9_C004FA_0004FB_C004FC_0004FD,
  0x1_C004FE_0004FF_C00500_000501_C00502_000503_C00504_000505_C00506_000507_C00508_000509,
  0x1_C0050A_00050B_C0050C_00050D_C0050E_00050F_C00510_000511_C00512_000513_C00514_000515,
  0x1_C00516_000517_C00518_000519_C0051A_00051B_C0051C_00051D_C0051E_00051F_C00520_000521,
  0x1_C00522_000523_C00524_000525_C00526_000527_C00528_000529_C0052A_00052B_C0052C_00052D,
  0x1_C0052E_00052F_800531_000556_000561_C00587_000565_000582_C00675_000627_000674,
  0x1_C00676_000648_000674_C00677_0006C7_000674_C00678_00064A_000674_C00958_000915_00093C,
  0x1_C00959_000916_00093C_C0095A_000917_00093C_C0095B_00091C_00093C_C0095C_000921_00093C,
  0x1_C0095D_000922_00093C_C0095E_00092B_00093C_C0095F_00092F_00093C_C009DC_0009A1_0009BC,
  0x1_C009DD_0009A2_0009BC_C009DF_0009AF_0009BC_C00A33_000A32_000A3C_C00A36_000A38_000A3C,
  0x1_C00A59_000A16_000A3C_C00A5A_000A17_000A3C_C00A5B_000A1C_000A3C_C00A5E_000A2B_000A3C,
  0x1_C00B5C_000B21_000B3C_C00B5D_000B22_000B3C_C00E33_000E4D_000E32_C00EB3_000ECD_000EB2,
  0x1_C00EDC_000EAB_000E99_C00EDD_000EAB_000EA1_C00F0C_000F0B_C00F43_000F42_000FB7,
  0x1_C00F4D_000F4C_000FB7_C00F52_000F51_000FB7_C00F57_000F56_000FB7_C00F5C_000F5B_000FB7,
  0x1_C00F69_000F40_000FB5_C00F73_000F71_000F72_C00F75_000F71_000F74_C00F76_000FB2_000F80,
  0x1_C00F77_000FB2_000F71_000F80_C00F78_000FB3_000F80_C00F79_000FB3_000F71_000F80,
  0x1_C00F81_000F71_000F80_C00F93_000F92_000FB7_C00F9D_000F9C_000FB7_C00FA2_000FA1_000FB7,
  0x1_C00FA7_000FA6_000FB7_C00FAC_000FAB_000FB7_C00FB9_000F90_000FB5_8010A0_0010C5_002D00,
  0x1_C010C7_002D27_C010CD_002D2D_C010FC_0010DC_8013F8_0013FD_0013F0_C01C80_000432_C01C81_000434,
  0x1_C01C82_00043E_801C83_001C84_000441_C01C85_000442_C01C86_00044A_C01C87_000463_C01C88_00A64B,
  0x1_C01C89_001C8A_801C90_001CBA_0010D0_801CBD_001CBF_0010FD_C01D2C_000061_C01D2D_0000E6,
  0x1_C01D2E_000062_801D30_001D31_000064_C01D32_0001DD_801D33_001D3A_000067_C01D3C_00006F,
  0x1_C01D3D_000223_C01D3E_000070_C01D3F_000072_801D40_001D41_000074_C01D42_000077_C01D43_000061,
  0x1_801D44_001D45_000250_C01D46_001D02_C01D47_000062_801D48_001D49_000064_C01D4A_000259,
  0x1_801D4B_001D4C_00025B_C01D4D_000067_C01D4F_00006B_C01D50_00006D_C01D51_00014B_C01D52_00006F,
  0x1_C01D53_000254_801D54_001D55_001D16_C01D56_000070_801D57_001D58_000074_C01D59_001D1D,
  0x1_C01D5A_00026F_C01D5B_000076_C01D5C_001D25_801D5D_001D5F_0003B2_801D60_001D61_0003C6,
  0x1_C01D62_000069_C01D63_000072_801D64_001D65_000075_801D66_001D67_0003B2_C01D68_0003C1,
  0x1_801D69_001D6A_0003C6_C01D78_00043D_C01D9B_000252_C01D9C_000063_C01D9D_000255_C01D9E_0000F0,
  0x1_C01D9F_00025C_C01DA0_000066_C01DA1_00025F_C01DA2_000261_C01DA3_000265_801DA4_001DA6_000268,
  0x1_C01DA7_001D7B_C01DA8_00029D_C01DA9_00026D_C01DAA_001D85_C01DAB_00029F_C01DAC_000271,
  0x1_C01DAD_000270_801DAE_001DB1_000272_C01DB2_000278_801DB3_001DB4_000282_C01DB5_0001AB,
  0x1_801DB6_001DB7_000289_C01DB8_001D1C_801DB9_001DBA_00028B_C01DBB_00007A_801DBC_001DBE_000290,
  0x1_C01DBF_0003B8_C01E00_001E01_C01E02_001E03_C01E04_001E05_C01E06_001E07_C01E08_001E09,
  0x1_C01E0A_001E0B_C01E0C_001E0D_C01E0E_001E0F_C01E10_001E11_C01E12_001E13_C01E14_001E15,
  0x1_C01E16_001E17_C01E18_001E19_C01E1A_001E1B_C01E1C_001E1D_C01E1E_001E1F_C01E20_001E21,
  0x1_C01E22_001E23_C01E24_001E25_C01E26_001E27_C01E28_001E29_C01E2A_001E2B_C01E2C_001E2D,
  0x1_C01E2E_001E2F_C01E30_001E31_C01E32_001E33_C01E34_001E35_C01E36_001E37_C01E38_001E39,
  0x1_C01E3A_001E3B_C01E3C_001E3D_C01E3E_001E3F_C01E40_001E41_C01E42_001E43_C01E44_001E45,
  0x1_C01E46_001E47_C01E48_001E49_C01E4A_001E4B_C01E4C_001E4D_C01E4E_001E4F_C01E50_001E51,
  0x1_C01E52_001E53_C01E54_001E55_C01E56_001E57_C01E58_001E59_C01E5A_001E5B_C01E5C_001E5D,
  0x1_C01E5E_001E5F_C01E60_001E61_C01E62_001E63_C01E64_001E65_C01E66_001E67_C01E68_001E69,
  0x1_C01E6A_001E6B_C01E6C_001E6D_C01E6E_001E6F_C01E70_001E71_C01E72_001E73_C01E74_001E75,
  0x1_C01E76_001E77_C01E78_001E79_C01E7A_001E7B_C01E7C_001E7D_C01E7E_001E7F_C01E80_001E81,
  0x1_C01E82_001E83_C01E84_001E85_C01E86_001E87_C01E88_001E89_C01E8A_001E8B_C01E8C_001E8D,
  0x1_C01E8E_001E8F_C01E90_001E91_C01E92_001E93_C01E94_001E95_C01E9A_000061_0002BE_C01E9B_001E61,
  0x1_C01E9E_0000DF_C01EA0_001EA1_C01EA2_001EA3_C01EA4_001EA5_C01EA6_001EA7_C01EA8_001EA9,
  0x1_C01EAA_001EAB_C01EAC_001EAD_C01EAE_001EAF_C01EB0_001EB1_C01EB2_001EB3_C01EB4_001EB5,
  0x1_C01EB6_001EB7_C01EB8_001EB9_C01EBA_001EBB_C01EBC_001EBD_C01EBE_001EBF_C01EC0_001EC1,
  0x1_C01EC2_001EC3_C01EC4_001EC5_C01EC6_001EC7_C01EC8_001EC9_C01ECA_001ECB_C01ECC_001ECD,
  0x1_C01ECE_001ECF_C01ED0_001ED1_C01ED2_001ED3_C01ED4_001ED5_C01ED6_001ED7_C01ED8_001ED9,
  0x1_C01EDA_001EDB_C01EDC_001EDD_C01EDE_001EDF_C01EE0_001EE1_C01EE2_001EE3_C01EE4_001EE5,
  0x1_C01EE6_001EE7_C01EE8_001EE9_C01EEA_001EEB_C01EEC_001EED_C01EEE_001EEF_C01EF0_001EF1,
  0x1_C01EF2_001EF3_C01EF4_001EF5_C01EF6_001EF7_C01EF8_001EF9_C01EFA_001EFB_C01EFC_001EFD,
  0x1_C01EFE_001EFF_801F08_001F0F_001F00_801F18_001F1D_001F10_801F28_001F2F_001F20,
  0x1_801F38_001F3F_001F30_801F48_001F4D_001F40_C01F59_001F51_C01F5B_001F53_C01F5D_001F55,
  0x1_C01F5F_001F57_801F68_001F6F_001F60_C01F71_0003AC_C01F73_0003AD_C01F75_0003AE_C01F77_0003AF,
  0x1_C01F79_0003CC_C01F7B_0003CD_C01F7D_0003CE_C01F80_001F00_0003B9_C01F81_001F01_0003B9,
  0x1_C01F82_001F02_0003B9_C01F83_001F03_0003B9_C01F84_001F04_0003B9_C01F85_001F05_0003B9,
  0x1_C01F86_001F06_0003B9_C01F87_001F07_0003B9_C01F88_001F00_0003B9_C01F89_001F01_0003B9,
  0x1_C01F8A_001F02_0003B9_C01F8B_001F03_0003B9_C01F8C_001F04_0003B9_C01F8D_001F05_0003B9,
  0x1_C01F8E_001F06_0003B9_C01F8F_001F07_0003B9_C01F90_001F20_0003B9_C01F91_001F21_0003B9,
  0x1_C01F92_001F22_0003B9_C01F93_001F23_0003B9_C01F94_001F24_0003B9_C01F95_001F25_0003B9,
  0x1_C01F96_001F26_0003B9_C01F97_001F27_0003B9_C01F98_001F20_0003B9_C01F99_001F21_0003B9,
  0x1_C01F9A_001F22_0003B9_C01F9B_001F23_0003B9_C01F9C_001F24_0003B9_C01F9D_001F25_0003B9,
  0x1_C01F9E_001F26_0003B9_C01F9F_001F27_0003B9_C01FA0_001F60_0003B9_C01FA1_001F61_0003B9,
  0x1_C01FA2_001F62_0003B9_C01FA3_001F63_0003B9_C01FA4_001F64_0003B9_C01FA5_001F65_0003B9,
  0x1_C01FA6_001F66_0003B9_C01FA7_001F67_0003B9_C01FA8_001F60_0003B9_C01FA9_001F61_0003B9,
  0x1_C01FAA_001F62_0003B9_C01FAB_001F63_0003B9_C01FAC_001F64_0003B9_C01FAD_001F65_0003B9,
  0x1_C01FAE_001F66_0003B9_C01FAF_001F67_0003B9_C01FB2_001F70_0003B9_C01FB3_0003B1_0003B9,
  0x1_C01FB4_0003AC_0003B9_C01FB7_001FB6_0003B9_801FB8_001FB9_001FB0_C01FBA_001F70_C01FBB_0003AC,
  0x1_C01FBC_0003B1_0003B9_C01FBD_000020_000313_C01FBE_0003B9_C01FBF_000020_000313,
  0x1_C01FC0_000020_000342_C01FC1_000020_000308_000342_C01FC2_001F74_0003B9_C01FC3_0003B7_0003B9,
  0x1_C01FC4_0003AE_0003B9_C01FC7_001FC6_0003B9_C01FC8_001F72_C01FC9_0003AD_C01FCA_001F74,
  0x1_C01FCB_0003AE_C01FCC_0003B7_0003B9_C01FCD_000020_000313_000300_C01FCE_000020_000313_000301,
  0x1_C01FCF_000020_000313_000342_C01FD3_000390_801FD8_001FD9_001FD0_C01FDA_001F76_C01FDB_0003AF,
  0x1_C01FDD_000020_000314_000300_C01FDE_000020_000314_000301_C01FDF_000020_000314_000342,
  0x1_C01FE3_0003B0_801FE8_001FE9_001FE0_C01FEA_001F7A_C01FEB_0003CD_C01FEC_001FE5,
  0x1_C01FED_000020_000308_000300_C01FEE_000020_000308_000301_C01FEF_000060_C01FF2_001F7C_0003B9,
  0x1_C01FF3_0003C9_0003B9_C01FF4_0003CE_0003B9_C01FF7_001FF6_0003B9_C01FF8_001F78_C01FF9_0003CC,
  0x1_C01FFA_001F7C_C01FFB_0003CE_C01FFC_0003C9_0003B9_C01FFD_000020_000301_C01FFE_000020_000314,
  0x1_C02000_000020_C02001_000020_C02002_000020_C02003_000020_C02004_000020_C02005_000020,
  0x1_C02006_000020_C02007_000020_C02008_000020_C02009_000020_C0200A_000020_C02011_002010,
  0x1_C02017_000020_000333_C0202F_000020_C02033_002032_002032_C02034_002032_002032_002032,
  0x1_C02036_002035_002035_C02037_002035_002035_002035_C0203C_000021_000021_C0203E_000020_000305,
  0x1_C02047_00003F_00003F_C02048_00003F_000021_C02049_000021_00003F,
  0x1_C02057_002032_002032_002032_002032_C0205F_000020_C02070_000030_C02071_000069,
  0x1_802074_002079_000034_C0207A_00002B_C0207B_002212_C0207C_00003D_80207D_00207E_000028,
  0x1_C0207F_00006E_802080_002089_000030_C0208A_00002B_C0208B_002212_C0208C_00003D,
  0x1_80208D_00208E_000028_C02090_000061_C02091_000065_C02092_00006F_C02093_000078_C02094_000259,
  0x1_C02095_000068_802096_002099_00006B_C0209A_000070_80209B_00209C_000073_C020A8_000072_000073,
  0x1_C02100_000061_00002F_000063_C02101_000061_00002F_000073_C02102_000063_C02103_0000B0_000063,
  0x1_C02105_000063_00002F_00006F_C02106_000063_00002F_000075_C02107_00025B_C02109_0000B0_000066,
  0x1_80210A_00210B_000067_C0210C_000068_C0210D_000068_C0210E_000068_C0210F_000127_C02110_000069,
  0x1_C02111_000069_C02112_00006C_C02113_00006C_C02115_00006E_C02116_00006E_00006F,
  0x1_802119_00211B_000070_C0211C_000072_C0211D_000072_C02120_000073_00006D,
  0x1_C02121_000074_000065_00006C_C02122_000074_00006D_C02124_00007A_C02126_0003C9_C02128_00007A,
  0x1_C0212A_00006B_C0212B_0000E5_80212C_00212D_000062_C0212F_000065_802130_002131_000065,
  0x1_C02132_00214E_C02133_00006D_C02134_00006F_802135_002138_0005D0_C02139_000069,
  0x1_C0213B_000066_000061_000078_C0213C_0003C0_C0213D_0003B3_C0213E_0003B3_C0213F_0003C0,
  0x1_C02140_002211_C02145_000064_802146_002147_000064_802148_002149_000069,
  0x1_C02150_000031_002044_000037_C02151_000031_002044_000039_C02152_000031_002044_000031_000030,
  0x1_C02153_000031_002044_000033_C02154_000032_002044_000033_C02155_000031_002044_000035,
  0x1_C02156_000032_002044_000035_C02157_000033_002044_000035_C02158_000034_002044_000035,
  0x1_C02159_000031_002044_000036_C0215A_000035_002044_000036_C0215B_000031_002044_000038,
  0x1_C0215C_000033_002044_000038_C0215D_000035_002044_000038_C0215E_000037_002044_000038,
  0x1_C0215F_000031_002044_C02160_000069_C02161_000069_000069_C02162_000069_000069_000069,
  0x1_C02163_000069_000076_C02164_000076_C02165_000076_000069_C02166_000076_000069_000069,
  0x1_C02167_000076_000069_000069_000069_C02168_000069_000078_C02169_000078_C0216A_000078_000069,
  0x1_C0216B_000078_000069_000069_C0216C_00006C_80216D_00216E_000063_C0216F_00006D_C02170_000069,
  0x1_C02171_000069_000069_C02172_000069_000069_000069_C02173_000069_000076_C02174_000076,
  0x1_C02175_000076_000069_C02176_000076_000069_000069_C02177_000076_000069_000069_000069,
  0x1_C02178_000069_000078_C02179_000078_C0217A_000078_000069_C0217B_000078_000069_000069,
  0x1_C0217C_00006C_80217D_00217E_000063_C0217F_00006D_C02183_002184_C02189_000030_002044_000033,
  0x1_C0222C_00222B_00222B_C0222D_00222B_00222B_00222B_C0222F_00222E_00222E,
  0x1_C02230_00222E_00222E_00222E_802329_00232A_003008_802460_002468_000031_C02469_000031_000030,
  0x1_C0246A_000031_000031_C0246B_000031_000032_C0246C_000031_000033_C0246D_000031_000034,
  0x1_C0246E_000031_000035_C0246F_000031_000036_C02470_000031_000037_C02471_000031_000038,
  0x1_C02472_000031_000039_C02473_000032_000030_C02474_000028_000031_000029,
  0x1_C02475_000028_000032_000029_C02476_000028_000033_000029_C02477_000028_000034_000029,
  0x1_C02478_000028_000035_000029_C02479_000028_000036_000029_C0247A_000028_000037_000029,
  0x1_C0247B_000028_000038_000029_C0247C_000028_000039_000029_C0247D_000028_000031_000030_000029,
  0x1_C0247E_000028_000031_000031_000029_C0247F_000028_000031_000032_000029,
  0x1_C02480_000028_000031_000033_000029_C02481_000028_000031_000034_000029,
  0x1_C02482_000028_000031_000035_000029_C02483_000028_000031_000036_000029,
  0x1_C02484_000028_000031_000037_000029_C02485_000028_000031_000038_000029,
  0x1_C02486_000028_000031_000039_000029_C02487_000028_000032_000030_000029,
  0x1_C0249C_000028_000061_000029_C0249D_000028_000062_000029_C0249E_000028_000063_000029,
  0x1_C0249F_000028_000064_000029_C024A0_000028_000065_000029_C024A1_000028_000066_000029,
  0x1_C024A2_000028_000067_000029_C024A3_000028_000068_000029_C024A4_000028_000069_000029,
  0x1_C024A5_000028_00006A_000029_C024A6_000028_00006B_000029_C024A7_000028_00006C_000029,
  0x1_C024A8_000028_00006D_000029_C024A9_000028_00006E_000029_C024AA_000028_00006F_000029,
  0x1_C024AB_000028_000070_000029_C024AC_000028_000071_000029_C024AD_000028_000072_000029,
  0x1_C024AE_000028_000073_000029_C024AF_000028_000074_000029_C024B0_000028_000075_000029,
  0x1_C024B1_000028_000076_000029_C024B2_000028_000077_000029_C024B3_000028_000078_000029,
  0x1_C024B4_000028_000079_000029_C024B5_000028_00007A_000029_8024B6_0024CF_000061,
  0x1_8024D0_0024E9_000061_C024EA_000030_C02A0C_00222B_00222B_00222B_00222B,
  0x1_C02A74_00003A_00003A_00003D_C02A75_00003D_00003D_C02A76_00003D_00003D_00003D,
  0x1_C02ADC_002ADD_000338_802C00_002C2F_002C30_C02C60_002C61_C02C62_00026B_C02C63_001D7D,
  0x1_C02C64_00027D_C02C67_002C68_C02C69_002C6A_C02C6B_002C6C_C02C6D_000251_C02C6E_000271,
  0x1_C02C6F_000250_C02C70_000252_C02C72_002C73_C02C75_002C76_C02C7C_00006A_C02C7D_000076,
  0x1_802C7E_002C7F_00023F_C02C80_002C81_C02C82_002C83_C02C84_002C85_C02C86_002C87_C02C88_002C89,
  0x1_C02C8A_002C8B_C02C8C_002C8D_C02C8E_002C8F_C02C90_002C91_C02C92_002C93_C02C94_002C95,
  0x1_C02C96_002C97_C02C98_002C99_C02C9A_002C9B_C02C9C_002C9D_C02C9E_002C9F_C02CA0_002CA1,
  0x1_C02CA2_002CA3_C02CA4_002CA5_C02CA6_002CA7_C02CA8_002CA9_C02CAA_002CAB_C02CAC_002CAD,
  0x1_C02CAE_002CAF_C02CB0_002CB1_C02CB2_002CB3_C02CB4_002CB5_C02CB6_002CB7_C02CB8_002CB9,
  0x1_C02CBA_002CBB_C02CBC_002CBD_C02CBE_002CBF_C02CC0_002CC1_C02CC2_002CC3_C02CC4_002CC5,
  0x1_C02CC6_002CC7_C02CC8_002CC9_C02CCA_002CCB_C02CCC_002CCD_C02CCE_002CCF_C02CD0_002CD1,
  0x1_C02CD2_002CD3_C02CD4_002CD5_C02CD6_002CD7_C02CD8_002CD9_C02CDA_002CDB_C02CDC_002CDD,
  0x1_C02CDE_002CDF_C02CE0_002CE1_C02CE2_002CE3_C02CEB_002CEC_C02CED_002CEE_C02CF2_002CF3,
  0x1_C02D6F_002D61_C02E9F_006BCD_C02EF3_009F9F_C02F00_004E00_C02F01_004E28_C02F02_004E36,
  0x1_C02F03_004E3F_C02F04_004E59_C02F05_004E85_C02F06_004E8C_C02F07_004EA0_C02F08_004EBA,
  0x1_C02F09_00513F_C02F0A_005165_C02F0B_00516B_C02F0C_005182_C02F0D_005196_C02F0E_0051AB,
  0x1_C02F0F_0051E0_C02F10_0051F5_C02F11_005200_C02F12_00529B_C02F13_0052F9_C02F14_005315,
  0x1_C02F15_00531A_C02F16_005338_C02F17_005341_C02F18_00535C_C02F19_005369_C02F1A_005382,
  0x1_C02F1B_0053B6_C02F1C_0053C8_C02F1D_0053E3_C02F1E_0056D7_C02F1F_00571F_C02F20_0058EB,
  0x1_C02F21_005902_C02F22_00590A_C02F23_005915_C02F24_005927_C02F25_005973_C02F26_005B50,
  0x1_C02F27_005B80_C02F28_005BF8_C02F29_005C0F_C02F2A_005C22_C02F2B_005C38_C02F2C_005C6E,
  0x1_C02F2D_005C71_C02F2E_005DDB_C02F2F_005DE5_C02F30_005DF1_C02F31_005DFE_C02F32_005E72,
  0x1_C02F33_005E7A_C02F34_005E7F_C02F35_005EF4_C02F36_005EFE_C02F37_005F0B_C02F38_005F13,
  0x1_C02F39_005F50_C02F3A_005F61_C02F3B_005F73_C02F3C_005FC3_C02F3D_006208_C02F3E_006236,
  0x1_C02F3F_00624B_C02F40_00652F_C02F41_006534_C02F42_006587_C02F43_006597_C02F44_0065A4,
  0x1_C02F45_0065B9_C02F46_0065E0_C02F47_0065E5_C02F48_0066F0_C02F49_006708_C02F4A_006728,
  0x1_C02F4B_006B20_C02F4C_006B62_C02F4D_006B79_C02F4E_006BB3_C02F4F_006BCB_C02F50_006BD4,
  0x1_C02F51_006BDB_C02F52_006C0F_C02F53_006C14_C02F54_006C34_C02F55_00706B_C02F56_00722A,
  0x1_C02F57_007236_C02F58_00723B_C02F59_00723F_C02F5A_007247_C02F5B_007259_C02F5C_00725B,
  0x1_C02F5D_0072AC_C02F5E_007384_C02F5F_007389_C02F60_0074DC_C02F61_0074E6_C02F62_007518,
  0x1_C02F63_00751F_C02F64_007528_C02F65_007530_C02F66_00758B_C02F67_007592_C02F68_007676,
  0x1_C02F69_00767D_C02F6A_0076AE_C02F6B_0076BF_C02F6C_0076EE_C02F6D_0077DB_C02F6E_0077E2,
  0x1_C02F6F_0077F3_C02F70_00793A_C02F71_0079B8_C02F72_0079BE_C02F73_007A74_C02F74_007ACB,
  0x1_C02F75_007AF9_C02F76_007C73_C02F77_007CF8_C02F78_007F36_C02F79_007F51_C02F7A_007F8A,
  0x1_C02F7B_007FBD_C02F7C_008001_C02F7D_00800C_C02F7E_008012_C02F7F_008033_C02F80_00807F,
  0x1_C02F81_008089_C02F82_0081E3_C02F83_0081EA_C02F84_0081F3_C02F85_0081FC_C02F86_00820C,
  0x1_C02F87_00821B_C02F88_00821F_C02F89_00826E_C02F8A_008272_C02F8B_008278_C02F8C_00864D,
  0x1_C02F8D_00866B_C02F8E_008840_C02F8F_00884C_C02F90_008863_C02F91_00897E_C02F92_00898B,
  0x1_C02F93_0089D2_C02F94_008A00_C02F95_008C37_C02F96_008C46_C02F97_008C55_C02F98_008C78,
  0x1_C02F99_008C9D_C02F9A_008D64_C02F9B_008D70_C02F9C_008DB3_C02F9D_008EAB_C02F9E_008ECA,
  0x1_C02F9F_008F9B_C02FA0_008FB0_C02FA1_008FB5_C02FA2_009091_C02FA3_009149_C02FA4_0091C6,
  0x1_C02FA5_0091CC_C02FA6_0091D1_C02FA7_009577_C02FA8_009580_C02FA9_00961C_C02FAA_0096B6,
  0x1_C02FAB_0096B9_C02FAC_0096E8_C02FAD_009751_C02FAE_00975E_C02FAF_009762_C02FB0_009769,
  0x1_C02FB1_0097CB_C02FB2_0097ED_C02FB3_0097F3_C02FB4_009801_C02FB5_0098A8_C02FB6_0098DB,
  0x1_C02FB7_0098DF_C02FB8_009996_C02FB9_009999_C02FBA_0099AC_C02FBB_009AA8_C02FBC_009AD8,
  0x1_C02FBD_009ADF_C02FBE_009B25_C02FBF_009B2F_C02FC0_009B32_C02FC1_009B3C_C02FC2_009B5A,
  0x1_C02FC3_009CE5_C02FC4_009E75_C02FC5_009E7F_C02FC6_009EA5_C02FC7_009EBB_C02FC8_009EC3,
  0x1_C02FC9_009ECD_C02FCA_009ED1_C02FCB_009EF9_C02FCC_009EFD_C02FCD_009F0E_C02FCE_009F13,
  0x1_C02FCF_009F20_C02FD0_009F3B_C02FD1_009F4A_C02FD2_009F52_C02FD3_009F8D_C02FD4_009F9C,
  0x1_C02FD5_009FA0_C03000_000020_C03002_00002E_C03036_003012_C03038_005341_803039_00303A_005344,
  0x1_C0309B_000020_003099_C0309C_000020_00309A_C0309F_003088_00308A_C030FF_0030B3_0030C8,
  0x1_803131_003132_001100_C03133_0011AA_C03134_001102_803135_003136_0011AC_803137_003139_001103,
  0x1_80313A_00313F_0011B0_C03140_00111A_803141_003143_001106_C03144_001121_803145_00314E_001109,
  0x1_80314F_003163_001161_803165_003166_001114_803167_003168_0011C7_C03169_0011CC_C0316A_0011CE,
  0x1_C0316B_0011D3_C0316C_0011D7_C0316D_0011D9_C0316E_00111C_C0316F_0011DD_C03170_0011DF,
  0x1_803171_003172_00111D_C03173_001120_803174_003175_001122_C03176_001127_C03177_001129,
  0x1_803178_00317C_00112B_C0317D_001132_C0317E_001136_C0317F_001140_C03180_001147_C03181_00114C,
  0x1_803182_003183_0011F1_803184_003186_001157_803187_003188_001184_C03189_001188,
  0x1_80318A_00318B_001191_C0318C_001194_C0318D_00119E_C0318E_0011A1_C03192_004E00_C03193_004E8C,
  0x1_C03194_004E09_C03195_0056DB_C03196_004E0A_C03197_004E2D_C03198_004E0B_C03199_007532,
  0x1_C0319A_004E59_C0319B_004E19_C0319C_004E01_C0319D_005929_C0319E_005730_C0319F_004EBA,
  0x1_C03200_000028_001100_000029_C03201_000028_001102_000029_C03202_000028_001103_000029,
  0x1_C03203_000028_001105_000029_C03204_000028_001106_000029_C03205_000028_001107_000029,
  0x1_C03206_000028_001109_000029_C03207_000028_00110B_000029_C03208_000028_00110C_000029,
  0x1_C03209_000028_00110E_000029_C0320A_000028_00110F_000029_C0320B_000028_001110_000029,
  0x1_C0320C_000028_001111_000029_C0320D_000028_001112_000029_C0320E_000028_00AC00_000029,
  0x1_C0320F_000028_00B098_000029_C03210_000028_00B2E4_000029_C03211_000028_00B77C_000029,
  0x1_C03212_000028_00B9C8_000029_C03213_000028_00BC14_000029_C03214_000028_00C0AC_000029,
  0x1_C03215_000028_00C544_000029_C03216_000028_00C790_000029_C03217_000028_00CC28_000029,
  0x1_C03218_000028_00CE74_000029_C03219_000028_00D0C0_000029_C0321A_000028_00D30C_000029,
  0x1_C0321B_000028_00D558_000029_C0321C_000028_00C8FC_000029_C0321D_000028_00C624_00C804_000029,
  0x1_C0321E_000028_00C624_00D6C4_000029_C03220_000028_004E00_000029_C03221_000028_004E8C_000029,
  0x1_C03222_000028_004E09_000029_C03223_000028_0056DB_000029_C03224_000028_004E94_000029,
  0x1_C03225_000028_00516D_000029_C03226_000028_004E03_000029_C03227_000028_00516B_000029,
  0x1_C03228_000028_004E5D_000029_C03229_000028_005341_000029_C0322A_000028_006708_000029,
  0x1_C0322B_000028_00706B_000029_C0322C_000028_006C34_000029_C0322D_000028_006728_000029,
  0x1_C0322E_000028_0091D1_000029_C0322F_000028_00571F_000029_C03230_000028_0065E5_000029,
  0x1_C03231_000028_00682A_000029_C03232_000028_006709_000029_C03233_000028_00793E_000029,
  0x1_C03234_000028_00540D_000029_C03235_000028_007279_000029_C03236_000028_008CA1_000029,
  0x1_C03237_000028_00795D_000029_C03238_000028_0052B4_000029_C03239_000028_004EE3_000029,
  0x1_C0323A_000028_00547C_000029_C0323B_000028_005B66_000029_C0323C_000028_0076E3_000029,
  0x1_C0323D_000028_004F01_000029_C0323E_000028_008CC7_000029_C0323F_000028_005354_000029,
  0x1_C03240_000028_00796D_000029_C03241_000028_004F11_000029_C03242_000028_0081EA_000029,
  0x1_C03243_000028_0081F3_000029_C03244_00554F_C03245_005E7C_C03246_006587_C03247_007B8F,
  0x1_C03250_000070_000074_000065_C03251_000032_000031_C03252_000032_000032_C03253_000032_000033,
  0x1_C03254_000032_000034_C03255_000032_000035_C03256_000032_000036_C03257_000032_000037,
  0x1_C03258_000032_000038_C03259_000032_000039_C0325A_000033_000030_C0325B_000033_000031,
  0x1_C0325C_000033_000032_C0325D_000033_000033_C0325E_000033_000034_C0325F_000033_000035,
  0x1_C03260_001100_803261_003262_001102_803263_003265_001105_C03266_001109_803267_003268_00110B,
  0x1_803269_00326D_00110E_C0326E_00AC00_C0326F_00B098_C03270_00B2E4_C03271_00B77C_C03272_00B9C8,
  0x1_C03273_00BC14_C03274_00C0AC_C03275_00C544_C03276_00C790_C03277_00CC28_C03278_00CE74,
  0x1_C03279_00D0C0_C0327A_00D30C_C0327B_00D558_C0327C_00CC38_00ACE0_C0327D_00C8FC_00C758,
  0x1_C0327E_00C6B0_C03280_004E00_C03281_004E8C_C03282_004E09_C03283_0056DB_C03284_004E94,
  0x1_C03285_00516D_C03286_004E03_C03287_00516B_C03288_004E5D_C03289_005341_C0328A_006708,
  0x1_C0328B_00706B_C0328C_006C34_C0328D_006728_C0328E_0091D1_C0328F_00571F_C03290_0065E5,
  0x1_C03291_00682A_C03292_006709_C03293_00793E_C03294_00540D_C03295_007279_C03296_008CA1,
  0x1_C03297_00795D_C03298_0052B4_C03299_0079D8_C0329A_007537_C0329B_005973_C0329C_009069,
  0x1_C0329D_00512A_C0329E_005370_C0329F_006CE8_C032A0_009805_C032A1_004F11_C032A2_005199,
  0x1_C032A3_006B63_C032A4_004E0A_C032A5_004E2D_C032A6_004E0B_C032A7_005DE6_C032A8_0053F3,
  0x1_C032A9_00533B_C032AA_005B97_C032AB_005B66_C032AC_0076E3_C032AD_004F01_C032AE_008CC7,
  0x1_C032AF_005354_C032B0_00591C_C032B1_000033_000036_C032B2_000033_000037_C032B3_000033_000038,
  0x1_C032B4_000033_000039_C032B5_000034_000030_C032B6_000034_000031_C032B7_000034_000032,
  0x1_C032B8_000034_000033_C032B9_000034_000034_C032BA_000034_000035_C032BB_000034_000036,
  0x1_C032BC_000034_000037_C032BD_000034_000038_C032BE_000034_000039_C032BF_000035_000030,
  0x1_C032C0_000031_006708_C032C1_000032_006708_C032C2_000033_006708_C032C3_000034_006708,
  0x1_C032C4_000035_006708_C032C5_000036_006708_C032C6_000037_006708_C032C7_000038_006708,
  0x1_C032C8_000039_006708_C032C9_000031_000030_006708_C032CA_000031_000031_006708,
  0x1_C032CB_000031_000032_006708_C032CC_000068_000067_C032CD_000065_000072_000067,
  0x1_C032CE_000065_000076_C032CF_00006C_000074_000064_C032D0_0030A2_C032D1_0030A4_C032D2_0030A6,
  0x1_C032D3_0030A8_8032D4_0032D5_0030AA_C032D6_0030AD_C032D7_0030AF_C032D8_0030B1_C032D9_0030B3,
  0x1_C032DA_0030B5_C032DB_0030B7_C032DC_0030B9_C032DD_0030BB_C032DE_0030BD_C032DF_0030BF,
  0x1_C032E0_0030C1_C032E1_0030C4_C032E2_0030C6_C032E3_0030C8_8032E4_0032E9_0030CA_C032EA_0030D2,
  0x1_C032EB_0030D5_C032EC_0030D8_C032ED_0030DB_8032EE_0032F2_0030DE_C032F3_0030E4_C032F4_0030E6,
  0x1_8032F5_0032FA_0030E8_8032FB_0032FE_0030EF_C032FF_004EE4_00548C,
  0x1_C03300_0030A2_0030D1_0030FC_0030C8_C03301_0030A2_0030EB_0030D5_0030A1,
  0x1_C03302_0030A2_0030F3_0030DA_0030A2_C03303_0030A2_0030FC_0030EB,
  0x1_C03304_0030A4_0030CB_0030F3_0030B0_C03305_0030A4_0030F3_0030C1_C03306_0030A6_0030A9_0030F3,
  0x1_C03307_0030A8_0030B9_0030AF_0030FC_0030C9_C03308_0030A8_0030FC_0030AB_0030FC,
  0x1_C03309_0030AA_0030F3_0030B9_C0330A_0030AA_0030FC_0030E0_C0330B_0030AB_0030A4_0030EA,
  0x1_C0330C_0030AB_0030E9_0030C3_0030C8_C0330D_0030AB_0030ED_0030EA_0030FC,
  0x1_C0330E_0030AC_0030ED_0030F3_C0330F_0030AC_0030F3_0030DE_C03310_0030AE_0030AC,
  0x1_C03311_0030AE_0030CB_0030FC_C03312_0030AD_0030E5_0030EA_0030FC,
  0x1_C03313_0030AE_0030EB_0030C0_0030FC_C03314_0030AD_0030ED,
  0x1_C03315_0030AD_0030ED_0030B0_0030E9_0030E0_C03316_0030AD_0030ED_0030E1_0030FC_0030C8_0030EB,
  0x1_C03317_0030AD_0030ED_0030EF_0030C3_0030C8_C03318_0030B0_0030E9_0030E0,
  0x1_C03319_0030B0_0030E9_0030E0_0030C8_0030F3_C0331A_0030AF_0030EB_0030BC_0030A4_0030ED,
  0x1_C0331B_0030AF_0030ED_0030FC_0030CD_C0331C_0030B1_0030FC_0030B9_C0331D_0030B3_0030EB_0030CA,
  0x1_C0331E_0030B3_0030FC_0030DD_C0331F_0030B5_0030A4_0030AF_0030EB,
  0x1_C03320_0030B5_0030F3_0030C1_0030FC_0030E0_C03321_0030B7_0030EA_0030F3_0030B0,
  0x1_C03322_0030BB_0030F3_0030C1_C03323_0030BB_0030F3_0030C8_C03324_0030C0_0030FC_0030B9,
  0x1_C03325_0030C7_0030B7_C03326_0030C9_0030EB_C03327_0030C8_0030F3_C03328_0030CA_0030CE,
  0x1_C03329_0030CE_0030C3_0030C8_C0332A_0030CF_0030A4_0030C4,
  0x1_C0332B_0030D1_0030FC_0030BB_0030F3_0030C8_C0332C_0030D1_0030FC_0030C4,
  0x1_C0332D_0030D0_0030FC_0030EC_0030EB_C0332E_0030D4_0030A2_0030B9_0030C8_0030EB,
  0x1_C0332F_0030D4_0030AF_0030EB_C03330_0030D4_0030B3_C03331_0030D3_0030EB,
  0x1_C03332_0030D5_0030A1_0030E9_0030C3_0030C9_C03333_0030D5_0030A3_0030FC_0030C8,
  0x1_C03334_0030D6_0030C3_0030B7_0030A7_0030EB_C03335_0030D5_0030E9_0030F3,
  0x1_C03336_0030D8_0030AF_0030BF_0030FC_0030EB_C03337_0030DA_0030BD_C03338_0030DA_0030CB_0030D2,
  0x1_C03339_0030D8_0030EB_0030C4_C0333A_0030DA_0030F3_0030B9_C0333B_0030DA_0030FC_0030B8,
  0x1_C0333C_0030D9_0030FC_0030BF_C0333D_0030DD_0030A4_0030F3_0030C8_C0333E_0030DC_0030EB_0030C8,
  0x1_C0333F_0030DB_0030F3_C03340_0030DD_0030F3_0030C9_C03341_0030DB_0030FC_0030EB,
  0x1_C03342_0030DB_0030FC_0030F3_C03343_0030DE_0030A4_0030AF_0030ED_C03344_0030DE_0030A4_0030EB,
  0x1_C03345_0030DE_0030C3_0030CF_C03346_0030DE_0030EB_0030AF,
  0x1_C03347_0030DE_0030F3_0030B7_0030E7_0030F3_C03348_0030DF_0030AF_0030ED_0030F3,
  0x1_C03349_0030DF_0030EA_C0334A_0030DF_0030EA_0030D0_0030FC_0030EB_C0334B_0030E1_0030AC,
  0x1_C0334C_0030E1_0030AC_0030C8_0030F3_C0334D_0030E1_0030FC_0030C8_0030EB,
  0x1_C0334E_0030E4_0030FC_0030C9_C0334F_0030E4_0030FC_0030EB_C03350_0030E6_0030A2_0030F3,
  0x1_C03351_0030EA_0030C3_0030C8_0030EB_C03352_0030EA_0030E9_C03353_0030EB_0030D4_0030FC,
  0x1_C03354_0030EB_0030FC_0030D6_0030EB_C03355_0030EC_0030E0,
  0x1_C03356_0030EC_0030F3_0030C8_0030B2_0030F3_C03357_0030EF_0030C3_0030C8_C03358_000030_0070B9,
  0x1_C03359_000031_0070B9_C0335A_000032_0070B9_C0335B_000033_0070B9_C0335C_000034_0070B9,
  0x1_C0335D_000035_0070B9_C0335E_000036_0070B9_C0335F_000037_0070B9_C03360_000038_0070B9,
  0x1_C03361_000039_0070B9_C03362_000031_000030_0070B9_C03363_000031_000031_0070B9,
  0x1_C03364_000031_000032_0070B9_C03365_000031_000033_0070B9_C03366_000031_000034_0070B9,
  0x1_C03367_000031_000035_0070B9_C03368_000031_000036_0070B9_C03369_000031_000037_0070B9,
  0x1_C0336A_000031_000038_0070B9_C0336B_000031_000039_0070B9_C0336C_000032_000030_0070B9,
  0x1_C0336D_000032_000031_0070B9_C0336E_000032_000032_0070B9_C0336F_000032_000033_0070B9,
  0x1_C03370_000032_000034_0070B9_C03371_000068_000070_000061_C03372_000064_000061,
  0x1_C03373_000061_000075_C03374_000062_000061_000072_C03375_00006F_000076_C03376_000070_000063,
  0x1_C03377_000064_00006D_C03378_000064_00006D_000032_C03379_000064_00006D_000033,
  0x1_C0337A_000069_000075_C0337B_005E73_006210_C0337C_00662D_00548C_C0337D_005927_006B63,
  0x1_C0337E_00660E_006CBB_C0337F_00682A_005F0F_004F1A_00793E_C03380_000070_000061,
  0x1_C03381_00006E_000061_C03382_0003BC_000061_C03383_00006D_000061_C03384_00006B_000061,
  0x1_C03385_00006B_000062_C03386_00006D_000062_C03387_000067_000062_C03388_000063_000061_00006C,
  0x1_C03389_00006B_000063_000061_00006C_C0338A_000070_000066_C0338B_00006E_000066,
  0x1_C0338C_0003BC_000066_C0338D_0003BC_000067_C0338E_00006D_000067_C0338F_00006B_000067,
  0x1_C03390_000068_00007A_C03391_00006B_000068_00007A_C03392_00006D_000068_00007A,
  0x1_C03393_000067_000068_00007A_C03394_000074_000068_00007A_C03395_0003BC_00006C,
  0x1_C03396_00006D_00006C_C03397_000064_00006C_C03398_00006B_00006C_C03399_000066_00006D,
  0x1_C0339A_00006E_00006D_C0339B_0003BC_00006D_C0339C_00006D_00006D_C0339D_000063_00006D,
  0x1_C0339E_00006B_00006D_C0339F_00006D_00006D_000032_C033A0_000063_00006D_000032,
  0x1_C033A1_00006D_000032_C033A2_00006B_00006D_000032_C033A3_00006D_00006D_000033,
  0x1_C033A4_000063_00006D_000033_C033A5_00006D_000033_C033A6_00006B_00006D_000033,
  0x1_C033A7_00006D_002215_000073_C033A8_00006D_002215_000073_000032_C033A9_000070_000061,
  0x1_C033AA_00006B_000070_000061_C033AB_00006D_000070_000061_C033AC_000067_000070_000061,
  0x1_C033AD_000072_000061_000064_C033AE_000072_000061_000064_002215_000073,
  0x1_C033AF_000072_000061_000064_002215_000073_000032_C033B0_000070_000073_C033B1_00006E_000073,
  0x1_C033B2_0003BC_000073_C033B3_00006D_000073_C033B4_000070_000076_C033B5_00006E_000076,
  0x1_C033B6_0003BC_000076_C033B7_00006D_000076_C033B8_00006B_000076_C033B9_00006D_000076,
  0x1_C033BA_000070_000077_C033BB_00006E_000077_C033BC_0003BC_000077_C033BD_00006D_000077,
  0x1_C033BE_00006B_000077_C033BF_00006D_000077_C033C0_00006B_0003C9_C033C1_00006D_0003C9,
  0x1_C033C3_000062_000071_C033C4_000063_000063_C033C5_000063_000064,
  0x1_C033C6_000063_002215_00006B_000067_C033C8_000064_000062_C033C9_000067_000079,
  0x1_C033CA_000068_000061_C033CB_000068_000070_C033CC_000069_00006E_C033CD_00006B_00006B,
  0x1_C033CE_00006B_00006D_C033CF_00006B_000074_C033D0_00006C_00006D_C033D1_00006C_00006E,
  0x1_C033D2_00006C_00006F_000067_C033D3_00006C_000078_C033D4_00006D_000062,
  0x1_C033D5_00006D_000069_00006C_C033D6_00006D_00006F_00006C_C033D7_000070_000068,
  0x1_C033D9_000070_000070_00006D_C033DA_000070_000072_C033DB_000073_000072_C033DC_000073_000076,
  0x1_C033DD_000077_000062_C033DE_000076_002215_00006D_C033DF_000061_002215_00006D,
  0x1_C033E0_000031_0065E5_C033E1_000032_0065E5_C033E2_000033_0065E5_C033E3_000034_0065E5,
  0x1_C033E4_000035_0065E5_C033E5_000036_0065E5_C033E6_000037_0065E5_C033E7_000038_0065E5,
  0x1_C033E8_000039_0065E5_C033E9_000031_000030_0065E5_C033EA_000031_000031_0065E5,
  0x1_C033EB_000031_000032_0065E5_C033EC_000031_000033_0065E5_C033ED_000031_000034_0065E5,
  0x1_C033EE_000031_000035_0065E5_C033EF_000031_000036_0065E5_C033F0_000031_000037_0065E5,
  0x1_C033F1_000031_000038_0065E5_C033F2_000031_000039_0065E5_C033F3_000032_000030_0065E5,
  0x1_C033F4_000032_000031_0065E5_C033F5_000032_000032_0065E5_C033F6_000032_000033_0065E5,
  0x1_C033F7_000032_000034_0065E5_C033F8_000032_000035_0065E5_C033F9_000032_000036_0065E5,
  0x1_C033FA_000032_000037_0065E5_C033FB_000032_000038_0065E5_C033FC_000032_000039_0065E5,
  0x1_C033FD_000033_000030_0065E5_C033FE_000033_000031_0065E5_C033FF_000067_000061_00006C,
  0x1_C0A640_00A641_C0A642_00A643_C0A644_00A645_C0A646_00A647_C0A648_00A649_C0A64A_00A64B,
  0x1_C0A64C_00A64D_C0A64E_00A64F_C0A650_00A651_C0A652_00A653_C0A654_00A655_C0A656_00A657,
  0x1_C0A658_00A659_C0A65A_00A65B_C0A65C_00A65D_C0A65E_00A65F_C0A660_00A661_C0A662_00A663,
  0x1_C0A664_00A665_C0A666_00A667_C0A668_00A669_C0A66A_00A66B_C0A66C_00A66D_C0A680_00A681,
  0x1_C0A682_00A683_C0A684_00A685_C0A686_00A687_C0A688_00A689_C0A68A_00A68B_C0A68C_00A68D,
  0x1_C0A68E_00A68F_C0A690_00A691_C0A692_00A693_C0A694_00A695_C0A696_00A697_C0A698_00A699,
  0x1_C0A69A_00A69B_C0A69C_00044A_C0A69D_00044C_C0A722_00A723_C0A724_00A725_C0A726_00A727,
  0x1_C0A728_00A729_C0A72A_00A72B_C0A72C_00A72D_C0A72E_00A72F_C0A732_00A733_C0A734_00A735,
  0x1_C0A736_00A737_C0A738_00A739_C0A73A_00A73B_C0A73C_00A73D_C0A73E_00A73F_C0A740_00A741,
  0x1_C0A742_00A743_C0A744_00A745_C0A746_00A747_C0A748_00A749_C0A74A_00A74B_C0A74C_00A74D,
  0x1_C0A74E_00A74F_C0A750_00A751_C0A752_00A753_C0A754_00A755_C0A756_00A757_C0A758_00A759,
  0x1_C0A75A_00A75B_C0A75C_00A75D_C0A75E_00A75F_C0A760_00A761_C0A762_00A763_C0A764_00A765,
  0x1_C0A766_00A767_C0A768_00A769_C0A76A_00A76B_C0A76C_00A76D_C0A76E_00A76F_C0A770_00A76F,
  0x1_C0A779_00A77A_C0A77B_00A77C_C0A77D_001D79_C0A77E_00A77F_C0A780_00A781_C0A782_00A783,
  0x1_C0A784_00A785_C0A786_00A787_C0A78B_00A78C_C0A78D_000265_C0A790_00A791_C0A792_00A793,
  0x1_C0A796_00A797_C0A798_00A799_C0A79A_00A79B_C0A79C_00A79D_C0A79E_00A79F_C0A7A0_00A7A1,
  0x1_C0A7A2_00A7A3_C0A7A4_00A7A5_C0A7A6_00A7A7_C0A7A8_00A7A9_C0A7AA_000266_C0A7AB_00025C,
  0x1_C0A7AC_000261_C0A7AD_00026C_C0A7AE_00026A_C0A7B0_00029E_C0A7B1_000287_C0A7B2_00029D,
  0x1_C0A7B3_00AB53_C0A7B4_00A7B5_C0A7B6_00A7B7_C0A7B8_00A7B9_C0A7BA_00A7BB_C0A7BC_00A7BD,
  0x1_C0A7BE_00A7BF_C0A7C0_00A7C1_C0A7C2_00A7C3_C0A7C4_00A794_C0A7C5_000282_C0A7C6_001D8E,
  0x1_C0A7C7_00A7C8_C0A7C9_00A7CA_C0A7CB_000264_C0A7CC_00A7CD_C0A7CE_00A7CF_C0A7D0_00A7D1,
  0x1_C0A7D2_00A7D3_C0A7D4_00A7D5_C0A7D6_00A7D7_C0A7D8_00A7D9_C0A7DA_00A7DB_C0A7DC_00019B,
  0x1_C0A7F1_000073_C0A7F2_000063_C0A7F3_000066_C0A7F4_000071_C0A7F5_00A7F6_C0A7F8_000127,
  0x1_C0A7F9_000153_C0AB5C_00A727_C0AB5D_00AB37_C0AB5E_00026B_C0AB5F_00AB52_C0AB69_00028D,
  0x1_80AB70_00ABBF_0013A0_C0F900_008C48_C0F901_0066F4_C0F902_008ECA_C0F903_008CC8_C0F904_006ED1,
  0x1_C0F905_004E32_C0F906_0053E5_C0F907_009F9C_C0F908_009F9C_C0F909_005951_C0F90A_0091D1,
  0x1_C0F90B_005587_C0F90C_005948_C0F90D_0061F6_C0F90E_007669_C0F90F_007F85_C0F910_00863F,
  0x1_C0F911_0087BA_C0F912_0088F8_C0F913_00908F_C0F914_006A02_C0F915_006D1B_C0F916_0070D9,
  0x1_C0F917_0073DE_C0F918_00843D_C0F919_00916A_C0F91A_0099F1_C0F91B_004E82_C0F91C_005375,
  0x1_C0F91D_006B04_C0F91E_00721B_C0F91F_00862D_C0F920_009E1E_C0F921_005D50_C0F922_006FEB,
  0x1_C0F923_0085CD_C0F924_008964_C0F925_0062C9_C0F926_0081D8_C0F927_00881F_C0F928_005ECA,
  0x1_C0F929_006717_C0F92A_006D6A_C0F92B_0072FC_C0F92C_0090CE_C0F92D_004F86_C0F92E_0051B7,
  0x1_C0F92F_0052DE_C0F930_0064C4_C0F931_006AD3_C0F932_007210_C0F933_0076E7_C0F934_008001,
  0x1_C0F935_008606_C0F936_00865C_C0F937_008DEF_C0F938_009732_C0F939_009B6F_C0F93A_009DFA,
  0x1_C0F93B_00788C_C0F93C_00797F_C0F93D_007DA0_C0F93E_0083C9_C0F93F_009304_C0F940_009E7F,
  0x1_C0F941_008AD6_C0F942_0058DF_C0F943_005F04_C0F944_007C60_C0F945_00807E_C0F946_007262,
  0x1_C0F947_0078CA_C0F948_008CC2_C0F949_0096F7_C0F94A_0058D8_C0F94B_005C62_C0F94C_006A13,
  0x1_C0F94D_006DDA_C0F94E_006F0F_C0F94F_007D2F_C0F950_007E37_C0F951_00964B_C0F952_0052D2,
  0x1_C0F953_00808B_C0F954_0051DC_C0F955_0051CC_C0F956_007A1C_C0F957_007DBE_C0F958_0083F1,
  0x1_C0F959_009675_C0F95A_008B80_C0F95B_0062CF_C0F95C_006A02_C0F95D_008AFE_C0F95E_004E39,
  0x1_C0F95F_005BE7_C0F960_006012_C0F961_007387_C0F962_007570_C0F963_005317_C0F964_0078FB,
  0x1_C0F965_004FBF_C0F966_005FA9_C0F967_004E0D_C0F968_006CCC_C0F969_006578_C0F96A_007D22,
  0x1_C0F96B_0053C3_C0F96C_00585E_C0F96D_007701_C0F96E_008449_C0F96F_008AAA_C0F970_006BBA,
  0x1_C0F971_008FB0_C0F972_006C88_C0F973_0062FE_C0F974_0082E5_C0F975_0063A0_C0F976_007565,
  0x1_C0F977_004EAE_C0F978_005169_C0F979_0051C9_C0F97A_006881_C0F97B_007CE7_C0F97C_00826F,
  0x1_C0F97D_008AD2_C0F97E_0091CF_C0F97F_0052F5_C0F980_005442_C0F981_005973_C0F982_005EEC,
  0x1_C0F983_0065C5_C0F984_006FFE_C0F985_00792A_C0F986_0095AD_C0F987_009A6A_C0F988_009E97,
  0x1_C0F989_009ECE_C0F98A_00529B_C0F98B_0066C6_C0F98C_006B77_C0F98D_008F62_C0F98E_005E74,
  0x1_C0F98F_006190_C0F990_006200_C0F991_00649A_C0F992_006F23_C0F993_007149_C0F994_007489,
  0x1_C0F995_0079CA_C0F996_007DF4_C0F997_00806F_C0F998_008F26_C0F999_0084EE_C0F99A_009023,
  0x1_C0F99B_00934A_C0F99C_005217_C0F99D_0052A3_C0F99E_0054BD_C0F99F_0070C8_C0F9A0_0088C2,
  0x1_C0F9A1_008AAA_C0F9A2_005EC9_C0F9A3_005FF5_C0F9A4_00637B_C0F9A5_006BAE_C0F9A6_007C3E,
  0x1_C0F9A7_007375_C0F9A8_004EE4_C0F9A9_0056F9_C0F9AA_005BE7_C0F9AB_005DBA_C0F9AC_00601C,
  0x1_C0F9AD_0073B2_C0F9AE_007469_C0F9AF_007F9A_C0F9B0_008046_C0F9B1_009234_C0F9B2_0096F6,
  0x1_C0F9B3_009748_C0F9B4_009818_C0F9B5_004F8B_C0F9B6_0079AE_C0F9B7_0091B4_C0F9B8_0096B8,
  0x1_C0F9B9_0060E1_C0F9BA_004E86_C0F9BB_0050DA_C0F9BC_005BEE_C0F9BD_005C3F_C0F9BE_006599,
  0x1_C0F9BF_006A02_C0F9C0_0071CE_C0F9C1_007642_C0F9C2_0084FC_C0F9C3_00907C_C0F9C4_009F8D,
  0x1_C0F9C5_006688_C0F9C6_00962E_C0F9C7_005289_C0F9C8_00677B_C0F9C9_0067F3_C0F9CA_006D41,
  0x1_C0F9CB_006E9C_C0F9CC_007409_C0F9CD_007559_C0F9CE_00786B_C0F9CF_007D10_C0F9D0_00985E,
  0x1_C0F9D1_00516D_C0F9D2_00622E_C0F9D3_009678_C0F9D4_00502B_C0F9D5_005D19_C0F9D6_006DEA,
  0x1_C0F9D7_008F2A_C0F9D8_005F8B_C0F9D9_006144_C0F9DA_006817_C0F9DB_007387_C0F9DC_009686,
  0x1_C0F9DD_005229_C0F9DE_00540F_C0F9DF_005C65_C0F9E0_006613_C0F9E1_00674E_C0F9E2_0068A8,
  0x1_C0F9E3_006CE5_C0F9E4_007406_C0F9E5_0075E2_C0F9E6_007F79_C0F9E7_0088CF_C0F9E8_0088E1,
  0x1_C0F9E9_0091CC_C0F9EA_0096E2_C0F9EB_00533F_C0F9EC_006EBA_C0F9ED_00541D_C0F9EE_0071D0,
  0x1_C0F9EF_007498_C0F9F0_0085FA_C0F9F1_0096A3_C0F9F2_009C57_C0F9F3_009E9F_C0F9F4_006797,
  0x1_C0F9F5_006DCB_C0F9F6_0081E8_C0F9F7_007ACB_C0F9F8_007B20_C0F9F9_007C92_C0F9FA_0072C0,
  0x1_C0F9FB_007099_C0F9FC_008B58_C0F9FD_004EC0_C0F9FE_008336_C0F9FF_00523A_C0FA00_005207,
  0x1_C0FA01_005EA6_C0FA02_0062D3_C0FA03_007CD6_C0FA04_005B85_C0FA05_006D1E_C0FA06_0066B4,
  0x1_C0FA07_008F3B_C0FA08_00884C_C0FA09_00964D_C0FA0A_00898B_C0FA0B_005ED3_C0FA0C_005140,
  0x1_C0FA0D_0055C0_C0FA10_00585A_C0FA12_006674_C0FA15_0051DE_C0FA16_00732A_C0FA17_0076CA,
  0x1_C0FA18_00793C_C0FA19_00795E_C0FA1A_007965_C0FA1B_00798F_C0FA1C_009756_C0FA1D_007CBE,
  0x1_C0FA1E_007FBD_C0FA20_008612_C0FA22_008AF8_C0FA25_009038_C0FA26_0090FD_C0FA2A_0098EF,
  0x1_C0FA2B_0098FC_C0FA2C_009928_C0FA2D_009DB4_C0FA2E_0090DE_C0FA2F_0096B7_C0FA30_004FAE,
  0x1_C0FA31_0050E7_C0FA32_00514D_C0FA33_0052C9_C0FA34_0052E4_C0FA35_005351_C0FA36_00559D,
  0x1_C0FA37_005606_C0FA38_005668_C0FA39_005840_C0FA3A_0058A8_C0FA3B_005C64_C0FA3C_005C6E,
  0x1_C0FA3D_006094_C0FA3E_006168_C0FA3F_00618E_C0FA40_0061F2_C0FA41_00654F_C0FA42_0065E2,
  0x1_C0FA43_006691_C0FA44_006885_C0FA45_006D77_C0FA46_006E1A_C0FA47_006F22_C0FA48_00716E,
  0x1_C0FA49_00722B_C0FA4A_007422_C0FA4B_007891_C0FA4C_00793E_C0FA4D_007949_C0FA4E_007948,
  0x1_C0FA4F_007950_C0FA50_007956_C0FA51_00795D_80FA52_00FA53_00798D_C0FA54_007A40_C0FA55_007A81,
  0x1_C0FA56_007BC0_C0FA57_007DF4_C0FA58_007E09_C0FA59_007E41_C0FA5A_007F72_C0FA5B_008005,
  0x1_C0FA5C_0081ED_C0FA5D_008279_C0FA5E_008279_C0FA5F_008457_C0FA60_008910_C0FA61_008996,
  0x1_C0FA62_008B01_C0FA63_008B39_C0FA64_008CD3_C0FA65_008D08_C0FA66_008FB6_C0FA67_009038,
  0x1_C0FA68_0096E3_C0FA69_0097FF_C0FA6A_00983B_C0FA6B_006075_C0FA6C_0242EE_C0FA6D_008218,
  0x1_C0FA70_004E26_C0FA71_0051B5_C0FA72_005168_C0FA73_004F80_C0FA74_005145_C0FA75_005180,
  0x1_C0FA76_0052C7_C0FA77_0052FA_C0FA78_00559D_C0FA79_005555_C0FA7A_005599_C0FA7B_0055E2,
  0x1_C0FA7C_00585A_C0FA7D_0058B3_C0FA7E_005944_C0FA7F_005954_C0FA80_005A62_C0FA81_005B28,
  0x1_C0FA82_005ED2_C0FA83_005ED9_C0FA84_005F69_C0FA85_005FAD_C0FA86_0060D8_C0FA87_00614E,
  0x1_C0FA88_006108_C0FA89_00618E_C0FA8A_006160_C0FA8B_0061F2_C0FA8C_006234_C0FA8D_0063C4,
  0x1_C0FA8E_00641C_C0FA8F_006452_C0FA90_006556_C0FA91_006674_C0FA92_006717_C0FA93_00671B,
  0x1_C0FA94_006756_C0FA95_006B79_C0FA96_006BBA_C0FA97_006D41_C0FA98_006EDB_C0FA99_006ECB,
  0x1_C0FA9A_006F22_C0FA9B_00701E_C0FA9C_00716E_C0FA9D_0077A7_C0FA9E_007235_C0FA9F_0072AF,
  0x1_C0FAA0_00732A_C0FAA1_007471_C0FAA2_007506_C0FAA3_00753B_C0FAA4_00761D_C0FAA5_00761F,
  0x1_C0FAA6_0076CA_C0FAA7_0076DB_C0FAA8_0076F4_C0FAA9_00774A_C0FAAA_007740_C0FAAB_0078CC,
  0x1_C0FAAC_007AB1_C0FAAD_007BC0_C0FAAE_007C7B_C0FAAF_007D5B_C0FAB0_007DF4_C0FAB1_007F3E,
  0x1_C0FAB2_008005_C0FAB3_008352_C0FAB4_0083EF_C0FAB5_008779_C0FAB6_008941_C0FAB7_008986,
  0x1_C0FAB8_008996_C0FAB9_008ABF_C0FABA_008AF8_C0FABB_008ACB_C0FABC_008B01_C0FABD_008AFE,
  0x1_C0FABE_008AED_C0FABF_008B39_C0FAC0_008B8A_C0FAC1_008D08_C0FAC2_008F38_C0FAC3_009072,
  0x1_C0FAC4_009199_C0FAC5_009276_C0FAC6_00967C_C0FAC7_0096E3_C0FAC8_009756_C0FAC9_0097DB,
  0x1_C0FACA_0097FF_C0FACB_00980B_C0FACC_00983B_C0FACD_009B12_C0FACE_009F9C_C0FACF_02284A,
  0x1_C0FAD0_022844_C0FAD1_0233D5_C0FAD2_003B9D_C0FAD3_004018_C0FAD4_004039_C0FAD5_025249,
  0x1_C0FAD6_025CD0_C0FAD7_027ED3_C0FAD8_009F43_C0FAD9_009F8E_C0FB00_000066_000066,
  0x1_C0FB01_000066_000069_C0FB02_000066_00006C_C0FB03_000066_000066_000069,
  0x1_C0FB04_000066_000066_00006C_C0FB05_000073_000074_C0FB06_000073_000074_C0FB13_000574_000576,
  0x1_C0FB14_000574_000565_C0FB15_000574_00056B_C0FB16_00057E_000576_C0FB17_000574_00056D,
  0x1_C0FB1D_0005D9_0005B4_C0FB1F_0005F2_0005B7_C0FB20_0005E2_C0FB21_0005D0_80FB22_00FB23_0005D3,
  0x1_80FB24_00FB26_0005DB_C0FB27_0005E8_C0FB28_0005EA_C0FB29_00002B_C0FB2A_0005E9_0005C1,
  0x1_C0FB2B_0005E9_0005C2_C0FB2C_0005E9_0005BC_0005C1_C0FB2D_0005E9_0005BC_0005C2,
  0x1_C0FB2E_0005D0_0005B7_C0FB2F_0005D0_0005B8_C0FB30_0005D0_0005BC_C0FB31_0005D1_0005BC,
  0x1_C0FB32_0005D2_0005BC_C0FB33_0005D3_0005BC_C0FB34_0005D4_0005BC_C0FB35_0005D5_0005BC,
  0x1_C0FB36_0005D6_0005BC_C0FB38_0005D8_0005BC_C0FB39_0005D9_0005BC_C0FB3A_0005DA_0005BC,
  0x1_C0FB3B_0005DB_0005BC_C0FB3C_0005DC_0005BC_C0FB3E_0005DE_0005BC_C0FB40_0005E0_0005BC,
  0x1_C0FB41_0005E1_0005BC_C0FB43_0005E3_0005BC_C0FB44_0005E4_0005BC_C0FB46_0005E6_0005BC,
  0x1_C0FB47_0005E7_0005BC_C0FB48_0005E8_0005BC_C0FB49_0005E9_0005BC_C0FB4A_0005EA_0005BC,
  0x1_C0FB4B_0005D5_0005B9_C0FB4C_0005D1_0005BF_C0FB4D_0005DB_0005BF_C0FB4E_0005E4_0005BF,
  0x1_C0FB4F_0005D0_0005DC_C0FB50_000671_C0FB51_000671_C0FB52_00067B_C0FB53_00067B_C0FB54_00067B,
  0x1_C0FB55_00067B_C0FB56_00067E_C0FB57_00067E_C0FB58_00067E_C0FB59_00067E_C0FB5A_000680,
  0x1_C0FB5B_000680_C0FB5C_000680_C0FB5D_000680_C0FB5E_00067A_C0FB5F_00067A_C0FB60_00067A,
  0x1_C0FB61_00067A_C0FB62_00067F_C0FB63_00067F_C0FB64_00067F_C0FB65_00067F_C0FB66_000679,
  0x1_C0FB67_000679_C0FB68_000679_C0FB69_000679_C0FB6A_0006A4_C0FB6B_0006A4_C0FB6C_0006A4,
  0x1_C0FB6D_0006A4_C0FB6E_0006A6_C0FB6F_0006A6_C0FB70_0006A6_C0FB71_0006A6_C0FB72_000684,
  0x1_C0FB73_000684_C0FB74_000684_C0FB75_000684_C0FB76_000683_C0FB77_000683_C0FB78_000683,
  0x1_C0FB79_000683_C0FB7A_000686_C0FB7B_000686_C0FB7C_000686_80FB7D_00FB7E_000686_C0FB7F_000687,
  0x1_C0FB80_000687_C0FB81_000687_C0FB82_00068D_C0FB83_00068D_C0FB84_00068C_C0FB85_00068C,
  0x1_C0FB86_00068E_C0FB87_00068E_C0FB88_000688_C0FB89_000688_C0FB8A_000698_C0FB8B_000698,
  0x1_C0FB8C_000691_C0FB8D_000691_C0FB8E_0006A9_C0FB8F_0006A9_C0FB90_0006A9_C0FB91_0006A9,
  0x1_C0FB92_0006AF_C0FB93_0006AF_C0FB94_0006AF_C0FB95_0006AF_C0FB96_0006B3_C0FB97_0006B3,
  0x1_C0FB98_0006B3_C0FB99_0006B3_C0FB9A_0006B1_C0FB9B_0006B1_C0FB9C_0006B1_C0FB9D_0006B1,
  0x1_C0FB9E_0006BA_80FB9F_00FBA0_0006BA_C0FBA1_0006BB_C0FBA2_0006BB_C0FBA3_0006BB_C0FBA4_0006C0,
  0x1_80FBA5_00FBA6_0006C0_C0FBA7_0006C1_C0FBA8_0006C1_C0FBA9_0006C1_C0FBAA_0006BE_C0FBAB_0006BE,
  0x1_C0FBAC_0006BE_C0FBAD_0006BE_C0FBAE_0006D2_80FBAF_00FBB0_0006D2_C0FBB1_0006D3_C0FBD3_0006AD,
  0x1_C0FBD4_0006AD_C0FBD5_0006AD_C0FBD6_0006AD_C0FBD7_0006C7_C0FBD8_0006C7_C0FBD9_0006C6,
  0x1_C0FBDA_0006C6_C0FBDB_0006C8_C0FBDC_0006C8_C0FBDD_0006C7_000674_C0FBDE_0006CB_C0FBDF_0006CB,
  0x1_C0FBE0_0006C5_C0FBE1_0006C5_C0FBE2_0006C9_C0FBE3_0006C9_C0FBE4_0006D0_C0FBE5_0006D0,
  0x1_C0FBE6_0006D0_C0FBE7_0006D0_C0FBE8_000649_C0FBE9_000649_C0FBEA_000626_000627,
  0x1_C0FBEB_000626_000627_C0FBEC_000626_0006D5_C0FBED_000626_0006D5_C0FBEE_000626_000648,
  0x1_C0FBEF_000626_000648_C0FBF0_000626_0006C7_C0FBF1_000626_0006C7_C0FBF2_000626_0006C6,
  0x1_C0FBF3_000626_0006C6_C0FBF4_000626_0006C8_C0FBF5_000626_0006C8_C0FBF6_000626_0006D0,
  0x1_C0FBF7_000626_0006D0_C0FBF8_000626_0006D0_C0FBF9_000626_000649_C0FBFA_000626_000649,
  0x1_C0FBFB_000626_000649_C0FBFC_0006CC_C0FBFD_0006CC_C0FBFE_0006CC_C0FBFF_0006CC,
  0x1_C0FC00_000626_00062C_C0FC01_000626_00062D_C0FC02_000626_000645_C0FC03_000626_000649,
  0x1_C0FC04_000626_00064A_C0FC05_000628_00062C_C0FC06_000628_00062D_C0FC07_000628_00062E,
  0x1_C0FC08_000628_000645_C0FC09_000628_000649_C0FC0A_000628_00064A_C0FC0B_00062A_00062C,
  0x1_C0FC0C_00062A_00062D_C0FC0D_00062A_00062E_C0FC0E_00062A_000645_C0FC0F_00062A_000649,
  0x1_C0FC10_00062A_00064A_C0FC11_00062B_00062C_C0FC12_00062B_000645_C0FC13_00062B_000649,
  0x1_C0FC14_00062B_00064A_C0FC15_00062C_00062D_C0FC16_00062C_000645_C0FC17_00062D_00062C,
  0x1_C0FC18_00062D_000645_C0FC19_00062E_00062C_C0FC1A_00062E_00062D_C0FC1B_00062E_000645,
  0x1_C0FC1C_000633_00062C_C0FC1D_000633_00062D_C0FC1E_000633_00062E_C0FC1F_000633_000645,
  0x1_C0FC20_000635_00062D_C0FC21_000635_000645_C0FC22_000636_00062C_C0FC23_000636_00062D,
  0x1_C0FC24_000636_00062E_C0FC25_000636_000645_C0FC26_000637_00062D_C0FC27_000637_000645,
  0x1_C0FC28_000638_000645_C0FC29_000639_00062C_C0FC2A_000639_000645_C0FC2B_00063A_00062C,
  0x1_C0FC2C_00063A_000645_C0FC2D_000641_00062C_C0FC2E_000641_00062D_C0FC2F_000641_00062E,
  0x1_C0FC30_000641_000645_C0FC31_000641_000649_C0FC32_000641_00064A_C0FC33_000642_00062D,
  0x1_C0FC34_000642_000645_C0FC35_000642_000649_C0FC36_000642_00064A_C0FC37_000643_000627,
  0x1_C0FC38_000643_00062C_C0FC39_000643_00062D_C0FC3A_000643_00062E_C0FC3B_000643_000644,
  0x1_C0FC3C_000643_000645_C0FC3D_000643_000649_C0FC3E_000643_00064A_C0FC3F_000644_00062C,
  0x1_C0FC40_000644_00062D_C0FC41_000644_00062E_C0FC42_000644_000645_C0FC43_000644_000649,
  0x1_C0FC44_000644_00064A_C0FC45_000645_00062C_C0FC46_000645_00062D_C0FC47_000645_00062E,
  0x1_C0FC48_000645_000645_C0FC49_000645_000649_C0FC4A_000645_00064A_C0FC4B_000646_00062C,
  0x1_C0FC4C_000646_00062D_C0FC4D_000646_00062E_C0FC4E_000646_000645_C0FC4F_000646_000649,
  0x1_C0FC50_000646_00064A_C0FC51_000647_00062C_C0FC52_000647_000645_C0FC53_000647_000649,
  0x1_C0FC54_000647_00064A_C0FC55_00064A_00062C_C0FC56_00064A_00062D_C0FC57_00064A_00062E,
  0x1_C0FC58_00064A_000645_C0FC59_00064A_000649_C0FC5A_00064A_00064A_C0FC5B_000630_000670,
  0x1_C0FC5C_000631_000670_C0FC5D_000649_000670_C0FC5E_000020_00064C_000651,
  0x1_C0FC5F_000020_00064D_000651_C0FC60_000020_00064E_000651_C0FC61_000020_00064F_000651,
  0x1_C0FC62_000020_000650_000651_C0FC63_000020_000651_000670_C0FC64_000626_000631,
  0x1_C0FC65_000626_000632_C0FC66_000626_000645_C0FC67_000626_000646_C0FC68_000626_000649,
  0x1_C0FC69_000626_00064A_C0FC6A_000628_000631_C0FC6B_000628_000632_C0FC6C_000628_000645,
  0x1_C0FC6D_000628_000646_C0FC6E_000628_000649_C0FC6F_000628_00064A_C0FC70_00062A_000631,
  0x1_C0FC71_00062A_000632_C0FC72_00062A_000645_C0FC73_00062A_000646_C0FC74_00062A_000649,
  0x1_C0FC75_00062A_00064A_C0FC76_00062B_000631_C0FC77_00062B_000632_C0FC78_00062B_000645,
  0x1_C0FC79_00062B_000646_C0FC7A_00062B_000649_C0FC7B_00062B_00064A_C0FC7C_000641_000649,
  0x1_C0FC7D_000641_00064A_C0FC7E_000642_000649_C0FC7F_000642_00064A_C0FC80_000643_000627,
  0x1_C0FC81_000643_000644_C0FC82_000643_000645_C0FC83_000643_000649_C0FC84_000643_00064A,
  0x1_C0FC85_000644_000645_C0FC86_000644_000649_C0FC87_000644_00064A_C0FC88_000645_000627,
  0x1_C0FC89_000645_000645_C0FC8A_000646_000631_C0FC8B_000646_000632_C0FC8C_000646_000645,
  0x1_C0FC8D_000646_000646_C0FC8E_000646_000649_C0FC8F_000646_00064A_C0FC90_000649_000670,
  0x1_C0FC91_00064A_000631_C0FC92_00064A_000632_C0FC93_00064A_000645_C0FC94_00064A_000646,
  0x1_C0FC95_00064A_000649_C0FC96_00064A_00064A_C0FC97_000626_00062C_C0FC98_000626_00062D,
  0x1_C0FC99_000626_00062E_C0FC9A_000626_000645_C0FC9B_000626_000647_C0FC9C_000628_00062C,
  0x1_C0FC9D_000628_00062D_C0FC9E_000628_00062E_C0FC9F_000628_000645_C0FCA0_000628_000647,
  0x1_C0FCA1_00062A_00062C_C0FCA2_00062A_00062D_C0FCA3_00062A_00062E_C0FCA4_00062A_000645,
  0x1_C0FCA5_00062A_000647_C0FCA6_00062B_000645_C0FCA7_00062C_00062D_C0FCA8_00062C_000645,
  0x1_C0FCA9_00062D_00062C_C0FCAA_00062D_000645_C0FCAB_00062E_00062C_C0FCAC_00062E_000645,
  0x1_C0FCAD_000633_00062C_C0FCAE_000633_00062D_C0FCAF_000633_00062E_C0FCB0_000633_000645,
  0x1_C0FCB1_000635_00062D_C0FCB2_000635_00062E_C0FCB3_000635_000645_C0FCB4_000636_00062C,
  0x1_C0FCB5_000636_00062D_C0FCB6_000636_00062E_C0FCB7_000636_000645_C0FCB8_000637_00062D,
  0x1_C0FCB9_000638_000645_C0FCBA_000639_00062C_C0FCBB_000639_000645_C0FCBC_00063A_00062C,
  0x1_C0FCBD_00063A_000645_C0FCBE_000641_00062C_C0FCBF_000641_00062D_C0FCC0_000641_00062E,
  0x1_C0FCC1_000641_000645_C0FCC2_000642_00062D_C0FCC3_000642_000645_C0FCC4_000643_00062C,
  0x1_C0FCC5_000643_00062D_C0FCC6_000643_00062E_C0FCC7_000643_000644_C0FCC8_000643_000645,
  0x1_C0FCC9_000644_00062C_C0FCCA_000644_00062D_C0FCCB_000644_00062E_C0FCCC_000644_000645,
  0x1_C0FCCD_000644_000647_C0FCCE_000645_00062C_C0FCCF_000645_00062D_C0FCD0_000645_00062E,
  0x1_C0FCD1_000645_000645_C0FCD2_000646_00062C_C0FCD3_000646_00062D_C0FCD4_000646_00062E,
  0x1_C0FCD5_000646_000645_C0FCD6_000646_000647_C0FCD7_000647_00062C_C0FCD8_000647_000645,
  0x1_C0FCD9_000647_000670_C0FCDA_00064A_00062C_C0FCDB_00064A_00062D_C0FCDC_00064A_00062E,
  0x1_C0FCDD_00064A_000645_C0FCDE_00064A_000647_C0FCDF_000626_000645_C0FCE0_000626_000647,
  0x1_C0FCE1_000628_000645_C0FCE2_000628_000647_C0FCE3_00062A_000645_C0FCE4_00062A_000647,
  0x1_C0FCE5_00062B_000645_C0FCE6_00062B_000647_C0FCE7_000633_000645_C0FCE8_000633_000647,
  0x1_C0FCE9_000634_000645_C0FCEA_000634_000647_C0FCEB_000643_000644_C0FCEC_000643_000645,
  0x1_C0FCED_000644_000645_C0FCEE_000646_000645_C0FCEF_000646_000647_C0FCF0_00064A_000645,
  0x1_C0FCF1_00064A_000647_C0FCF2_000640_00064E_000651_C0FCF3_000640_00064F_000651,
  0x1_C0FCF4_000640_000650_000651_C0FCF5_000637_000649_C0FCF6_000637_00064A_C0FCF7_000639_000649,
  0x1_C0FCF8_000639_00064A_C0FCF9_00063A_000649_C0FCFA_00063A_00064A_C0FCFB_000633_000649,
  0x1_C0FCFC_000633_00064A_C0FCFD_000634_000649_C0FCFE_000634_00064A_C0FCFF_00062D_000649,
  0x1_C0FD00_00062D_00064A_C0FD01_00062C_000649_C0FD02_00062C_00064A_C0FD03_00062E_000649,
  0x1_C0FD04_00062E_00064A_C0FD05_000635_000649_C0FD06_000635_00064A_C0FD07_000636_000649,
  0x1_C0FD08_000636_00064A_C0FD09_000634_00062C_C0FD0A_000634_00062D_C0FD0B_000634_00062E,
  0x1_C0FD0C_000634_000645_C0FD0D_000634_000631_C0FD0E_000633_000631_C0FD0F_000635_000631,
  0x1_C0FD10_000636_000631_C0FD11_000637_000649_C0FD12_000637_00064A_C0FD13_000639_000649,
  0x1_C0FD14_000639_00064A_C0FD15_00063A_000649_C0FD16_00063A_00064A_C0FD17_000633_000649,
  0x1_C0FD18_000633_00064A_C0FD19_000634_000649_C0FD1A_000634_00064A_C0FD1B_00062D_000649,
  0x1_C0FD1C_00062D_00064A_C0FD1D_00062C_000649_C0FD1E_00062C_00064A_C0FD1F_00062E_000649,
  0x1_C0FD20_00062E_00064A_C0FD21_000635_000649_C0FD22_000635_00064A_C0FD23_000636_000649,
  0x1_C0FD24_000636_00064A_C0FD25_000634_00062C_C0FD26_000634_00062D_C0FD27_000634_00062E,
  0x1_C0FD28_000634_000645_C0FD29_000634_000631_C0FD2A_000633_000631_C0FD2B_000635_000631,
  0x1_C0FD2C_000636_000631_C0FD2D_000634_00062C_C0FD2E_000634_00062D_C0FD2F_000634_00062E,
  0x1_C0FD30_000634_000645_C0FD31_000633_000647_C0FD32_000634_000647_C0FD33_000637_000645,
  0x1_C0FD34_000633_00062C_C0FD35_000633_00062D_C0FD36_000633_00062E_C0FD37_000634_00062C,
  0x1_C0FD38_000634_00062D_C0FD39_000634_00062E_C0FD3A_000637_000645_C0FD3B_000638_000645,
  0x1_C0FD3C_000627_00064B_C0FD3D_000627_00064B_C0FD50_00062A_00062C_000645,
  0x1_C0FD51_00062A_00062D_00062C_C0FD52_00062A_00062D_00062C_C0FD53_00062A_00062D_000645,
  0x1_C0FD54_00062A_00062E_000645_C0FD55_00062A_000645_00062C_C0FD56_00062A_000645_00062D,
  0x1_C0FD57_00062A_000645_00062E_C0FD58_00062C_000645_00062D_C0FD59_00062C_000645_00062D,
  0x1_C0FD5A_00062D_000645_00064A_C0FD5B_00062D_000645_000649_C0FD5C_000633_00062D_00062C,
  0x1_C0FD5D_000633_00062C_00062D_C0FD5E_000633_00062C_000649_C0FD5F_000633_000645_00062D,
  0x1_C0FD60_000633_000645_00062D_C0FD61_000633_000645_00062C_C0FD62_000633_000645_000645,
  0x1_C0FD63_000633_000645_000645_C0FD64_000635_00062D_00062D_C0FD65_000635_00062D_00062D,
  0x1_C0FD66_000635_000645_000645_C0FD67_000634_00062D_000645_C0FD68_000634_00062D_000645,
  0x1_C0FD69_000634_00062C_00064A_C0FD6A_000634_000645_00062E_C0FD6B_000634_000645_00062E,
  0x1_C0FD6C_000634_000645_000645_C0FD6D_000634_000645_000645_C0FD6E_000636_00062D_000649,
  0x1_C0FD6F_000636_00062E_000645_C0FD70_000636_00062E_000645_C0FD71_000637_000645_00062D,
  0x1_C0FD72_000637_000645_00062D_C0FD73_000637_000645_000645_C0FD74_000637_000645_00064A,
  0x1_C0FD75_000639_00062C_000645_C0FD76_000639_000645_000645_C0FD77_000639_000645_000645,
  0x1_C0FD78_000639_000645_000649_C0FD79_00063A_000645_000645_C0FD7A_00063A_000645_00064A,
  0x1_C0FD7B_00063A_000645_000649_C0FD7C_000641_00062E_000645_C0FD7D_000641_00062E_000645,
  0x1_C0FD7E_000642_000645_00062D_C0FD7F_000642_000645_000645_C0FD80_000644_00062D_000645,
  0x1_C0FD81_000644_00062D_00064A_C0FD82_000644_00062D_000649_C0FD83_000644_00062C_00062C,
  0x1_C0FD84_000644_00062C_00062C_C0FD85_000644_00062E_000645_C0FD86_000644_00062E_000645,
  0x1_C0FD87_000644_000645_00062D_C0FD88_000644_000645_00062D_C0FD89_000645_00062D_00062C,
  0x1_C0FD8A_000645_00062D_000645_C0FD8B_000645_00062D_00064A_C0FD8C_000645_00062C_00062D,
  0x1_C0FD8D_000645_00062C_000645_C0FD8E_000645_00062E_00062C_C0FD8F_000645_00062E_000645,
  0x1_C0FD92_000645_00062C_00062E_C0FD93_000647_000645_00062C_C0FD94_000647_000645_000645,
  0x1_C0FD95_000646_00062D_000645_C0FD96_000646_00062D_000649_C0FD97_000646_00062C_000645,
  0x1_C0FD98_000646_00062C_000645_C0FD99_000646_00062C_000649_C0FD9A_000646_000645_00064A,
  0x1_C0FD9B_000646_000645_000649_C0FD9C_00064A_000645_000645_C0FD9D_00064A_000645_000645,
  0x1_C0FD9E_000628_00062E_00064A_C0FD9F_00062A_00062C_00064A_C0FDA0_00062A_00062C_000649,
  0x1_C0FDA1_00062A_00062E_00064A_C0FDA2_00062A_00062E_000649_C0FDA3_00062A_000645_00064A,
  0x1_C0FDA4_00062A_000645_000649_C0FDA5_00062C_000645_00064A_C0FDA6_00062C_00062D_000649,
  0x1_C0FDA7_00062C_000645_000649_C0FDA8_000633_00062E_000649_C0FDA9_000635_00062D_00064A,
  0x1_C0FDAA_000634_00062D_00064A_C0FDAB_000636_00062D_00064A_C0FDAC_000644_00062C_00064A,
  0x1_C0FDAD_000644_000645_00064A_C0FDAE_00064A_00062D_00064A_C0FDAF_00064A_00062C_00064A,
  0x1_C0FDB0_00064A_000645_00064A_C0FDB1_000645_000645_00064A_C0FDB2_000642_000645_00064A,
  0x1_C0FDB3_000646_00062D_00064A_C0FDB4_000642_000645_00062D_C0FDB5_000644_00062D_000645,
  0x1_C0FDB6_000639_000645_00064A_C0FDB7_000643_000645_00064A_C0FDB8_000646_00062C_00062D,
  0x1_C0FDB9_000645_00062E_00064A_C0FDBA_000644_00062C_000645_C0FDBB_000643_000645_000645,
  0x1_C0FDBC_000644_00062C_000645_C0FDBD_000646_00062C_00062D_C0FDBE_00062C_00062D_00064A,
  0x1_C0FDBF_00062D_00062C_00064A_C0FDC0_000645_00062C_00064A_C0FDC1_000641_000645_00064A,
  0x1_C0FDC2_000628_00062D_00064A_C0FDC3_000643_000645_000645_C0FDC4_000639_00062C_000645,
  0x1_C0FDC5_000635_000645_000645_C0FDC6_000633_00062E_00064A_C0FDC7_000646_00062C_00064A,
  0x1_C0FDF0_000635_000644_0006D2_C0FDF1_000642_000644_0006D2_C0FDF2_000627_000644_000644_000647,
  0x1_C0FDF3_000627_000643_000628_000631_C0FDF4_000645_00062D_000645_00062F,
  0x1_C0FDF5_000635_000644_000639_000645_C0FDF6_000631_000633_000648_000644,
  0x1_C0FDF7_000639_000644_00064A_000647_C0FDF8_000648_000633_000644_000645,
  0x1_C0FDF9_000635_000644_000649,
  0x1_C0FDFA_000635_000644_000649_000020_000627_000644_000644_000647_000020_000639_000644_00064A_000647_000020_000648_000633_000644_000645,
  0x1_C0FDFB_00062C_000644_000020_00062C_000644_000627_000644_000647,
  0x1_C0FDFC_000631_0006CC_000627_000644_C0FE10_00002C_C0FE11_003001_80FE13_00FE14_00003A,
  0x1_C0FE15_000021_C0FE16_00003F_80FE17_00FE18_003016_C0FE31_002014_C0FE32_002013_C0FE33_00005F,
  0x1_C0FE34_00005F_80FE35_00FE36_000028_C0FE37_00007B_C0FE38_00007D_80FE39_00FE3A_003014,
  0x1_80FE3B_00FE3C_003010_80FE3D_00FE3E_00300A_80FE3F_00FE40_003008_80FE41_00FE44_00300C,
  0x1_C0FE47_00005B_C0FE48_00005D_C0FE49_000020_000305_C0FE4A_000020_000305_C0FE4B_000020_000305,
  0x1_C0FE4C_000020_000305_C0FE4D_00005F_C0FE4E_00005F_C0FE4F_00005F_C0FE50_00002C_C0FE51_003001,
  0x1_C0FE54_00003B_C0FE55_00003A_C0FE56_00003F_C0FE57_000021_C0FE58_002014_80FE59_00FE5A_000028,
  0x1_C0FE5B_00007B_C0FE5C_00007D_80FE5D_00FE5E_003014_C0FE5F_000023_C0FE60_000026,
  0x1_80FE61_00FE62_00002A_C0FE63_00002D_C0FE64_00003C_C0FE65_00003E_C0FE66_00003D_C0FE68_00005C,
  0x1_80FE69_00FE6A_000024_C0FE6B_000040_C0FE70_000020_00064B_C0FE71_000640_00064B,
  0x1_C0FE72_000020_00064C_C0FE74_000020_00064D_C0FE76_000020_00064E_C0FE77_000640_00064E,
  0x1_C0FE78_000020_00064F_C0FE79_000640_00064F_C0FE7A_000020_000650_C0FE7B_000640_000650,
  0x1_C0FE7C_000020_000651_C0FE7D_000640_000651_C0FE7E_000020_000652_C0FE7F_000640_000652,
  0x1_80FE80_00FE81_000621_80FE82_00FE83_000622_80FE84_00FE85_000623_80FE86_00FE87_000624,
  0x1_80FE88_00FE89_000625_C0FE8A_000626_C0FE8B_000626_80FE8C_00FE8D_000626_80FE8E_00FE8F_000627,
  0x1_C0FE90_000628_C0FE91_000628_80FE92_00FE93_000628_80FE94_00FE95_000629_C0FE96_00062A,
  0x1_C0FE97_00062A_80FE98_00FE99_00062A_C0FE9A_00062B_C0FE9B_00062B_80FE9C_00FE9D_00062B,
  0x1_C0FE9E_00062C_C0FE9F_00062C_80FEA0_00FEA1_00062C_C0FEA2_00062D_C0FEA3_00062D,
  0x1_80FEA4_00FEA5_00062D_C0FEA6_00062E_C0FEA7_00062E_80FEA8_00FEA9_00062E_80FEAA_00FEAB_00062F,
  0x1_80FEAC_00FEAD_000630_80FEAE_00FEAF_000631_80FEB0_00FEB1_000632_C0FEB2_000633_C0FEB3_000633,
  0x1_80FEB4_00FEB5_000633_C0FEB6_000634_C0FEB7_000634_80FEB8_00FEB9_000634_C0FEBA_000635,
  0x1_C0FEBB_000635_80FEBC_00FEBD_000635_C0FEBE_000636_C0FEBF_000636_80FEC0_00FEC1_000636,
  0x1_C0FEC2_000637_C0FEC3_000637_80FEC4_00FEC5_000637_C0FEC6_000638_C0FEC7_000638,
  0x1_80FEC8_00FEC9_000638_C0FECA_000639_C0FECB_000639_80FECC_00FECD_000639_C0FECE_00063A,
  0x1_C0FECF_00063A_C0FED0_00063A_C0FED1_000641_C0FED2_000641_C0FED3_000641_80FED4_00FED5_000641,
  0x1_C0FED6_000642_C0FED7_000642_80FED8_00FED9_000642_C0FEDA_000643_C0FEDB_000643,
  0x1_80FEDC_00FEDD_000643_C0FEDE_000644_C0FEDF_000644_80FEE0_00FEE1_000644_C0FEE2_000645,
  0x1_C0FEE3_000645_80FEE4_00FEE5_000645_C0FEE6_000646_C0FEE7_000646_80FEE8_00FEE9_000646,
  0x1_C0FEEA_000647_C0FEEB_000647_80FEEC_00FEED_000647_80FEEE_00FEEF_000648_80FEF0_00FEF1_000649,
  0x1_C0FEF2_00064A_C0FEF3_00064A_C0FEF4_00064A_C0FEF5_000644_000622_C0FEF6_000644_000622,
  0x1_C0FEF7_000644_000623_C0FEF8_000644_000623_C0FEF9_000644_000625_C0FEFA_000644_000625,
  0x1_C0FEFB_000644_000627_C0FEFC_000644_000627_80FF01_00FF20_000021_80FF21_00FF3A_000061,
  0x1_80FF3B_00FF5E_00005B_80FF5F_00FF60_002985_C0FF61_00002E_80FF62_00FF63_00300C_C0FF64_003001,
  0x1_C0FF65_0030FB_C0FF66_0030F2_C0FF67_0030A1_C0FF68_0030A3_C0FF69_0030A5_C0FF6A_0030A7,
  0x1_C0FF6B_0030A9_C0FF6C_0030E3_C0FF6D_0030E5_C0FF6E_0030E7_C0FF6F_0030C3_C0FF70_0030FC,
  0x1_C0FF71_0030A2_C0FF72_0030A4_C0FF73_0030A6_C0FF74_0030A8_80FF75_00FF76_0030AA_C0FF77_0030AD,
  0x1_C0FF78_0030AF_C0FF79_0030B1_C0FF7A_0030B3_C0FF7B_0030B5_C0FF7C_0030B7_C0FF7D_0030B9,
  0x1_C0FF7E_0030BB_C0FF7F_0030BD_C0FF80_0030BF_C0FF81_0030C1_C0FF82_0030C4_C0FF83_0030C6,
  0x1_C0FF84_0030C8_80FF85_00FF8A_0030CA_C0FF8B_0030D2_C0FF8C_0030D5_C0FF8D_0030D8_C0FF8E_0030DB,
  0x1_80FF8F_00FF93_0030DE_C0FF94_0030E4_C0FF95_0030E6_80FF96_00FF9B_0030E8_C0FF9C_0030EF,
  0x1_C0FF9D_0030F3_80FF9E_00FF9F_003099_80FFA1_00FFA2_001100_C0FFA3_0011AA_C0FFA4_001102,
  0x1_80FFA5_00FFA6_0011AC_80FFA7_00FFA9_001103_80FFAA_00FFAF_0011B0_C0FFB0_00111A,
  0x1_80FFB1_00FFB3_001106_C0FFB4_001121_80FFB5_00FFBE_001109_80FFC2_00FFC7_001161,
  0x1_80FFCA_00FFCF_001167_80FFD2_00FFD7_00116D_80FFDA_00FFDC_001173_80FFE0_00FFE1_0000A2,
  0x1_C0FFE2_0000AC_C0FFE3_000020_000304_C0FFE4_0000A6_C0FFE5_0000A5_C0FFE6_0020A9_C0FFE8_002502,
  0x1_80FFE9_00FFEC_002190_C0FFED_0025A0_C0FFEE_0025CB_810400_010427_010428_8104B0_0104D3_0104D8,
  0x1_810570_01057A_010597_81057C_01058A_0105A3_81058C_010592_0105B3_810594_010595_0105BB,
  0x1_810781_010782_0002D0_C10783_0000E6_C10784_000299_C10785_000253_C10787_0002A3_C10788_00AB66,
  0x1_C10789_0002A5_C1078A_0002A4_81078B_01078C_000256_C1078D_001D91_C1078E_000258_C1078F_00025E,
  0x1_C10790_0002A9_C10791_000264_C10792_000262_C10793_000260_C10794_00029B_C10795_000127,
  0x1_C10796_00029C_C10797_000267_C10798_000284_810799_01079A_0002AA_C1079B_00026C_C1079C_01DF04,
  0x1_C1079D_00A78E_C1079E_00026E_C1079F_01DF05_C107A0_00028E_C107A1_01DF06_C107A2_0000F8,
  0x1_8107A3_0107A4_000276_C107A5_000071_C107A6_00027A_C107A7_01DF08_8107A8_0107A9_00027D,
  0x1_C107AA_000280_C107AB_0002A8_C107AC_0002A6_C107AD_00AB67_C107AE_0002A7_C107AF_000288,
  0x1_C107B0_002C71_C107B2_00028F_8107B3_0107B4_0002A1_C107B5_000298_8107B6_0107B8_0001C0,
  0x1_C107B9_01DF0A_C107BA_01DF1E_810C80_010CB2_010CC0_810D50_010D65_010D70_8118A0_0118BF_0118C0,
  0x1_816E40_016E5F_016E60_816EA0_016EB8_016EBB_81CCD6_01CCEF_000061_81CCF0_01CCF9_000030,
  0x1_C1D15E_01D157_01D165_C1D15F_01D158_01D165_C1D160_01D158_01D165_01D16E,
  0x1_C1D161_01D158_01D165_01D16F_C1D162_01D158_01D165_01D170_C1D163_01D158_01D165_01D171,
  0x1_C1D164_01D158_01D165_01D172_C1D1BB_01D1B9_01D165_C1D1BC_01D1BA_01D165,
  0x1_C1D1BD_01D1B9_01D165_01D16E_C1D1BE_01D1BA_01D165_01D16E_C1D1BF_01D1B9_01D165_01D16F,
  0x1_C1D1C0_01D1BA_01D165_01D16F_81D400_01D419_000061_81D41A_01D433_000061_81D434_01D44D_000061,
  0x1_81D44E_01D454_000061_81D456_01D467_000069_81D468_01D481_000061_81D482_01D49B_000061,
  0x1_C1D49C_000061_81D49E_01D49F_000063_C1D4A2_000067_81D4A5_01D4A6_00006A_81D4A9_01D4AC_00006E,
  0x1_81D4AE_01D4B5_000073_81D4B6_01D4B9_000061_C1D4BB_000066_81D4BD_01D4C3_000068,
  0x1_81D4C5_01D4CF_000070_81D4D0_01D4E9_000061_81D4EA_01D503_000061_81D504_01D505_000061,
  0x1_81D507_01D50A_000064_81D50D_01D514_00006A_81D516_01D51C_000073_81D51E_01D537_000061,
  0x1_81D538_01D539_000061_81D53B_01D53E_000064_81D540_01D544_000069_C1D546_00006F,
  0x1_81D54A_01D550_000073_81D552_01D56B_000061_81D56C_01D585_000061_81D586_01D59F_000061,
  0x1_81D5A0_01D5B9_000061_81D5BA_01D5D3_000061_81D5D4_01D5ED_000061_81D5EE_01D607_000061,
  0x1_81D608_01D621_000061_81D622_01D63B_000061_81D63C_01D655_000061_81D656_01D66F_000061,
  0x1_81D670_01D689_000061_81D68A_01D6A3_000061_C1D6A4_000131_C1D6A5_000237_81D6A8_01D6B8_0003B1,
  0x1_C1D6B9_0003B8_81D6BA_01D6C0_0003C3_C1D6C1_002207_81D6C2_01D6D2_0003B1_C1D6D3_0003C3,
  0x1_81D6D4_01D6DA_0003C3_C1D6DB_002202_C1D6DC_0003B5_C1D6DD_0003B8_C1D6DE_0003BA_C1D6DF_0003C6,
  0x1_C1D6E0_0003C1_C1D6E1_0003C0_81D6E2_01D6F2_0003B1_C1D6F3_0003B8_81D6F4_01D6FA_0003C3,
  0x1_C1D6FB_002207_81D6FC_01D70C_0003B1_C1D70D_0003C3_81D70E_01D714_0003C3_C1D715_002202,
  0x1_C1D716_0003B5_C1D717_0003B8_C1D718_0003BA_C1D719_0003C6_C1D71A_0003C1_C1D71B_0003C0,
  0x1_81D71C_01D72C_0003B1_C1D72D_0003B8_81D72E_01D734_0003C3_C1D735_002207_81D736_01D746_0003B1,
  0x1_C1D747_0003C3_81D748_01D74E_0003C3_C1D74F_002202_C1D750_0003B5_C1D751_0003B8_C1D752_0003BA,
  0x1_C1D753_0003C6_C1D754_0003C1_C1D755_0003C0_81D756_01D766_0003B1_C1D767_0003B8,
  0x1_81D768_01D76E_0003C3_C1D76F_002207_81D770_01D780_0003B1_C1D781_0003C3_81D782_01D788_0003C3,
  0x1_C1D789_002202_C1D78A_0003B5_C1D78B_0003B8_C1D78C_0003BA_C1D78D_0003C6_C1D78E_0003C1,
  0x1_C1D78F_0003C0_81D790_01D7A0_0003B1_C1D7A1_0003B8_81D7A2_01D7A8_0003C3_C1D7A9_002207,
  0x1_81D7AA_01D7BA_0003B1_C1D7BB_0003C3_81D7BC_01D7C2_0003C3_C1D7C3_002202_C1D7C4_0003B5,
  0x1_C1D7C5_0003B8_C1D7C6_0003BA_C1D7C7_0003C6_C1D7C8_0003C1_C1D7C9_0003C0_C1D7CA_0003DD,
  0x1_C1D7CB_0003DD_81D7CE_01D7D7_000030_81D7D8_01D7E1_000030_81D7E2_01D7EB_000030,
  0x1_81D7EC_01D7F5_000030_81D7F6_01D7FF_000030_81E030_01E038_000430_81E039_01E03B_00043A,
  0x1_81E03C_01E046_00043E_C1E047_00044B_81E048_01E049_00044D_C1E04A_00A689_C1E04B_0004D9,
  0x1_C1E04C_000456_C1E04D_000458_C1E04E_0004E9_C1E04F_0004AF_C1E050_0004CF_81E051_01E059_000430,
  0x1_81E05A_01E05B_00043A_81E05C_01E05D_00043E_C1E05E_000441_81E05F_01E064_000443,
  0x1_81E065_01E066_00044A_C1E067_000491_C1E068_000456_C1E069_000455_C1E06A_00045F_C1E06B_0004AB,
  0x1_C1E06C_00A651_C1E06D_0004B1_81E900_01E921_01E922_81EE00_01EE01_000627_C1EE02_00062C,
  0x1_C1EE03_00062F_C1EE05_000648_C1EE06_000632_C1EE07_00062D_C1EE08_000637_C1EE09_00064A,
  0x1_81EE0A_01EE0D_000643_C1EE0E_000633_C1EE0F_000639_C1EE10_000641_C1EE11_000635_C1EE12_000642,
  0x1_C1EE13_000631_C1EE14_000634_81EE15_01EE16_00062A_C1EE17_00062E_C1EE18_000630_C1EE19_000636,
  0x1_C1EE1A_000638_C1EE1B_00063A_C1EE1C_00066E_C1EE1D_0006BA_C1EE1E_0006A1_C1EE1F_00066F,
  0x1_C1EE21_000628_C1EE22_00062C_C1EE24_000647_C1EE27_00062D_C1EE29_00064A_81EE2A_01EE2D_000643,
  0x1_C1EE2E_000633_C1EE2F_000639_C1EE30_000641_C1EE31_000635_C1EE32_000642_C1EE34_000634,
  0x1_81EE35_01EE36_00062A_C1EE37_00062E_C1EE39_000636_C1EE3B_00063A_C1EE42_00062C_C1EE47_00062D,
  0x1_C1EE49_00064A_C1EE4B_000644_C1EE4D_000646_C1EE4E_000633_C1EE4F_000639_C1EE51_000635,
  0x1_C1EE52_000642_C1EE54_000634_C1EE57_00062E_C1EE59_000636_C1EE5B_00063A_C1EE5D_0006BA,
  0x1_C1EE5F_00066F_C1EE61_000628_C1EE62_00062C_C1EE64_000647_C1EE67_00062D_C1EE68_000637,
  0x1_C1EE69_00064A_C1EE6A_000643_81EE6C_01EE6D_000645_C1EE6E_000633_C1EE6F_000639_C1EE70_000641,
  0x1_C1EE71_000635_C1EE72_000642_C1EE74_000634_81EE75_01EE76_00062A_C1EE77_00062E_C1EE79_000636,
  0x1_C1EE7A_000638_C1EE7B_00063A_C1EE7C_00066E_C1EE7E_0006A1_81EE80_01EE81_000627_C1EE82_00062C,
  0x1_C1EE83_00062F_81EE84_01EE85_000647_C1EE86_000632_C1EE87_00062D_C1EE88_000637_C1EE89_00064A,
  0x1_81EE8B_01EE8D_000644_C1EE8E_000633_C1EE8F_000639_C1EE90_000641_C1EE91_000635_C1EE92_000642,
  0x1_C1EE93_000631_C1EE94_000634_81EE95_01EE96_00062A_C1EE97_00062E_C1EE98_000630_C1EE99_000636,
  0x1_C1EE9A_000638_C1EE9B_00063A_C1EEA1_000628_C1EEA2_00062C_C1EEA3_00062F_C1EEA5_000648,
  0x1_C1EEA6_000632_C1EEA7_00062D_C1EEA8_000637_C1EEA9_00064A_81EEAB_01EEAD_000644_C1EEAE_000633,
  0x1_C1EEAF_000639_C1EEB0_000641_C1EEB1_000635_C1EEB2_000642_C1EEB3_000631_C1EEB4_000634,
  0x1_81EEB5_01EEB6_00062A_C1EEB7_00062E_C1EEB8_000630_C1EEB9_000636_C1EEBA_000638_C1EEBB_00063A,
  0x1_C1F101_000030_00002C_C1F102_000031_00002C_C1F103_000032_00002C_C1F104_000033_00002C,
  0x1_C1F105_000034_00002C_C1F106_000035_00002C_C1F107_000036_00002C_C1F108_000037_00002C,
  0x1_C1F109_000038_00002C_C1F10A_000039_00002C_C1F110_000028_000061_000029,
  0x1_C1F111_000028_000062_000029_C1F112_000028_000063_000029_C1F113_000028_000064_000029,
  0x1_C1F114_000028_000065_000029_C1F115_000028_000066_000029_C1F116_000028_000067_000029,
  0x1_C1F117_000028_000068_000029_C1F118_000028_000069_000029_C1F119_000028_00006A_000029,
  0x1_C1F11A_000028_00006B_000029_C1F11B_000028_00006C_000029_C1F11C_000028_00006D_000029,
  0x1_C1F11D_000028_00006E_000029_C1F11E_000028_00006F_000029_C1F11F_000028_000070_000029,
  0x1_C1F120_000028_000071_000029_C1F121_000028_000072_000029_C1F122_000028_000073_000029,
  0x1_C1F123_000028_000074_000029_C1F124_000028_000075_000029_C1F125_000028_000076_000029,
  0x1_C1F126_000028_000077_000029_C1F127_000028_000078_000029_C1F128_000028_000079_000029,
  0x1_C1F129_000028_00007A_000029_C1F12A_003014_000073_003015_C1F12B_000063_C1F12C_000072,
  0x1_C1F12D_000063_000064_C1F12E_000077_00007A_81F130_01F149_000061_C1F14A_000068_000076,
  0x1_C1F14B_00006D_000076_C1F14C_000073_000064_C1F14D_000073_000073_C1F14E_000070_000070_000076,
  0x1_C1F14F_000077_000063_C1F16A_00006D_000063_C1F16B_00006D_000064_C1F16C_00006D_000072,
  0x1_C1F190_000064_00006A_C1F200_00307B_00304B_C1F201_0030B3_0030B3_C1F202_0030B5_C1F210_00624B,
  0x1_C1F211_005B57_C1F212_0053CC_C1F213_0030C7_C1F214_004E8C_C1F215_00591A_C1F216_0089E3,
  0x1_C1F217_005929_C1F218_004EA4_C1F219_006620_C1F21A_007121_C1F21B_006599_C1F21C_00524D,
  0x1_C1F21D_005F8C_C1F21E_00518D_C1F21F_0065B0_C1F220_00521D_C1F221_007D42_C1F222_00751F,
  0x1_C1F223_008CA9_C1F224_0058F0_C1F225_005439_C1F226_006F14_C1F227_006295_C1F228_006355,
  0x1_C1F229_004E00_C1F22A_004E09_C1F22B_00904A_C1F22C_005DE6_C1F22D_004E2D_C1F22E_0053F3,
  0x1_C1F22F_006307_C1F230_008D70_C1F231_006253_C1F232_007981_C1F233_007A7A_C1F234_005408,
  0x1_C1F235_006E80_C1F236_006709_C1F237_006708_C1F238_007533_C1F239_005272_C1F23A_0055B6,
  0x1_C1F23B_00914D_C1F240_003014_00672C_003015_C1F241_003014_004E09_003015,
  0x1_C1F242_003014_004E8C_003015_C1F243_003014_005B89_003015_C1F244_003014_0070B9_003015,
  0x1_C1F245_003014_006253_003015_C1F246_003014_0076D7_003015_C1F247_003014_0052DD_003015,
  0x1_C1F248_003014_006557_003015_C1F250_005F97_C1F251_0053EF_81FBF0_01FBF9_000030_C2F800_004E3D,
  0x1_C2F801_004E38_C2F802_004E41_C2F803_020122_C2F804_004F60_C2F805_004FAE_C2F806_004FBB,
  0x1_C2F807_005002_C2F808_00507A_C2F809_005099_C2F80A_0050E7_C2F80B_0050CF_C2F80C_00349E,
  0x1_C2F80D_02063A_C2F80E_00514D_C2F80F_005154_C2F810_005164_C2F811_005177_C2F812_02051C,
  0x1_C2F813_0034B9_C2F814_005167_C2F815_00518D_C2F816_02054B_C2F817_005197_C2F818_0051A4,
  0x1_C2F819_004ECC_C2F81A_0051AC_C2F81B_0051B5_C2F81C_0291DF_C2F81D_0051F5_C2F81E_005203,
  0x1_C2F81F_0034DF_C2F820_00523B_C2F821_005246_C2F822_005272_C2F823_005277_C2F824_003515,
  0x1_C2F825_0052C7_C2F826_0052C9_C2F827_0052E4_C2F828_0052FA_82F829_02F82A_005305_C2F82B_005317,
  0x1_C2F82C_005349_C2F82D_005351_C2F82E_00535A_C2F82F_005373_C2F830_00537D_C2F831_00537F,
  0x1_C2F832_00537F_C2F833_00537F_C2F834_020A2C_C2F835_007070_C2F836_0053CA_C2F837_0053DF,
  0x1_C2F838_020B63_C2F839_0053EB_C2F83A_0053F1_C2F83B_005406_C2F83C_00549E_C2F83D_005438,
  0x1_C2F83E_005448_C2F83F_005468_C2F840_0054A2_C2F841_0054F6_C2F842_005510_C2F843_005553,
  0x1_C2F844_005563_C2F845_005584_C2F846_005584_C2F847_005599_C2F848_0055AB_C2F849_0055B3,
  0x1_C2F84A_0055C2_C2F84B_005716_C2F84C_005606_C2F84D_005717_C2F84E_005651_C2F84F_005674,
  0x1_C2F850_005207_C2F851_0058EE_C2F852_0057CE_C2F853_0057F4_C2F854_00580D_C2F855_00578B,
  0x1_C2F856_005832_C2F857_005831_C2F858_0058AC_C2F859_0214E4_C2F85A_0058F2_C2F85B_0058F7,
  0x1_C2F85C_005906_C2F85D_00591A_C2F85E_005922_C2F85F_005962_C2F860_0216A8_C2F861_0216EA,
  0x1_C2F862_0059EC_C2F863_005A1B_C2F864_005A27_C2F865_0059D8_C2F866_005A66_C2F867_0036EE,
  0x1_C2F868_0036FC_C2F869_005B08_C2F86A_005B3E_C2F86B_005B3E_C2F86C_0219C8_C2F86D_005BC3,
  0x1_C2F86E_005BD8_C2F86F_005BE7_C2F870_005BF3_C2F871_021B18_C2F872_005BFF_C2F873_005C06,
  0x1_C2F874_005F53_C2F875_005C22_C2F876_003781_C2F877_005C60_C2F878_005C6E_C2F879_005CC0,
  0x1_C2F87A_005C8D_C2F87B_021DE4_C2F87C_005D43_C2F87D_021DE6_C2F87E_005D6E_C2F87F_005D6B,
  0x1_C2F880_005D7C_82F881_02F882_005DE1_C2F883_00382F_C2F884_005DFD_C2F885_005E28_C2F886_005E3D,
  0x1_C2F887_005E69_C2F888_003862_C2F889_022183_C2F88A_00387C_C2F88B_005EB0_C2F88C_005EB3,
  0x1_C2F88D_005EB6_C2F88E_005ECA_C2F88F_02A392_C2F890_005EFE_C2F891_022331_C2F892_022331,
  0x1_C2F893_008201_C2F894_005F22_C2F895_005F22_C2F896_0038C7_C2F897_0232B8_C2F898_0261DA,
  0x1_C2F899_005F62_C2F89A_005F6B_C2F89B_0038E3_C2F89C_005F9A_C2F89D_005FCD_C2F89E_005FD7,
  0x1_C2F89F_005FF9_C2F8A0_006081_C2F8A1_00393A_C2F8A2_00391C_C2F8A3_006094_C2F8A4_0226D4,
  0x1_C2F8A5_0060C7_C2F8A6_006148_C2F8A7_00614C_C2F8A8_00614E_C2F8A9_00614C_C2F8AA_00617A,
  0x1_C2F8AB_00618E_C2F8AC_0061B2_C2F8AD_0061A4_C2F8AE_0061AF_C2F8AF_0061DE_C2F8B0_0061F2,
  0x1_C2F8B1_0061F6_C2F8B2_006210_C2F8B3_00621B_C2F8B4_00625D_C2F8B5_0062B1_C2F8B6_0062D4,
  0x1_C2F8B7_006350_C2F8B8_022B0C_C2F8B9_00633D_C2F8BA_0062FC_C2F8BB_006368_C2F8BC_006383,
  0x1_C2F8BD_0063E4_C2F8BE_022BF1_C2F8BF_006422_C2F8C0_0063C5_C2F8C1_0063A9_C2F8C2_003A2E,
  0x1_C2F8C3_006469_C2F8C4_00647E_C2F8C5_00649D_C2F8C6_006477_C2F8C7_003A6C_C2F8C8_00654F,
  0x1_C2F8C9_00656C_C2F8CA_02300A_C2F8CB_0065E3_C2F8CC_0066F8_C2F8CD_006649_C2F8CE_003B19,
  0x1_C2F8CF_006691_C2F8D0_003B08_C2F8D1_003AE4_C2F8D2_005192_C2F8D3_005195_C2F8D4_006700,
  0x1_C2F8D5_00669C_C2F8D6_0080AD_C2F8D7_0043D9_C2F8D8_006717_C2F8D9_00671B_C2F8DA_006721,
  0x1_C2F8DB_00675E_C2F8DC_006753_C2F8DD_0233C3_C2F8DE_003B49_C2F8DF_0067FA_C2F8E0_006785,
  0x1_C2F8E1_006852_C2F8E2_006885_C2F8E3_02346D_C2F8E4_00688E_C2F8E5_00681F_C2F8E6_006914,
  0x1_C2F8E7_003B9D_C2F8E8_006942_C2F8E9_0069A3_C2F8EA_0069EA_C2F8EB_006AA8_C2F8EC_0236A3,
  0x1_C2F8ED_006ADB_C2F8EE_003C18_C2F8EF_006B21_C2F8F0_0238A7_C2F8F1_006B54_C2F8F2_003C4E,
  0x1_C2F8F3_006B72_C2F8F4_006B9F_82F8F5_02F8F6_006BBA_C2F8F7_023A8D_C2F8F8_021D0B_C2F8F9_023AFA,
  0x1_C2F8FA_006C4E_C2F8FB_023CBC_C2F8FC_006CBF_C2F8FD_006CCD_C2F8FE_006C67_C2F8FF_006D16,
  0x1_C2F900_006D3E_C2F901_006D77_C2F902_006D41_C2F903_006D69_C2F904_006D78_C2F905_006D85,
  0x1_C2F906_023D1E_C2F907_006D34_C2F908_006E2F_C2F909_006E6E_C2F90A_003D33_C2F90B_006ECB,
  0x1_C2F90C_006EC7_C2F90D_023ED1_C2F90E_006DF9_C2F90F_006F6E_C2F910_023F5E_C2F911_023F8E,
  0x1_C2F912_006FC6_C2F913_007039_C2F914_00701E_C2F915_00701B_C2F916_003D96_C2F917_00704A,
  0x1_C2F918_00707D_C2F919_007077_C2F91A_0070AD_C2F91B_020525_C2F91C_007145_C2F91D_024263,
  0x1_C2F91E_00719C_C2F91F_0243AB_C2F920_007228_C2F921_007235_C2F922_007250_C2F923_024608,
  0x1_C2F924_007280_C2F925_007295_C2F926_024735_C2F927_024814_C2F928_00737A_C2F929_00738B,
  0x1_C2F92A_003EAC_C2F92B_0073A5_C2F92C_003EB8_C2F92D_003EB8_C2F92E_007447_C2F92F_00745C,
  0x1_C2F930_007471_C2F931_007485_C2F932_0074CA_C2F933_003F1B_C2F934_007524_C2F935_024C36,
  0x1_C2F936_00753E_C2F937_024C92_C2F938_007570_C2F939_02219F_C2F93A_007610_C2F93B_024FA1,
  0x1_C2F93C_024FB8_C2F93D_025044_C2F93E_003FFC_C2F93F_004008_C2F940_0076F4_C2F941_0250F3,
  0x1_C2F942_0250F2_C2F943_025119_C2F944_025133_82F945_02F946_00771E_C2F947_00771F_C2F948_00774A,
  0x1_C2F949_004039_C2F94A_00778B_C2F94B_004046_C2F94C_004096_C2F94D_02541D_C2F94E_00784E,
  0x1_C2F94F_00788C_C2F950_0078CC_C2F951_0040E3_C2F952_025626_C2F953_007956_C2F954_02569A,
  0x1_C2F955_0256C5_C2F956_00798F_C2F957_0079EB_C2F958_00412F_C2F959_007A40_C2F95A_007A4A,
  0x1_C2F95B_007A4F_C2F95C_02597C_C2F95D_025AA7_C2F95E_025AA7_C2F95F_007AEE_C2F960_004202,
  0x1_C2F961_025BAB_C2F962_007BC6_C2F963_007BC9_C2F964_004227_C2F965_025C80_C2F966_007CD2,
  0x1_C2F967_0042A0_C2F968_007CE8_C2F969_007CE3_C2F96A_007D00_C2F96B_025F86_C2F96C_007D63,
  0x1_C2F96D_004301_C2F96E_007DC7_C2F96F_007E02_C2F970_007E45_C2F971_004334_C2F972_026228,
  0x1_C2F973_026247_C2F974_004359_C2F975_0262D9_C2F976_007F7A_C2F977_02633E_C2F978_007F95,
  0x1_C2F979_007FFA_C2F97A_008005_C2F97B_0264DA_C2F97C_026523_C2F97D_008060_C2F97E_0265A8,
  0x1_C2F97F_008070_C2F980_02335F_C2F981_0043D5_C2F982_0080B2_C2F983_008103_C2F984_00440B,
  0x1_C2F985_00813E_C2F986_005AB5_C2F987_0267A7_C2F988_0267B5_C2F989_023393_C2F98A_02339C,
  0x1_C2F98B_008201_C2F98C_008204_C2F98D_008F9E_C2F98E_00446B_C2F98F_008291_C2F990_00828B,
  0x1_C2F991_00829D_C2F992_0052B3_C2F993_0082B1_C2F994_0082B3_C2F995_0082BD_C2F996_0082E6,
  0x1_C2F997_026B3C_C2F998_0082E5_C2F999_00831D_C2F99A_008363_C2F99B_0083AD_C2F99C_008323,
  0x1_C2F99D_0083BD_C2F99E_0083E7_C2F99F_008457_C2F9A0_008353_C2F9A1_0083CA_C2F9A2_0083CC,
  0x1_C2F9A3_0083DC_C2F9A4_026C36_C2F9A5_026D6B_C2F9A6_026CD5_C2F9A7_00452B_C2F9A8_0084F1,
  0x1_C2F9A9_0084F3_C2F9AA_008516_C2F9AB_0273CA_C2F9AC_008564_C2F9AD_026F2C_C2F9AE_00455D,
  0x1_C2F9AF_004561_C2F9B0_026FB1_C2F9B1_0270D2_C2F9B2_00456B_C2F9B3_008650_C2F9B4_00865C,
  0x1_C2F9B5_008667_C2F9B6_008669_C2F9B7_0086A9_C2F9B8_008688_C2F9B9_00870E_C2F9BA_0086E2,
  0x1_C2F9BB_008779_C2F9BC_008728_C2F9BD_00876B_C2F9BE_008786_C2F9BF_0045D7_C2F9C0_0087E1,
  0x1_C2F9C1_008801_C2F9C2_0045F9_C2F9C3_008860_C2F9C4_008863_C2F9C5_027667_C2F9C6_0088D7,
  0x1_C2F9C7_0088DE_C2F9C8_004635_C2F9C9_0088FA_C2F9CA_0034BB_C2F9CB_0278AE_C2F9CC_027966,
  0x1_C2F9CD_0046BE_C2F9CE_0046C7_C2F9CF_008AA0_C2F9D0_008AED_C2F9D1_008B8A_C2F9D2_008C55,
  0x1_C2F9D3_027CA8_C2F9D4_008CAB_C2F9D5_008CC1_C2F9D6_008D1B_C2F9D7_008D77_C2F9D8_027F2F,
  0x1_C2F9D9_020804_C2F9DA_008DCB_C2F9DB_008DBC_C2F9DC_008DF0_C2F9DD_0208DE_C2F9DE_008ED4,
  0x1_C2F9DF_008F38_C2F9E0_0285D2_C2F9E1_0285ED_C2F9E2_009094_C2F9E3_0090F1_C2F9E4_009111,
  0x1_C2F9E5_02872E_C2F9E6_00911B_C2F9E7_009238_82F9E8_02F9E9_0092D7_C2F9EA_00927C_C2F9EB_0093F9,
  0x1_C2F9EC_009415_C2F9ED_028BFA_C2F9EE_00958B_C2F9EF_004995_C2F9F0_0095B7_C2F9F1_028D77,
  0x1_C2F9F2_0049E6_C2F9F3_0096C3_C2F9F4_005DB2_C2F9F5_009723_C2F9F6_029145_C2F9F7_02921A,
  0x1_C2F9F8_004A6E_C2F9F9_004A76_C2F9FA_0097E0_C2F9FB_02940A_C2F9FC_004AB2_C2F9FD_029496,
  0x1_C2F9FE_00980B_C2F9FF_00980B_C2FA00_009829_C2FA01_0295B6_C2FA02_0098E2_C2FA03_004B33,
  0x1_C2FA04_009929_C2FA05_0099A7_C2FA06_0099C2_C2FA07_0099FE_C2FA08_004BCE_C2FA09_029B30,
  0x1_C2FA0A_009B12_C2FA0B_009C40_C2FA0C_009CFD_C2FA0D_004CCE_C2FA0E_004CED_C2FA0F_009D67,
  0x1_C2FA10_02A0CE_C2FA11_004CF8_C2FA12_02A105_C2FA13_02A20E_C2FA14_02A291_C2FA15_009EBB,
  0x1_C2FA16_004D56_C2FA17_009EF9_C2FA18_009EFE_C2FA19_009F05_C2FA1A_009F0F_C2FA1B_009F16,
  0x1_C2FA1C_009F3B_C2FA1D_02A600]

def char? (c : Char) : Option (List Char) :=
  if c.toNat < 128 then some [Ascii.lowerChar c]
  else if refused.contains c then none
  else if ignored.contains c then some []
  else
    match replaced.find? c.toNat with
    | some r => some (r.value.map fun n => Char.ofNat (n + (c.toNat - r.first)))
    | none => some [c]

def text? (cs : List Char) : Option (List Char) :=
  (cs.mapM char?).map List.flatten

end AuthGateway.Url.Mapping
