import AuthGateway.Text.CodeTable

/-!
The characters that are composed of two others, as an accented letter is of a
letter and a mark, and that stand for the two wherever these follow each other.
-/
namespace AuthGateway.Composition

def pairOfWords (ws : List Nat) : Nat × Nat :=
  (ws.headD 0, ws.tail.headD 0)

def pairs : CodeTable (Nat × Nat) := .ofLines pairOfWords [
  0x1_C000C0_000041_000300_C000C1_000041_000301_C000C2_000041_000302_C000C3_000041_000303,
  0x1_C000C4_000041_000308_C000C5_000041_00030A_C000C7_000043_000327_C000C8_000045_000300,
  0x1_C000C9_000045_000301_C000CA_000045_000302_C000CB_000045_000308_C000CC_000049_000300,
  0x1_C000CD_000049_000301_C000CE_000049_000302_C000CF_000049_000308_C000D1_00004E_000303,
  0x1_C000D2_00004F_000300_C000D3_00004F_000301_C000D4_00004F_000302_C000D5_00004F_000303,
  0x1_C000D6_00004F_000308_C000D9_000055_000300_C000DA_000055_000301_C000DB_000055_000302,
  0x1_C000DC_000055_000308_C000DD_000059_000301_C000E0_000061_000300_C000E1_000061_000301,
  0x1_C000E2_000061_000302_C000E3_000061_000303_C000E4_000061_000308_C000E5_000061_00030A,
  0x1_C000E7_000063_000327_C000E8_000065_000300_C000E9_000065_000301_C000EA_000065_000302,
  0x1_C000EB_000065_000308_C000EC_000069_000300_C000ED_000069_000301_C000EE_000069_000302,
  0x1_C000EF_000069_000308_C000F1_00006E_000303_C000F2_00006F_000300_C000F3_00006F_000301,
  0x1_C000F4_00006F_000302_C000F5_00006F_000303_C000F6_00006F_000308_C000F9_000075_000300,
  0x1_C000FA_000075_000301_C000FB_000075_000302_C000FC_000075_000308_C000FD_000079_000301,
  0x1_C000FF_000079_000308_C00100_000041_000304_C00101_000061_000304_C00102_000041_000306,
  0x1_C00103_000061_000306_C00104_000041_000328_C00105_000061_000328_C00106_000043_000301,
  0x1_C00107_000063_000301_C00108_000043_000302_C00109_000063_000302_C0010A_000043_000307,
  0x1_C0010B_000063_000307_C0010C_000043_00030C_C0010D_000063_00030C_C0010E_000044_00030C,
  0x1_C0010F_000064_00030C_C00112_000045_000304_C00113_000065_000304_C00114_000045_000306,
  0x1_C00115_000065_000306_C00116_000045_000307_C00117_000065_000307_C00118_000045_000328,
  0x1_C00119_000065_000328_C0011A_000045_00030C_C0011B_000065_00030C_C0011C_000047_000302,
  0x1_C0011D_000067_000302_C0011E_000047_000306_C0011F_000067_000306_C00120_000047_000307,
  0x1_C00121_000067_000307_C00122_000047_000327_C00123_000067_000327_C00124_000048_000302,
  0x1_C00125_000068_000302_C00128_000049_000303_C00129_000069_000303_C0012A_000049_000304,
  0x1_C0012B_000069_000304_C0012C_000049_000306_C0012D_000069_000306_C0012E_000049_000328,
  0x1_C0012F_000069_000328_C00130_000049_000307_C00134_00004A_000302_C00135_00006A_000302,
  0x1_C00136_00004B_000327_C00137_00006B_000327_C00139_00004C_000301_C0013A_00006C_000301,
  0x1_C0013B_00004C_000327_C0013C_00006C_000327_C0013D_00004C_00030C_C0013E_00006C_00030C,
  0x1_C00143_00004E_000301_C00144_00006E_000301_C00145_00004E_000327_C00146_00006E_000327,
  0x1_C00147_00004E_00030C_C00148_00006E_00030C_C0014C_00004F_000304_C0014D_00006F_000304,
  0x1_C0014E_00004F_000306_C0014F_00006F_000306_C00150_00004F_00030B_C00151_00006F_00030B,
  0x1_C00154_000052_000301_C00155_000072_000301_C00156_000052_000327_C00157_000072_000327,
  0x1_C00158_000052_00030C_C00159_000072_00030C_C0015A_000053_000301_C0015B_000073_000301,
  0x1_C0015C_000053_000302_C0015D_000073_000302_C0015E_000053_000327_C0015F_000073_000327,
  0x1_C00160_000053_00030C_C00161_000073_00030C_C00162_000054_000327_C00163_000074_000327,
  0x1_C00164_000054_00030C_C00165_000074_00030C_C00168_000055_000303_C00169_000075_000303,
  0x1_C0016A_000055_000304_C0016B_000075_000304_C0016C_000055_000306_C0016D_000075_000306,
  0x1_C0016E_000055_00030A_C0016F_000075_00030A_C00170_000055_00030B_C00171_000075_00030B,
  0x1_C00172_000055_000328_C00173_000075_000328_C00174_000057_000302_C00175_000077_000302,
  0x1_C00176_000059_000302_C00177_000079_000302_C00178_000059_000308_C00179_00005A_000301,
  0x1_C0017A_00007A_000301_C0017B_00005A_000307_C0017C_00007A_000307_C0017D_00005A_00030C,
  0x1_C0017E_00007A_00030C_C001A0_00004F_00031B_C001A1_00006F_00031B_C001AF_000055_00031B,
  0x1_C001B0_000075_00031B_C001CD_000041_00030C_C001CE_000061_00030C_C001CF_000049_00030C,
  0x1_C001D0_000069_00030C_C001D1_00004F_00030C_C001D2_00006F_00030C_C001D3_000055_00030C,
  0x1_C001D4_000075_00030C_C001D5_0000DC_000304_C001D6_0000FC_000304_C001D7_0000DC_000301,
  0x1_C001D8_0000FC_000301_C001D9_0000DC_00030C_C001DA_0000FC_00030C_C001DB_0000DC_000300,
  0x1_C001DC_0000FC_000300_C001DE_0000C4_000304_C001DF_0000E4_000304_C001E0_000226_000304,
  0x1_C001E1_000227_000304_C001E2_0000C6_000304_C001E3_0000E6_000304_C001E6_000047_00030C,
  0x1_C001E7_000067_00030C_C001E8_00004B_00030C_C001E9_00006B_00030C_C001EA_00004F_000328,
  0x1_C001EB_00006F_000328_C001EC_0001EA_000304_C001ED_0001EB_000304_C001EE_0001B7_00030C,
  0x1_C001EF_000292_00030C_C001F0_00006A_00030C_C001F4_000047_000301_C001F5_000067_000301,
  0x1_C001F8_00004E_000300_C001F9_00006E_000300_C001FA_0000C5_000301_C001FB_0000E5_000301,
  0x1_C001FC_0000C6_000301_C001FD_0000E6_000301_C001FE_0000D8_000301_C001FF_0000F8_000301,
  0x1_C00200_000041_00030F_C00201_000061_00030F_C00202_000041_000311_C00203_000061_000311,
  0x1_C00204_000045_00030F_C00205_000065_00030F_C00206_000045_000311_C00207_000065_000311,
  0x1_C00208_000049_00030F_C00209_000069_00030F_C0020A_000049_000311_C0020B_000069_000311,
  0x1_C0020C_00004F_00030F_C0020D_00006F_00030F_C0020E_00004F_000311_C0020F_00006F_000311,
  0x1_C00210_000052_00030F_C00211_000072_00030F_C00212_000052_000311_C00213_000072_000311,
  0x1_C00214_000055_00030F_C00215_000075_00030F_C00216_000055_000311_C00217_000075_000311,
  0x1_C00218_000053_000326_C00219_000073_000326_C0021A_000054_000326_C0021B_000074_000326,
  0x1_C0021E_000048_00030C_C0021F_000068_00030C_C00226_000041_000307_C00227_000061_000307,
  0x1_C00228_000045_000327_C00229_000065_000327_C0022A_0000D6_000304_C0022B_0000F6_000304,
  0x1_C0022C_0000D5_000304_C0022D_0000F5_000304_C0022E_00004F_000307_C0022F_00006F_000307,
  0x1_C00230_00022E_000304_C00231_00022F_000304_C00232_000059_000304_C00233_000079_000304,
  0x1_C00385_0000A8_000301_C00386_000391_000301_C00388_000395_000301_C00389_000397_000301,
  0x1_C0038A_000399_000301_C0038C_00039F_000301_C0038E_0003A5_000301_C0038F_0003A9_000301,
  0x1_C00390_0003CA_000301_C003AA_000399_000308_C003AB_0003A5_000308_C003AC_0003B1_000301,
  0x1_C003AD_0003B5_000301_C003AE_0003B7_000301_C003AF_0003B9_000301_C003B0_0003CB_000301,
  0x1_C003CA_0003B9_000308_C003CB_0003C5_000308_C003CC_0003BF_000301_C003CD_0003C5_000301,
  0x1_C003CE_0003C9_000301_C003D3_0003D2_000301_C003D4_0003D2_000308_C00400_000415_000300,
  0x1_C00401_000415_000308_C00403_000413_000301_C00407_000406_000308_C0040C_00041A_000301,
  0x1_C0040D_000418_000300_C0040E_000423_000306_C00419_000418_000306_C00439_000438_000306,
  0x1_C00450_000435_000300_C00451_000435_000308_C00453_000433_000301_C00457_000456_000308,
  0x1_C0045C_00043A_000301_C0045D_000438_000300_C0045E_000443_000306_C00476_000474_00030F,
  0x1_C00477_000475_00030F_C004C1_000416_000306_C004C2_000436_000306_C004D0_000410_000306,
  0x1_C004D1_000430_000306_C004D2_000410_000308_C004D3_000430_000308_C004D6_000415_000306,
  0x1_C004D7_000435_000306_C004DA_0004D8_000308_C004DB_0004D9_000308_C004DC_000416_000308,
  0x1_C004DD_000436_000308_C004DE_000417_000308_C004DF_000437_000308_C004E2_000418_000304,
  0x1_C004E3_000438_000304_C004E4_000418_000308_C004E5_000438_000308_C004E6_00041E_000308,
  0x1_C004E7_00043E_000308_C004EA_0004E8_000308_C004EB_0004E9_000308_C004EC_00042D_000308,
  0x1_C004ED_00044D_000308_C004EE_000423_000304_C004EF_000443_000304_C004F0_000423_000308,
  0x1_C004F1_000443_000308_C004F2_000423_00030B_C004F3_000443_00030B_C004F4_000427_000308,
  0x1_C004F5_000447_000308_C004F8_00042B_000308_C004F9_00044B_000308_C00622_000627_000653,
  0x1_C00623_000627_000654_C00624_000648_000654_C00625_000627_000655_C00626_00064A_000654,
  0x1_C006C0_0006D5_000654_C006C2_0006C1_000654_C006D3_0006D2_000654_C00929_000928_00093C,
  0x1_C00931_000930_00093C_C00934_000933_00093C_C009CB_0009C7_0009BE_C009CC_0009C7_0009D7,
  0x1_C00B48_000B47_000B56_C00B4B_000B47_000B3E_C00B4C_000B47_000B57_C00B94_000B92_000BD7,
  0x1_C00BCA_000BC6_000BBE_C00BCB_000BC7_000BBE_C00BCC_000BC6_000BD7_C00C48_000C46_000C56,
  0x1_C00CC0_000CBF_000CD5_C00CC7_000CC6_000CD5_C00CC8_000CC6_000CD6_C00CCA_000CC6_000CC2,
  0x1_C00CCB_000CCA_000CD5_C00D4A_000D46_000D3E_C00D4B_000D47_000D3E_C00D4C_000D46_000D57,
  0x1_C00DDA_000DD9_000DCA_C00DDC_000DD9_000DCF_C00DDD_000DDC_000DCA_C00DDE_000DD9_000DDF,
  0x1_C01026_001025_00102E_C01B06_001B05_001B35_C01B08_001B07_001B35_C01B0A_001B09_001B35,
  0x1_C01B0C_001B0B_001B35_C01B0E_001B0D_001B35_C01B12_001B11_001B35_C01B3B_001B3A_001B35,
  0x1_C01B3D_001B3C_001B35_C01B40_001B3E_001B35_C01B41_001B3F_001B35_C01B43_001B42_001B35,
  0x1_C01E00_000041_000325_C01E01_000061_000325_C01E02_000042_000307_C01E03_000062_000307,
  0x1_C01E04_000042_000323_C01E05_000062_000323_C01E06_000042_000331_C01E07_000062_000331,
  0x1_C01E08_0000C7_000301_C01E09_0000E7_000301_C01E0A_000044_000307_C01E0B_000064_000307,
  0x1_C01E0C_000044_000323_C01E0D_000064_000323_C01E0E_000044_000331_C01E0F_000064_000331,
  0x1_C01E10_000044_000327_C01E11_000064_000327_C01E12_000044_00032D_C01E13_000064_00032D,
  0x1_C01E14_000112_000300_C01E15_000113_000300_C01E16_000112_000301_C01E17_000113_000301,
  0x1_C01E18_000045_00032D_C01E19_000065_00032D_C01E1A_000045_000330_C01E1B_000065_000330,
  0x1_C01E1C_000228_000306_C01E1D_000229_000306_C01E1E_000046_000307_C01E1F_000066_000307,
  0x1_C01E20_000047_000304_C01E21_000067_000304_C01E22_000048_000307_C01E23_000068_000307,
  0x1_C01E24_000048_000323_C01E25_000068_000323_C01E26_000048_000308_C01E27_000068_000308,
  0x1_C01E28_000048_000327_C01E29_000068_000327_C01E2A_000048_00032E_C01E2B_000068_00032E,
  0x1_C01E2C_000049_000330_C01E2D_000069_000330_C01E2E_0000CF_000301_C01E2F_0000EF_000301,
  0x1_C01E30_00004B_000301_C01E31_00006B_000301_C01E32_00004B_000323_C01E33_00006B_000323,
  0x1_C01E34_00004B_000331_C01E35_00006B_000331_C01E36_00004C_000323_C01E37_00006C_000323,
  0x1_C01E38_001E36_000304_C01E39_001E37_000304_C01E3A_00004C_000331_C01E3B_00006C_000331,
  0x1_C01E3C_00004C_00032D_C01E3D_00006C_00032D_C01E3E_00004D_000301_C01E3F_00006D_000301,
  0x1_C01E40_00004D_000307_C01E41_00006D_000307_C01E42_00004D_000323_C01E43_00006D_000323,
  0x1_C01E44_00004E_000307_C01E45_00006E_000307_C01E46_00004E_000323_C01E47_00006E_000323,
  0x1_C01E48_00004E_000331_C01E49_00006E_000331_C01E4A_00004E_00032D_C01E4B_00006E_00032D,
  0x1_C01E4C_0000D5_000301_C01E4D_0000F5_000301_C01E4E_0000D5_000308_C01E4F_0000F5_000308,
  0x1_C01E50_00014C_000300_C01E51_00014D_000300_C01E52_00014C_000301_C01E53_00014D_000301,
  0x1_C01E54_000050_000301_C01E55_000070_000301_C01E56_000050_000307_C01E57_000070_000307,
  0x1_C01E58_000052_000307_C01E59_000072_000307_C01E5A_000052_000323_C01E5B_000072_000323,
  0x1_C01E5C_001E5A_000304_C01E5D_001E5B_000304_C01E5E_000052_000331_C01E5F_000072_000331,
  0x1_C01E60_000053_000307_C01E61_000073_000307_C01E62_000053_000323_C01E63_000073_000323,
  0x1_C01E64_00015A_000307_C01E65_00015B_000307_C01E66_000160_000307_C01E67_000161_000307,
  0x1_C01E68_001E62_000307_C01E69_001E63_000307_C01E6A_000054_000307_C01E6B_000074_000307,
  0x1_C01E6C_000054_000323_C01E6D_000074_000323_C01E6E_000054_000331_C01E6F_000074_000331,
  0x1_C01E70_000054_00032D_C01E71_000074_00032D_C01E72_000055_000324_C01E73_000075_000324,
  0x1_C01E74_000055_000330_C01E75_000075_000330_C01E76_000055_00032D_C01E77_000075_00032D,
  0x1_C01E78_000168_000301_C01E79_000169_000301_C01E7A_00016A_000308_C01E7B_00016B_000308,
  0x1_C01E7C_000056_000303_C01E7D_000076_000303_C01E7E_000056_000323_C01E7F_000076_000323,
  0x1_C01E80_000057_000300_C01E81_000077_000300_C01E82_000057_000301_C01E83_000077_000301,
  0x1_C01E84_000057_000308_C01E85_000077_000308_C01E86_000057_000307_C01E87_000077_000307,
  0x1_C01E88_000057_000323_C01E89_000077_000323_C01E8A_000058_000307_C01E8B_000078_000307,
  0x1_C01E8C_000058_000308_C01E8D_000078_000308_C01E8E_000059_000307_C01E8F_000079_000307,
  0x1_C01E90_00005A_000302_C01E91_00007A_000302_C01E92_00005A_000323_C01E93_00007A_000323,
  0x1_C01E94_00005A_000331_C01E95_00007A_000331_C01E96_000068_000331_C01E97_000074_000308,
  0x1_C01E98_000077_00030A_C01E99_000079_00030A_C01E9B_00017F_000307_C01EA0_000041_000323,
  0x1_C01EA1_000061_000323_C01EA2_000041_000309_C01EA3_000061_000309_C01EA4_0000C2_000301,
  0x1_C01EA5_0000E2_000301_C01EA6_0000C2_000300_C01EA7_0000E2_000300_C01EA8_0000C2_000309,
  0x1_C01EA9_0000E2_000309_C01EAA_0000C2_000303_C01EAB_0000E2_000303_C01EAC_001EA0_000302,
  0x1_C01EAD_001EA1_000302_C01EAE_000102_000301_C01EAF_000103_000301_C01EB0_000102_000300,
  0x1_C01EB1_000103_000300_C01EB2_000102_000309_C01EB3_000103_000309_C01EB4_000102_000303,
  0x1_C01EB5_000103_000303_C01EB6_001EA0_000306_C01EB7_001EA1_000306_C01EB8_000045_000323,
  0x1_C01EB9_000065_000323_C01EBA_000045_000309_C01EBB_000065_000309_C01EBC_000045_000303,
  0x1_C01EBD_000065_000303_C01EBE_0000CA_000301_C01EBF_0000EA_000301_C01EC0_0000CA_000300,
  0x1_C01EC1_0000EA_000300_C01EC2_0000CA_000309_C01EC3_0000EA_000309_C01EC4_0000CA_000303,
  0x1_C01EC5_0000EA_000303_C01EC6_001EB8_000302_C01EC7_001EB9_000302_C01EC8_000049_000309,
  0x1_C01EC9_000069_000309_C01ECA_000049_000323_C01ECB_000069_000323_C01ECC_00004F_000323,
  0x1_C01ECD_00006F_000323_C01ECE_00004F_000309_C01ECF_00006F_000309_C01ED0_0000D4_000301,
  0x1_C01ED1_0000F4_000301_C01ED2_0000D4_000300_C01ED3_0000F4_000300_C01ED4_0000D4_000309,
  0x1_C01ED5_0000F4_000309_C01ED6_0000D4_000303_C01ED7_0000F4_000303_C01ED8_001ECC_000302,
  0x1_C01ED9_001ECD_000302_C01EDA_0001A0_000301_C01EDB_0001A1_000301_C01EDC_0001A0_000300,
  0x1_C01EDD_0001A1_000300_C01EDE_0001A0_000309_C01EDF_0001A1_000309_C01EE0_0001A0_000303,
  0x1_C01EE1_0001A1_000303_C01EE2_0001A0_000323_C01EE3_0001A1_000323_C01EE4_000055_000323,
  0x1_C01EE5_000075_000323_C01EE6_000055_000309_C01EE7_000075_000309_C01EE8_0001AF_000301,
  0x1_C01EE9_0001B0_000301_C01EEA_0001AF_000300_C01EEB_0001B0_000300_C01EEC_0001AF_000309,
  0x1_C01EED_0001B0_000309_C01EEE_0001AF_000303_C01EEF_0001B0_000303_C01EF0_0001AF_000323,
  0x1_C01EF1_0001B0_000323_C01EF2_000059_000300_C01EF3_000079_000300_C01EF4_000059_000323,
  0x1_C01EF5_000079_000323_C01EF6_000059_000309_C01EF7_000079_000309_C01EF8_000059_000303,
  0x1_C01EF9_000079_000303_C01F00_0003B1_000313_C01F01_0003B1_000314_C01F02_001F00_000300,
  0x1_C01F03_001F01_000300_C01F04_001F00_000301_C01F05_001F01_000301_C01F06_001F00_000342,
  0x1_C01F07_001F01_000342_C01F08_000391_000313_C01F09_000391_000314_C01F0A_001F08_000300,
  0x1_C01F0B_001F09_000300_C01F0C_001F08_000301_C01F0D_001F09_000301_C01F0E_001F08_000342,
  0x1_C01F0F_001F09_000342_C01F10_0003B5_000313_C01F11_0003B5_000314_C01F12_001F10_000300,
  0x1_C01F13_001F11_000300_C01F14_001F10_000301_C01F15_001F11_000301_C01F18_000395_000313,
  0x1_C01F19_000395_000314_C01F1A_001F18_000300_C01F1B_001F19_000300_C01F1C_001F18_000301,
  0x1_C01F1D_001F19_000301_C01F20_0003B7_000313_C01F21_0003B7_000314_C01F22_001F20_000300,
  0x1_C01F23_001F21_000300_C01F24_001F20_000301_C01F25_001F21_000301_C01F26_001F20_000342,
  0x1_C01F27_001F21_000342_C01F28_000397_000313_C01F29_000397_000314_C01F2A_001F28_000300,
  0x1_C01F2B_001F29_000300_C01F2C_001F28_000301_C01F2D_001F29_000301_C01F2E_001F28_000342,
  0x1_C01F2F_001F29_000342_C01F30_0003B9_000313_C01F31_0003B9_000314_C01F32_001F30_000300,
  0x1_C01F33_001F31_000300_C01F34_001F30_000301_C01F35_001F31_000301_C01F36_001F30_000342,
  0x1_C01F37_001F31_000342_C01F38_000399_000313_C01F39_000399_000314_C01F3A_001F38_000300,
  0x1_C01F3B_001F39_000300_C01F3C_001F38_000301_C01F3D_001F39_000301_C01F3E_001F38_000342,
  0x1_C01F3F_001F39_000342_C01F40_0003BF_000313_C01F41_0003BF_000314_C01F42_001F40_000300,
  0x1_C01F43_001F41_000300_C01F44_001F40_000301_C01F45_001F41_000301_C01F48_00039F_000313,
  0x1_C01F49_00039F_000314_C01F4A_001F48_000300_C01F4B_001F49_000300_C01F4C_001F48_000301,
  0x1_C01F4D_001F49_000301_C01F50_0003C5_000313_C01F51_0003C5_000314_C01F52_001F50_000300,
  0x1_C01F53_001F51_000300_C01F54_001F50_000301_C01F55_001F51_000301_C01F56_001F50_000342,
  0x1_C01F57_001F51_000342_C01F59_0003A5_000314_C01F5B_001F59_000300_C01F5D_001F59_000301,
  0x1_C01F5F_001F59_000342_C01F60_0003C9_000313_C01F61_0003C9_000314_C01F62_001F60_000300,
  0x1_C01F63_001F61_000300_C01F64_001F60_000301_C01F65_001F61_000301_C01F66_001F60_000342,
  0x1_C01F67_001F61_000342_C01F68_0003A9_000313_C01F69_0003A9_000314_C01F6A_001F68_000300,
  0x1_C01F6B_001F69_000300_C01F6C_001F68_000301_C01F6D_001F69_000301_C01F6E_001F68_000342,
  0x1_C01F6F_001F69_000342_C01F70_0003B1_000300_C01F72_0003B5_000300_C01F74_0003B7_000300,
  0x1_C01F76_0003B9_000300_C01F78_0003BF_000300_C01F7A_0003C5_000300_C01F7C_0003C9_000300,
  0x1_C01F80_001F00_000345_C01F81_001F01_000345_C01F82_001F02_000345_C01F83_001F03_000345,
  0x1_C01F84_001F04_000345_C01F85_001F05_000345_C01F86_001F06_000345_C01F87_001F07_000345,
  0x1_C01F88_001F08_000345_C01F89_001F09_000345_C01F8A_001F0A_000345_C01F8B_001F0B_000345,
  0x1_C01F8C_001F0C_000345_C01F8D_001F0D_000345_C01F8E_001F0E_000345_C01F8F_001F0F_000345,
  0x1_C01F90_001F20_000345_C01F91_001F21_000345_C01F92_001F22_000345_C01F93_001F23_000345,
  0x1_C01F94_001F24_000345_C01F95_001F25_000345_C01F96_001F26_000345_C01F97_001F27_000345,
  0x1_C01F98_001F28_000345_C01F99_001F29_000345_C01F9A_001F2A_000345_C01F9B_001F2B_000345,
  0x1_C01F9C_001F2C_000345_C01F9D_001F2D_000345_C01F9E_001F2E_000345_C01F9F_001F2F_000345,
  0x1_C01FA0_001F60_000345_C01FA1_001F61_000345_C01FA2_001F62_000345_C01FA3_001F63_000345,
  0x1_C01FA4_001F64_000345_C01FA5_001F65_000345_C01FA6_001F66_000345_C01FA7_001F67_000345,
  0x1_C01FA8_001F68_000345_C01FA9_001F69_000345_C01FAA_001F6A_000345_C01FAB_001F6B_000345,
  0x1_C01FAC_001F6C_000345_C01FAD_001F6D_000345_C01FAE_001F6E_000345_C01FAF_001F6F_000345,
  0x1_C01FB0_0003B1_000306_C01FB1_0003B1_000304_C01FB2_001F70_000345_C01FB3_0003B1_000345,
  0x1_C01FB4_0003AC_000345_C01FB6_0003B1_000342_C01FB7_001FB6_000345_C01FB8_000391_000306,
  0x1_C01FB9_000391_000304_C01FBA_000391_000300_C01FBC_000391_000345_C01FC1_0000A8_000342,
  0x1_C01FC2_001F74_000345_C01FC3_0003B7_000345_C01FC4_0003AE_000345_C01FC6_0003B7_000342,
  0x1_C01FC7_001FC6_000345_C01FC8_000395_000300_C01FCA_000397_000300_C01FCC_000397_000345,
  0x1_C01FCD_001FBF_000300_C01FCE_001FBF_000301_C01FCF_001FBF_000342_C01FD0_0003B9_000306,
  0x1_C01FD1_0003B9_000304_C01FD2_0003CA_000300_C01FD6_0003B9_000342_C01FD7_0003CA_000342,
  0x1_C01FD8_000399_000306_C01FD9_000399_000304_C01FDA_000399_000300_C01FDD_001FFE_000300,
  0x1_C01FDE_001FFE_000301_C01FDF_001FFE_000342_C01FE0_0003C5_000306_C01FE1_0003C5_000304,
  0x1_C01FE2_0003CB_000300_C01FE4_0003C1_000313_C01FE5_0003C1_000314_C01FE6_0003C5_000342,
  0x1_C01FE7_0003CB_000342_C01FE8_0003A5_000306_C01FE9_0003A5_000304_C01FEA_0003A5_000300,
  0x1_C01FEC_0003A1_000314_C01FED_0000A8_000300_C01FF2_001F7C_000345_C01FF3_0003C9_000345,
  0x1_C01FF4_0003CE_000345_C01FF6_0003C9_000342_C01FF7_001FF6_000345_C01FF8_00039F_000300,
  0x1_C01FFA_0003A9_000300_C01FFC_0003A9_000345_C0219A_002190_000338_C0219B_002192_000338,
  0x1_C021AE_002194_000338_C021CD_0021D0_000338_C021CE_0021D4_000338_C021CF_0021D2_000338,
  0x1_C02204_002203_000338_C02209_002208_000338_C0220C_00220B_000338_C02224_002223_000338,
  0x1_C02226_002225_000338_C02241_00223C_000338_C02244_002243_000338_C02247_002245_000338,
  0x1_C02249_002248_000338_C02260_00003D_000338_C02262_002261_000338_C0226D_00224D_000338,
  0x1_C0226E_00003C_000338_C0226F_00003E_000338_C02270_002264_000338_C02271_002265_000338,
  0x1_C02274_002272_000338_C02275_002273_000338_C02278_002276_000338_C02279_002277_000338,
  0x1_C02280_00227A_000338_C02281_00227B_000338_C02284_002282_000338_C02285_002283_000338,
  0x1_C02288_002286_000338_C02289_002287_000338_C022AC_0022A2_000338_C022AD_0022A8_000338,
  0x1_C022AE_0022A9_000338_C022AF_0022AB_000338_C022E0_00227C_000338_C022E1_00227D_000338,
  0x1_C022E2_002291_000338_C022E3_002292_000338_C022EA_0022B2_000338_C022EB_0022B3_000338,
  0x1_C022EC_0022B4_000338_C022ED_0022B5_000338_C0304C_00304B_003099_C0304E_00304D_003099,
  0x1_C03050_00304F_003099_C03052_003051_003099_C03054_003053_003099_C03056_003055_003099,
  0x1_C03058_003057_003099_C0305A_003059_003099_C0305C_00305B_003099_C0305E_00305D_003099,
  0x1_C03060_00305F_003099_C03062_003061_003099_C03065_003064_003099_C03067_003066_003099,
  0x1_C03069_003068_003099_C03070_00306F_003099_C03071_00306F_00309A_C03073_003072_003099,
  0x1_C03074_003072_00309A_C03076_003075_003099_C03077_003075_00309A_C03079_003078_003099,
  0x1_C0307A_003078_00309A_C0307C_00307B_003099_C0307D_00307B_00309A_C03094_003046_003099,
  0x1_C0309E_00309D_003099_C030AC_0030AB_003099_C030AE_0030AD_003099_C030B0_0030AF_003099,
  0x1_C030B2_0030B1_003099_C030B4_0030B3_003099_C030B6_0030B5_003099_C030B8_0030B7_003099,
  0x1_C030BA_0030B9_003099_C030BC_0030BB_003099_C030BE_0030BD_003099_C030C0_0030BF_003099,
  0x1_C030C2_0030C1_003099_C030C5_0030C4_003099_C030C7_0030C6_003099_C030C9_0030C8_003099,
  0x1_C030D0_0030CF_003099_C030D1_0030CF_00309A_C030D3_0030D2_003099_C030D4_0030D2_00309A,
  0x1_C030D6_0030D5_003099_C030D7_0030D5_00309A_C030D9_0030D8_003099_C030DA_0030D8_00309A,
  0x1_C030DC_0030DB_003099_C030DD_0030DB_00309A_C030F4_0030A6_003099_C030F7_0030EF_003099,
  0x1_C030F8_0030F0_003099_C030F9_0030F1_003099_C030FA_0030F2_003099_C030FE_0030FD_003099,
  0x1_C105C9_0105D2_000307_C105E4_0105DA_000307_C1109A_011099_0110BA_C1109C_01109B_0110BA,
  0x1_C110AB_0110A5_0110BA_C1112E_011131_011127_C1112F_011132_011127_C1134B_011347_01133E,
  0x1_C1134C_011347_011357_C11383_011382_0113C9_C11385_011384_0113BB_C1138E_01138B_0113C2,
  0x1_C11391_011390_0113C9_C113C5_0113C2_0113C2_C113C7_0113C2_0113B8_C113C8_0113C2_0113C9,
  0x1_C114BB_0114B9_0114BA_C114BC_0114B9_0114B0_C114BE_0114B9_0114BD_C115BA_0115B8_0115AF,
  0x1_C115BB_0115B9_0115AF_C11938_011935_011930_C16121_01611E_01611E_C16122_01611E_016129,
  0x1_C16123_01611E_01611F_C16124_016129_01611F_C16125_01611E_016120_C16126_016121_01611F,
  0x1_C16127_016122_01611F_C16128_016121_016120_C16D68_016D67_016D67_C16D69_016D63_016D67,
  0x1_C16D6A_016D69_016D67]

def pairOf? (n : Nat) : Option (Nat × Nat) :=
  (pairs.find? n).map (·.value)

def ofPair? (first second : Nat) : Option Nat :=
  (pairs.ranges.find? fun r => r.value == (first, second)).map (·.first)

end AuthGateway.Composition
