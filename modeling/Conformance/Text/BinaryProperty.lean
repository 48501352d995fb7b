import Conformance.Text.CaseProperty
import Conformance.Text.IdentifierProperty
import Conformance.Text.RangeTable
import Conformance.Text.WhiteSpace

/-!
Binary properties of code points, as of Unicode 16.0.

A binary property holds for some code points and not for others. `binaryProperty?` gives the
table of a property by its full name, for the properties of the property lists, the derived
core properties and the emoji data; the properties of letter case and of identifiers are in
their own modules.
-/

set_option autoImplicit false

namespace Conformance.Text

/-- Code points with the property Alphabetic. -/
def alphabeticTable : RangeTable := RangeTable.decode
  (String.join [
  "41-5A,61-7A,AA,B5,BA,C0-D6,D8-F6,F8-2C1,2C6-2D1,2E0-2E4,2EC,2EE,345,363-374,376-377,",
  "37A-37D,37F,386,388-38A,38C,38E-3A1,3A3-3F5,3F7-481,48A-52F,531-556,559,560-588,5B0-5BD,",
  "5BF,5C1-5C2,5C4-5C5,5C7,5D0-5EA,5EF-5F2,610-61A,620-657,659-65F,66E-6D3,6D5-6DC,6E1-6E8,",
  "6ED-6EF,6FA-6FC,6FF,710-73F,74D-7B1,7CA-7EA,7F4-7F5,7FA,800-817,81A-82C,840-858,860-86A,",
  "870-887,889-88E,897,8A0-8C9,8D4-8DF,8E3-8E9,8F0-93B,93D-94C,94E-950,955-963,971-983,",
  "985-98C,98F-990,993-9A8,9AA-9B0,9B2,9B6-9B9,9BD-9C4,9C7-9C8,9CB-9CC,9CE,9D7,9DC-9DD,",
  "9DF-9E3,9F0-9F1,9FC,A01-A03,A05-A0A,A0F-A10,A13-A28,A2A-A30,A32-A33,A35-A36,A38-A39,",
  "A3E-A42,A47-A48,A4B-A4C,A51,A59-A5C,A5E,A70-A75,A81-A83,A85-A8D,A8F-A91,A93-AA8,AAA-AB0,",
  "AB2-AB3,AB5-AB9,ABD-AC5,AC7-AC9,ACB-ACC,AD0,AE0-AE3,AF9-AFC,B01-B03,B05-B0C,B0F-B10,",
  "B13-B28,B2A-B30,B32-B33,B35-B39,B3D-B44,B47-B48,B4B-B4C,B56-B57,B5C-B5D,B5F-B63,B71,",
  "B82-B83,B85-B8A,B8E-B90,B92-B95,B99-B9A,B9C,B9E-B9F,BA3-BA4,BA8-BAA,BAE-BB9,BBE-BC2,",
  "BC6-BC8,BCA-BCC,BD0,BD7,C00-C0C,C0E-C10,C12-C28,C2A-C39,C3D-C44,C46-C48,C4A-C4C,C55-C56,",
  "C58-C5A,C5D,C60-C63,C80-C83,C85-C8C,C8E-C90,C92-CA8,CAA-CB3,CB5-CB9,CBD-CC4,CC6-CC8,",
  "CCA-CCC,CD5-CD6,CDD-CDE,CE0-CE3,CF1-CF3,D00-D0C,D0E-D10,D12-D3A,D3D-D44,D46-D48,D4A-D4C,",
  "D4E,D54-D57,D5F-D63,D7A-D7F,D81-D83,D85-D96,D9A-DB1,DB3-DBB,DBD,DC0-DC6,DCF-DD4,DD6,",
  "DD8-DDF,DF2-DF3,E01-E3A,E40-E46,E4D,E81-E82,E84,E86-E8A,E8C-EA3,EA5,EA7-EB9,EBB-EBD,",
  "EC0-EC4,EC6,ECD,EDC-EDF,F00,F40-F47,F49-F6C,F71-F83,F88-F97,F99-FBC,1000-1036,1038,",
  "103B-103F,1050-108F,109A-109D,10A0-10C5,10C7,10CD,10D0-10FA,10FC-1248,124A-124D,",
  "1250-1256,1258,125A-125D,1260-1288,128A-128D,1290-12B0,12B2-12B5,12B8-12BE,12C0,",
  "12C2-12C5,12C8-12D6,12D8-1310,1312-1315,1318-135A,1380-138F,13A0-13F5,13F8-13FD,",
  "1401-166C,166F-167F,1681-169A,16A0-16EA,16EE-16F8,1700-1713,171F-1733,1740-1753,",
  "1760-176C,176E-1770,1772-1773,1780-17B3,17B6-17C8,17D7,17DC,1820-1878,1880-18AA,",
  "18B0-18F5,1900-191E,1920-192B,1930-1938,1950-196D,1970-1974,1980-19AB,19B0-19C9,",
  "1A00-1A1B,1A20-1A5E,1A61-1A74,1AA7,1ABF-1AC0,1ACC-1ACE,1B00-1B33,1B35-1B43,1B45-1B4C,",
  "1B80-1BA9,1BAC-1BAF,1BBA-1BE5,1BE7-1BF1,1C00-1C36,1C4D-1C4F,1C5A-1C7D,1C80-1C8A,",
  "1C90-1CBA,1CBD-1CBF,1CE9-1CEC,1CEE-1CF3,1CF5-1CF6,1CFA,1D00-1DBF,1DD3-1DF4,1E00-1F15,",
  "1F18-1F1D,1F20-1F45,1F48-1F4D,1F50-1F57,1F59,1F5B,1F5D,1F5F-1F7D,1F80-1FB4,1FB6-1FBC,",
  "1FBE,1FC2-1FC4,1FC6-1FCC,1FD0-1FD3,1FD6-1FDB,1FE0-1FEC,1FF2-1FF4,1FF6-1FFC,2071,207F,",
  "2090-209C,2102,2107,210A-2113,2115,2119-211D,2124,2126,2128,212A-212D,212F-2139,",
  "213C-213F,2145-2149,214E,2160-2188,24B6-24E9,2C00-2CE4,2CEB-2CEE,2CF2-2CF3,2D00-2D25,",
  "2D27,2D2D,2D30-2D67,2D6F,2D80-2D96,2DA0-2DA6,2DA8-2DAE,2DB0-2DB6,2DB8-2DBE,2DC0-2DC6,",
  "2DC8-2DCE,2DD0-2DD6,2DD8-2DDE,2DE0-2DFF,2E2F,3005-3007,3021-3029,3031-3035,3038-303C,",
  "3041-3096,309D-309F,30A1-30FA,30FC-30FF,3105-312F,3131-318E,31A0-31BF,31F0-31FF,",
  "3400-4DBF,4E00-A48C,A4D0-A4FD,A500-A60C,A610-A61F,A62A-A62B,A640-A66E,A674-A67B,",
  "A67F-A6EF,A717-A71F,A722-A788,A78B-A7CD,A7D0-A7D1,A7D3,A7D5-A7DC,A7F2-A805,A807-A827,",
  "A840-A873,A880-A8C3,A8C5,A8F2-A8F7,A8FB,A8FD-A8FF,A90A-A92A,A930-A952,A960-A97C,",
  "A980-A9B2,A9B4-A9BF,A9CF,A9E0-A9EF,A9FA-A9FE,AA00-AA36,AA40-AA4D,AA60-AA76,AA7A-AABE,",
  "AAC0,AAC2,AADB-AADD,AAE0-AAEF,AAF2-AAF5,AB01-AB06,AB09-AB0E,AB11-AB16,AB20-AB26,",
  "AB28-AB2E,AB30-AB5A,AB5C-AB69,AB70-ABEA,AC00-D7A3,D7B0-D7C6,D7CB-D7FB,F900-FA6D,",
  "FA70-FAD9,FB00-FB06,FB13-FB17,FB1D-FB28,FB2A-FB36,FB38-FB3C,FB3E,FB40-FB41,FB43-FB44,",
  "FB46-FBB1,FBD3-FD3D,FD50-FD8F,FD92-FDC7,FDF0-FDFB,FE70-FE74,FE76-FEFC,FF21-FF3A,",
  "FF41-FF5A,FF66-FFBE,FFC2-FFC7,FFCA-FFCF,FFD2-FFD7,FFDA-FFDC,10000-1000B,1000D-10026,",
  "10028-1003A,1003C-1003D,1003F-1004D,10050-1005D,10080-100FA,10140-10174,10280-1029C,",
  "102A0-102D0,10300-1031F,1032D-1034A,10350-1037A,10380-1039D,103A0-103C3,103C8-103CF,",
  "103D1-103D5,10400-1049D,104B0-104D3,104D8-104FB,10500-10527,10530-10563,10570-1057A,",
  "1057C-1058A,1058C-10592,10594-10595,10597-105A1,105A3-105B1,105B3-105B9,105BB-105BC,",
  "105C0-105F3,10600-10736,10740-10755,10760-10767,10780-10785,10787-107B0,107B2-107BA,",
  "10800-10805,10808,1080A-10835,10837-10838,1083C,1083F-10855,10860-10876,10880-1089E,",
  "108E0-108F2,108F4-108F5,10900-10915,10920-10939,10980-109B7,109BE-109BF,10A00-10A03,",
  "10A05-10A06,10A0C-10A13,10A15-10A17,10A19-10A35,10A60-10A7C,10A80-10A9C,10AC0-10AC7,",
  "10AC9-10AE4,10B00-10B35,10B40-10B55,10B60-10B72,10B80-10B91,10C00-10C48,10C80-10CB2,",
  "10CC0-10CF2,10D00-10D27,10D4A-10D65,10D69,10D6F-10D85,10E80-10EA9,10EAB-10EAC,",
  "10EB0-10EB1,10EC2-10EC4,10EFC,10F00-10F1C,10F27,10F30-10F45,10F70-10F81,10FB0-10FC4,",
  "10FE0-10FF6,11000-11045,11071-11075,11080-110B8,110C2,110D0-110E8,11100-11132,",
  "11144-11147,11150-11172,11176,11180-111BF,111C1-111C4,111CE-111CF,111DA,111DC,",
  "11200-11211,11213-11234,11237,1123E-11241,11280-11286,11288,1128A-1128D,1128F-1129D,",
  "1129F-112A8,112B0-112E8,11300-11303,11305-1130C,1130F-11310,11313-11328,1132A-11330,",
  "11332-11333,11335-11339,1133D-11344,11347-11348,1134B-1134C,11350,11357,1135D-11363,",
  "11380-11389,1138B,1138E,11390-113B5,113B7-113C0,113C2,113C5,113C7-113CA,113CC-113CD,",
  "113D1,113D3,11400-11441,11443-11445,11447-1144A,1145F-11461,11480-114C1,114C4-114C5,",
  "114C7,11580-115B5,115B8-115BE,115D8-115DD,11600-1163E,11640,11644,11680-116B5,116B8,",
  "11700-1171A,1171D-1172A,11740-11746,11800-11838,118A0-118DF,118FF-11906,11909,",
  "1190C-11913,11915-11916,11918-11935,11937-11938,1193B-1193C,1193F-11942,119A0-119A7,",
  "119AA-119D7,119DA-119DF,119E1,119E3-119E4,11A00-11A32,11A35-11A3E,11A50-11A97,11A9D,",
  "11AB0-11AF8,11BC0-11BE0,11C00-11C08,11C0A-11C36,11C38-11C3E,11C40,11C72-11C8F,",
  "11C92-11CA7,11CA9-11CB6,11D00-11D06,11D08-11D09,11D0B-11D36,11D3A,11D3C-11D3D,",
  "11D3F-11D41,11D43,11D46-11D47,11D60-11D65,11D67-11D68,11D6A-11D8E,11D90-11D91,",
  "11D93-11D96,11D98,11EE0-11EF6,11F00-11F10,11F12-11F3A,11F3E-11F40,11FB0,12000-12399,",
  "12400-1246E,12480-12543,12F90-12FF0,13000-1342F,13441-13446,13460-143FA,14400-14646,",
  "16100-1612E,16800-16A38,16A40-16A5E,16A70-16ABE,16AD0-16AED,16B00-16B2F,16B40-16B43,",
  "16B63-16B77,16B7D-16B8F,16D40-16D6C,16E40-16E7F,16F00-16F4A,16F4F-16F87,16F8F-16F9F,",
  "16FE0-16FE1,16FE3,16FF0-16FF1,17000-187F7,18800-18CD5,18CFF-18D08,1AFF0-1AFF3,",
  "1AFF5-1AFFB,1AFFD-1AFFE,1B000-1B122,1B132,1B150-1B152,1B155,1B164-1B167,1B170-1B2FB,",
  "1BC00-1BC6A,1BC70-1BC7C,1BC80-1BC88,1BC90-1BC99,1BC9E,1D400-1D454,1D456-1D49C,",
  "1D49E-1D49F,1D4A2,1D4A5-1D4A6,1D4A9-1D4AC,1D4AE-1D4B9,1D4BB,1D4BD-1D4C3,1D4C5-1D505,",
  "1D507-1D50A,1D50D-1D514,1D516-1D51C,1D51E-1D539,1D53B-1D53E,1D540-1D544,1D546,",
  "1D54A-1D550,1D552-1D6A5,1D6A8-1D6C0,1D6C2-1D6DA,1D6DC-1D6FA,1D6FC-1D714,1D716-1D734,",
  "1D736-1D74E,1D750-1D76E,1D770-1D788,1D78A-1D7A8,1D7AA-1D7C2,1D7C4-1D7CB,1DF00-1DF1E,",
  "1DF25-1DF2A,1E000-1E006,1E008-1E018,1E01B-1E021,1E023-1E024,1E026-1E02A,1E030-1E06D,",
  "1E08F,1E100-1E12C,1E137-1E13D,1E14E,1E290-1E2AD,1E2C0-1E2EB,1E4D0-1E4EB,1E5D0-1E5ED,",
  "1E5F0,1E7E0-1E7E6,1E7E8-1E7EB,1E7ED-1E7EE,1E7F0-1E7FE,1E800-1E8C4,1E900-1E943,1E947,",
  "1E94B,1EE00-1EE03,1EE05-1EE1F,1EE21-1EE22,1EE24,1EE27,1EE29-1EE32,1EE34-1EE37,1EE39,",
  "1EE3B,1EE42,1EE47,1EE49,1EE4B,1EE4D-1EE4F,1EE51-1EE52,1EE54,1EE57,1EE59,1EE5B,1EE5D,",
  "1EE5F,1EE61-1EE62,1EE64,1EE67-1EE6A,1EE6C-1EE72,1EE74-1EE77,1EE79-1EE7C,1EE7E,",
  "1EE80-1EE89,1EE8B-1EE9B,1EEA1-1EEA3,1EEA5-1EEA9,1EEAB-1EEBB,1F130-1F149,1F150-1F169,",
  "1F170-1F189,20000-2A6DF,2A700-2B739,2B740-2B81D,2B820-2CEA1,2CEB0-2EBE0,2EBF0-2EE5D,",
  "2F800-2FA1D,30000-3134A,31350-323AF,"])

/-- Code points with the property ASCII_Hex_Digit. -/
def asciiHexDigitTable : RangeTable := RangeTable.decode
  (String.join [
  "30-39,41-46,61-66,"])

/-- Code points with the property Bidi_Control. -/
def bidiControlTable : RangeTable := RangeTable.decode
  (String.join [
  "61C,200E-200F,202A-202E,2066-2069,"])

/-- Code points with the property Bidi_Mirrored. -/
def bidiMirroredTable : RangeTable := RangeTable.decode
  (String.join [
  "28-29,3C,3E,5B,5D,7B,7D,AB,BB,F3A-F3D,169B-169C,2039-203A,2045-2046,207D-207E,208D-208E,",
  "2140,2201-2204,2208-220D,2211,2215-2216,221A-221D,221F-2222,2224,2226,222B-2233,2239,",
  "223B-224C,2252-2255,225F-2260,2262,2264-226B,226D-228C,228F-2292,2298,22A2-22A3,",
  "22A6-22B8,22BE-22BF,22C9-22CD,22D0-22D1,22D6-22ED,22F0-22FF,2308-230B,2320-2321,",
  "2329-232A,2768-2775,27C0,27C3-27C6,27C8-27C9,27CB-27CD,27D3-27D6,27DC-27DE,27E2-27EF,",
  "2983-2998,299B-29A0,29A2-29AF,29B8,29C0-29C5,29C9,29CE-29D2,29D4-29D5,29D8-29DC,29E1,",
  "29E3-29E5,29E8-29E9,29F4-29F9,29FC-29FD,2A0A-2A1C,2A1E-2A21,2A24,2A26,2A29,2A2B-2A2E,",
  "2A34-2A35,2A3C-2A3E,2A57-2A58,2A64-2A65,2A6A-2A6D,2A6F-2A70,2A73-2A74,2A79-2AA3,",
  "2AA6-2AAD,2AAF-2AD6,2ADC,2ADE,2AE2-2AE6,2AEC-2AEE,2AF3,2AF7-2AFB,2AFD,2BFE,2E02-2E05,",
  "2E09-2E0A,2E0C-2E0D,2E1C-2E1D,2E20-2E29,2E55-2E5C,3008-3011,3014-301B,FE59-FE5E,",
  "FE64-FE65,FF08-FF09,FF1C,FF1E,FF3B,FF3D,FF5B,FF5D,FF5F-FF60,FF62-FF63,1D6DB,1D715,1D74F,",
  "1D789,1D7C3,"])

/-- Code points with the property Dash. -/
def dashTable : RangeTable := RangeTable.decode
  (String.join [
  "2D,58A,5BE,1400,1806,2010-2015,2053,207B,208B,2212,2E17,2E1A,2E3A-2E3B,2E40,2E5D,301C,",
  "3030,30A0,FE31-FE32,FE58,FE63,FF0D,10D6E,10EAD,"])

/-- Code points with the property Default_Ignorable_Code_Point. -/
def defaultIgnorableCodePointTable : RangeTable := RangeTable.decode
  (String.join [
  "AD,34F,61C,115F-1160,17B4-17B5,180B-180F,200B-200F,202A-202E,2060-206F,3164,FE00-FE0F,",
  "FEFF,FFA0,FFF0-FFF8,1BCA0-1BCA3,1D173-1D17A,E0000-E0FFF,"])

/-- Code points with the property Deprecated. -/
def deprecatedTable : RangeTable := RangeTable.decode
  (String.join [
  "149,673,F77,F79,17A3-17A4,206A-206F,2329-232A,E0001,"])

/-- Code points with the property Diacritic. -/
def diacriticTable : RangeTable := RangeTable.decode
  (String.join [
  "5E,60,A8,AF,B4,B7-B8,2B0-34E,350-357,35D-362,374-375,37A,384-385,483-487,559,591-5A1,",
  "5A3-5BD,5BF,5C1-5C2,5C4,64B-652,657-658,6DF-6E0,6E5-6E6,6EA-6EC,730-74A,7A6-7B0,7EB-7F5,",
  "818-819,898-89F,8C9-8D2,8E3-8FE,93C,94D,951-954,971,9BC,9CD,A3C,A4D,ABC,ACD,AFD-AFF,B3C,",
  "B4D,B55,BCD,C3C,C4D,CBC,CCD,D3B-D3C,D4D,DCA,E3A,E47-E4C,E4E,EBA,EC8-ECC,F18-F19,F35,F37,",
  "F39,F3E-F3F,F82-F84,F86-F87,FC6,1037,1039-103A,1063-1064,1069-106D,1087-108D,108F,",
  "109A-109B,135D-135F,1714-1715,1734,17C9-17D3,17DD,1939-193B,1A60,1A75-1A7C,1A7F,",
  "1AB0-1ABE,1AC1-1ACB,1B34,1B44,1B6B-1B73,1BAA-1BAB,1BE6,1BF2-1BF3,1C36-1C37,1C78-1C7D,",
  "1CD0-1CE8,1CED,1CF4,1CF7-1CF9,1D2C-1D6A,1DC4-1DCF,1DF5-1DFF,1FBD,1FBF-1FC1,1FCD-1FCF,",
  "1FDD-1FDF,1FED-1FEF,1FFD-1FFE,2CEF-2CF1,2E2F,302A-302F,3099-309C,30FC,A66F,A67C-A67D,",
  "A67F,A69C-A69D,A6F0-A6F1,A700-A721,A788-A78A,A7F8-A7F9,A806,A82C,A8C4,A8E0-A8F1,",
  "A92B-A92E,A953,A9B3,A9C0,A9E5,AA7B-AA7D,AABF-AAC2,AAF6,AB5B-AB5F,AB69-AB6B,ABEC-ABED,",
  "FB1E,FE20-FE2F,FF3E,FF40,FF70,FF9E-FF9F,FFE3,102E0,10780-10785,10787-107B0,107B2-107BA,",
  "10A38-10A3A,10A3F,10AE5-10AE6,10D22-10D27,10D4E,10D69-10D6D,10EFD-10EFF,10F46-10F50,",
  "10F82-10F85,11046,11070,110B9-110BA,11133-11134,11173,111C0,111CA-111CC,11235-11236,",
  "112E9-112EA,1133B-1133C,1134D,11366-1136C,11370-11374,113CE-113D0,113D2-113D3,",
  "113E1-113E2,11442,11446,114C2-114C3,115BF-115C0,1163F,116B6-116B7,1172B,11839-1183A,",
  "1193D-1193E,11943,119E0,11A34,11A47,11A99,11C3F,11D42,11D44-11D45,11D97,11F41-11F42,",
  "11F5A,13447-13455,1612F,16AF0-16AF4,16B30-16B36,16D6B-16D6C,16F8F-16F9F,16FF0-16FF1,",
  "1AFF0-1AFF3,1AFF5-1AFFB,1AFFD-1AFFE,1CF00-1CF2D,1CF30-1CF46,1D167-1D169,1D16D-1D172,",
  "1D17B-1D182,1D185-1D18B,1D1AA-1D1AD,1E030-1E06D,1E130-1E136,1E2AE,1E2EC-1E2EF,",
  "1E5EE-1E5EF,1E8D0-1E8D6,1E944-1E946,1E948-1E94A,"])

/-- Code points with the property Emoji. -/
def emojiTable : RangeTable := RangeTable.decode
  (String.join [
  "23,2A,30-39,A9,AE,203C,2049,2122,2139,2194-2199,21A9-21AA,231A-231B,2328,23CF,23E9-23F3,",
  "23F8-23FA,24C2,25AA-25AB,25B6,25C0,25FB-25FE,2600-2604,260E,2611,2614-2615,2618,261D,",
  "2620,2622-2623,2626,262A,262E-262F,2638-263A,2640,2642,2648-2653,265F-2660,2663,",
  "2665-2666,2668,267B,267E-267F,2692-2697,2699,269B-269C,26A0-26A1,26A7,26AA-26AB,",
  "26B0-26B1,26BD-26BE,26C4-26C5,26C8,26CE-26CF,26D1,26D3-26D4,26E9-26EA,26F0-26F5,",
  "26F7-26FA,26FD,2702,2705,2708-270D,270F,2712,2714,2716,271D,2721,2728,2733-2734,2744,",
  "2747,274C,274E,2753-2755,2757,2763-2764,2795-2797,27A1,27B0,27BF,2934-2935,2B05-2B07,",
  "2B1B-2B1C,2B50,2B55,3030,303D,3297,3299,1F004,1F0CF,1F170-1F171,1F17E-1F17F,1F18E,",
  "1F191-1F19A,1F1E6-1F1FF,1F201-1F202,1F21A,1F22F,1F232-1F23A,1F250-1F251,1F300-1F321,",
  "1F324-1F393,1F396-1F397,1F399-1F39B,1F39E-1F3F0,1F3F3-1F3F5,1F3F7-1F4FD,1F4FF-1F53D,",
  "1F549-1F54E,1F550-1F567,1F56F-1F570,1F573-1F57A,1F587,1F58A-1F58D,1F590,1F595-1F596,",
  "1F5A4-1F5A5,1F5A8,1F5B1-1F5B2,1F5BC,1F5C2-1F5C4,1F5D1-1F5D3,1F5DC-1F5DE,1F5E1,1F5E3,",
  "1F5E8,1F5EF,1F5F3,1F5FA-1F64F,1F680-1F6C5,1F6CB-1F6D2,1F6D5-1F6D7,1F6DC-1F6E5,1F6E9,",
  "1F6EB-1F6EC,1F6F0,1F6F3-1F6FC,1F7E0-1F7EB,1F7F0,1F90C-1F93A,1F93C-1F945,1F947-1F9FF,",
  "1FA70-1FA7C,1FA80-1FA89,1FA8F-1FAC6,1FACE-1FADC,1FADF-1FAE9,1FAF0-1FAF8,"])

/-- Code points with the property Emoji_Component. -/
def emojiComponentTable : RangeTable := RangeTable.decode
  (String.join [
  "23,2A,30-39,200D,20E3,FE0F,1F1E6-1F1FF,1F3FB-1F3FF,1F9B0-1F9B3,E0020-E007F,"])

/-- Code points with the property Emoji_Modifier. -/
def emojiModifierTable : RangeTable := RangeTable.decode
  (String.join [
  "1F3FB-1F3FF,"])

/-- Code points with the property Emoji_Modifier_Base. -/
def emojiModifierBaseTable : RangeTable := RangeTable.decode
  (String.join [
  "261D,26F9,270A-270D,1F385,1F3C2-1F3C4,1F3C7,1F3CA-1F3CC,1F442-1F443,1F446-1F450,",
  "1F466-1F478,1F47C,1F481-1F483,1F485-1F487,1F48F,1F491,1F4AA,1F574-1F575,1F57A,1F590,",
  "1F595-1F596,1F645-1F647,1F64B-1F64F,1F6A3,1F6B4-1F6B6,1F6C0,1F6CC,1F90C,1F90F,",
  "1F918-1F91F,1F926,1F930-1F939,1F93C-1F93E,1F977,1F9B5-1F9B6,1F9B8-1F9B9,1F9BB,",
  "1F9CD-1F9CF,1F9D1-1F9DD,1FAC3-1FAC5,1FAF0-1FAF8,"])

/-- Code points with the property Emoji_Presentation. -/
def emojiPresentationTable : RangeTable := RangeTable.decode
  (String.join [
  "231A-231B,23E9-23EC,23F0,23F3,25FD-25FE,2614-2615,2648-2653,267F,2693,26A1,26AA-26AB,",
  "26BD-26BE,26C4-26C5,26CE,26D4,26EA,26F2-26F3,26F5,26FA,26FD,2705,270A-270B,2728,274C,",
  "274E,2753-2755,2757,2795-2797,27B0,27BF,2B1B-2B1C,2B50,2B55,1F004,1F0CF,1F18E,",
  "1F191-1F19A,1F1E6-1F1FF,1F201,1F21A,1F22F,1F232-1F236,1F238-1F23A,1F250-1F251,",
  "1F300-1F320,1F32D-1F335,1F337-1F37C,1F37E-1F393,1F3A0-1F3CA,1F3CF-1F3D3,1F3E0-1F3F0,",
  "1F3F4,1F3F8-1F43E,1F440,1F442-1F4FC,1F4FF-1F53D,1F54B-1F54E,1F550-1F567,1F57A,",
  "1F595-1F596,1F5A4,1F5FB-1F64F,1F680-1F6C5,1F6CC,1F6D0-1F6D2,1F6D5-1F6D7,1F6DC-1F6DF,",
  "1F6EB-1F6EC,1F6F4-1F6FC,1F7E0-1F7EB,1F7F0,1F90C-1F93A,1F93C-1F945,1F947-1F9FF,",
  "1FA70-1FA7C,1FA80-1FA89,1FA8F-1FAC6,1FACE-1FADC,1FADF-1FAE9,1FAF0-1FAF8,"])

/-- Code points with the property Extended_Pictographic. -/
def extendedPictographicTable : RangeTable := RangeTable.decode
  (String.join [
  "A9,AE,203C,2049,2122,2139,2194-2199,21A9-21AA,231A-231B,2328,2388,23CF,23E9-23F3,",
  "23F8-23FA,24C2,25AA-25AB,25B6,25C0,25FB-25FE,2600-2605,2607-2612,2614-2685,2690-2705,",
  "2708-2712,2714,2716,271D,2721,2728,2733-2734,2744,2747,274C,274E,2753-2755,2757,",
  "2763-2767,2795-2797,27A1,27B0,27BF,2934-2935,2B05-2B07,2B1B-2B1C,2B50,2B55,3030,303D,",
  "3297,3299,1F000-1F0FF,1F10D-1F10F,1F12F,1F16C-1F171,1F17E-1F17F,1F18E,1F191-1F19A,",
  "1F1AD-1F1E5,1F201-1F20F,1F21A,1F22F,1F232-1F23A,1F23C-1F23F,1F249-1F3FA,1F400-1F53D,",
  "1F546-1F64F,1F680-1F6FF,1F774-1F77F,1F7D5-1F7FF,1F80C-1F80F,1F848-1F84F,1F85A-1F85F,",
  "1F888-1F88F,1F8AE-1F8FF,1F90C-1F93A,1F93C-1F945,1F947-1FAFF,1FC00-1FFFD,"])

/-- Code points with the property Extender. -/
def extenderTable : RangeTable := RangeTable.decode
  (String.join [
  "B7,2D0-2D1,640,7FA,A71,AFB,B55,E46,EC6,180A,1843,1AA7,1C36,1C7B,3005,3031-3035,",
  "309D-309E,30FC-30FE,A015,A60C,A9CF,A9E6,AA70,AADD,AAF3-AAF4,FF70,10781-10782,10D4E,",
  "10D6A,10D6F,11237,1135D,113D2-113D3,115C6-115C8,11A98,16B42-16B43,16FE0-16FE1,16FE3,",
  "1E13C-1E13D,1E5EF,1E944-1E946,"])

/-- Code points with the property Grapheme_Base. -/
def graphemeBaseTable : RangeTable := RangeTable.decode
  (String.join [
  "20-7E,A0-AC,AE-2FF,370-377,37A-37F,384-38A,38C,38E-3A1,3A3-482,48A-52F,531-556,559-58A,",
  "58D-58F,5BE,5C0,5C3,5C6,5D0-5EA,5EF-5F4,606-60F,61B,61D-64A,660-66F,671-6D5,6DE,6E5-6E6,",
  "6E9,6EE-70D,710,712-72F,74D-7A5,7B1,7C0-7EA,7F4-7FA,7FE-815,81A,824,828,830-83E,840-858,",
  "85E,860-86A,870-88E,8A0-8C9,903-939,93B,93D-940,949-94C,94E-950,958-961,964-980,982-983,",
  "985-98C,98F-990,993-9A8,9AA-9B0,9B2,9B6-9B9,9BD,9BF-9C0,9C7-9C8,9CB-9CC,9CE,9DC-9DD,",
  "9DF-9E1,9E6-9FD,A03,A05-A0A,A0F-A10,A13-A28,A2A-A30,A32-A33,A35-A36,A38-A39,A3E-A40,",
  "A59-A5C,A5E,A66-A6F,A72-A74,A76,A83,A85-A8D,A8F-A91,A93-AA8,AAA-AB0,AB2-AB3,AB5-AB9,",
  "ABD-AC0,AC9,ACB-ACC,AD0,AE0-AE1,AE6-AF1,AF9,B02-B03,B05-B0C,B0F-B10,B13-B28,B2A-B30,",
  "B32-B33,B35-B39,B3D,B40,B47-B48,B4B-B4C,B5C-B5D,B5F-B61,B66-B77,B83,B85-B8A,B8E-B90,",
  "B92-B95,B99-B9A,B9C,B9E-B9F,BA3-BA4,BA8-BAA,BAE-BB9,BBF,BC1-BC2,BC6-BC8,BCA-BCC,BD0,",
  "BE6-BFA,C01-C03,C05-C0C,C0E-C10,C12-C28,C2A-C39,C3D,C41-C44,C58-C5A,C5D,C60-C61,C66-C6F,",
  "C77-C80,C82-C8C,C8E-C90,C92-CA8,CAA-CB3,CB5-CB9,CBD-CBE,CC1,CC3-CC4,CDD-CDE,CE0-CE1,",
  "CE6-CEF,CF1-CF3,D02-D0C,D0E-D10,D12-D3A,D3D,D3F-D40,D46-D48,D4A-D4C,D4E-D4F,D54-D56,",
  "D58-D61,D66-D7F,D82-D83,D85-D96,D9A-DB1,DB3-DBB,DBD,DC0-DC6,DD0-DD1,DD8-DDE,DE6-DEF,",
  "DF2-DF4,E01-E30,E32-E33,E3F-E46,E4F-E5B,E81-E82,E84,E86-E8A,E8C-EA3,EA5,EA7-EB0,EB2-EB3,",
  "EBD,EC0-EC4,EC6,ED0-ED9,EDC-EDF,F00-F17,F1A-F34,F36,F38,F3A-F47,F49-F6C,F7F,F85,F88-F8C,",
  "FBE-FC5,FC7-FCC,FCE-FDA,1000-102C,1031,1038,103B-103C,103F-1057,105A-105D,1061-1070,",
  "1075-1081,1083-1084,1087-108C,108E-109C,109E-10C5,10C7,10CD,10D0-1248,124A-124D,",
  "1250-1256,1258,125A-125D,1260-1288,128A-128D,1290-12B0,12B2-12B5,12B8-12BE,12C0,",
  "12C2-12C5,12C8-12D6,12D8-1310,1312-1315,1318-135A,1360-137C,1380-1399,13A0-13F5,",
  "13F8-13FD,1400-169C,16A0-16F8,1700-1711,171F-1731,1735-1736,1740-1751,1760-176C,",
  "176E-1770,1780-17B3,17B6,17BE-17C5,17C7-17C8,17D4-17DC,17E0-17E9,17F0-17F9,1800-180A,",
  "1810-1819,1820-1878,1880-1884,1887-18A8,18AA,18B0-18F5,1900-191E,1923-1926,1929-192B,",
  "1930-1931,1933-1938,1940,1944-196D,1970-1974,1980-19AB,19B0-19C9,19D0-19DA,19DE-1A16,",
  "1A19-1A1A,1A1E-1A55,1A57,1A61,1A63-1A64,1A6D-1A72,1A80-1A89,1A90-1A99,1AA0-1AAD,",
  "1B04-1B33,1B3E-1B41,1B45-1B4C,1B4E-1B6A,1B74-1B7F,1B82-1BA1,1BA6-1BA7,1BAE-1BE5,1BE7,",
  "1BEA-1BEC,1BEE,1BFC-1C2B,1C34-1C35,1C3B-1C49,1C4D-1C8A,1C90-1CBA,1CBD-1CC7,1CD3,1CE1,",
  "1CE9-1CEC,1CEE-1CF3,1CF5-1CF7,1CFA,1D00-1DBF,1E00-1F15,1F18-1F1D,1F20-1F45,1F48-1F4D,",
  "1F50-1F57,1F59,1F5B,1F5D,1F5F-1F7D,1F80-1FB4,1FB6-1FC4,1FC6-1FD3,1FD6-1FDB,1FDD-1FEF,",
  "1FF2-1FF4,1FF6-1FFE,2000-200A,2010-2027,202F-205F,2070-2071,2074-208E,2090-209C,",
  "20A0-20C0,2100-218B,2190-2429,2440-244A,2460-2B73,2B76-2B95,2B97-2CEE,2CF2-2CF3,",
  "2CF9-2D25,2D27,2D2D,2D30-2D67,2D6F-2D70,2D80-2D96,2DA0-2DA6,2DA8-2DAE,2DB0-2DB6,",
  "2DB8-2DBE,2DC0-2DC6,2DC8-2DCE,2DD0-2DD6,2DD8-2DDE,2E00-2E5D,2E80-2E99,2E9B-2EF3,",
  "2F00-2FD5,2FF0-3029,3030-303F,3041-3096,309B-30FF,3105-312F,3131-318E,3190-31E5,",
  "31EF-321E,3220-A48C,A490-A4C6,A4D0-A62B,A640-A66E,A673,A67E-A69D,A6A0-A6EF,A6F2-A6F7,",
  "A700-A7CD,A7D0-A7D1,A7D3,A7D5-A7DC,A7F2-A801,A803-A805,A807-A80A,A80C-A824,A827-A82B,",
  "A830-A839,A840-A877,A880-A8C3,A8CE-A8D9,A8F2-A8FE,A900-A925,A92E-A946,A952,A95F-A97C,",
  "A983-A9B2,A9B4-A9B5,A9BA-A9BB,A9BE-A9BF,A9C1-A9CD,A9CF-A9D9,A9DE-A9E4,A9E6-A9FE,",
  "AA00-AA28,AA2F-AA30,AA33-AA34,AA40-AA42,AA44-AA4B,AA4D,AA50-AA59,AA5C-AA7B,AA7D-AAAF,",
  "AAB1,AAB5-AAB6,AAB9-AABD,AAC0,AAC2,AADB-AAEB,AAEE-AAF5,AB01-AB06,AB09-AB0E,AB11-AB16,",
  "AB20-AB26,AB28-AB2E,AB30-AB6B,AB70-ABE4,ABE6-ABE7,ABE9-ABEC,ABF0-ABF9,AC00-D7A3,",
  "D7B0-D7C6,D7CB-D7FB,F900-FA6D,FA70-FAD9,FB00-FB06,FB13-FB17,FB1D,FB1F-FB36,FB38-FB3C,",
  "FB3E,FB40-FB41,FB43-FB44,FB46-FBC2,FBD3-FD8F,FD92-FDC7,FDCF,FDF0-FDFF,FE10-FE19,",
  "FE30-FE52,FE54-FE66,FE68-FE6B,FE70-FE74,FE76-FEFC,FF01-FF9D,FFA0-FFBE,FFC2-FFC7,",
  "FFCA-FFCF,FFD2-FFD7,FFDA-FFDC,FFE0-FFE6,FFE8-FFEE,FFFC-FFFD,10000-1000B,1000D-10026,",
  "10028-1003A,1003C-1003D,1003F-1004D,10050-1005D,10080-100FA,10100-10102,10107-10133,",
  "10137-1018E,10190-1019C,101A0,101D0-101FC,10280-1029C,102A0-102D0,102E1-102FB,",
  "10300-10323,1032D-1034A,10350-10375,10380-1039D,1039F-103C3,103C8-103D5,10400-1049D,",
  "104A0-104A9,104B0-104D3,104D8-104FB,10500-10527,10530-10563,1056F-1057A,1057C-1058A,",
  "1058C-10592,10594-10595,10597-105A1,105A3-105B1,105B3-105B9,105BB-105BC,105C0-105F3,",
  "10600-10736,10740-10755,10760-10767,10780-10785,10787-107B0,107B2-107BA,10800-10805,",
  "10808,1080A-10835,10837-10838,1083C,1083F-10855,10857-1089E,108A7-108AF,108E0-108F2,",
  "108F4-108F5,108FB-1091B,1091F-10939,1093F,10980-109B7,109BC-109CF,109D2-10A00,",
  "10A10-10A13,10A15-10A17,10A19-10A35,10A40-10A48,10A50-10A58,10A60-10A9F,10AC0-10AE4,",
  "10AEB-10AF6,10B00-10B35,10B39-10B55,10B58-10B72,10B78-10B91,10B99-10B9C,10BA9-10BAF,",
  "10C00-10C48,10C80-10CB2,10CC0-10CF2,10CFA-10D23,10D30-10D39,10D40-10D65,10D6E-10D85,",
  "10D8E-10D8F,10E60-10E7E,10E80-10EA9,10EAD,10EB0-10EB1,10EC2-10EC4,10F00-10F27,",
  "10F30-10F45,10F51-10F59,10F70-10F81,10F86-10F89,10FB0-10FCB,10FE0-10FF6,11000,",
  "11002-11037,11047-1104D,11052-1106F,11071-11072,11075,11082-110B2,110B7-110B8,",
  "110BB-110BC,110BE-110C1,110D0-110E8,110F0-110F9,11103-11126,1112C,11136-11147,",
  "11150-11172,11174-11176,11182-111B5,111BF,111C1-111C8,111CD-111CE,111D0-111DF,",
  "111E1-111F4,11200-11211,11213-1122E,11232-11233,11238-1123D,1123F-11240,11280-11286,",
  "11288,1128A-1128D,1128F-1129D,1129F-112A9,112B0-112DE,112E0-112E2,112F0-112F9,",
  "11302-11303,11305-1130C,1130F-11310,11313-11328,1132A-11330,11332-11333,11335-11339,",
  "1133D,1133F,11341-11344,11347-11348,1134B-1134C,11350,1135D-11363,11380-11389,1138B,",
  "1138E,11390-113B5,113B7,113B9-113BA,113CA,113CC-113CD,113D1,113D3-113D5,113D7-113D8,",
  "11400-11437,11440-11441,11445,11447-1145B,1145D,1145F-11461,11480-114AF,114B1-114B2,",
  "114B9,114BB-114BC,114BE,114C1,114C4-114C7,114D0-114D9,11580-115AE,115B0-115B1,",
  "115B8-115BB,115BE,115C1-115DB,11600-11632,1163B-1163C,1163E,11641-11644,11650-11659,",
  "11660-1166C,11680-116AA,116AC,116AE-116AF,116B8-116B9,116C0-116C9,116D0-116E3,",
  "11700-1171A,1171E,11720-11721,11726,11730-11746,11800-1182E,11838,1183B,118A0-118F2,",
  "118FF-11906,11909,1190C-11913,11915-11916,11918-1192F,11931-11935,11937-11938,",
  "1193F-11942,11944-11946,11950-11959,119A0-119A7,119AA-119D3,119DC-119DF,119E1-119E4,",
  "11A00,11A0B-11A32,11A39-11A3A,11A3F-11A46,11A50,11A57-11A58,11A5C-11A89,11A97,",
  "11A9A-11AA2,11AB0-11AF8,11B00-11B09,11BC0-11BE1,11BF0-11BF9,11C00-11C08,11C0A-11C2F,",
  "11C3E,11C40-11C45,11C50-11C6C,11C70-11C8F,11CA9,11CB1,11CB4,11D00-11D06,11D08-11D09,",
  "11D0B-11D30,11D46,11D50-11D59,11D60-11D65,11D67-11D68,11D6A-11D8E,11D93-11D94,11D96,",
  "11D98,11DA0-11DA9,11EE0-11EF2,11EF5-11EF8,11F02-11F10,11F12-11F35,11F3E-11F3F,",
  "11F43-11F59,11FB0,11FC0-11FF1,11FFF-12399,12400-1246E,12470-12474,12480-12543,",
  "12F90-12FF2,13000-1342F,13441-13446,13460-143FA,14400-14646,16100-1611D,1612A-1612C,",
  "16130-16139,16800-16A38,16A40-16A5E,16A60-16A69,16A6E-16ABE,16AC0-16AC9,16AD0-16AED,",
  "16AF5,16B00-16B2F,16B37-16B45,16B50-16B59,16B5B-16B61,16B63-16B77,16B7D-16B8F,",
  "16D40-16D79,16E40-16E9A,16F00-16F4A,16F50-16F87,16F93-16F9F,16FE0-16FE3,17000-187F7,",
  "18800-18CD5,18CFF-18D08,1AFF0-1AFF3,1AFF5-1AFFB,1AFFD-1AFFE,1B000-1B122,1B132,",
  "1B150-1B152,1B155,1B164-1B167,1B170-1B2FB,1BC00-1BC6A,1BC70-1BC7C,1BC80-1BC88,",
  "1BC90-1BC99,1BC9C,1BC9F,1CC00-1CCF9,1CD00-1CEB3,1CF50-1CFC3,1D000-1D0F5,1D100-1D126,",
  "1D129-1D164,1D16A-1D16C,1D183-1D184,1D18C-1D1A9,1D1AE-1D1EA,1D200-1D241,1D245,",
  "1D2C0-1D2D3,1D2E0-1D2F3,1D300-1D356,1D360-1D378,1D400-1D454,1D456-1D49C,1D49E-1D49F,",
  "1D4A2,1D4A5-1D4A6,1D4A9-1D4AC,1D4AE-1D4B9,1D4BB,1D4BD-1D4C3,1D4C5-1D505,1D507-1D50A,",
  "1D50D-1D514,1D516-1D51C,1D51E-1D539,1D53B-1D53E,1D540-1D544,1D546,1D54A-1D550,",
  "1D552-1D6A5,1D6A8-1D7CB,1D7CE-1D9FF,1DA37-1DA3A,1DA6D-1DA74,1DA76-1DA83,1DA85-1DA8B,",
  "1DF00-1DF1E,1DF25-1DF2A,1E030-1E06D,1E100-1E12C,1E137-1E13D,1E140-1E149,1E14E-1E14F,",
  "1E290-1E2AD,1E2C0-1E2EB,1E2F0-1E2F9,1E2FF,1E4D0-1E4EB,1E4F0-1E4F9,1E5D0-1E5ED,",
  "1E5F0-1E5FA,1E5FF,1E7E0-1E7E6,1E7E8-1E7EB,1E7ED-1E7EE,1E7F0-1E7FE,1E800-1E8C4,",
  "1E8C7-1E8CF,1E900-1E943,1E94B,1E950-1E959,1E95E-1E95F,1EC71-1ECB4,1ED01-1ED3D,",
  "1EE00-1EE03,1EE05-1EE1F,1EE21-1EE22,1EE24,1EE27,1EE29-1EE32,1EE34-1EE37,1EE39,1EE3B,",
  "1EE42,1EE47,1EE49,1EE4B,1EE4D-1EE4F,1EE51-1EE52,1EE54,1EE57,1EE59,1EE5B,1EE5D,1EE5F,",
  "1EE61-1EE62,1EE64,1EE67-1EE6A,1EE6C-1EE72,1EE74-1EE77,1EE79-1EE7C,1EE7E,1EE80-1EE89,",
  "1EE8B-1EE9B,1EEA1-1EEA3,1EEA5-1EEA9,1EEAB-1EEBB,1EEF0-1EEF1,1F000-1F02B,1F030-1F093,",
  "1F0A0-1F0AE,1F0B1-1F0BF,1F0C1-1F0CF,1F0D1-1F0F5,1F100-1F1AD,1F1E6-1F202,1F210-1F23B,",
  "1F240-1F248,1F250-1F251,1F260-1F265,1F300-1F6D7,1F6DC-1F6EC,1F6F0-1F6FC,1F700-1F776,",
  "1F77B-1F7D9,1F7E0-1F7EB,1F7F0,1F800-1F80B,1F810-1F847,1F850-1F859,1F860-1F887,",
  "1F890-1F8AD,1F8B0-1F8BB,1F8C0-1F8C1,1F900-1FA53,1FA60-1FA6D,1FA70-1FA7C,1FA80-1FA89,",
  "1FA8F-1FAC6,1FACE-1FADC,1FADF-1FAE9,1FAF0-1FAF8,1FB00-1FB92,1FB94-1FBF9,20000-2A6DF,",
  "2A700-2B739,2B740-2B81D,2B820-2CEA1,2CEB0-2EBE0,2EBF0-2EE5D,2F800-2FA1D,30000-3134A,",
  "31350-323AF,"])

/-- Code points with the property Grapheme_Extend. -/
def graphemeExtendTable : RangeTable := RangeTable.decode
  (String.join [
  "300-36F,483-489,591-5BD,5BF,5C1-5C2,5C4-5C5,5C7,610-61A,64B-65F,670,6D6-6DC,6DF-6E4,",
  "6E7-6E8,6EA-6ED,711,730-74A,7A6-7B0,7EB-7F3,7FD,816-819,81B-823,825-827,829-82D,859-85B,",
  "897-89F,8CA-8E1,8E3-902,93A,93C,941-948,94D,951-957,962-963,981,9BC,9BE,9C1-9C4,9CD,9D7,",
  "9E2-9E3,9FE,A01-A02,A3C,A41-A42,A47-A48,A4B-A4D,A51,A70-A71,A75,A81-A82,ABC,AC1-AC5,",
  "AC7-AC8,ACD,AE2-AE3,AFA-AFF,B01,B3C,B3E-B3F,B41-B44,B4D,B55-B57,B62-B63,B82,BBE,BC0,BCD,",
  "BD7,C00,C04,C3C,C3E-C40,C46-C48,C4A-C4D,C55-C56,C62-C63,C81,CBC,CBF-CC0,CC2,CC6-CC8,",
  "CCA-CCD,CD5-CD6,CE2-CE3,D00-D01,D3B-D3C,D3E,D41-D44,D4D,D57,D62-D63,D81,DCA,DCF,DD2-DD4,",
  "DD6,DDF,E31,E34-E3A,E47-E4E,EB1,EB4-EBC,EC8-ECE,F18-F19,F35,F37,F39,F71-F7E,F80-F84,",
  "F86-F87,F8D-F97,F99-FBC,FC6,102D-1030,1032-1037,1039-103A,103D-103E,1058-1059,105E-1060,",
  "1071-1074,1082,1085-1086,108D,109D,135D-135F,1712-1715,1732-1734,1752-1753,1772-1773,",
  "17B4-17B5,17B7-17BD,17C6,17C9-17D3,17DD,180B-180D,180F,1885-1886,18A9,1920-1922,",
  "1927-1928,1932,1939-193B,1A17-1A18,1A1B,1A56,1A58-1A5E,1A60,1A62,1A65-1A6C,1A73-1A7C,",
  "1A7F,1AB0-1ACE,1B00-1B03,1B34-1B3D,1B42-1B44,1B6B-1B73,1B80-1B81,1BA2-1BA5,1BA8-1BAD,",
  "1BE6,1BE8-1BE9,1BED,1BEF-1BF3,1C2C-1C33,1C36-1C37,1CD0-1CD2,1CD4-1CE0,1CE2-1CE8,1CED,",
  "1CF4,1CF8-1CF9,1DC0-1DFF,200C,20D0-20F0,2CEF-2CF1,2D7F,2DE0-2DFF,302A-302F,3099-309A,",
  "A66F-A672,A674-A67D,A69E-A69F,A6F0-A6F1,A802,A806,A80B,A825-A826,A82C,A8C4-A8C5,",
  "A8E0-A8F1,A8FF,A926-A92D,A947-A951,A953,A980-A982,A9B3,A9B6-A9B9,A9BC-A9BD,A9C0,A9E5,",
  "AA29-AA2E,AA31-AA32,AA35-AA36,AA43,AA4C,AA7C,AAB0,AAB2-AAB4,AAB7-AAB8,AABE-AABF,AAC1,",
  "AAEC-AAED,AAF6,ABE5,ABE8,ABED,FB1E,FE00-FE0F,FE20-FE2F,FF9E-FF9F,101FD,102E0,",
  "10376-1037A,10A01-10A03,10A05-10A06,10A0C-10A0F,10A38-10A3A,10A3F,10AE5-10AE6,",
  "10D24-10D27,10D69-10D6D,10EAB-10EAC,10EFC-10EFF,10F46-10F50,10F82-10F85,11001,",
  "11038-11046,11070,11073-11074,1107F-11081,110B3-110B6,110B9-110BA,110C2,11100-11102,",
  "11127-1112B,1112D-11134,11173,11180-11181,111B6-111BE,111C0,111C9-111CC,111CF,",
  "1122F-11231,11234-11237,1123E,11241,112DF,112E3-112EA,11300-11301,1133B-1133C,1133E,",
  "11340,1134D,11357,11366-1136C,11370-11374,113B8,113BB-113C0,113C2,113C5,113C7-113C9,",
  "113CE-113D0,113D2,113E1-113E2,11438-1143F,11442-11444,11446,1145E,114B0,114B3-114B8,",
  "114BA,114BD,114BF-114C0,114C2-114C3,115AF,115B2-115B5,115BC-115BD,115BF-115C0,",
  "115DC-115DD,11633-1163A,1163D,1163F-11640,116AB,116AD,116B0-116B7,1171D,1171F,",
  "11722-11725,11727-1172B,1182F-11837,11839-1183A,11930,1193B-1193E,11943,119D4-119D7,",
  "119DA-119DB,119E0,11A01-11A0A,11A33-11A38,11A3B-11A3E,11A47,11A51-11A56,11A59-11A5B,",
  "11A8A-11A96,11A98-11A99,11C30-11C36,11C38-11C3D,11C3F,11C92-11CA7,11CAA-11CB0,",
  "11CB2-11CB3,11CB5-11CB6,11D31-11D36,11D3A,11D3C-11D3D,11D3F-11D45,11D47,11D90-11D91,",
  "11D95,11D97,11EF3-11EF4,11F00-11F01,11F36-11F3A,11F40-11F42,11F5A,13440,13447-13455,",
  "1611E-16129,1612D-1612F,16AF0-16AF4,16B30-16B36,16F4F,16F8F-16F92,16FE4,16FF0-16FF1,",
  "1BC9D-1BC9E,1CF00-1CF2D,1CF30-1CF46,1D165-1D169,1D16D-1D172,1D17B-1D182,1D185-1D18B,",
  "1D1AA-1D1AD,1D242-1D244,1DA00-1DA36,1DA3B-1DA6C,1DA75,1DA84,1DA9B-1DA9F,1DAA1-1DAAF,",
  "1E000-1E006,1E008-1E018,1E01B-1E021,1E023-1E024,1E026-1E02A,1E08F,1E130-1E136,1E2AE,",
  "1E2EC-1E2EF,1E4EC-1E4EF,1E5EE-1E5EF,1E8D0-1E8D6,1E944-1E94A,E0020-E007F,E0100-E01EF,"])

/-- Code points with the property Grapheme_Link. -/
def graphemeLinkTable : RangeTable := RangeTable.decode
  (String.join [
  "94D,9CD,A4D,ACD,B4D,BCD,C4D,CCD,D3B-D3C,D4D,DCA,E3A,EBA,F84,1039-103A,1714-1715,1734,",
  "17D2,1A60,1B44,1BAA-1BAB,1BF2-1BF3,2D7F,A806,A82C,A8C4,A953,A9C0,AAF6,ABED,10A3F,11046,",
  "11070,1107F,110B9,11133-11134,111C0,11235,112EA,1134D,113CE-113D0,11442,114C2,115BF,",
  "1163F,116B6,1172B,11839,1193D-1193E,119E0,11A34,11A47,11A99,11C3F,11D44-11D45,11D97,",
  "11F41-11F42,1612F,"])

/-- Code points with the property Hex_Digit. -/
def hexDigitTable : RangeTable := RangeTable.decode
  (String.join [
  "30-39,41-46,61-66,FF10-FF19,FF21-FF26,FF41-FF46,"])

/-- Code points with the property Hyphen. -/
def hyphenTable : RangeTable := RangeTable.decode
  (String.join [
  "2D,AD,58A,1806,2010-2011,2E17,30FB,FE63,FF0D,FF65,"])

/-- Code points with the property IDS_Binary_Operator. -/
def idsBinaryOperatorTable : RangeTable := RangeTable.decode
  (String.join [
  "2FF0-2FF1,2FF4-2FFD,31EF,"])

/-- Code points with the property IDS_Trinary_Operator. -/
def idsTrinaryOperatorTable : RangeTable := RangeTable.decode
  (String.join [
  "2FF2-2FF3,"])

/-- Code points with the property IDS_Unary_Operator. -/
def idsUnaryOperatorTable : RangeTable := RangeTable.decode
  (String.join [
  "2FFE-2FFF,"])

/-- Code points with the property Ideographic. -/
def ideographicTable : RangeTable := RangeTable.decode
  (String.join [
  "3006-3007,3021-3029,3038-303A,3400-4DBF,4E00-9FFF,F900-FA6D,FA70-FAD9,16FE4,17000-187F7,",
  "18800-18CD5,18CFF-18D08,1B170-1B2FB,20000-2A6DF,2A700-2B739,2B740-2B81D,2B820-2CEA1,",
  "2CEB0-2EBE0,2EBF0-2EE5D,2F800-2FA1D,30000-3134A,31350-323AF,"])

/-- Code points with the property Join_Control. -/
def joinControlTable : RangeTable := RangeTable.decode
  (String.join [
  "200C-200D,"])

/-- Code points with the property Logical_Order_Exception. -/
def logicalOrderExceptionTable : RangeTable := RangeTable.decode
  (String.join [
  "E40-E44,EC0-EC4,19B5-19B7,19BA,AAB5-AAB6,AAB9,AABB-AABC,"])

/-- Code points with the property Math. -/
def mathTable : RangeTable := RangeTable.decode
  (String.join [
  "2B,3C-3E,5E,7C,7E,AC,B1,D7,F7,3D0-3D2,3D5,3F0-3F1,3F4-3F6,606-608,2016,2032-2034,2040,",
  "2044,2052,2061-2064,207A-207E,208A-208E,20D0-20DC,20E1,20E5-20E6,20EB-20EF,2102,2107,",
  "210A-2113,2115,2118-211D,2124,2128-2129,212C-212D,212F-2131,2133-2138,213C-2149,214B,",
  "2190-21A7,21A9-21AE,21B0-21B1,21B6-21B7,21BC-21DB,21DD,21E4-21E5,21F4-22FF,2308-230B,",
  "2320-2321,237C,239B-23B5,23B7,23D0,23DC-23E2,25A0-25A1,25AE-25B7,25BC-25C1,25C6-25C7,",
  "25CA-25CB,25CF-25D3,25E2,25E4,25E7-25EC,25F8-25FF,2605-2606,2640,2642,2660-2663,",
  "266D-266F,27C0-27FF,2900-2AFF,2B30-2B44,2B47-2B4C,FB29,FE61-FE66,FE68,FF0B,FF1C-FF1E,",
  "FF3C,FF3E,FF5C,FF5E,FFE2,FFE9-FFEC,10D8E-10D8F,1D400-1D454,1D456-1D49C,1D49E-1D49F,",
  "1D4A2,1D4A5-1D4A6,1D4A9-1D4AC,1D4AE-1D4B9,1D4BB,1D4BD-1D4C3,1D4C5-1D505,1D507-1D50A,",
  "1D50D-1D514,1D516-1D51C,1D51E-1D539,1D53B-1D53E,1D540-1D544,1D546,1D54A-1D550,",
  "1D552-1D6A5,1D6A8-1D7CB,1D7CE-1D7FF,1EE00-1EE03,1EE05-1EE1F,1EE21-1EE22,1EE24,1EE27,",
  "1EE29-1EE32,1EE34-1EE37,1EE39,1EE3B,1EE42,1EE47,1EE49,1EE4B,1EE4D-1EE4F,1EE51-1EE52,",
  "1EE54,1EE57,1EE59,1EE5B,1EE5D,1EE5F,1EE61-1EE62,1EE64,1EE67-1EE6A,1EE6C-1EE72,",
  "1EE74-1EE77,1EE79-1EE7C,1EE7E,1EE80-1EE89,1EE8B-1EE9B,1EEA1-1EEA3,1EEA5-1EEA9,",
  "1EEAB-1EEBB,1EEF0-1EEF1,"])

/-- Code points with the property Modifier_Combining_Mark. -/
def modifierCombiningMarkTable : RangeTable := RangeTable.decode
  (String.join [
  "654-655,658,6DC,6E3,6E7-6E8,8CA-8CB,8CD-8CF,8D3,8F3,"])

/-- Code points with the property Noncharacter_Code_Point. -/
def noncharacterCodePointTable : RangeTable := RangeTable.decode
  (String.join [
  "FDD0-FDEF,FFFE-FFFF,1FFFE-1FFFF,2FFFE-2FFFF,3FFFE-3FFFF,4FFFE-4FFFF,5FFFE-5FFFF,",
  "6FFFE-6FFFF,7FFFE-7FFFF,8FFFE-8FFFF,9FFFE-9FFFF,AFFFE-AFFFF,BFFFE-BFFFF,CFFFE-CFFFF,",
  "DFFFE-DFFFF,EFFFE-EFFFF,FFFFE-FFFFF,10FFFE-10FFFF,"])

/-- Code points with the property Other_Alphabetic. -/
def otherAlphabeticTable : RangeTable := RangeTable.decode
  (String.join [
  "345,363-36F,5B0-5BD,5BF,5C1-5C2,5C4-5C5,5C7,610-61A,64B-657,659-65F,670,6D6-6DC,6E1-6E4,",
  "6E7-6E8,6ED,711,730-73F,7A6-7B0,816-817,81B-823,825-827,829-82C,897,8D4-8DF,8E3-8E9,",
  "8F0-903,93A-93B,93E-94C,94E-94F,955-957,962-963,981-983,9BE-9C4,9C7-9C8,9CB-9CC,9D7,",
  "9E2-9E3,A01-A03,A3E-A42,A47-A48,A4B-A4C,A51,A70-A71,A75,A81-A83,ABE-AC5,AC7-AC9,ACB-ACC,",
  "AE2-AE3,AFA-AFC,B01-B03,B3E-B44,B47-B48,B4B-B4C,B56-B57,B62-B63,B82,BBE-BC2,BC6-BC8,",
  "BCA-BCC,BD7,C00-C04,C3E-C44,C46-C48,C4A-C4C,C55-C56,C62-C63,C81-C83,CBE-CC4,CC6-CC8,",
  "CCA-CCC,CD5-CD6,CE2-CE3,CF3,D00-D03,D3E-D44,D46-D48,D4A-D4C,D57,D62-D63,D81-D83,DCF-DD4,",
  "DD6,DD8-DDF,DF2-DF3,E31,E34-E3A,E4D,EB1,EB4-EB9,EBB-EBC,ECD,F71-F83,F8D-F97,F99-FBC,",
  "102B-1036,1038,103B-103E,1056-1059,105E-1060,1062-1064,1067-106D,1071-1074,1082-108D,",
  "108F,109A-109D,1712-1713,1732-1733,1752-1753,1772-1773,17B6-17C8,1885-1886,18A9,",
  "1920-192B,1930-1938,1A17-1A1B,1A55-1A5E,1A61-1A74,1ABF-1AC0,1ACC-1ACE,1B00-1B04,",
  "1B35-1B43,1B80-1B82,1BA1-1BA9,1BAC-1BAD,1BE7-1BF1,1C24-1C36,1DD3-1DF4,24B6-24E9,",
  "2DE0-2DFF,A674-A67B,A69E-A69F,A802,A80B,A823-A827,A880-A881,A8B4-A8C3,A8C5,A8FF,",
  "A926-A92A,A947-A952,A980-A983,A9B4-A9BF,A9E5,AA29-AA36,AA43,AA4C-AA4D,AA7B-AA7D,AAB0,",
  "AAB2-AAB4,AAB7-AAB8,AABE,AAEB-AAEF,AAF5,ABE3-ABEA,FB1E,10376-1037A,10A01-10A03,",
  "10A05-10A06,10A0C-10A0F,10D24-10D27,10D69,10EAB-10EAC,10EFC,11000-11002,11038-11045,",
  "11073-11074,11080-11082,110B0-110B8,110C2,11100-11102,11127-11132,11145-11146,",
  "11180-11182,111B3-111BF,111CE-111CF,1122C-11234,11237,1123E,11241,112DF-112E8,",
  "11300-11303,1133E-11344,11347-11348,1134B-1134C,11357,11362-11363,113B8-113C0,113C2,",
  "113C5,113C7-113CA,113CC-113CD,11435-11441,11443-11445,114B0-114C1,115AF-115B5,",
  "115B8-115BE,115DC-115DD,11630-1163E,11640,116AB-116B5,1171D-1172A,1182C-11838,",
  "11930-11935,11937-11938,1193B-1193C,11940,11942,119D1-119D7,119DA-119DF,119E4,",
  "11A01-11A0A,11A35-11A39,11A3B-11A3E,11A51-11A5B,11A8A-11A97,11C2F-11C36,11C38-11C3E,",
  "11C92-11CA7,11CA9-11CB6,11D31-11D36,11D3A,11D3C-11D3D,11D3F-11D41,11D43,11D47,",
  "11D8A-11D8E,11D90-11D91,11D93-11D96,11EF3-11EF6,11F00-11F01,11F03,11F34-11F3A,",
  "11F3E-11F40,1611E-1612E,16F4F,16F51-16F87,16F8F-16F92,16FF0-16FF1,1BC9E,1E000-1E006,",
  "1E008-1E018,1E01B-1E021,1E023-1E024,1E026-1E02A,1E08F,1E947,1F130-1F149,1F150-1F169,",
  "1F170-1F189,"])

/-- Code points with the property Other_Default_Ignorable_Code_Point. -/
def otherDefaultIgnorableCodePointTable : RangeTable := RangeTable.decode
  (String.join [
  "34F,115F-1160,17B4-17B5,2065,3164,FFA0,FFF0-FFF8,E0000,E0002-E001F,E0080-E00FF,",
  "E01F0-E0FFF,"])

/-- Code points with the property Other_Grapheme_Extend. -/
def otherGraphemeExtendTable : RangeTable := RangeTable.decode
  (String.join [
  "9BE,9D7,B3E,B57,BBE,BD7,CC0,CC2,CC7-CC8,CCA-CCB,CD5-CD6,D3E,D57,DCF,DDF,1715,1734,1B35,",
  "1B3B,1B3D,1B43-1B44,1BAA,1BF2-1BF3,200C,302E-302F,A953,A9C0,FF9E-FF9F,111C0,11235,1133E,",
  "1134D,11357,113B8,113C2,113C5,113C7-113C9,113CF,114B0,114BD,115AF,116B6,11930,1193D,",
  "11F41,16FF0-16FF1,1D165-1D166,1D16D-1D172,E0020-E007F,"])

/-- Code points with the property Other_Math. -/
def otherMathTable : RangeTable := RangeTable.decode
  (String.join [
  "5E,3D0-3D2,3D5,3F0-3F1,3F4-3F5,2016,2032-2034,2040,2061-2064,207D-207E,208D-208E,",
  "20D0-20DC,20E1,20E5-20E6,20EB-20EF,2102,2107,210A-2113,2115,2119-211D,2124,2128-2129,",
  "212C-212D,212F-2131,2133-2138,213C-213F,2145-2149,2195-2199,219C-219F,21A1-21A2,",
  "21A4-21A5,21A7,21A9-21AD,21B0-21B1,21B6-21B7,21BC-21CD,21D0-21D1,21D3,21D5-21DB,21DD,",
  "21E4-21E5,2308-230B,23B4-23B5,23B7,23D0,23E2,25A0-25A1,25AE-25B6,25BC-25C0,25C6-25C7,",
  "25CA-25CB,25CF-25D3,25E2,25E4,25E7-25EC,2605-2606,2640,2642,2660-2663,266D-266E,",
  "27C5-27C6,27E6-27EF,2983-2998,29D8-29DB,29FC-29FD,FE61,FE63,FE68,FF3C,FF3E,1D400-1D454,",
  "1D456-1D49C,1D49E-1D49F,1D4A2,1D4A5-1D4A6,1D4A9-1D4AC,1D4AE-1D4B9,1D4BB,1D4BD-1D4C3,",
  "1D4C5-1D505,1D507-1D50A,1D50D-1D514,1D516-1D51C,1D51E-1D539,1D53B-1D53E,1D540-1D544,",
  "1D546,1D54A-1D550,1D552-1D6A5,1D6A8-1D6C0,1D6C2-1D6DA,1D6DC-1D6FA,1D6FC-1D714,",
  "1D716-1D734,1D736-1D74E,1D750-1D76E,1D770-1D788,1D78A-1D7A8,1D7AA-1D7C2,1D7C4-1D7CB,",
  "1D7CE-1D7FF,1EE00-1EE03,1EE05-1EE1F,1EE21-1EE22,1EE24,1EE27,1EE29-1EE32,1EE34-1EE37,",
  "1EE39,1EE3B,1EE42,1EE47,1EE49,1EE4B,1EE4D-1EE4F,1EE51-1EE52,1EE54,1EE57,1EE59,1EE5B,",
  "1EE5D,1EE5F,1EE61-1EE62,1EE64,1EE67-1EE6A,1EE6C-1EE72,1EE74-1EE77,1EE79-1EE7C,1EE7E,",
  "1EE80-1EE89,1EE8B-1EE9B,1EEA1-1EEA3,1EEA5-1EEA9,1EEAB-1EEBB,"])

/-- Code points with the property Prepended_Concatenation_Mark. -/
def prependedConcatenationMarkTable : RangeTable := RangeTable.decode
  (String.join [
  "600-605,6DD,70F,890-891,8E2,110BD,110CD,"])

/-- Code points with the property Quotation_Mark. -/
def quotationMarkTable : RangeTable := RangeTable.decode
  (String.join [
  "22,27,AB,BB,2018-201F,2039-203A,2E42,300C-300F,301D-301F,FE41-FE44,FF02,FF07,FF62-FF63,"])

/-- Code points with the property Radical. -/
def radicalTable : RangeTable := RangeTable.decode
  (String.join [
  "2E80-2E99,2E9B-2EF3,2F00-2FD5,"])

/-- Code points with the property Regional_Indicator. -/
def regionalIndicatorTable : RangeTable := RangeTable.decode
  (String.join [
  "1F1E6-1F1FF,"])

/-- Code points with the property Sentence_Terminal. -/
def sentenceTerminalTable : RangeTable := RangeTable.decode
  (String.join [
  "21,2E,3F,589,61D-61F,6D4,700-702,7F9,837,839,83D-83E,964-965,104A-104B,1362,1367-1368,",
  "166E,1735-1736,17D4-17D5,1803,1809,1944-1945,1AA8-1AAB,1B4E-1B4F,1B5A-1B5B,1B5E-1B5F,",
  "1B7D-1B7F,1C3B-1C3C,1C7E-1C7F,2024,203C-203D,2047-2049,2CF9-2CFB,2E2E,2E3C,2E53-2E54,",
  "3002,A4FF,A60E-A60F,A6F3,A6F7,A876-A877,A8CE-A8CF,A92F,A9C8-A9C9,AA5D-AA5F,AAF0-AAF1,",
  "ABEB,FE12,FE15-FE16,FE52,FE56-FE57,FF01,FF0E,FF1F,FF61,10A56-10A57,10F55-10F59,",
  "10F86-10F89,11047-11048,110BE-110C1,11141-11143,111C5-111C6,111CD,111DE-111DF,",
  "11238-11239,1123B-1123C,112A9,113D4-113D5,1144B-1144C,115C2-115C3,115C9-115D7,",
  "11641-11642,1173C-1173E,11944,11946,11A42-11A43,11A9B-11A9C,11C41-11C42,11EF7-11EF8,",
  "11F43-11F44,16A6E-16A6F,16AF5,16B37-16B38,16B44,16D6E-16D6F,16E98,1BC9F,1DA88,"])

/-- Code points with the property Terminal_Punctuation. -/
def terminalPunctuationTable : RangeTable := RangeTable.decode
  (String.join [
  "21,2C,2E,3A-3B,3F,37E,387,589,5C3,60C,61B,61D-61F,6D4,700-70A,70C,7F8-7F9,830-835,",
  "837-83E,85E,964-965,E5A-E5B,F08,F0D-F12,104A-104B,1361-1368,166E,16EB-16ED,1735-1736,",
  "17D4-17D6,17DA,1802-1805,1808-1809,1944-1945,1AA8-1AAB,1B4E-1B4F,1B5A-1B5B,1B5D-1B5F,",
  "1B7D-1B7F,1C3B-1C3F,1C7E-1C7F,2024,203C-203D,2047-2049,2CF9-2CFB,2E2E,2E3C,2E41,2E4C,",
  "2E4E-2E4F,2E53-2E54,3001-3002,A4FE-A4FF,A60D-A60F,A6F3-A6F7,A876-A877,A8CE-A8CF,A92F,",
  "A9C7-A9C9,AA5D-AA5F,AADF,AAF0-AAF1,ABEB,FE12,FE15-FE16,FE50-FE52,FE54-FE57,FF01,FF0C,",
  "FF0E,FF1A-FF1B,FF1F,FF61,FF64,1039F,103D0,10857,1091F,10A56-10A57,10AF0-10AF5,",
  "10B3A-10B3F,10B99-10B9C,10F55-10F59,10F86-10F89,11047-1104D,110BE-110C1,11141-11143,",
  "111C5-111C6,111CD,111DE-111DF,11238-1123C,112A9,113D4-113D5,1144B-1144D,1145A-1145B,",
  "115C2-115C5,115C9-115D7,11641-11642,1173C-1173E,11944,11946,11A42-11A43,11A9B-11A9C,",
  "11AA1-11AA2,11C41-11C43,11C71,11EF7-11EF8,11F43-11F44,12470-12474,16A6E-16A6F,16AF5,",
  "16B37-16B39,16B44,16D6E-16D6F,16E97-16E98,1BC9F,1DA87-1DA8A,"])

/-- Code points with the property Unified_Ideograph. -/
def unifiedIdeographTable : RangeTable := RangeTable.decode
  (String.join [
  "3400-4DBF,4E00-9FFF,FA0E-FA0F,FA11,FA13-FA14,FA1F,FA21,FA23-FA24,FA27-FA29,20000-2A6DF,",
  "2A700-2B739,2B740-2B81D,2B820-2CEA1,2CEB0-2EBE0,2EBF0-2EE5D,30000-3134A,31350-323AF,"])

/-- Code points with the property Variation_Selector. -/
def variationSelectorTable : RangeTable := RangeTable.decode
  (String.join [
  "180B-180D,180F,FE00-FE0F,E0100-E01EF,"])

/-- The table of a binary property by its full name. -/
def binaryProperty? : String → Option RangeTable
  | "Alphabetic" => some alphabeticTable
  | "White_Space" => some whiteSpaceTable
  | "ID_Start" => some idStartTable
  | "ID_Continue" => some idContinueTable
  | "XID_Start" => some xidStartTable
  | "XID_Continue" => some xidContinueTable
  | "Other_ID_Start" => some otherIdStartTable
  | "Other_ID_Continue" => some otherIdContinueTable
  | "Pattern_Syntax" => some patternSyntaxTable
  | "Pattern_White_Space" => some patternWhiteSpaceTable
  | "ID_Compat_Math_Start" => some idCompatMathStartTable
  | "ID_Compat_Math_Continue" => some idCompatMathContinueTable
  | "Lowercase" => some lowercaseTable
  | "Uppercase" => some uppercaseTable
  | "Cased" => some casedTable
  | "Case_Ignorable" => some caseIgnorableTable
  | "Changes_When_Lowercased" => some changesWhenLowercasedTable
  | "Changes_When_Uppercased" => some changesWhenUppercasedTable
  | "Changes_When_Titlecased" => some changesWhenTitlecasedTable
  | "Changes_When_Casefolded" => some changesWhenCasefoldedTable
  | "Changes_When_Casemapped" => some changesWhenCasemappedTable
  | "Other_Lowercase" => some otherLowercaseTable
  | "Other_Uppercase" => some otherUppercaseTable
  | "Soft_Dotted" => some softDottedTable
  | "ASCII_Hex_Digit" => some asciiHexDigitTable
  | "Bidi_Control" => some bidiControlTable
  | "Bidi_Mirrored" => some bidiMirroredTable
  | "Dash" => some dashTable
  | "Default_Ignorable_Code_Point" => some defaultIgnorableCodePointTable
  | "Deprecated" => some deprecatedTable
  | "Diacritic" => some diacriticTable
  | "Emoji" => some emojiTable
  | "Emoji_Component" => some emojiComponentTable
  | "Emoji_Modifier" => some emojiModifierTable
  | "Emoji_Modifier_Base" => some emojiModifierBaseTable
  | "Emoji_Presentation" => some emojiPresentationTable
  | "Extended_Pictographic" => some extendedPictographicTable
  | "Extender" => some extenderTable
  | "Grapheme_Base" => some graphemeBaseTable
  | "Grapheme_Extend" => some graphemeExtendTable
  | "Grapheme_Link" => some graphemeLinkTable
  | "Hex_Digit" => some hexDigitTable
  | "Hyphen" => some hyphenTable
  | "IDS_Binary_Operator" => some idsBinaryOperatorTable
  | "IDS_Trinary_Operator" => some idsTrinaryOperatorTable
  | "IDS_Unary_Operator" => some idsUnaryOperatorTable
  | "Ideographic" => some ideographicTable
  | "Join_Control" => some joinControlTable
  | "Logical_Order_Exception" => some logicalOrderExceptionTable
  | "Math" => some mathTable
  | "Modifier_Combining_Mark" => some modifierCombiningMarkTable
  | "Noncharacter_Code_Point" => some noncharacterCodePointTable
  | "Other_Alphabetic" => some otherAlphabeticTable
  | "Other_Default_Ignorable_Code_Point" => some otherDefaultIgnorableCodePointTable
  | "Other_Grapheme_Extend" => some otherGraphemeExtendTable
  | "Other_Math" => some otherMathTable
  | "Prepended_Concatenation_Mark" => some prependedConcatenationMarkTable
  | "Quotation_Mark" => some quotationMarkTable
  | "Radical" => some radicalTable
  | "Regional_Indicator" => some regionalIndicatorTable
  | "Sentence_Terminal" => some sentenceTerminalTable
  | "Terminal_Punctuation" => some terminalPunctuationTable
  | "Unified_Ideograph" => some unifiedIdeographTable
  | "Variation_Selector" => some variationSelectorTable
  | _ => none

end Conformance.Text
