import Conformance.Text.RunTable

/-!
Word break classes of code points, as of Unicode 16.0.

Text segmentation gives every code point one class, written by its short name; `XX`
(`Other`) is the class of a code point no rule names. `wordBreakRuns` gives the class of
every run of code points and `wordBreakValues` the names of each class, short name first.
-/

set_option autoImplicit false

namespace Conformance.Text

/-- Runs of code points by class. -/
def wordBreakRuns : RunTable := RunTable.decode
  ((String.join [
  "0:XX,A:LF,B:NL,D:CR,E:XX,20:WSegSpace,21:XX,22:DQ,23:XX,27:SQ,28:XX,2C:MN,2D:XX,2E:MB,",
  "2F:XX,30:NU,3A:ML,3B:MN,3C:XX,41:LE,5B:XX,5F:EX,60:XX,61:LE,7B:XX,85:NL,86:XX,AA:LE,",
  "AB:XX,AD:FO,AE:XX,B5:LE,B6:XX,B7:ML,B8:XX,BA:LE,BB:XX,C0:LE,D7:XX,D8:LE,F7:XX,F8:LE,",
  "2D8:XX,2DE:LE,300:Extend,370:LE,375:XX,376:LE,378:XX,37A:LE,37E:MN,37F:LE,380:XX,386:LE,",
  "387:ML,388:LE,38B:XX,38C:LE,38D:XX,38E:LE,3A2:XX,3A3:LE,3F6:XX,3F7:LE,482:XX,483:Extend,",
  "48A:LE,530:XX,531:LE,557:XX,559:LE,55D:XX,55E:LE,55F:ML,560:LE,589:MN,58A:LE,58B:XX,",
  "591:Extend,5BE:XX,5BF:Extend,5C0:XX,5C1:Extend,5C3:XX,5C4:Extend,5C6:XX,5C7:Extend,",
  "5C8:XX,5D0:HL,5EB:XX,5EF:HL,5F3:LE,5F4:ML,5F5:XX,600:NU,606:XX,60C:MN,60E:XX,610:Extend,",
  "61B:XX,61C:FO,61D:XX,620:LE,64B:Extend,660:NU,66A:XX,66B:NU,66C:MN,66D:XX,66E:LE,",
  "670:Extend,671:LE,6D4:XX,6D5:LE,6D6:Extend,6DD:NU,6DE:XX,6DF:Extend,6E5:LE,6E7:Extend,",
  "6E9:XX,6EA:Extend,6EE:LE,6F0:NU,6FA:LE,6FD:XX,6FF:LE,700:XX,70F:LE,711:Extend,712:LE,",
  "730:Extend,74B:XX,74D:LE,7A6:Extend,7B1:LE,7B2:XX,7C0:NU,7CA:LE,7EB:Extend,7F4:LE,",
  "7F6:XX,7F8:MN,7F9:XX,7FA:LE,7FB:XX,7FD:Extend,7FE:XX,800:LE,816:Extend,81A:LE,",
  "81B:Extend,824:LE,825:Extend,828:LE,829:Extend,82E:XX,840:LE,859:Extend,85C:XX,860:LE,",
  "86B:XX,870:LE,888:XX,889:LE,88F:XX,890:NU,892:XX,897:Extend,8A0:LE,8CA:Extend,8E2:NU,",
  "8E3:Extend,904:LE,93A:Extend,93D:LE,93E:Extend,950:LE,951:Extend,958:LE,962:Extend,",
  "964:XX,966:NU,970:XX,971:LE,981:Extend,984:XX,985:LE,98D:XX,98F:LE,991:XX,993:LE,9A9:XX,",
  "9AA:LE,9B1:XX,9B2:LE,9B3:XX,9B6:LE,9BA:XX,9BC:Extend,9BD:LE,9BE:Extend,9C5:XX,",
  "9C7:Extend,9C9:XX,9CB:Extend,9CE:LE,9CF:XX,9D7:Extend,9D8:XX,9DC:LE,9DE:XX,9DF:LE,",
  "9E2:Extend,9E4:XX,9E6:NU,9F0:LE,9F2:XX,9FC:LE,9FD:XX,9FE:Extend,9FF:XX,A01:Extend,",
  "A04:XX,A05:LE,A0B:XX,A0F:LE,A11:XX,A13:LE,A29:XX,A2A:LE,A31:XX,A32:LE,A34:XX,A35:LE,",
  "A37:XX,A38:LE,A3A:XX,A3C:Extend,A3D:XX,A3E:Extend,A43:XX,A47:Extend,A49:XX,A4B:Extend,",
  "A4E:XX,A51:Extend,A52:XX,A59:LE,A5D:XX,A5E:LE,A5F:XX,A66:NU,A70:Extend,A72:LE,",
  "A75:Extend,A76:XX,A81:Extend,A84:XX,A85:LE,A8E:XX,A8F:LE,A92:XX,A93:LE,AA9:XX,AAA:LE,",
  "AB1:XX,AB2:LE,AB4:XX,AB5:LE,ABA:XX,ABC:Extend,ABD:LE,ABE:Extend,AC6:XX,AC7:Extend,",
  "ACA:XX,ACB:Extend,ACE:XX,AD0:LE,AD1:XX,AE0:LE,AE2:Extend,AE4:XX,AE6:NU,AF0:XX,AF9:LE,",
  "AFA:Extend,B00:XX,B01:Extend,B04:XX,B05:LE,B0D:XX,B0F:LE,B11:XX,B13:LE,B29:XX,B2A:LE,",
  "B31:XX,B32:LE,B34:XX,B35:LE,B3A:XX,B3C:Extend,B3D:LE,B3E:Extend,B45:XX,B47:Extend,",
  "B49:XX,B4B:Extend,B4E:XX,B55:Extend,B58:XX,B5C:LE,B5E:XX,B5F:LE,B62:Extend,B64:XX,",
  "B66:NU,B70:XX,B71:LE,B72:XX,B82:Extend,B83:LE,B84:XX,B85:LE,B8B:XX,B8E:LE,B91:XX,B92:LE,",
  "B96:XX,B99:LE,B9B:XX,B9C:LE,B9D:XX,B9E:LE,BA0:XX,BA3:LE,BA5:XX,BA8:LE,BAB:XX,BAE:LE,",
  "BBA:XX,BBE:Extend,BC3:XX,BC6:Extend,BC9:XX,BCA:Extend,BCE:XX,BD0:LE,BD1:XX,BD7:Extend,",
  "BD8:XX,BE6:NU,BF0:XX,C00:Extend,C05:LE,C0D:XX,C0E:LE,C11:XX,C12:LE,C29:XX,C2A:LE,C3A:XX,",
  "C3C:Extend,C3D:LE,C3E:Extend,C45:XX,C46:Extend,C49:XX,C4A:Extend,C4E:XX,C55:Extend,",
  "C57:XX,C58:LE,C5B:XX,C5D:LE,C5E:XX,C60:LE,C62:Extend,C64:XX,C66:NU,C70:XX,C80:LE,",
  "C81:Extend,C84:XX,C85:LE,C8D:XX,C8E:LE,C91:XX,C92:LE,CA9:XX,CAA:LE,CB4:XX,CB5:LE,CBA:XX,",
  "CBC:Extend,CBD:LE,CBE:Extend,CC5:XX,CC6:Extend,CC9:XX,CCA:Extend,CCE:XX,CD5:Extend,",
  "CD7:XX,CDD:LE,CDF:XX,CE0:LE,CE2:Extend,CE4:XX,CE6:NU,CF0:XX,CF1:LE,CF3:Extend,CF4:XX,",
  "D00:Extend,D04:LE,D0D:XX,D0E:LE,D11:XX,D12:LE,D3B:Extend,D3D:LE,D3E:Extend,D45:XX,",
  "D46:Extend,D49:XX,D4A:Extend,D4E:LE,D4F:XX,D54:LE,D57:Extend,D58:XX,D5F:LE,D62:Extend,",
  "D64:XX,D66:NU,D70:XX,D7A:LE,D80:XX,D81:Extend,D84:XX,D85:LE,D97:XX,D9A:LE,DB2:XX,DB3:LE,",
  "DBC:XX,DBD:LE,DBE:XX,DC0:LE,DC7:XX,DCA:Extend,DCB:XX,DCF:Extend,DD5:XX,DD6:Extend,",
  "DD7:XX,DD8:Extend,DE0:XX,DE6:NU,DF0:XX,DF2:Extend,DF4:XX,E31:Extend,E32:XX,E34:Extend,",
  "E3B:XX,E47:Extend,E4F:XX,E50:NU,E5A:XX,EB1:Extend,EB2:XX,EB4:Extend,EBD:XX,EC8:Extend,",
  "ECF:XX,ED0:NU,EDA:XX,F00:LE,F01:XX,F18:Extend,F1A:XX,F20:NU,F2A:XX,F35:Extend,F36:XX,",
  "F37:Extend,F38:XX,F39:Extend,F3A:XX,F3E:Extend,F40:LE,F48:XX,F49:LE,F6D:XX,F71:Extend,",
  "F85:XX,F86:Extend,F88:LE,F8D:Extend,F98:XX,F99:Extend,FBD:XX,FC6:Extend,FC7:XX,",
  "102B:Extend,103F:XX,1040:NU,104A:XX,1056:Extend,105A:XX,105E:Extend,1061:XX,1062:Extend,",
  "1065:XX,1067:Extend,106E:XX,1071:Extend,1075:XX,1082:Extend,108E:XX,108F:Extend,1090:NU,",
  "109A:Extend,109E:XX,10A0:LE,10C6:XX,10C7:LE,10C8:XX,10CD:LE,10CE:XX,10D0:LE,10FB:XX,",
  "10FC:LE,1249:XX,124A:LE,124E:XX,1250:LE,1257:XX,1258:LE,1259:XX,125A:LE,125E:XX,1260:LE,",
  "1289:XX,128A:LE,128E:XX,1290:LE,12B1:XX,12B2:LE,12B6:XX,12B8:LE,12BF:XX,12C0:LE,12C1:XX,",
  "12C2:LE,12C6:XX,12C8:LE,12D7:XX,12D8:LE,1311:XX,1312:LE,1316:XX,1318:LE,135B:XX,",
  "135D:Extend,1360:XX,1380:LE,1390:XX,13A0:LE,13F6:XX,13F8:LE,13FE:XX,1401:LE,166D:XX,",
  "166F:LE,1680:WSegSpace,1681:LE,169B:XX,16A0:LE,16EB:XX,16EE:LE,16F9:XX,1700:LE,",
  "1712:Extend,1716:XX,171F:LE,1732:Extend,1735:XX,1740:LE,1752:Extend,1754:XX,1760:LE,",
  "176D:XX,176E:LE,1771:XX,1772:Extend,1774:XX,17B4:Extend,17D4:XX,17DD:Extend,17DE:XX,",
  "17E0:NU,17EA:XX,180B:Extend,180E:FO,180F:Extend,1810:NU,181A:XX,1820:LE,1879:XX,1880:LE,",
  "1885:Extend,1887:LE,18A9:Extend,18AA:LE,18AB:XX,18B0:LE,18F6:XX,1900:LE,191F:XX,",
  "1920:Extend,192C:XX,1930:Extend,193C:XX,1946:NU,1950:XX,19D0:NU,19DB:XX,1A00:LE,",
  "1A17:Extend,1A1C:XX,1A55:Extend,1A5F:XX,1A60:Extend,1A7D:XX,1A7F:Extend,1A80:NU,1A8A:XX,",
  "1A90:NU,1A9A:XX,1AB0:Extend,1ACF:XX,1B00:Extend,1B05:LE,1B34:Extend,1B45:LE,1B4D:XX,",
  "1B50:NU,1B5A:XX,1B6B:Extend,1B74:XX,1B80:Extend,1B83:LE,1BA1:Extend,1BAE:LE,1BB0:NU,",
  "1BBA:LE,1BE6:Extend,1BF4:XX,1C00:LE,1C24:Extend,1C38:XX,1C40:NU,1C4A:XX,1C4D:LE,1C50:NU,",
  "1C5A:LE,1C7E:XX,1C80:LE,1C8B:XX,1C90:LE,1CBB:XX,1CBD:LE,1CC0:XX,1CD0:Extend,1CD3:XX,",
  "1CD4:Extend,1CE9:LE,1CED:Extend,1CEE:LE,1CF4:Extend,1CF5:LE,1CF7:Extend,1CFA:LE,1CFB:XX,",
  "1D00:LE,1DC0:Extend,1E00:LE,1F16:XX,1F18:LE,1F1E:XX,1F20:LE,1F46:XX,1F48:LE,1F4E:XX,",
  "1F50:LE,1F58:XX,1F59:LE,1F5A:XX,1F5B:LE,1F5C:XX,1F5D:LE,1F5E:XX,1F5F:LE,1F7E:XX,1F80:LE,",
  "1FB5:XX,1FB6:LE,1FBD:XX,1FBE:LE,1FBF:XX,1FC2:LE,1FC5:XX,1FC6:LE,1FCD:XX,1FD0:LE,1FD4:XX,",
  "1FD6:LE,1FDC:XX,1FE0:LE,1FED:XX,1FF2:LE,1FF5:XX,1FF6:LE,1FFD:XX,2000:WSegSpace,2007:XX,",
  "2008:WSegSpace,200B:XX,200C:Extend,200D:ZWJ,200E:FO,2010:XX,2018:MB,201A:XX,2024:MB,",
  "2025:XX,2027:ML,2028:NL,202A:FO,202F:EX,2030:XX,203F:EX,2041:XX,2044:MN,2045:XX,2054:EX,",
  "2055:XX,205F:WSegSpace,2060:FO,2065:XX,2066:FO,2070:XX,2071:LE,2072:XX,207F:LE,2080:XX,",
  "2090:LE,209D:XX,20D0:Extend,20F1:XX,2102:LE,2103:XX,2107:LE,2108:XX,210A:LE,2114:XX,",
  "2115:LE,2116:XX,2119:LE,211E:XX,2124:LE,2125:XX,2126:LE,2127:XX,2128:LE,2129:XX,212A:LE,",
  "212E:XX,212F:LE,213A:XX,213C:LE,2140:XX,2145:LE,214A:XX,214E:LE,214F:XX,2160:LE,2189:XX,",
  "24B6:LE,24EA:XX,2C00:LE,2CE5:XX,2CEB:LE,2CEF:Extend,2CF2:LE,2CF4:XX,2D00:LE,2D26:XX,",
  "2D27:LE,2D28:XX,2D2D:LE,2D2E:XX,2D30:LE,2D68:XX,2D6F:LE,2D70:XX,2D7F:Extend,2D80:LE,",
  "2D97:XX,2DA0:LE,2DA7:XX,2DA8:LE,2DAF:XX,2DB0:LE,2DB7:XX,2DB8:LE,2DBF:XX,2DC0:LE,2DC7:XX,",
  "2DC8:LE,2DCF:XX,2DD0:LE,2DD7:XX,2DD8:LE,2DDF:XX,2DE0:Extend,2E00:XX,2E2F:LE,2E30:XX,",
  "3000:WSegSpace,3001:XX,3005:LE,3006:XX,302A:Extend,3030:XX,3031:KA,3036:XX,303B:LE,",
  "303D:XX,3099:Extend,309B:KA,309D:XX,30A0:KA,30FB:XX,30FC:KA,3100:XX,3105:LE,3130:XX,",
  "3131:LE,318F:XX,31A0:LE,31C0:XX,31F0:KA,3200:XX,32D0:KA,32FF:XX,3300:KA,3358:XX,A000:LE,",
  "A48D:XX,A4D0:LE,A4FE:XX,A500:LE,A60D:XX,A610:LE,A620:NU,A62A:LE,A62C:XX,A640:LE,",
  "A66F:Extend,A673:XX,A674:Extend,A67E:XX,A67F:LE,A69E:Extend,A6A0:LE,A6F0:Extend,A6F2:XX,",
  "A708:LE,A7CE:XX,A7D0:LE,A7D2:XX,A7D3:LE,A7D4:XX,A7D5:LE,A7DD:XX,A7F2:LE,A802:Extend,",
  "A803:LE,A806:Extend,A807:LE,A80B:Extend,A80C:LE,A823:Extend,A828:XX,A82C:Extend,A82D:XX,",
  "A840:LE,A874:XX,A880:Extend,A882:LE,A8B4:Extend,A8C6:XX,A8D0:NU,A8DA:XX,A8E0:Extend,",
  "A8F2:LE,A8F8:XX,A8FB:LE,A8FC:XX,A8FD:LE,A8FF:Extend,A900:NU,A90A:LE,A926:Extend,A92E:XX,",
  "A930:LE,A947:Extend,A954:XX,A960:LE,A97D:XX,A980:Extend,A984:LE,A9B3:Extend,A9C1:XX,",
  "A9CF:LE,A9D0:NU,A9DA:XX,A9E5:Extend,A9E6:XX,A9F0:NU,A9FA:XX,AA00:LE,AA29:Extend,AA37:XX,",
  "AA40:LE,AA43:Extend,AA44:LE,AA4C:Extend,AA4E:XX,AA50:NU,AA5A:XX,AA7B:Extend,AA7E:XX,",
  "AAB0:Extend,AAB1:XX,AAB2:Extend,AAB5:XX,AAB7:Extend,AAB9:XX,AABE:Extend,AAC0:XX,",
  "AAC1:Extend,AAC2:XX,AAE0:LE,AAEB:Extend,AAF0:XX,AAF2:LE,AAF5:Extend,AAF7:XX,AB01:LE,",
  "AB07:XX,AB09:LE,AB0F:XX,AB11:LE,AB17:XX,AB20:LE,AB27:XX,AB28:LE,AB2F:XX,AB30:LE,AB6A:XX,",
  "AB70:LE,ABE3:Extend,ABEB:XX,ABEC:Extend,ABEE:XX,ABF0:NU,ABFA:XX,AC00:LE,D7A4:XX,D7B0:LE,",
  "D7C7:XX,D7CB:LE,D7FC:XX,FB00:LE,FB07:XX,FB13:LE,FB18:XX,FB1D:HL,FB1E:Extend,FB1F:HL,",
  "FB29:XX,FB2A:HL,FB37:XX,FB38:HL,FB3D:XX,FB3E:HL,FB3F:XX,FB40:HL,FB42:XX,FB43:HL,FB45:XX,",
  "FB46:HL,FB50:LE,FBB2:XX,FBD3:LE,FD3E:XX,FD50:LE,FD90:XX,FD92:LE,FDC8:XX,FDF0:LE,FDFC:XX,",
  "FE00:Extend,FE10:XX,FE13:ML,FE14:XX,FE20:Extend,FE30:XX,FE33:EX,FE35:XX,FE4D:EX,FE50:MN,",
  "FE51:XX,FE52:MB,FE53:XX,FE54:MN,FE55:ML,FE56:XX,FE70:LE,FE75:XX,FE76:LE,FEFD:XX,FEFF:FO,",
  "FF00:XX,FF07:MB,FF08:XX,FF0C:MN,FF0D:XX,FF0E:MB,FF0F:XX,FF10:NU,FF1A:ML,FF1B:MN,FF1C:XX,",
  "FF21:LE,FF3B:XX,FF3F:EX,FF40:XX,FF41:LE,FF5B:XX,FF66:KA,FF9E:Extend,FFA0:LE,FFBF:XX,",
  "FFC2:LE,FFC8:XX,FFCA:LE,FFD0:XX,FFD2:LE,FFD8:XX,FFDA:LE,FFDD:XX,FFF9:FO,FFFC:XX,",
  "10000:LE,1000C:XX,1000D:LE,10027:XX,10028:LE,1003B:XX,1003C:LE,1003E:XX,1003F:LE,",
  "1004E:XX,10050:LE,1005E:XX,10080:LE,100FB:XX,10140:LE,10175:XX,101FD:Extend,101FE:XX,",
  "10280:LE,1029D:XX,102A0:LE,102D1:XX,102E0:Extend,102E1:XX,10300:LE,10320:XX,1032D:LE,",
  "1034B:XX,10350:LE,10376:Extend,1037B:XX,10380:LE,1039E:XX,103A0:LE,103C4:XX,103C8:LE,",
  "103D0:XX,103D1:LE,103D6:XX,10400:LE,1049E:XX,104A0:NU,104AA:XX,104B0:LE,104D4:XX,",
  "104D8:LE,104FC:XX,10500:LE,10528:XX,10530:LE,10564:XX,10570:LE,1057B:XX,1057C:LE,",
  "1058B:XX,1058C:LE,10593:XX,10594:LE,10596:XX,10597:LE,105A2:XX,105A3:LE,105B2:XX,",
  "105B3:LE,105BA:XX,105BB:LE,105BD:XX,105C0:LE,105F4:XX,10600:LE,10737:XX,10740:LE,",
  "10756:XX,10760:LE,10768:XX,10780:LE,10786:XX,10787:LE,107B1:XX,107B2:LE,107BB:XX,",
  "10800:LE,10806:XX,10808:LE,10809:XX,1080A:LE,10836:XX,10837:LE,10839:XX,1083C:LE,",
  "1083D:XX,1083F:LE,10856:XX,10860:LE,10877:XX,10880:LE,1089F:XX,108E0:LE,108F3:XX,",
  "108F4:LE,108F6:XX,10900:LE,10916:XX,10920:LE,1093A:XX,10980:LE,109B8:XX,109BE:LE,",
  "109C0:XX,10A00:LE,10A01:Extend,10A04:XX,10A05:Extend,10A07:XX,10A0C:Extend,10A10:LE,",
  "10A14:XX,10A15:LE,10A18:XX,10A19:LE,10A36:XX,10A38:Extend,10A3B:XX,10A3F:Extend,",
  "10A40:XX,10A60:LE,10A7D:XX,10A80:LE,10A9D:XX,10AC0:LE,10AC8:XX,10AC9:LE,10AE5:Extend,",
  "10AE7:XX,10B00:LE,10B36:XX,10B40:LE,10B56:XX,10B60:LE,10B73:XX,10B80:LE,10B92:XX,",
  "10C00:LE,10C49:XX,10C80:LE,10CB3:XX,10CC0:LE,10CF3:XX,10D00:LE,10D24:Extend,10D28:XX,",
  "10D30:NU,10D3A:XX,10D40:NU,10D4A:LE,10D66:XX,10D69:Extend,10D6E:XX,10D6F:LE,10D86:XX,",
  "10E80:LE,10EAA:XX,10EAB:Extend,10EAD:XX,10EB0:LE,10EB2:XX,10EC2:LE,10EC5:XX,",
  "10EFC:Extend,10F00:LE,10F1D:XX,10F27:LE,10F28:XX,10F30:LE,10F46:Extend,10F51:XX,",
  "10F70:LE,10F82:Extend,10F86:XX,10FB0:LE,10FC5:XX,10FE0:LE,10FF7:XX,11000:Extend,",
  "11003:LE,11038:Extend,11047:XX,11066:NU,11070:Extend,11071:LE,11073:Extend,11075:LE,",
  "11076:XX,1107F:Extend,11083:LE,110B0:Extend,110BB:XX,110BD:NU,110BE:XX,110C2:Extend,",
  "110C3:XX,110CD:NU,110CE:XX,110D0:LE,110E9:XX,110F0:NU,110FA:XX,11100:Extend,11103:LE,",
  "11127:Extend,11135:XX,11136:NU,11140:XX,11144:LE,11145:Extend,11147:LE,11148:XX,",
  "11150:LE,11173:Extend,11174:XX,11176:LE,11177:XX,11180:Extend,11183:LE,111B3:Extend,",
  "111C1:LE,111C5:XX,111C9:Extend,111CD:XX,111CE:Extend,111D0:NU,111DA:LE,111DB:XX,",
  "111DC:LE,111DD:XX,11200:LE,11212:XX,11213:LE,1122C:Extend,11238:XX,1123E:Extend,",
  "1123F:LE,11241:Extend,11242:XX,11280:LE,11287:XX,11288:LE,11289:XX,1128A:LE,1128E:XX,",
  "1128F:LE,1129E:XX,1129F:LE,112A9:XX,112B0:LE,112DF:Extend,112EB:XX,112F0:NU,112FA:XX,",
  "11300:Extend,11304:XX,11305:LE,1130D:XX,1130F:LE,11311:XX,11313:LE,11329:XX,1132A:LE,",
  "11331:XX,11332:LE,11334:XX,11335:LE,1133A:XX,1133B:Extend,1133D:LE,1133E:Extend,",
  "11345:XX,11347:Extend,11349:XX,1134B:Extend,1134E:XX,11350:LE,11351:XX,11357:Extend,",
  "11358:XX,1135D:LE,11362:Extend,11364:XX,11366:Extend,1136D:XX,11370:Extend,11375:XX,",
  "11380:LE,1138A:XX,1138B:LE,1138C:XX,1138E:LE,1138F:XX,11390:LE,113B6:XX,113B7:LE,",
  "113B8:Extend,113C1:XX,113C2:Extend,113C3:XX,113C5:Extend,113C6:XX,113C7:Extend,113CB:XX,",
  "113CC:Extend,113D1:LE,113D2:Extend,113D3:LE,113D4:XX,113E1:Extend,113E3:XX,11400:LE,",
  "11435:Extend,11447:LE,1144B:XX,11450:NU,1145A:XX,1145E:Extend,1145F:LE,11462:XX,",
  "11480:LE,114B0:Extend,114C4:LE,114C6:XX,114C7:LE,114C8:XX,114D0:NU,114DA:XX,11580:LE,",
  "115AF:Extend,115B6:XX,115B8:Extend,115C1:XX,115D8:LE,115DC:Extend,115DE:XX,11600:LE,",
  "11630:Extend,11641:XX,11644:LE,11645:XX,11650:NU,1165A:XX,11680:LE,116AB:Extend,",
  "116B8:LE,116B9:XX,116C0:NU,116CA:XX,116D0:NU,116E4:XX,1171D:Extend,1172C:XX,11730:NU,",
  "1173A:XX,11800:LE,1182C:Extend,1183B:XX,118A0:LE,118E0:NU,118EA:XX,118FF:LE,11907:XX,",
  "11909:LE,1190A:XX,1190C:LE,11914:XX,11915:LE,11917:XX,11918:LE,11930:Extend,11936:XX,",
  "11937:Extend,11939:XX,1193B:Extend,1193F:LE,11940:Extend,11941:LE,11942:Extend,11944:XX,",
  "11950:NU,1195A:XX,119A0:LE,119A8:XX,119AA:LE,119D1:Extend,119D8:XX,119DA:Extend,"]) ++
  (String.join [
  "119E1:LE,119E2:XX,119E3:LE,119E4:Extend,119E5:XX,11A00:LE,11A01:Extend,11A0B:LE,",
  "11A33:Extend,11A3A:LE,11A3B:Extend,11A3F:XX,11A47:Extend,11A48:XX,11A50:LE,11A51:Extend,",
  "11A5C:LE,11A8A:Extend,11A9A:XX,11A9D:LE,11A9E:XX,11AB0:LE,11AF9:XX,11BC0:LE,11BE1:XX,",
  "11BF0:NU,11BFA:XX,11C00:LE,11C09:XX,11C0A:LE,11C2F:Extend,11C37:XX,11C38:Extend,",
  "11C40:LE,11C41:XX,11C50:NU,11C5A:XX,11C72:LE,11C90:XX,11C92:Extend,11CA8:XX,",
  "11CA9:Extend,11CB7:XX,11D00:LE,11D07:XX,11D08:LE,11D0A:XX,11D0B:LE,11D31:Extend,",
  "11D37:XX,11D3A:Extend,11D3B:XX,11D3C:Extend,11D3E:XX,11D3F:Extend,11D46:LE,11D47:Extend,",
  "11D48:XX,11D50:NU,11D5A:XX,11D60:LE,11D66:XX,11D67:LE,11D69:XX,11D6A:LE,11D8A:Extend,",
  "11D8F:XX,11D90:Extend,11D92:XX,11D93:Extend,11D98:LE,11D99:XX,11DA0:NU,11DAA:XX,",
  "11EE0:LE,11EF3:Extend,11EF7:XX,11F00:Extend,11F02:LE,11F03:Extend,11F04:LE,11F11:XX,",
  "11F12:LE,11F34:Extend,11F3B:XX,11F3E:Extend,11F43:XX,11F50:NU,11F5A:Extend,11F5B:XX,",
  "11FB0:LE,11FB1:XX,12000:LE,1239A:XX,12400:LE,1246F:XX,12480:LE,12544:XX,12F90:LE,",
  "12FF1:XX,13000:LE,13430:FO,13440:Extend,13441:LE,13447:Extend,13456:XX,13460:LE,",
  "143FB:XX,14400:LE,14647:XX,16100:LE,1611E:Extend,16130:NU,1613A:XX,16800:LE,16A39:XX,",
  "16A40:LE,16A5F:XX,16A60:NU,16A6A:XX,16A70:LE,16ABF:XX,16AC0:NU,16ACA:XX,16AD0:LE,",
  "16AEE:XX,16AF0:Extend,16AF5:XX,16B00:LE,16B30:Extend,16B37:XX,16B40:LE,16B44:XX,",
  "16B50:NU,16B5A:XX,16B63:LE,16B78:XX,16B7D:LE,16B90:XX,16D40:LE,16D6D:XX,16D70:NU,",
  "16D7A:XX,16E40:LE,16E80:XX,16F00:LE,16F4B:XX,16F4F:Extend,16F50:LE,16F51:Extend,",
  "16F88:XX,16F8F:Extend,16F93:LE,16FA0:XX,16FE0:LE,16FE2:XX,16FE3:LE,16FE4:Extend,",
  "16FE5:XX,16FF0:Extend,16FF2:XX,1AFF0:KA,1AFF4:XX,1AFF5:KA,1AFFC:XX,1AFFD:KA,1AFFF:XX,",
  "1B000:KA,1B001:XX,1B120:KA,1B123:XX,1B155:KA,1B156:XX,1B164:KA,1B168:XX,1BC00:LE,",
  "1BC6B:XX,1BC70:LE,1BC7D:XX,1BC80:LE,1BC89:XX,1BC90:LE,1BC9A:XX,1BC9D:Extend,1BC9F:XX,",
  "1BCA0:FO,1BCA4:XX,1CCF0:NU,1CCFA:XX,1CF00:Extend,1CF2E:XX,1CF30:Extend,1CF47:XX,",
  "1D165:Extend,1D16A:XX,1D16D:Extend,1D173:FO,1D17B:Extend,1D183:XX,1D185:Extend,1D18C:XX,",
  "1D1AA:Extend,1D1AE:XX,1D242:Extend,1D245:XX,1D400:LE,1D455:XX,1D456:LE,1D49D:XX,",
  "1D49E:LE,1D4A0:XX,1D4A2:LE,1D4A3:XX,1D4A5:LE,1D4A7:XX,1D4A9:LE,1D4AD:XX,1D4AE:LE,",
  "1D4BA:XX,1D4BB:LE,1D4BC:XX,1D4BD:LE,1D4C4:XX,1D4C5:LE,1D506:XX,1D507:LE,1D50B:XX,",
  "1D50D:LE,1D515:XX,1D516:LE,1D51D:XX,1D51E:LE,1D53A:XX,1D53B:LE,1D53F:XX,1D540:LE,",
  "1D545:XX,1D546:LE,1D547:XX,1D54A:LE,1D551:XX,1D552:LE,1D6A6:XX,1D6A8:LE,1D6C1:XX,",
  "1D6C2:LE,1D6DB:XX,1D6DC:LE,1D6FB:XX,1D6FC:LE,1D715:XX,1D716:LE,1D735:XX,1D736:LE,",
  "1D74F:XX,1D750:LE,1D76F:XX,1D770:LE,1D789:XX,1D78A:LE,1D7A9:XX,1D7AA:LE,1D7C3:XX,",
  "1D7C4:LE,1D7CC:XX,1D7CE:NU,1D800:XX,1DA00:Extend,1DA37:XX,1DA3B:Extend,1DA6D:XX,",
  "1DA75:Extend,1DA76:XX,1DA84:Extend,1DA85:XX,1DA9B:Extend,1DAA0:XX,1DAA1:Extend,1DAB0:XX,",
  "1DF00:LE,1DF1F:XX,1DF25:LE,1DF2B:XX,1E000:Extend,1E007:XX,1E008:Extend,1E019:XX,",
  "1E01B:Extend,1E022:XX,1E023:Extend,1E025:XX,1E026:Extend,1E02B:XX,1E030:LE,1E06E:XX,",
  "1E08F:Extend,1E090:XX,1E100:LE,1E12D:XX,1E130:Extend,1E137:LE,1E13E:XX,1E140:NU,",
  "1E14A:XX,1E14E:LE,1E14F:XX,1E290:LE,1E2AE:Extend,1E2AF:XX,1E2C0:LE,1E2EC:Extend,",
  "1E2F0:NU,1E2FA:XX,1E4D0:LE,1E4EC:Extend,1E4F0:NU,1E4FA:XX,1E5D0:LE,1E5EE:Extend,",
  "1E5F0:LE,1E5F1:NU,1E5FB:XX,1E7E0:LE,1E7E7:XX,1E7E8:LE,1E7EC:XX,1E7ED:LE,1E7EF:XX,",
  "1E7F0:LE,1E7FF:XX,1E800:LE,1E8C5:XX,1E8D0:Extend,1E8D7:XX,1E900:LE,1E944:Extend,",
  "1E94B:LE,1E94C:XX,1E950:NU,1E95A:XX,1EE00:LE,1EE04:XX,1EE05:LE,1EE20:XX,1EE21:LE,",
  "1EE23:XX,1EE24:LE,1EE25:XX,1EE27:LE,1EE28:XX,1EE29:LE,1EE33:XX,1EE34:LE,1EE38:XX,",
  "1EE39:LE,1EE3A:XX,1EE3B:LE,1EE3C:XX,1EE42:LE,1EE43:XX,1EE47:LE,1EE48:XX,1EE49:LE,",
  "1EE4A:XX,1EE4B:LE,1EE4C:XX,1EE4D:LE,1EE50:XX,1EE51:LE,1EE53:XX,1EE54:LE,1EE55:XX,",
  "1EE57:LE,1EE58:XX,1EE59:LE,1EE5A:XX,1EE5B:LE,1EE5C:XX,1EE5D:LE,1EE5E:XX,1EE5F:LE,",
  "1EE60:XX,1EE61:LE,1EE63:XX,1EE64:LE,1EE65:XX,1EE67:LE,1EE6B:XX,1EE6C:LE,1EE73:XX,",
  "1EE74:LE,1EE78:XX,1EE79:LE,1EE7D:XX,1EE7E:LE,1EE7F:XX,1EE80:LE,1EE8A:XX,1EE8B:LE,",
  "1EE9C:XX,1EEA1:LE,1EEA4:XX,1EEA5:LE,1EEAA:XX,1EEAB:LE,1EEBC:XX,1F130:LE,1F14A:XX,",
  "1F150:LE,1F16A:XX,1F170:LE,1F18A:XX,1F1E6:RI,1F200:XX,1F3FB:Extend,1F400:XX,1FBF0:NU,",
  "1FBFA:XX,E0001:FO,E0002:XX,E0020:Extend,E0080:XX,E0100:Extend,E01F0:XX,"]))

/-- The names of each class: its short name, its full name and any other alias. -/
def wordBreakValues : List (List String) := [
  ["CR", "CR"], ["DQ", "Double_Quote"], ["EB", "E_Base"], ["EBG", "E_Base_GAZ"],
  ["EM", "E_Modifier"], ["EX", "ExtendNumLet"], ["Extend", "Extend"], ["FO", "Format"],
  ["GAZ", "Glue_After_Zwj"], ["HL", "Hebrew_Letter"], ["KA", "Katakana"], ["LE", "ALetter"],
  ["LF", "LF"], ["MB", "MidNumLet"], ["ML", "MidLetter"], ["MN", "MidNum"], ["NL", "Newline"],
  ["NU", "Numeric"], ["RI", "Regional_Indicator"], ["SQ", "Single_Quote"],
  ["WSegSpace", "WSegSpace"], ["XX", "Other"], ["ZWJ", "ZWJ"]]

end Conformance.Text
