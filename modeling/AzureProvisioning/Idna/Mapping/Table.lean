/-
# Table of mapped characters

What a domain name has in place of characters that are written in it, beyond small letters and composed
characters, in rows of code points (Unicode 17).
-/

import AzureProvisioning.Text.Basic
import AzureProvisioning.Text.Rows

namespace AzureProvisioning
namespace Idna

open Text

/-- Characters that a domain name leaves out. -/
def leftOutRanges : Ranges :=
  [(0xAD, 0xAD), (0x34F, 0x34F), (0x115F, 0x1160), (0x17B4, 0x17B5), (0x180B, 0x180F),
   (0x200B, 0x200B), (0x2060, 0x2064), (0x206A, 0x206F), (0x3164, 0x3164), (0xFE00, 0xFE0F),
   (0xFEFF, 0xFEFF), (0xFFA0, 0xFFA0), (0x1BCA0, 0x1BCA3), (0x1D173, 0x1D17A), (0xE0100, 0xE01EF)]

/-- Ranges that are mapped to ranges: first and last code point, and the first one in its place. -/
def shifted : List (List Nat) :=
  rows [
    "B2 B3 32;13F8 13FD 13F0;1C83 1C84 441;1D30 1D31 64;1D33 1D3A 67;1D40 1D41 74;1D44 1D45 250",
    "1D48 1D49 64;1D4B 1D4C 25B;1D54 1D55 1D16;1D57 1D58 74;1D5D 1D5F 3B2;1D60 1D61 3C6",
    "1D64 1D65 75;1D66 1D67 3B2;1D69 1D6A 3C6;1DA4 1DA6 268;1DAE 1DB1 272;1DB3 1DB4 282",
    "1DB6 1DB7 289;1DB9 1DBA 28B;1DBC 1DBE 290;2074 2079 34;207D 207E 28;2080 2089 30",
    "208D 208E 28;2096 2099 6B;209B 209C 73;210A 210B 67;2119 211B 70;212C 212D 62",
    "2135 2138 5D0;2148 2149 69;216D 216E 63;217D 217E 63;2460 2468 31;24B6 24CF 61",
    "24D0 24E9 61;3039 303A 5344;3131 3132 1100;3135 3136 11AC;3137 3139 1103;313A 313F 11B0",
    "3141 3143 1106;3145 314E 1109;314F 3163 1161;3165 3166 1114;3167 3168 11C7;3171 3172 111D",
    "3174 3175 1122;3178 317C 112B;3182 3183 11F1;3184 3186 1157;3187 3188 1184;318A 318B 1191",
    "3261 3262 1102;3263 3265 1105;3267 3268 110B;3269 326D 110E;32D4 32D5 30AA;32E4 32E9 30CA",
    "32EE 32F2 30DE;32F5 32FA 30E8;32FB 32FE 30EF;AB70 ABBF 13A0;FB22 FB23 5D3;FB24 FB26 5DB",
    "FE13 FE14 3A;FE17 FE18 3016;FE35 FE36 28;FE39 FE3A 3014;FE3B FE3C 3010;FE3D FE3E 300A",
    "FE3F FE40 3008;FE41 FE44 300C;FE59 FE5A 28;FE5D FE5E 3014;FE61 FE62 2A;FE69 FE6A 24",
    "FE80 FE81 621;FE82 FE83 622;FE84 FE85 623;FE86 FE87 624;FE88 FE89 625;FF01 FF20 21",
    "FF21 FF3A 61;FF3B FF5E 5B;FF5F FF60 2985;FF62 FF63 300C;FF75 FF76 30AA;FF85 FF8A 30CA",
    "FF8F FF93 30DE;FF96 FF9B 30E8;FF9E FF9F 3099;FFA1 FFA2 1100;FFA5 FFA6 11AC;FFA7 FFA9 1103",
    "FFAA FFAF 11B0;FFB1 FFB3 1106;FFB5 FFBE 1109;FFC2 FFC7 1161;FFCA FFCF 1167;FFD2 FFD7 116D",
    "FFDA FFDC 1173;FFE0 FFE1 A2;FFE9 FFEC 2190;10781 10782 2D0;1078B 1078C 256;10799 1079A 2AA",
    "107A3 107A4 276;107A8 107A9 27D;107B3 107B4 2A1;107B6 107B8 1C0;1CCD6 1CCEF 61",
    "1CCF0 1CCF9 30;1D400 1D419 61;1D41A 1D433 61;1D434 1D44D 61;1D44E 1D454 61;1D456 1D467 69",
    "1D468 1D481 61;1D482 1D49B 61;1D49E 1D49F 63;1D4A5 1D4A6 6A;1D4A9 1D4AC 6E;1D4AE 1D4B5 73",
    "1D4B6 1D4B9 61;1D4BD 1D4C3 68;1D4C5 1D4CF 70;1D4D0 1D4E9 61;1D4EA 1D503 61;1D504 1D505 61",
    "1D507 1D50A 64;1D50D 1D514 6A;1D516 1D51C 73;1D51E 1D537 61;1D538 1D539 61;1D53B 1D53E 64",
    "1D540 1D544 69;1D54A 1D550 73;1D552 1D56B 61;1D56C 1D585 61;1D586 1D59F 61;1D5A0 1D5B9 61",
    "1D5BA 1D5D3 61;1D5D4 1D5ED 61;1D5EE 1D607 61;1D608 1D621 61;1D622 1D63B 61;1D63C 1D655 61",
    "1D656 1D66F 61;1D670 1D689 61;1D68A 1D6A3 61;1D6A8 1D6B8 3B1;1D6BA 1D6C0 3C3",
    "1D6C2 1D6D2 3B1;1D6D5 1D6DA 3C4;1D6E2 1D6F2 3B1;1D6F4 1D6FA 3C3;1D6FC 1D70C 3B1",
    "1D70F 1D714 3C4;1D71C 1D72C 3B1;1D72E 1D734 3C3;1D736 1D746 3B1;1D749 1D74E 3C4",
    "1D756 1D766 3B1;1D768 1D76E 3C3;1D770 1D780 3B1;1D783 1D788 3C4;1D790 1D7A0 3B1",
    "1D7A2 1D7A8 3C3;1D7AA 1D7BA 3B1;1D7BD 1D7C2 3C4;1D7CE 1D7D7 30;1D7D8 1D7E1 30",
    "1D7E2 1D7EB 30;1D7EC 1D7F5 30;1D7F6 1D7FF 30;1E030 1E038 430;1E039 1E03B 43A",
    "1E03C 1E046 43E;1E048 1E049 44D;1E051 1E059 430;1E05A 1E05B 43A;1E05C 1E05D 43E",
    "1E05F 1E064 443;1E065 1E066 44A;1EE00 1EE01 627;1EE0A 1EE0D 643;1EE15 1EE16 62A",
    "1EE2A 1EE2D 643;1EE35 1EE36 62A;1EE6C 1EE6D 645;1EE75 1EE76 62A;1EE80 1EE81 627",
    "1EE84 1EE85 647;1EE8B 1EE8D 644;1EE95 1EE96 62A;1EEAB 1EEAD 644;1EEB5 1EEB6 62A",
    "1F130 1F149 61;1FBF0 1FBF9 30"]

/-- Characters that are mapped to one other: the first of a range, and those in place of them. -/
def exchanged : List (List Nat) :=
  rows [
    "A0 20;AA 61;B5 3BC;B9 31 6F;17F 73;2B0 68 266 6A 72 279 27B 281 77 79;2E0 263 6C 73 78 295",
    "345 3B9;3D0 3B2 3B8 3C5 3CD 3CB 3C6 3C0;3F0 3BA 3C1 3C3;3F5 3B5;3F9 3C3;F0C F0B;10FC 10DC",
    "1C80 432 434 43E;1C85 442 44A 463 A64B;1D2C 61 E6 62;1D32 1DD;1D3C 6F 223 70 72;1D42 77 61",
    "1D46 1D02 62;1D4A 259;1D4D 67;1D4F 6B 6D 14B 6F 254;1D56 70;1D59 1D1D 26F 76 1D25",
    "1D62 69 72;1D68 3C1;1D78 43D;1D9B 252 63 255 F0 25C 66 25F 261 265",
    "1DA7 1D7B 29D 26D 1D85 29F 271 270;1DB2 278;1DB5 1AB;1DB8 1D1C;1DBB 7A;1DBF 3B8;1E9B 1E61",
    "1FBB 3AC;1FC9 3AD;1FCB 3AE;1FDB 3AF;1FEB 3CD;1FF9 3CC;1FFB 3CE;2011 2010;202F 20;205F 20",
    "2070 30 69;207A 2B 2212 3D;207F 6E;208A 2B 2212 3D;2090 61 65 6F 78 259 68;209A 70;2102 63",
    "2107 25B;210F 127;2115 6E;2124 7A;2128 7A;2131 66;2133 6D 6F;2139 69;213C 3C0",
    "213F 3C0 2211;2147 65;2160 69;2164 76;2169 78;216C 6C;216F 6D 69;2174 76;2179 78;217C 6C",
    "217F 6D;24EA 30;2C7C 6A 76;2D6F 2D61;2E9F 6BCD;2EF3 9F9F",
    "2F00 4E00 4E28 4E36 4E3F 4E59 4E85 4E8C 4EA0 4EBA 513F 5165 516B",
    "2F0C 5182 5196 51AB 51E0 51F5 5200 529B 52F9 5315 531A 5338 5341",
    "2F18 535C 5369 5382 53B6 53C8 53E3 56D7 571F 58EB 5902 590A 5915",
    "2F24 5927 5973 5B50 5B80 5BF8 5C0F 5C22 5C38 5C6E 5C71 5DDB 5DE5",
    "2F30 5DF1 5DFE 5E72 5E7A 5E7F 5EF4 5EFE 5F0B 5F13 5F50 5F61 5F73",
    "2F3C 5FC3 6208 6236 624B 652F 6534 6587 6597 65A4 65B9 65E0 65E5",
    "2F48 66F0 6708 6728 6B20 6B62 6B79 6BB3 6BCB 6BD4 6BDB 6C0F 6C14",
    "2F54 6C34 706B 722A 7236 723B 723F 7247 7259 725B 72AC 7384 7389",
    "2F60 74DC 74E6 7518 751F 7528 7530 758B 7592 7676 767D 76AE 76BF",
    "2F6C 76EE 77DB 77E2 77F3 793A 79B8 79BE 7A74 7ACB 7AF9 7C73 7CF8",
    "2F78 7F36 7F51 7F8A 7FBD 8001 800C 8012 8033 807F 8089 81E3 81EA",
    "2F84 81F3 81FC 820C 821B 821F 826E 8272 8278 864D 866B 8840 884C",
    "2F90 8863 897E 898B 89D2 8A00 8C37 8C46 8C55 8C78 8C9D 8D64 8D70",
    "2F9C 8DB3 8EAB 8ECA 8F9B 8FB0 8FB5 9091 9149 91C6 91CC 91D1 9577",
    "2FA8 9580 961C 96B6 96B9 96E8 9751 975E 9762 9769 97CB 97ED 97F3",
    "2FB4 9801 98A8 98DB 98DF 9996 9999 99AC 9AA8 9AD8 9ADF 9B25 9B2F",
    "2FC0 9B32 9B3C 9B5A 9CE5 9E75 9E7F 9EA5 9EBB 9EC3 9ECD 9ED1 9EF9",
    "2FCC 9EFD 9F0E 9F13 9F20 9F3B 9F4A 9F52 9F8D 9F9C 9FA0;3000 20;3002 2E;3036 3012;3038 5341",
    "3133 11AA 1102;3140 111A;3144 1121;3169 11CC 11CE 11D3 11D7 11D9 111C 11DD 11DF;3173 1120",
    "3176 1127 1129;317D 1132 1136 1140 1147 114C;3189 1188;318C 1194 119E 11A1",
    "3192 4E00 4E8C 4E09 56DB 4E0A 4E2D 4E0B 7532 4E59 4E19 4E01 5929;319E 5730 4EBA",
    "3244 554F 5E7C 6587 7B8F;3260 1100;3266 1109",
    "326E AC00 B098 B2E4 B77C B9C8 BC14 C0AC C544 C790 CC28 CE74 D0C0;327A D30C D558;327E C6B0",
    "3280 4E00 4E8C 4E09 56DB 4E94 516D 4E03 516B 4E5D 5341 6708 706B",
    "328C 6C34 6728 91D1 571F 65E5 682A 6709 793E 540D 7279 8CA1 795D",
    "3298 52B4 79D8 7537 5973 9069 512A 5370 6CE8 9805 4F11 5199 6B63",
    "32A4 4E0A 4E2D 4E0B 5DE6 53F3 533B 5B97 5B66 76E3 4F01 8CC7 5354;32B0 591C",
    "32D0 30A2 30A4 30A6 30A8;32D6 30AD 30AF 30B1 30B3 30B5 30B7 30B9 30BB 30BD 30BF 30C1 30C4",
    "32E2 30C6 30C8;32EA 30D2 30D5 30D8 30DB;32F3 30E4 30E6;A69C 44A 44C;A770 A76F",
    "A7F1 73 63 66 71;A7F8 127 153;AB5C A727 AB37 26B AB52;AB69 28D;FB20 5E2 5D0",
    "FB27 5E8 5EA 2B;FE10 2C 3001;FE15 21 3F;FE31 2014 2013;FE37 7B 7D;FE47 5B 5D;FE50 2C 3001",
    "FE54 3B 3A 3F 21 2014;FE5B 7B 7D;FE5F 23 26;FE63 2D 3C 3E 3D;FE68 5C;FE6B 40;FF61 2E",
    "FF64 3001 30FB 30F2 30A1 30A3 30A5 30A7 30A9 30E3 30E5 30E7 30C3",
    "FF70 30FC 30A2 30A4 30A6 30A8",
    "FF77 30AD 30AF 30B1 30B3 30B5 30B7 30B9 30BB 30BD 30BF 30C1 30C4;FF83 30C6 30C8",
    "FF8B 30D2 30D5 30D8 30DB;FF94 30E4 30E6;FF9C 30EF 30F3;FFA3 11AA 1102;FFB0 111A;FFB4 1121",
    "FFE2 AC;FFE4 A6 A5 20A9;FFE8 2502;FFED 25A0 25CB;10783 E6 299 253;10787 2A3 AB66 2A5 2A4",
    "1078D 1D91 258 25E 2A9 264 262 260 29B 127 29C 267 284",
    "1079B 26C 1DF04 A78E 26E 1DF05 28E 1DF06 F8;107A5 71 27A 1DF08",
    "107AA 280 2A8 2A6 AB67 2A7 288 2C71;107B2 28F;107B5 298;107B9 1DF0A 1DF1E;1D49C 61",
    "1D4A2 67;1D4BB 66;1D546 6F;1D6A4 131 237;1D6B9 3B8;1D6C1 2207",
    "1D6DB 2202 3B5 3B8 3BA 3C6 3C1 3C0;1D6F3 3B8;1D6FB 2207;1D715 2202 3B5 3B8 3BA 3C6 3C1 3C0",
    "1D72D 3B8;1D735 2207;1D74F 2202 3B5 3B8 3BA 3C6 3C1 3C0;1D767 3B8;1D76F 2207",
    "1D789 2202 3B5 3B8 3BA 3C6 3C1 3C0;1D7A1 3B8;1D7A9 2207;1D7C3 2202 3B5 3B8 3BA 3C6 3C1 3C0",
    "1E047 44B;1E04A A689 4D9 456 458 4E9 4AF 4CF;1E05E 441;1E067 491 456 455 45F 4AB A651 4B1",
    "1EE02 62C 62F;1EE05 648 632 62D 637 64A;1EE0E 633 639 641 635 642 631 634",
    "1EE17 62E 630 636 638 63A 66E 6BA 6A1 66F;1EE21 628 62C;1EE24 647;1EE27 62D;1EE29 64A",
    "1EE2E 633 639 641 635 642;1EE34 634;1EE37 62E;1EE39 636;1EE3B 63A;1EE42 62C;1EE47 62D",
    "1EE49 64A;1EE4B 644;1EE4D 646 633 639;1EE51 635 642;1EE54 634;1EE57 62E;1EE59 636",
    "1EE5B 63A;1EE5D 6BA;1EE5F 66F;1EE61 628 62C;1EE64 647;1EE67 62D 637 64A 643",
    "1EE6E 633 639 641 635 642;1EE74 634;1EE77 62E;1EE79 636 638 63A 66E;1EE7E 6A1",
    "1EE82 62C 62F;1EE86 632 62D 637 64A;1EE8E 633 639 641 635 642 631 634",
    "1EE97 62E 630 636 638 63A;1EEA1 628 62C 62F;1EEA5 648 632 62D 637 64A",
    "1EEAE 633 639 641 635 642 631 634;1EEB7 62E 630 636 638 63A;1F12B 63 72;1F202 30B5",
    "1F210 624B 5B57 53CC 30C7 4E8C 591A 89E3 5929 4EA4 6620 7121 6599",
    "1F21C 524D 5F8C 518D 65B0 521D 7D42 751F 8CA9 58F0 5439 6F14 6295",
    "1F228 6355 4E00 4E09 904A 5DE6 4E2D 53F3 6307 8D70 6253 7981 7A7A",
    "1F234 5408 6E80 6709 6708 7533 5272 55B6 914D;1F250 5F97 53EF"]

/-- Ranges of characters that are all mapped to the same ones: first and last code point, and those in
their place. -/
def spelledOut : List (List Nat) :=
  rows [
    "A8 A8 20 308;AF AF 20 304;B4 B4 20 301;B8 B8 20 327;BC BC 31 2044 34;BD BD 31 2044 32",
    "BE BE 33 2044 34;132 133 69 6A;13F 140 6C B7;149 149 2BC 6E;1C4 1C6 64 17E;1C7 1C9 6C 6A",
    "1CA 1CC 6E 6A;1F1 1F3 64 7A;2D8 2D8 20 306;2D9 2D9 20 307;2DA 2DA 20 30A;2DB 2DB 20 328",
    "2DC 2DC 20 303;2DD 2DD 20 30B;37A 37A 20 3B9;384 384 20 301;385 385 20 308 301",
    "587 587 565 582;675 675 627 674;676 676 648 674;677 677 6C7 674;678 678 64A 674",
    "E33 E33 E4D E32;EB3 EB3 ECD EB2;EDC EDC EAB E99;EDD EDD EAB EA1;F77 F77 FB2 F71 F80",
    "F79 F79 FB3 F71 F80;1E9A 1E9A 61 2BE;1F80 1F80 1F00 3B9;1F81 1F81 1F01 3B9",
    "1F82 1F82 1F02 3B9;1F83 1F83 1F03 3B9;1F84 1F84 1F04 3B9;1F85 1F85 1F05 3B9",
    "1F86 1F86 1F06 3B9;1F87 1F87 1F07 3B9;1F88 1F88 1F00 3B9;1F89 1F89 1F01 3B9",
    "1F8A 1F8A 1F02 3B9;1F8B 1F8B 1F03 3B9;1F8C 1F8C 1F04 3B9;1F8D 1F8D 1F05 3B9",
    "1F8E 1F8E 1F06 3B9;1F8F 1F8F 1F07 3B9;1F90 1F90 1F20 3B9;1F91 1F91 1F21 3B9",
    "1F92 1F92 1F22 3B9;1F93 1F93 1F23 3B9;1F94 1F94 1F24 3B9;1F95 1F95 1F25 3B9",
    "1F96 1F96 1F26 3B9;1F97 1F97 1F27 3B9;1F98 1F98 1F20 3B9;1F99 1F99 1F21 3B9",
    "1F9A 1F9A 1F22 3B9;1F9B 1F9B 1F23 3B9;1F9C 1F9C 1F24 3B9;1F9D 1F9D 1F25 3B9",
    "1F9E 1F9E 1F26 3B9;1F9F 1F9F 1F27 3B9;1FA0 1FA0 1F60 3B9;1FA1 1FA1 1F61 3B9",
    "1FA2 1FA2 1F62 3B9;1FA3 1FA3 1F63 3B9;1FA4 1FA4 1F64 3B9;1FA5 1FA5 1F65 3B9",
    "1FA6 1FA6 1F66 3B9;1FA7 1FA7 1F67 3B9;1FA8 1FA8 1F60 3B9;1FA9 1FA9 1F61 3B9",
    "1FAA 1FAA 1F62 3B9;1FAB 1FAB 1F63 3B9;1FAC 1FAC 1F64 3B9;1FAD 1FAD 1F65 3B9",
    "1FAE 1FAE 1F66 3B9;1FAF 1FAF 1F67 3B9;1FB2 1FB2 1F70 3B9;1FB3 1FB3 3B1 3B9",
    "1FB4 1FB4 3AC 3B9;1FB7 1FB7 1FB6 3B9;1FBC 1FBC 3B1 3B9;1FBD 1FBD 20 313;1FBF 1FBF 20 313",
    "1FC0 1FC0 20 342;1FC1 1FC1 20 308 342;1FC2 1FC2 1F74 3B9;1FC3 1FC3 3B7 3B9",
    "1FC4 1FC4 3AE 3B9;1FC7 1FC7 1FC6 3B9;1FCC 1FCC 3B7 3B9;1FCD 1FCD 20 313 300",
    "1FCE 1FCE 20 313 301;1FCF 1FCF 20 313 342;1FDD 1FDD 20 314 300;1FDE 1FDE 20 314 301",
    "1FDF 1FDF 20 314 342;1FED 1FED 20 308 300;1FEE 1FEE 20 308 301;1FF2 1FF2 1F7C 3B9",
    "1FF3 1FF3 3C9 3B9;1FF4 1FF4 3CE 3B9;1FF7 1FF7 1FF6 3B9;1FFC 1FFC 3C9 3B9;1FFD 1FFD 20 301",
    "1FFE 1FFE 20 314;2000 200A 20;2017 2017 20 333;2033 2033 2032 2032",
    "2034 2034 2032 2032 2032;2036 2036 2035 2035;2037 2037 2035 2035 2035;203C 203C 21 21",
    "203E 203E 20 305;2047 2047 3F 3F;2048 2048 3F 21;2049 2049 21 3F",
    "2057 2057 2032 2032 2032 2032;20A8 20A8 72 73;2100 2100 61 2F 63;2101 2101 61 2F 73",
    "2103 2103 B0 63;2105 2105 63 2F 6F;2106 2106 63 2F 75;2109 2109 B0 66;210C 210E 68",
    "2110 2111 69;2112 2113 6C;2116 2116 6E 6F;211C 211D 72;2120 2120 73 6D;2121 2121 74 65 6C",
    "2122 2122 74 6D;212F 2130 65;213B 213B 66 61 78;213D 213E 3B3;2145 2146 64",
    "2150 2150 31 2044 37;2151 2151 31 2044 39;2152 2152 31 2044 31 30;2153 2153 31 2044 33",
    "2154 2154 32 2044 33;2155 2155 31 2044 35;2156 2156 32 2044 35;2157 2157 33 2044 35",
    "2158 2158 34 2044 35;2159 2159 31 2044 36;215A 215A 35 2044 36;215B 215B 31 2044 38",
    "215C 215C 33 2044 38;215D 215D 35 2044 38;215E 215E 37 2044 38;215F 215F 31 2044",
    "2161 2161 69 69;2162 2162 69 69 69;2163 2163 69 76;2165 2165 76 69;2166 2166 76 69 69",
    "2167 2167 76 69 69 69;2168 2168 69 78;216A 216A 78 69;216B 216B 78 69 69;2171 2171 69 69",
    "2172 2172 69 69 69;2173 2173 69 76;2175 2175 76 69;2176 2176 76 69 69",
    "2177 2177 76 69 69 69;2178 2178 69 78;217A 217A 78 69;217B 217B 78 69 69",
    "2189 2189 30 2044 33;222C 222C 222B 222B;222D 222D 222B 222B 222B;222F 222F 222E 222E",
    "2230 2230 222E 222E 222E;2469 2469 31 30;246A 246A 31 31;246B 246B 31 32;246C 246C 31 33",
    "246D 246D 31 34;246E 246E 31 35;246F 246F 31 36;2470 2470 31 37;2471 2471 31 38",
    "2472 2472 31 39;2473 2473 32 30;2474 2474 28 31 29;2475 2475 28 32 29;2476 2476 28 33 29",
    "2477 2477 28 34 29;2478 2478 28 35 29;2479 2479 28 36 29;247A 247A 28 37 29",
    "247B 247B 28 38 29;247C 247C 28 39 29;247D 247D 28 31 30 29;247E 247E 28 31 31 29",
    "247F 247F 28 31 32 29;2480 2480 28 31 33 29;2481 2481 28 31 34 29;2482 2482 28 31 35 29",
    "2483 2483 28 31 36 29;2484 2484 28 31 37 29;2485 2485 28 31 38 29;2486 2486 28 31 39 29",
    "2487 2487 28 32 30 29;249C 249C 28 61 29;249D 249D 28 62 29;249E 249E 28 63 29",
    "249F 249F 28 64 29;24A0 24A0 28 65 29;24A1 24A1 28 66 29;24A2 24A2 28 67 29",
    "24A3 24A3 28 68 29;24A4 24A4 28 69 29;24A5 24A5 28 6A 29;24A6 24A6 28 6B 29",
    "24A7 24A7 28 6C 29;24A8 24A8 28 6D 29;24A9 24A9 28 6E 29;24AA 24AA 28 6F 29",
    "24AB 24AB 28 70 29;24AC 24AC 28 71 29;24AD 24AD 28 72 29;24AE 24AE 28 73 29",
    "24AF 24AF 28 74 29;24B0 24B0 28 75 29;24B1 24B1 28 76 29;24B2 24B2 28 77 29",
    "24B3 24B3 28 78 29;24B4 24B4 28 79 29;24B5 24B5 28 7A 29;2A0C 2A0C 222B 222B 222B 222B",
    "2A74 2A74 3A 3A 3D;2A75 2A75 3D 3D;2A76 2A76 3D 3D 3D;309B 309B 20 3099;309C 309C 20 309A",
    "309F 309F 3088 308A;30FF 30FF 30B3 30C8;3200 3200 28 1100 29;3201 3201 28 1102 29",
    "3202 3202 28 1103 29;3203 3203 28 1105 29;3204 3204 28 1106 29;3205 3205 28 1107 29",
    "3206 3206 28 1109 29;3207 3207 28 110B 29;3208 3208 28 110C 29;3209 3209 28 110E 29",
    "320A 320A 28 110F 29;320B 320B 28 1110 29;320C 320C 28 1111 29;320D 320D 28 1112 29",
    "320E 320E 28 AC00 29;320F 320F 28 B098 29;3210 3210 28 B2E4 29;3211 3211 28 B77C 29",
    "3212 3212 28 B9C8 29;3213 3213 28 BC14 29;3214 3214 28 C0AC 29;3215 3215 28 C544 29",
    "3216 3216 28 C790 29;3217 3217 28 CC28 29;3218 3218 28 CE74 29;3219 3219 28 D0C0 29",
    "321A 321A 28 D30C 29;321B 321B 28 D558 29;321C 321C 28 C8FC 29;321D 321D 28 C624 C804 29",
    "321E 321E 28 C624 D6C4 29;3220 3220 28 4E00 29;3221 3221 28 4E8C 29;3222 3222 28 4E09 29",
    "3223 3223 28 56DB 29;3224 3224 28 4E94 29;3225 3225 28 516D 29;3226 3226 28 4E03 29",
    "3227 3227 28 516B 29;3228 3228 28 4E5D 29;3229 3229 28 5341 29;322A 322A 28 6708 29",
    "322B 322B 28 706B 29;322C 322C 28 6C34 29;322D 322D 28 6728 29;322E 322E 28 91D1 29",
    "322F 322F 28 571F 29;3230 3230 28 65E5 29;3231 3231 28 682A 29;3232 3232 28 6709 29",
    "3233 3233 28 793E 29;3234 3234 28 540D 29;3235 3235 28 7279 29;3236 3236 28 8CA1 29",
    "3237 3237 28 795D 29;3238 3238 28 52B4 29;3239 3239 28 4EE3 29;323A 323A 28 547C 29",
    "323B 323B 28 5B66 29;323C 323C 28 76E3 29;323D 323D 28 4F01 29;323E 323E 28 8CC7 29",
    "323F 323F 28 5354 29;3240 3240 28 796D 29;3241 3241 28 4F11 29;3242 3242 28 81EA 29",
    "3243 3243 28 81F3 29;3250 3250 70 74 65;3251 3251 32 31;3252 3252 32 32;3253 3253 32 33",
    "3254 3254 32 34;3255 3255 32 35;3256 3256 32 36;3257 3257 32 37;3258 3258 32 38",
    "3259 3259 32 39;325A 325A 33 30;325B 325B 33 31;325C 325C 33 32;325D 325D 33 33",
    "325E 325E 33 34;325F 325F 33 35;327C 327C CC38 ACE0;327D 327D C8FC C758;32B1 32B1 33 36",
    "32B2 32B2 33 37;32B3 32B3 33 38;32B4 32B4 33 39;32B5 32B5 34 30;32B6 32B6 34 31",
    "32B7 32B7 34 32;32B8 32B8 34 33;32B9 32B9 34 34;32BA 32BA 34 35;32BB 32BB 34 36",
    "32BC 32BC 34 37;32BD 32BD 34 38;32BE 32BE 34 39;32BF 32BF 35 30;32C0 32C0 31 6708",
    "32C1 32C1 32 6708;32C2 32C2 33 6708;32C3 32C3 34 6708;32C4 32C4 35 6708;32C5 32C5 36 6708",
    "32C6 32C6 37 6708;32C7 32C7 38 6708;32C8 32C8 39 6708;32C9 32C9 31 30 6708",
    "32CA 32CA 31 31 6708;32CB 32CB 31 32 6708;32CC 32CC 68 67;32CD 32CD 65 72 67",
    "32CE 32CE 65 76;32CF 32CF 6C 74 64;32FF 32FF 4EE4 548C;3300 3300 30A2 30D1 30FC 30C8",
    "3301 3301 30A2 30EB 30D5 30A1;3302 3302 30A2 30F3 30DA 30A2;3303 3303 30A2 30FC 30EB",
    "3304 3304 30A4 30CB 30F3 30B0;3305 3305 30A4 30F3 30C1;3306 3306 30A6 30A9 30F3",
    "3307 3307 30A8 30B9 30AF 30FC 30C9;3308 3308 30A8 30FC 30AB 30FC;3309 3309 30AA 30F3 30B9",
    "330A 330A 30AA 30FC 30E0;330B 330B 30AB 30A4 30EA;330C 330C 30AB 30E9 30C3 30C8",
    "330D 330D 30AB 30ED 30EA 30FC;330E 330E 30AC 30ED 30F3;330F 330F 30AC 30F3 30DE",
    "3310 3310 30AE 30AC;3311 3311 30AE 30CB 30FC;3312 3312 30AD 30E5 30EA 30FC",
    "3313 3313 30AE 30EB 30C0 30FC;3314 3314 30AD 30ED;3315 3315 30AD 30ED 30B0 30E9 30E0",
    "3316 3316 30AD 30ED 30E1 30FC 30C8 30EB;3317 3317 30AD 30ED 30EF 30C3 30C8",
    "3318 3318 30B0 30E9 30E0;3319 3319 30B0 30E9 30E0 30C8 30F3",
    "331A 331A 30AF 30EB 30BC 30A4 30ED;331B 331B 30AF 30ED 30FC 30CD;331C 331C 30B1 30FC 30B9",
    "331D 331D 30B3 30EB 30CA;331E 331E 30B3 30FC 30DD;331F 331F 30B5 30A4 30AF 30EB",
    "3320 3320 30B5 30F3 30C1 30FC 30E0;3321 3321 30B7 30EA 30F3 30B0;3322 3322 30BB 30F3 30C1",
    "3323 3323 30BB 30F3 30C8;3324 3324 30C0 30FC 30B9;3325 3325 30C7 30B7;3326 3326 30C9 30EB",
    "3327 3327 30C8 30F3;3328 3328 30CA 30CE;3329 3329 30CE 30C3 30C8;332A 332A 30CF 30A4 30C4",
    "332B 332B 30D1 30FC 30BB 30F3 30C8;332C 332C 30D1 30FC 30C4;332D 332D 30D0 30FC 30EC 30EB",
    "332E 332E 30D4 30A2 30B9 30C8 30EB;332F 332F 30D4 30AF 30EB;3330 3330 30D4 30B3",
    "3331 3331 30D3 30EB;3332 3332 30D5 30A1 30E9 30C3 30C9;3333 3333 30D5 30A3 30FC 30C8",
    "3334 3334 30D6 30C3 30B7 30A7 30EB;3335 3335 30D5 30E9 30F3",
    "3336 3336 30D8 30AF 30BF 30FC 30EB;3337 3337 30DA 30BD;3338 3338 30DA 30CB 30D2",
    "3339 3339 30D8 30EB 30C4;333A 333A 30DA 30F3 30B9;333B 333B 30DA 30FC 30B8",
    "333C 333C 30D9 30FC 30BF;333D 333D 30DD 30A4 30F3 30C8;333E 333E 30DC 30EB 30C8",
    "333F 333F 30DB 30F3;3340 3340 30DD 30F3 30C9;3341 3341 30DB 30FC 30EB",
    "3342 3342 30DB 30FC 30F3;3343 3343 30DE 30A4 30AF 30ED;3344 3344 30DE 30A4 30EB",
    "3345 3345 30DE 30C3 30CF;3346 3346 30DE 30EB 30AF;3347 3347 30DE 30F3 30B7 30E7 30F3",
    "3348 3348 30DF 30AF 30ED 30F3;3349 3349 30DF 30EA;334A 334A 30DF 30EA 30D0 30FC 30EB",
    "334B 334B 30E1 30AC;334C 334C 30E1 30AC 30C8 30F3;334D 334D 30E1 30FC 30C8 30EB",
    "334E 334E 30E4 30FC 30C9;334F 334F 30E4 30FC 30EB;3350 3350 30E6 30A2 30F3",
    "3351 3351 30EA 30C3 30C8 30EB;3352 3352 30EA 30E9;3353 3353 30EB 30D4 30FC",
    "3354 3354 30EB 30FC 30D6 30EB;3355 3355 30EC 30E0;3356 3356 30EC 30F3 30C8 30B2 30F3",
    "3357 3357 30EF 30C3 30C8;3358 3358 30 70B9;3359 3359 31 70B9;335A 335A 32 70B9",
    "335B 335B 33 70B9;335C 335C 34 70B9;335D 335D 35 70B9;335E 335E 36 70B9;335F 335F 37 70B9",
    "3360 3360 38 70B9;3361 3361 39 70B9;3362 3362 31 30 70B9;3363 3363 31 31 70B9",
    "3364 3364 31 32 70B9;3365 3365 31 33 70B9;3366 3366 31 34 70B9;3367 3367 31 35 70B9",
    "3368 3368 31 36 70B9;3369 3369 31 37 70B9;336A 336A 31 38 70B9;336B 336B 31 39 70B9",
    "336C 336C 32 30 70B9;336D 336D 32 31 70B9;336E 336E 32 32 70B9;336F 336F 32 33 70B9",
    "3370 3370 32 34 70B9;3371 3371 68 70 61;3372 3372 64 61;3373 3373 61 75;3374 3374 62 61 72",
    "3375 3375 6F 76;3376 3376 70 63;3377 3377 64 6D;3378 3378 64 6D 32;3379 3379 64 6D 33",
    "337A 337A 69 75;337B 337B 5E73 6210;337C 337C 662D 548C;337D 337D 5927 6B63",
    "337E 337E 660E 6CBB;337F 337F 682A 5F0F 4F1A 793E;3380 3380 70 61;3381 3381 6E 61",
    "3382 3382 3BC 61;3383 3383 6D 61;3384 3384 6B 61;3385 3385 6B 62;3386 3386 6D 62",
    "3387 3387 67 62;3388 3388 63 61 6C;3389 3389 6B 63 61 6C;338A 338A 70 66;338B 338B 6E 66",
    "338C 338C 3BC 66;338D 338D 3BC 67;338E 338E 6D 67;338F 338F 6B 67;3390 3390 68 7A",
    "3391 3391 6B 68 7A;3392 3392 6D 68 7A;3393 3393 67 68 7A;3394 3394 74 68 7A",
    "3395 3395 3BC 6C;3396 3396 6D 6C;3397 3397 64 6C;3398 3398 6B 6C;3399 3399 66 6D",
    "339A 339A 6E 6D;339B 339B 3BC 6D;339C 339C 6D 6D;339D 339D 63 6D;339E 339E 6B 6D",
    "339F 339F 6D 6D 32;33A0 33A0 63 6D 32;33A1 33A1 6D 32;33A2 33A2 6B 6D 32",
    "33A3 33A3 6D 6D 33;33A4 33A4 63 6D 33;33A5 33A5 6D 33;33A6 33A6 6B 6D 33",
    "33A7 33A7 6D 2215 73;33A8 33A8 6D 2215 73 32;33A9 33A9 70 61;33AA 33AA 6B 70 61",
    "33AB 33AB 6D 70 61;33AC 33AC 67 70 61;33AD 33AD 72 61 64;33AE 33AE 72 61 64 2215 73",
    "33AF 33AF 72 61 64 2215 73 32;33B0 33B0 70 73;33B1 33B1 6E 73;33B2 33B2 3BC 73",
    "33B3 33B3 6D 73;33B4 33B4 70 76;33B5 33B5 6E 76;33B6 33B6 3BC 76;33B7 33B7 6D 76",
    "33B8 33B8 6B 76;33B9 33B9 6D 76;33BA 33BA 70 77;33BB 33BB 6E 77;33BC 33BC 3BC 77",
    "33BD 33BD 6D 77;33BE 33BE 6B 77;33BF 33BF 6D 77;33C0 33C0 6B 3C9;33C1 33C1 6D 3C9",
    "33C3 33C3 62 71;33C4 33C4 63 63;33C5 33C5 63 64;33C6 33C6 63 2215 6B 67;33C8 33C8 64 62",
    "33C9 33C9 67 79;33CA 33CA 68 61;33CB 33CB 68 70;33CC 33CC 69 6E;33CD 33CD 6B 6B",
    "33CE 33CE 6B 6D;33CF 33CF 6B 74;33D0 33D0 6C 6D;33D1 33D1 6C 6E;33D2 33D2 6C 6F 67",
    "33D3 33D3 6C 78;33D4 33D4 6D 62;33D5 33D5 6D 69 6C;33D6 33D6 6D 6F 6C;33D7 33D7 70 68",
    "33D9 33D9 70 70 6D;33DA 33DA 70 72;33DB 33DB 73 72;33DC 33DC 73 76;33DD 33DD 77 62",
    "33DE 33DE 76 2215 6D;33DF 33DF 61 2215 6D;33E0 33E0 31 65E5;33E1 33E1 32 65E5",
    "33E2 33E2 33 65E5;33E3 33E3 34 65E5;33E4 33E4 35 65E5;33E5 33E5 36 65E5;33E6 33E6 37 65E5",
    "33E7 33E7 38 65E5;33E8 33E8 39 65E5;33E9 33E9 31 30 65E5;33EA 33EA 31 31 65E5",
    "33EB 33EB 31 32 65E5;33EC 33EC 31 33 65E5;33ED 33ED 31 34 65E5;33EE 33EE 31 35 65E5",
    "33EF 33EF 31 36 65E5;33F0 33F0 31 37 65E5;33F1 33F1 31 38 65E5;33F2 33F2 31 39 65E5",
    "33F3 33F3 32 30 65E5;33F4 33F4 32 31 65E5;33F5 33F5 32 32 65E5;33F6 33F6 32 33 65E5",
    "33F7 33F7 32 34 65E5;33F8 33F8 32 35 65E5;33F9 33F9 32 36 65E5;33FA 33FA 32 37 65E5",
    "33FB 33FB 32 38 65E5;33FC 33FC 32 39 65E5;33FD 33FD 33 30 65E5;33FE 33FE 33 31 65E5",
    "33FF 33FF 67 61 6C;FB00 FB00 66 66;FB01 FB01 66 69;FB02 FB02 66 6C;FB03 FB03 66 66 69",
    "FB04 FB04 66 66 6C;FB05 FB06 73 74;FB13 FB13 574 576;FB14 FB14 574 565;FB15 FB15 574 56B",
    "FB16 FB16 57E 576;FB17 FB17 574 56D;FB4F FB4F 5D0 5DC;FB50 FB51 671;FB52 FB55 67B",
    "FB56 FB59 67E;FB5A FB5D 680;FB5E FB61 67A;FB62 FB65 67F;FB66 FB69 679;FB6A FB6D 6A4",
    "FB6E FB71 6A6;FB72 FB75 684;FB76 FB79 683;FB7A FB7D 686;FB7E FB81 687;FB82 FB83 68D",
    "FB84 FB85 68C;FB86 FB87 68E;FB88 FB89 688;FB8A FB8B 698;FB8C FB8D 691;FB8E FB91 6A9",
    "FB92 FB95 6AF;FB96 FB99 6B3;FB9A FB9D 6B1;FB9E FB9F 6BA;FBA0 FBA3 6BB;FBA4 FBA5 6C0",
    "FBA6 FBA9 6C1;FBAA FBAD 6BE;FBAE FBAF 6D2;FBB0 FBB1 6D3;FBD3 FBD6 6AD;FBD7 FBD8 6C7",
    "FBD9 FBDA 6C6;FBDB FBDC 6C8;FBDD FBDD 6C7 674;FBDE FBDF 6CB;FBE0 FBE1 6C5;FBE2 FBE3 6C9",
    "FBE4 FBE7 6D0;FBE8 FBE9 649;FBEA FBEB 626 627;FBEC FBED 626 6D5;FBEE FBEF 626 648",
    "FBF0 FBF1 626 6C7;FBF2 FBF3 626 6C6;FBF4 FBF5 626 6C8;FBF6 FBF8 626 6D0;FBF9 FBFB 626 649",
    "FBFC FBFF 6CC;FC00 FC00 626 62C;FC01 FC01 626 62D;FC02 FC02 626 645;FC03 FC03 626 649",
    "FC04 FC04 626 64A;FC05 FC05 628 62C;FC06 FC06 628 62D;FC07 FC07 628 62E;FC08 FC08 628 645",
    "FC09 FC09 628 649;FC0A FC0A 628 64A;FC0B FC0B 62A 62C;FC0C FC0C 62A 62D;FC0D FC0D 62A 62E",
    "FC0E FC0E 62A 645;FC0F FC0F 62A 649;FC10 FC10 62A 64A;FC11 FC11 62B 62C;FC12 FC12 62B 645",
    "FC13 FC13 62B 649;FC14 FC14 62B 64A;FC15 FC15 62C 62D;FC16 FC16 62C 645;FC17 FC17 62D 62C",
    "FC18 FC18 62D 645;FC19 FC19 62E 62C;FC1A FC1A 62E 62D;FC1B FC1B 62E 645;FC1C FC1C 633 62C",
    "FC1D FC1D 633 62D;FC1E FC1E 633 62E;FC1F FC1F 633 645;FC20 FC20 635 62D;FC21 FC21 635 645",
    "FC22 FC22 636 62C;FC23 FC23 636 62D;FC24 FC24 636 62E;FC25 FC25 636 645;FC26 FC26 637 62D",
    "FC27 FC27 637 645;FC28 FC28 638 645;FC29 FC29 639 62C;FC2A FC2A 639 645;FC2B FC2B 63A 62C",
    "FC2C FC2C 63A 645;FC2D FC2D 641 62C;FC2E FC2E 641 62D;FC2F FC2F 641 62E;FC30 FC30 641 645",
    "FC31 FC31 641 649;FC32 FC32 641 64A;FC33 FC33 642 62D;FC34 FC34 642 645;FC35 FC35 642 649",
    "FC36 FC36 642 64A;FC37 FC37 643 627;FC38 FC38 643 62C;FC39 FC39 643 62D;FC3A FC3A 643 62E",
    "FC3B FC3B 643 644;FC3C FC3C 643 645;FC3D FC3D 643 649;FC3E FC3E 643 64A;FC3F FC3F 644 62C",
    "FC40 FC40 644 62D;FC41 FC41 644 62E;FC42 FC42 644 645;FC43 FC43 644 649;FC44 FC44 644 64A",
    "FC45 FC45 645 62C;FC46 FC46 645 62D;FC47 FC47 645 62E;FC48 FC48 645 645;FC49 FC49 645 649",
    "FC4A FC4A 645 64A;FC4B FC4B 646 62C;FC4C FC4C 646 62D;FC4D FC4D 646 62E;FC4E FC4E 646 645",
    "FC4F FC4F 646 649;FC50 FC50 646 64A;FC51 FC51 647 62C;FC52 FC52 647 645;FC53 FC53 647 649",
    "FC54 FC54 647 64A;FC55 FC55 64A 62C;FC56 FC56 64A 62D;FC57 FC57 64A 62E;FC58 FC58 64A 645",
    "FC59 FC59 64A 649;FC5A FC5A 64A 64A;FC5B FC5B 630 670;FC5C FC5C 631 670;FC5D FC5D 649 670",
    "FC5E FC5E 20 64C 651;FC5F FC5F 20 64D 651;FC60 FC60 20 64E 651;FC61 FC61 20 64F 651",
    "FC62 FC62 20 650 651;FC63 FC63 20 651 670;FC64 FC64 626 631;FC65 FC65 626 632",
    "FC66 FC66 626 645;FC67 FC67 626 646;FC68 FC68 626 649;FC69 FC69 626 64A;FC6A FC6A 628 631",
    "FC6B FC6B 628 632;FC6C FC6C 628 645;FC6D FC6D 628 646;FC6E FC6E 628 649;FC6F FC6F 628 64A",
    "FC70 FC70 62A 631;FC71 FC71 62A 632;FC72 FC72 62A 645;FC73 FC73 62A 646;FC74 FC74 62A 649",
    "FC75 FC75 62A 64A;FC76 FC76 62B 631;FC77 FC77 62B 632;FC78 FC78 62B 645;FC79 FC79 62B 646",
    "FC7A FC7A 62B 649;FC7B FC7B 62B 64A;FC7C FC7C 641 649;FC7D FC7D 641 64A;FC7E FC7E 642 649",
    "FC7F FC7F 642 64A;FC80 FC80 643 627;FC81 FC81 643 644;FC82 FC82 643 645;FC83 FC83 643 649",
    "FC84 FC84 643 64A;FC85 FC85 644 645;FC86 FC86 644 649;FC87 FC87 644 64A;FC88 FC88 645 627",
    "FC89 FC89 645 645;FC8A FC8A 646 631;FC8B FC8B 646 632;FC8C FC8C 646 645;FC8D FC8D 646 646",
    "FC8E FC8E 646 649;FC8F FC8F 646 64A;FC90 FC90 649 670;FC91 FC91 64A 631;FC92 FC92 64A 632",
    "FC93 FC93 64A 645;FC94 FC94 64A 646;FC95 FC95 64A 649;FC96 FC96 64A 64A;FC97 FC97 626 62C",
    "FC98 FC98 626 62D;FC99 FC99 626 62E;FC9A FC9A 626 645;FC9B FC9B 626 647;FC9C FC9C 628 62C",
    "FC9D FC9D 628 62D;FC9E FC9E 628 62E;FC9F FC9F 628 645;FCA0 FCA0 628 647;FCA1 FCA1 62A 62C",
    "FCA2 FCA2 62A 62D;FCA3 FCA3 62A 62E;FCA4 FCA4 62A 645;FCA5 FCA5 62A 647;FCA6 FCA6 62B 645",
    "FCA7 FCA7 62C 62D;FCA8 FCA8 62C 645;FCA9 FCA9 62D 62C;FCAA FCAA 62D 645;FCAB FCAB 62E 62C",
    "FCAC FCAC 62E 645;FCAD FCAD 633 62C;FCAE FCAE 633 62D;FCAF FCAF 633 62E;FCB0 FCB0 633 645",
    "FCB1 FCB1 635 62D;FCB2 FCB2 635 62E;FCB3 FCB3 635 645;FCB4 FCB4 636 62C;FCB5 FCB5 636 62D",
    "FCB6 FCB6 636 62E;FCB7 FCB7 636 645;FCB8 FCB8 637 62D;FCB9 FCB9 638 645;FCBA FCBA 639 62C",
    "FCBB FCBB 639 645;FCBC FCBC 63A 62C;FCBD FCBD 63A 645;FCBE FCBE 641 62C;FCBF FCBF 641 62D",
    "FCC0 FCC0 641 62E;FCC1 FCC1 641 645;FCC2 FCC2 642 62D;FCC3 FCC3 642 645;FCC4 FCC4 643 62C",
    "FCC5 FCC5 643 62D;FCC6 FCC6 643 62E;FCC7 FCC7 643 644;FCC8 FCC8 643 645;FCC9 FCC9 644 62C",
    "FCCA FCCA 644 62D;FCCB FCCB 644 62E;FCCC FCCC 644 645;FCCD FCCD 644 647;FCCE FCCE 645 62C",
    "FCCF FCCF 645 62D;FCD0 FCD0 645 62E;FCD1 FCD1 645 645;FCD2 FCD2 646 62C;FCD3 FCD3 646 62D",
    "FCD4 FCD4 646 62E;FCD5 FCD5 646 645;FCD6 FCD6 646 647;FCD7 FCD7 647 62C;FCD8 FCD8 647 645",
    "FCD9 FCD9 647 670;FCDA FCDA 64A 62C;FCDB FCDB 64A 62D;FCDC FCDC 64A 62E;FCDD FCDD 64A 645",
    "FCDE FCDE 64A 647;FCDF FCDF 626 645;FCE0 FCE0 626 647;FCE1 FCE1 628 645;FCE2 FCE2 628 647",
    "FCE3 FCE3 62A 645;FCE4 FCE4 62A 647;FCE5 FCE5 62B 645;FCE6 FCE6 62B 647;FCE7 FCE7 633 645",
    "FCE8 FCE8 633 647;FCE9 FCE9 634 645;FCEA FCEA 634 647;FCEB FCEB 643 644;FCEC FCEC 643 645",
    "FCED FCED 644 645;FCEE FCEE 646 645;FCEF FCEF 646 647;FCF0 FCF0 64A 645;FCF1 FCF1 64A 647",
    "FCF2 FCF2 640 64E 651;FCF3 FCF3 640 64F 651;FCF4 FCF4 640 650 651;FCF5 FCF5 637 649",
    "FCF6 FCF6 637 64A;FCF7 FCF7 639 649;FCF8 FCF8 639 64A;FCF9 FCF9 63A 649;FCFA FCFA 63A 64A",
    "FCFB FCFB 633 649;FCFC FCFC 633 64A;FCFD FCFD 634 649;FCFE FCFE 634 64A;FCFF FCFF 62D 649",
    "FD00 FD00 62D 64A;FD01 FD01 62C 649;FD02 FD02 62C 64A;FD03 FD03 62E 649;FD04 FD04 62E 64A",
    "FD05 FD05 635 649;FD06 FD06 635 64A;FD07 FD07 636 649;FD08 FD08 636 64A;FD09 FD09 634 62C",
    "FD0A FD0A 634 62D;FD0B FD0B 634 62E;FD0C FD0C 634 645;FD0D FD0D 634 631;FD0E FD0E 633 631",
    "FD0F FD0F 635 631;FD10 FD10 636 631;FD11 FD11 637 649;FD12 FD12 637 64A;FD13 FD13 639 649",
    "FD14 FD14 639 64A;FD15 FD15 63A 649;FD16 FD16 63A 64A;FD17 FD17 633 649;FD18 FD18 633 64A",
    "FD19 FD19 634 649;FD1A FD1A 634 64A;FD1B FD1B 62D 649;FD1C FD1C 62D 64A;FD1D FD1D 62C 649",
    "FD1E FD1E 62C 64A;FD1F FD1F 62E 649;FD20 FD20 62E 64A;FD21 FD21 635 649;FD22 FD22 635 64A",
    "FD23 FD23 636 649;FD24 FD24 636 64A;FD25 FD25 634 62C;FD26 FD26 634 62D;FD27 FD27 634 62E",
    "FD28 FD28 634 645;FD29 FD29 634 631;FD2A FD2A 633 631;FD2B FD2B 635 631;FD2C FD2C 636 631",
    "FD2D FD2D 634 62C;FD2E FD2E 634 62D;FD2F FD2F 634 62E;FD30 FD30 634 645;FD31 FD31 633 647",
    "FD32 FD32 634 647;FD33 FD33 637 645;FD34 FD34 633 62C;FD35 FD35 633 62D;FD36 FD36 633 62E",
    "FD37 FD37 634 62C;FD38 FD38 634 62D;FD39 FD39 634 62E;FD3A FD3A 637 645;FD3B FD3B 638 645",
    "FD3C FD3D 627 64B;FD50 FD50 62A 62C 645;FD51 FD52 62A 62D 62C;FD53 FD53 62A 62D 645",
    "FD54 FD54 62A 62E 645;FD55 FD55 62A 645 62C;FD56 FD56 62A 645 62D;FD57 FD57 62A 645 62E",
    "FD58 FD59 62C 645 62D;FD5A FD5A 62D 645 64A;FD5B FD5B 62D 645 649;FD5C FD5C 633 62D 62C",
    "FD5D FD5D 633 62C 62D;FD5E FD5E 633 62C 649;FD5F FD60 633 645 62D;FD61 FD61 633 645 62C",
    "FD62 FD63 633 645 645;FD64 FD65 635 62D 62D;FD66 FD66 635 645 645;FD67 FD68 634 62D 645",
    "FD69 FD69 634 62C 64A;FD6A FD6B 634 645 62E;FD6C FD6D 634 645 645;FD6E FD6E 636 62D 649",
    "FD6F FD70 636 62E 645;FD71 FD72 637 645 62D;FD73 FD73 637 645 645;FD74 FD74 637 645 64A",
    "FD75 FD75 639 62C 645;FD76 FD77 639 645 645;FD78 FD78 639 645 649;FD79 FD79 63A 645 645",
    "FD7A FD7A 63A 645 64A;FD7B FD7B 63A 645 649;FD7C FD7D 641 62E 645;FD7E FD7E 642 645 62D",
    "FD7F FD7F 642 645 645;FD80 FD80 644 62D 645;FD81 FD81 644 62D 64A;FD82 FD82 644 62D 649",
    "FD83 FD84 644 62C 62C;FD85 FD86 644 62E 645;FD87 FD88 644 645 62D;FD89 FD89 645 62D 62C",
    "FD8A FD8A 645 62D 645;FD8B FD8B 645 62D 64A;FD8C FD8C 645 62C 62D;FD8D FD8D 645 62C 645",
    "FD8E FD8E 645 62E 62C;FD8F FD8F 645 62E 645;FD92 FD92 645 62C 62E;FD93 FD93 647 645 62C",
    "FD94 FD94 647 645 645;FD95 FD95 646 62D 645;FD96 FD96 646 62D 649;FD97 FD98 646 62C 645",
    "FD99 FD99 646 62C 649;FD9A FD9A 646 645 64A;FD9B FD9B 646 645 649;FD9C FD9D 64A 645 645",
    "FD9E FD9E 628 62E 64A;FD9F FD9F 62A 62C 64A;FDA0 FDA0 62A 62C 649;FDA1 FDA1 62A 62E 64A",
    "FDA2 FDA2 62A 62E 649;FDA3 FDA3 62A 645 64A;FDA4 FDA4 62A 645 649;FDA5 FDA5 62C 645 64A",
    "FDA6 FDA6 62C 62D 649;FDA7 FDA7 62C 645 649;FDA8 FDA8 633 62E 649;FDA9 FDA9 635 62D 64A",
    "FDAA FDAA 634 62D 64A;FDAB FDAB 636 62D 64A;FDAC FDAC 644 62C 64A;FDAD FDAD 644 645 64A",
    "FDAE FDAE 64A 62D 64A;FDAF FDAF 64A 62C 64A;FDB0 FDB0 64A 645 64A;FDB1 FDB1 645 645 64A",
    "FDB2 FDB2 642 645 64A;FDB3 FDB3 646 62D 64A;FDB4 FDB4 642 645 62D;FDB5 FDB5 644 62D 645",
    "FDB6 FDB6 639 645 64A;FDB7 FDB7 643 645 64A;FDB8 FDB8 646 62C 62D;FDB9 FDB9 645 62E 64A",
    "FDBA FDBA 644 62C 645;FDBB FDBB 643 645 645;FDBC FDBC 644 62C 645;FDBD FDBD 646 62C 62D",
    "FDBE FDBE 62C 62D 64A;FDBF FDBF 62D 62C 64A;FDC0 FDC0 645 62C 64A;FDC1 FDC1 641 645 64A",
    "FDC2 FDC2 628 62D 64A;FDC3 FDC3 643 645 645;FDC4 FDC4 639 62C 645;FDC5 FDC5 635 645 645",
    "FDC6 FDC6 633 62E 64A;FDC7 FDC7 646 62C 64A;FDF0 FDF0 635 644 6D2;FDF1 FDF1 642 644 6D2",
    "FDF2 FDF2 627 644 644 647;FDF3 FDF3 627 643 628 631;FDF4 FDF4 645 62D 645 62F",
    "FDF5 FDF5 635 644 639 645;FDF6 FDF6 631 633 648 644;FDF7 FDF7 639 644 64A 647",
    "FDF8 FDF8 648 633 644 645;FDF9 FDF9 635 644 649",
    "FDFA FDFA 635 644 649 20 627 644 644 647 20 639 644 64A 647 20 648 633 644 645",
    "FDFB FDFB 62C 644 20 62C 644 627 644 647;FDFC FDFC 631 6CC 627 644;FE33 FE34 5F",
    "FE49 FE4C 20 305;FE4D FE4F 5F;FE70 FE70 20 64B;FE71 FE71 640 64B;FE72 FE72 20 64C",
    "FE74 FE74 20 64D;FE76 FE76 20 64E;FE77 FE77 640 64E;FE78 FE78 20 64F;FE79 FE79 640 64F",
    "FE7A FE7A 20 650;FE7B FE7B 640 650;FE7C FE7C 20 651;FE7D FE7D 640 651;FE7E FE7E 20 652",
    "FE7F FE7F 640 652;FE8A FE8C 626;FE8D FE8E 627;FE8F FE92 628;FE93 FE94 629;FE95 FE98 62A",
    "FE99 FE9C 62B;FE9D FEA0 62C;FEA1 FEA4 62D;FEA5 FEA8 62E;FEA9 FEAA 62F;FEAB FEAC 630",
    "FEAD FEAE 631;FEAF FEB0 632;FEB1 FEB4 633;FEB5 FEB8 634;FEB9 FEBC 635;FEBD FEC0 636",
    "FEC1 FEC4 637;FEC5 FEC8 638;FEC9 FECC 639;FECD FED0 63A;FED1 FED4 641;FED5 FED8 642",
    "FED9 FEDC 643;FEDD FEE0 644;FEE1 FEE4 645;FEE5 FEE8 646;FEE9 FEEC 647;FEED FEEE 648",
    "FEEF FEF0 649;FEF1 FEF4 64A;FEF5 FEF6 644 622;FEF7 FEF8 644 623;FEF9 FEFA 644 625",
    "FEFB FEFC 644 627;FFE3 FFE3 20 304;1D6D3 1D6D4 3C3;1D70D 1D70E 3C3;1D747 1D748 3C3",
    "1D781 1D782 3C3;1D7BB 1D7BC 3C3;1D7CA 1D7CB 3DD;1F101 1F101 30 2C;1F102 1F102 31 2C",
    "1F103 1F103 32 2C;1F104 1F104 33 2C;1F105 1F105 34 2C;1F106 1F106 35 2C;1F107 1F107 36 2C",
    "1F108 1F108 37 2C;1F109 1F109 38 2C;1F10A 1F10A 39 2C;1F110 1F110 28 61 29",
    "1F111 1F111 28 62 29;1F112 1F112 28 63 29;1F113 1F113 28 64 29;1F114 1F114 28 65 29",
    "1F115 1F115 28 66 29;1F116 1F116 28 67 29;1F117 1F117 28 68 29;1F118 1F118 28 69 29",
    "1F119 1F119 28 6A 29;1F11A 1F11A 28 6B 29;1F11B 1F11B 28 6C 29;1F11C 1F11C 28 6D 29",
    "1F11D 1F11D 28 6E 29;1F11E 1F11E 28 6F 29;1F11F 1F11F 28 70 29;1F120 1F120 28 71 29",
    "1F121 1F121 28 72 29;1F122 1F122 28 73 29;1F123 1F123 28 74 29;1F124 1F124 28 75 29",
    "1F125 1F125 28 76 29;1F126 1F126 28 77 29;1F127 1F127 28 78 29;1F128 1F128 28 79 29",
    "1F129 1F129 28 7A 29;1F12A 1F12A 3014 73 3015;1F12D 1F12D 63 64;1F12E 1F12E 77 7A",
    "1F14A 1F14A 68 76;1F14B 1F14B 6D 76;1F14C 1F14C 73 64;1F14D 1F14D 73 73",
    "1F14E 1F14E 70 70 76;1F14F 1F14F 77 63;1F16A 1F16A 6D 63;1F16B 1F16B 6D 64",
    "1F16C 1F16C 6D 72;1F190 1F190 64 6A;1F200 1F200 307B 304B;1F201 1F201 30B3 30B3",
    "1F240 1F240 3014 672C 3015;1F241 1F241 3014 4E09 3015;1F242 1F242 3014 4E8C 3015",
    "1F243 1F243 3014 5B89 3015;1F244 1F244 3014 70B9 3015;1F245 1F245 3014 6253 3015",
    "1F246 1F246 3014 76D7 3015;1F247 1F247 3014 52DD 3015;1F248 1F248 3014 6557 3015"]

end Idna
end AzureProvisioning
