import Telemetry.Unicode.Steps

/-!
The general category of every character, and the groups of categories that have a name.
-/

namespace Telemetry.Unicode

inductive Category
  | uppercaseLetter
  | lowercaseLetter
  | titlecaseLetter
  | modifierLetter
  | otherLetter
  | nonspacingMark
  | spacingMark
  | enclosingMark
  | decimalNumber
  | letterNumber
  | otherNumber
  | connectorPunctuation
  | dashPunctuation
  | openPunctuation
  | closePunctuation
  | initialPunctuation
  | finalPunctuation
  | otherPunctuation
  | mathSymbol
  | currencySymbol
  | modifierSymbol
  | otherSymbol
  | spaceSeparator
  | lineSeparator
  | paragraphSeparator
  | control
  | format
  | surrogate
  | privateUse
  | unassigned
deriving DecidableEq, Repr

namespace Category

def ofCode? : String → Option Category
  | "Lu" => some .uppercaseLetter
  | "Ll" => some .lowercaseLetter
  | "Lt" => some .titlecaseLetter
  | "Lm" => some .modifierLetter
  | "Lo" => some .otherLetter
  | "Mn" => some .nonspacingMark
  | "Mc" => some .spacingMark
  | "Me" => some .enclosingMark
  | "Nd" => some .decimalNumber
  | "Nl" => some .letterNumber
  | "No" => some .otherNumber
  | "Pc" => some .connectorPunctuation
  | "Pd" => some .dashPunctuation
  | "Ps" => some .openPunctuation
  | "Pe" => some .closePunctuation
  | "Pi" => some .initialPunctuation
  | "Pf" => some .finalPunctuation
  | "Po" => some .otherPunctuation
  | "Sm" => some .mathSymbol
  | "Sc" => some .currencySymbol
  | "Sk" => some .modifierSymbol
  | "So" => some .otherSymbol
  | "Zs" => some .spaceSeparator
  | "Zl" => some .lineSeparator
  | "Zp" => some .paragraphSeparator
  | "Cc" => some .control
  | "Cf" => some .format
  | "Cs" => some .surrogate
  | "Co" => some .privateUse
  | "Cn" => some .unassigned
  | _ => none

/-- The first character of each run of characters of one category, and the category. -/
def table : List String :=
    ["0 Cc 20 Zs 21 Po 24 Sc 25 Po 28 Ps 29 Pe 2A Po 2B Sm 2C Po 2D Pd 2E Po 30 Nd 3A Po 3C Sm 3F",
     "Po 41 Lu 5B Ps 5C Po 5D Pe 5E Sk 5F Pc 60 Sk 61 Ll 7B Ps 7C Sm 7D Pe 7E Sm 7F Cc A0 Zs A1 Po",
     "A2 Sc A6 So A7 Po A8 Sk A9 So AA Lo AB Pi AC Sm AD Cf AE So AF Sk B0 So B1 Sm B2 No B4 Sk B5",
     "Ll B6 Po B8 Sk B9 No BA Lo BB Pf BC No BF Po C0 Lu D7 Sm D8 Lu DF Ll F7 Sm F8 Ll 100 Lu 101",
     "Ll 102 Lu 103 Ll 104 Lu 105 Ll 106 Lu 107 Ll 108 Lu 109 Ll 10A Lu 10B Ll 10C Lu 10D Ll 10E",
     "Lu 10F Ll 110 Lu 111 Ll 112 Lu 113 Ll 114 Lu 115 Ll 116 Lu 117 Ll 118 Lu 119 Ll 11A Lu 11B",
     "Ll 11C Lu 11D Ll 11E Lu 11F Ll 120 Lu 121 Ll 122 Lu 123 Ll 124 Lu 125 Ll 126 Lu 127 Ll 128",
     "Lu 129 Ll 12A Lu 12B Ll 12C Lu 12D Ll 12E Lu 12F Ll 130 Lu 131 Ll 132 Lu 133 Ll 134 Lu 135",
     "Ll 136 Lu 137 Ll 139 Lu 13A Ll 13B Lu 13C Ll 13D Lu 13E Ll 13F Lu 140 Ll 141 Lu 142 Ll 143",
     "Lu 144 Ll 145 Lu 146 Ll 147 Lu 148 Ll 14A Lu 14B Ll 14C Lu 14D Ll 14E Lu 14F Ll 150 Lu 151",
     "Ll 152 Lu 153 Ll 154 Lu 155 Ll 156 Lu 157 Ll 158 Lu 159 Ll 15A Lu 15B Ll 15C Lu 15D Ll 15E",
     "Lu 15F Ll 160 Lu 161 Ll 162 Lu 163 Ll 164 Lu 165 Ll 166 Lu 167 Ll 168 Lu 169 Ll 16A Lu 16B",
     "Ll 16C Lu 16D Ll 16E Lu 16F Ll 170 Lu 171 Ll 172 Lu 173 Ll 174 Lu 175 Ll 176 Lu 177 Ll 178",
     "Lu 17A Ll 17B Lu 17C Ll 17D Lu 17E Ll 181 Lu 183 Ll 184 Lu 185 Ll 186 Lu 188 Ll 189 Lu 18C",
     "Ll 18E Lu 192 Ll 193 Lu 195 Ll 196 Lu 199 Ll 19C Lu 19E Ll 19F Lu 1A1 Ll 1A2 Lu 1A3 Ll 1A4",
     "Lu 1A5 Ll 1A6 Lu 1A8 Ll 1A9 Lu 1AA Ll 1AC Lu 1AD Ll 1AE Lu 1B0 Ll 1B1 Lu 1B4 Ll 1B5 Lu 1B6",
     "Ll 1B7 Lu 1B9 Ll 1BB Lo 1BC Lu 1BD Ll 1C0 Lo 1C4 Lu 1C5 Lt 1C6 Ll 1C7 Lu 1C8 Lt 1C9 Ll 1CA",
     "Lu 1CB Lt 1CC Ll 1CD Lu 1CE Ll 1CF Lu 1D0 Ll 1D1 Lu 1D2 Ll 1D3 Lu 1D4 Ll 1D5 Lu 1D6 Ll 1D7",
     "Lu 1D8 Ll 1D9 Lu 1DA Ll 1DB Lu 1DC Ll 1DE Lu 1DF Ll 1E0 Lu 1E1 Ll 1E2 Lu 1E3 Ll 1E4 Lu 1E5",
     "Ll 1E6 Lu 1E7 Ll 1E8 Lu 1E9 Ll 1EA Lu 1EB Ll 1EC Lu 1ED Ll 1EE Lu 1EF Ll 1F1 Lu 1F2 Lt 1F3",
     "Ll 1F4 Lu 1F5 Ll 1F6 Lu 1F9 Ll 1FA Lu 1FB Ll 1FC Lu 1FD Ll 1FE Lu 1FF Ll 200 Lu 201 Ll 202",
     "Lu 203 Ll 204 Lu 205 Ll 206 Lu 207 Ll 208 Lu 209 Ll 20A Lu 20B Ll 20C Lu 20D Ll 20E Lu 20F",
     "Ll 210 Lu 211 Ll 212 Lu 213 Ll 214 Lu 215 Ll 216 Lu 217 Ll 218 Lu 219 Ll 21A Lu 21B Ll 21C",
     "Lu 21D Ll 21E Lu 21F Ll 220 Lu 221 Ll 222 Lu 223 Ll 224 Lu 225 Ll 226 Lu 227 Ll 228 Lu 229",
     "Ll 22A Lu 22B Ll 22C Lu 22D Ll 22E Lu 22F Ll 230 Lu 231 Ll 232 Lu 233 Ll 23A Lu 23C Ll 23D",
     "Lu 23F Ll 241 Lu 242 Ll 243 Lu 247 Ll 248 Lu 249 Ll 24A Lu 24B Ll 24C Lu 24D Ll 24E Lu 24F",
     "Ll 294 Lo 295 Ll 2B0 Lm 2C2 Sk 2C6 Lm 2D2 Sk 2E0 Lm 2E5 Sk 2EC Lm 2ED Sk 2EE Lm 2EF Sk 300",
     "Mn 370 Lu 371 Ll 372 Lu 373 Ll 374 Lm 375 Sk 376 Lu 377 Ll 378 Cn 37A Lm 37B Ll 37E Po 37F",
     "Lu 380 Cn 384 Sk 386 Lu 387 Po 388 Lu 38B Cn 38C Lu 38D Cn 38E Lu 390 Ll 391 Lu 3A2 Cn 3A3",
     "Lu 3AC Ll 3CF Lu 3D0 Ll 3D2 Lu 3D5 Ll 3D8 Lu 3D9 Ll 3DA Lu 3DB Ll 3DC Lu 3DD Ll 3DE Lu 3DF",
     "Ll 3E0 Lu 3E1 Ll 3E2 Lu 3E3 Ll 3E4 Lu 3E5 Ll 3E6 Lu 3E7 Ll 3E8 Lu 3E9 Ll 3EA Lu 3EB Ll 3EC",
     "Lu 3ED Ll 3EE Lu 3EF Ll 3F4 Lu 3F5 Ll 3F6 Sm 3F7 Lu 3F8 Ll 3F9 Lu 3FB Ll 3FD Lu 430 Ll 460",
     "Lu 461 Ll 462 Lu 463 Ll 464 Lu 465 Ll 466 Lu 467 Ll 468 Lu 469 Ll 46A Lu 46B Ll 46C Lu 46D",
     "Ll 46E Lu 46F Ll 470 Lu 471 Ll 472 Lu 473 Ll 474 Lu 475 Ll 476 Lu 477 Ll 478 Lu 479 Ll 47A",
     "Lu 47B Ll 47C Lu 47D Ll 47E Lu 47F Ll 480 Lu 481 Ll 482 So 483 Mn 488 Me 48A Lu 48B Ll 48C",
     "Lu 48D Ll 48E Lu 48F Ll 490 Lu 491 Ll 492 Lu 493 Ll 494 Lu 495 Ll 496 Lu 497 Ll 498 Lu 499",
     "Ll 49A Lu 49B Ll 49C Lu 49D Ll 49E Lu 49F Ll 4A0 Lu 4A1 Ll 4A2 Lu 4A3 Ll 4A4 Lu 4A5 Ll 4A6",
     "Lu 4A7 Ll 4A8 Lu 4A9 Ll 4AA Lu 4AB Ll 4AC Lu 4AD Ll 4AE Lu 4AF Ll 4B0 Lu 4B1 Ll 4B2 Lu 4B3",
     "Ll 4B4 Lu 4B5 Ll 4B6 Lu 4B7 Ll 4B8 Lu 4B9 Ll 4BA Lu 4BB Ll 4BC Lu 4BD Ll 4BE Lu 4BF Ll 4C0",
     "Lu 4C2 Ll 4C3 Lu 4C4 Ll 4C5 Lu 4C6 Ll 4C7 Lu 4C8 Ll 4C9 Lu 4CA Ll 4CB Lu 4CC Ll 4CD Lu 4CE",
     "Ll 4D0 Lu 4D1 Ll 4D2 Lu 4D3 Ll 4D4 Lu 4D5 Ll 4D6 Lu 4D7 Ll 4D8 Lu 4D9 Ll 4DA Lu 4DB Ll 4DC",
     "Lu 4DD Ll 4DE Lu 4DF Ll 4E0 Lu 4E1 Ll 4E2 Lu 4E3 Ll 4E4 Lu 4E5 Ll 4E6 Lu 4E7 Ll 4E8 Lu 4E9",
     "Ll 4EA Lu 4EB Ll 4EC Lu 4ED Ll 4EE Lu 4EF Ll 4F0 Lu 4F1 Ll 4F2 Lu 4F3 Ll 4F4 Lu 4F5 Ll 4F6",
     "Lu 4F7 Ll 4F8 Lu 4F9 Ll 4FA Lu 4FB Ll 4FC Lu 4FD Ll 4FE Lu 4FF Ll 500 Lu 501 Ll 502 Lu 503",
     "Ll 504 Lu 505 Ll 506 Lu 507 Ll 508 Lu 509 Ll 50A Lu 50B Ll 50C Lu 50D Ll 50E Lu 50F Ll 510",
     "Lu 511 Ll 512 Lu 513 Ll 514 Lu 515 Ll 516 Lu 517 Ll 518 Lu 519 Ll 51A Lu 51B Ll 51C Lu 51D",
     "Ll 51E Lu 51F Ll 520 Lu 521 Ll 522 Lu 523 Ll 524 Lu 525 Ll 526 Lu 527 Ll 528 Lu 529 Ll 52A",
     "Lu 52B Ll 52C Lu 52D Ll 52E Lu 52F Ll 530 Cn 531 Lu 557 Cn 559 Lm 55A Po 560 Ll 589 Po 58A",
     "Pd 58B Cn 58D So 58F Sc 590 Cn 591 Mn 5BE Pd 5BF Mn 5C0 Po 5C1 Mn 5C3 Po 5C4 Mn 5C6 Po 5C7",
     "Mn 5C8 Cn 5D0 Lo 5EB Cn 5EF Lo 5F3 Po 5F5 Cn 600 Cf 606 Sm 609 Po 60B Sc 60C Po 60E So 610",
     "Mn 61B Po 61C Cf 61D Po 620 Lo 640 Lm 641 Lo 64B Mn 660 Nd 66A Po 66E Lo 670 Mn 671 Lo 6D4",
     "Po 6D5 Lo 6D6 Mn 6DD Cf 6DE So 6DF Mn 6E5 Lm 6E7 Mn 6E9 So 6EA Mn 6EE Lo 6F0 Nd 6FA Lo 6FD",
     "So 6FF Lo 700 Po 70E Cn 70F Cf 710 Lo 711 Mn 712 Lo 730 Mn 74B Cn 74D Lo 7A6 Mn 7B1 Lo 7B2",
     "Cn 7C0 Nd 7CA Lo 7EB Mn 7F4 Lm 7F6 So 7F7 Po 7FA Lm 7FB Cn 7FD Mn 7FE Sc 800 Lo 816 Mn 81A",
     "Lm 81B Mn 824 Lm 825 Mn 828 Lm 829 Mn 82E Cn 830 Po 83F Cn 840 Lo 859 Mn 85C Cn 85E Po 85F",
     "Cn 860 Lo 86B Cn 870 Lo 888 Sk 889 Lo 88F Cn 890 Cf 892 Cn 898 Mn 8A0 Lo 8C9 Lm 8CA Mn 8E2",
     "Cf 8E3 Mn 903 Mc 904 Lo 93A Mn 93B Mc 93C Mn 93D Lo 93E Mc 941 Mn 949 Mc 94D Mn 94E Mc 950",
     "Lo 951 Mn 958 Lo 962 Mn 964 Po 966 Nd 970 Po 971 Lm 972 Lo 981 Mn 982 Mc 984 Cn 985 Lo 98D",
     "Cn 98F Lo 991 Cn 993 Lo 9A9 Cn 9AA Lo 9B1 Cn 9B2 Lo 9B3 Cn 9B6 Lo 9BA Cn 9BC Mn 9BD Lo 9BE",
     "Mc 9C1 Mn 9C5 Cn 9C7 Mc 9C9 Cn 9CB Mc 9CD Mn 9CE Lo 9CF Cn 9D7 Mc 9D8 Cn 9DC Lo 9DE Cn 9DF",
     "Lo 9E2 Mn 9E4 Cn 9E6 Nd 9F0 Lo 9F2 Sc 9F4 No 9FA So 9FB Sc 9FC Lo 9FD Po 9FE Mn 9FF Cn A01",
     "Mn A03 Mc A04 Cn A05 Lo A0B Cn A0F Lo A11 Cn A13 Lo A29 Cn A2A Lo A31 Cn A32 Lo A34 Cn A35",
     "Lo A37 Cn A38 Lo A3A Cn A3C Mn A3D Cn A3E Mc A41 Mn A43 Cn A47 Mn A49 Cn A4B Mn A4E Cn A51",
     "Mn A52 Cn A59 Lo A5D Cn A5E Lo A5F Cn A66 Nd A70 Mn A72 Lo A75 Mn A76 Po A77 Cn A81 Mn A83",
     "Mc A84 Cn A85 Lo A8E Cn A8F Lo A92 Cn A93 Lo AA9 Cn AAA Lo AB1 Cn AB2 Lo AB4 Cn AB5 Lo ABA",
     "Cn ABC Mn ABD Lo ABE Mc AC1 Mn AC6 Cn AC7 Mn AC9 Mc ACA Cn ACB Mc ACD Mn ACE Cn AD0 Lo AD1",
     "Cn AE0 Lo AE2 Mn AE4 Cn AE6 Nd AF0 Po AF1 Sc AF2 Cn AF9 Lo AFA Mn B00 Cn B01 Mn B02 Mc B04",
     "Cn B05 Lo B0D Cn B0F Lo B11 Cn B13 Lo B29 Cn B2A Lo B31 Cn B32 Lo B34 Cn B35 Lo B3A Cn B3C",
     "Mn B3D Lo B3E Mc B3F Mn B40 Mc B41 Mn B45 Cn B47 Mc B49 Cn B4B Mc B4D Mn B4E Cn B55 Mn B57",
     "Mc B58 Cn B5C Lo B5E Cn B5F Lo B62 Mn B64 Cn B66 Nd B70 So B71 Lo B72 No B78 Cn B82 Mn B83",
     "Lo B84 Cn B85 Lo B8B Cn B8E Lo B91 Cn B92 Lo B96 Cn B99 Lo B9B Cn B9C Lo B9D Cn B9E Lo BA0",
     "Cn BA3 Lo BA5 Cn BA8 Lo BAB Cn BAE Lo BBA Cn BBE Mc BC0 Mn BC1 Mc BC3 Cn BC6 Mc BC9 Cn BCA",
     "Mc BCD Mn BCE Cn BD0 Lo BD1 Cn BD7 Mc BD8 Cn BE6 Nd BF0 No BF3 So BF9 Sc BFA So BFB Cn C00",
     "Mn C01 Mc C04 Mn C05 Lo C0D Cn C0E Lo C11 Cn C12 Lo C29 Cn C2A Lo C3A Cn C3C Mn C3D Lo C3E",
     "Mn C41 Mc C45 Cn C46 Mn C49 Cn C4A Mn C4E Cn C55 Mn C57 Cn C58 Lo C5B Cn C5D Lo C5E Cn C60",
     "Lo C62 Mn C64 Cn C66 Nd C70 Cn C77 Po C78 No C7F So C80 Lo C81 Mn C82 Mc C84 Po C85 Lo C8D",
     "Cn C8E Lo C91 Cn C92 Lo CA9 Cn CAA Lo CB4 Cn CB5 Lo CBA Cn CBC Mn CBD Lo CBE Mc CBF Mn CC0",
     "Mc CC5 Cn CC6 Mn CC7 Mc CC9 Cn CCA Mc CCC Mn CCE Cn CD5 Mc CD7 Cn CDD Lo CDF Cn CE0 Lo CE2",
     "Mn CE4 Cn CE6 Nd CF0 Cn CF1 Lo CF3 Mc CF4 Cn D00 Mn D02 Mc D04 Lo D0D Cn D0E Lo D11 Cn D12",
     "Lo D3B Mn D3D Lo D3E Mc D41 Mn D45 Cn D46 Mc D49 Cn D4A Mc D4D Mn D4E Lo D4F So D50 Cn D54",
     "Lo D57 Mc D58 No D5F Lo D62 Mn D64 Cn D66 Nd D70 No D79 So D7A Lo D80 Cn D81 Mn D82 Mc D84",
     "Cn D85 Lo D97 Cn D9A Lo DB2 Cn DB3 Lo DBC Cn DBD Lo DBE Cn DC0 Lo DC7 Cn DCA Mn DCB Cn DCF",
     "Mc DD2 Mn DD5 Cn DD6 Mn DD7 Cn DD8 Mc DE0 Cn DE6 Nd DF0 Cn DF2 Mc DF4 Po DF5 Cn E01 Lo E31",
     "Mn E32 Lo E34 Mn E3B Cn E3F Sc E40 Lo E46 Lm E47 Mn E4F Po E50 Nd E5A Po E5C Cn E81 Lo E83",
     "Cn E84 Lo E85 Cn E86 Lo E8B Cn E8C Lo EA4 Cn EA5 Lo EA6 Cn EA7 Lo EB1 Mn EB2 Lo EB4 Mn EBD",
     "Lo EBE Cn EC0 Lo EC5 Cn EC6 Lm EC7 Cn EC8 Mn ECF Cn ED0 Nd EDA Cn EDC Lo EE0 Cn F00 Lo F01",
     "So F04 Po F13 So F14 Po F15 So F18 Mn F1A So F20 Nd F2A No F34 So F35 Mn F36 So F37 Mn F38",
     "So F39 Mn F3A Ps F3B Pe F3C Ps F3D Pe F3E Mc F40 Lo F48 Cn F49 Lo F6D Cn F71 Mn F7F Mc F80",
     "Mn F85 Po F86 Mn F88 Lo F8D Mn F98 Cn F99 Mn FBD Cn FBE So FC6 Mn FC7 So FCD Cn FCE So FD0",
     "Po FD5 So FD9 Po FDB Cn 1000 Lo 102B Mc 102D Mn 1031 Mc 1032 Mn 1038 Mc 1039 Mn 103B Mc 103D",
     "Mn 103F Lo 1040 Nd 104A Po 1050 Lo 1056 Mc 1058 Mn 105A Lo 105E Mn 1061 Lo 1062 Mc 1065 Lo",
     "1067 Mc 106E Lo 1071 Mn 1075 Lo 1082 Mn 1083 Mc 1085 Mn 1087 Mc 108D Mn 108E Lo 108F Mc 1090",
     "Nd 109A Mc 109D Mn 109E So 10A0 Lu 10C6 Cn 10C7 Lu 10C8 Cn 10CD Lu 10CE Cn 10D0 Ll 10FB Po",
     "10FC Lm 10FD Ll 1100 Lo 1249 Cn 124A Lo 124E Cn 1250 Lo 1257 Cn 1258 Lo 1259 Cn 125A Lo 125E",
     "Cn 1260 Lo 1289 Cn 128A Lo 128E Cn 1290 Lo 12B1 Cn 12B2 Lo 12B6 Cn 12B8 Lo 12BF Cn 12C0 Lo",
     "12C1 Cn 12C2 Lo 12C6 Cn 12C8 Lo 12D7 Cn 12D8 Lo 1311 Cn 1312 Lo 1316 Cn 1318 Lo 135B Cn 135D",
     "Mn 1360 Po 1369 No 137D Cn 1380 Lo 1390 So 139A Cn 13A0 Lu 13F6 Cn 13F8 Ll 13FE Cn 1400 Pd",
     "1401 Lo 166D So 166E Po 166F Lo 1680 Zs 1681 Lo 169B Ps 169C Pe 169D Cn 16A0 Lo 16EB Po 16EE",
     "Nl 16F1 Lo 16F9 Cn 1700 Lo 1712 Mn 1715 Mc 1716 Cn 171F Lo 1732 Mn 1734 Mc 1735 Po 1737 Cn",
     "1740 Lo 1752 Mn 1754 Cn 1760 Lo 176D Cn 176E Lo 1771 Cn 1772 Mn 1774 Cn 1780 Lo 17B4 Mn 17B6",
     "Mc 17B7 Mn 17BE Mc 17C6 Mn 17C7 Mc 17C9 Mn 17D4 Po 17D7 Lm 17D8 Po 17DB Sc 17DC Lo 17DD Mn",
     "17DE Cn 17E0 Nd 17EA Cn 17F0 No 17FA Cn 1800 Po 1806 Pd 1807 Po 180B Mn 180E Cf 180F Mn 1810",
     "Nd 181A Cn 1820 Lo 1843 Lm 1844 Lo 1879 Cn 1880 Lo 1885 Mn 1887 Lo 18A9 Mn 18AA Lo 18AB Cn",
     "18B0 Lo 18F6 Cn 1900 Lo 191F Cn 1920 Mn 1923 Mc 1927 Mn 1929 Mc 192C Cn 1930 Mc 1932 Mn 1933",
     "Mc 1939 Mn 193C Cn 1940 So 1941 Cn 1944 Po 1946 Nd 1950 Lo 196E Cn 1970 Lo 1975 Cn 1980 Lo",
     "19AC Cn 19B0 Lo 19CA Cn 19D0 Nd 19DA No 19DB Cn 19DE So 1A00 Lo 1A17 Mn 1A19 Mc 1A1B Mn 1A1C",
     "Cn 1A1E Po 1A20 Lo 1A55 Mc 1A56 Mn 1A57 Mc 1A58 Mn 1A5F Cn 1A60 Mn 1A61 Mc 1A62 Mn 1A63 Mc",
     "1A65 Mn 1A6D Mc 1A73 Mn 1A7D Cn 1A7F Mn 1A80 Nd 1A8A Cn 1A90 Nd 1A9A Cn 1AA0 Po 1AA7 Lm 1AA8",
     "Po 1AAE Cn 1AB0 Mn 1ABE Me 1ABF Mn 1ACF Cn 1B00 Mn 1B04 Mc 1B05 Lo 1B34 Mn 1B35 Mc 1B36 Mn",
     "1B3B Mc 1B3C Mn 1B3D Mc 1B42 Mn 1B43 Mc 1B45 Lo 1B4D Cn 1B50 Nd 1B5A Po 1B61 So 1B6B Mn 1B74",
     "So 1B7D Po 1B7F Cn 1B80 Mn 1B82 Mc 1B83 Lo 1BA1 Mc 1BA2 Mn 1BA6 Mc 1BA8 Mn 1BAA Mc 1BAB Mn",
     "1BAE Lo 1BB0 Nd 1BBA Lo 1BE6 Mn 1BE7 Mc 1BE8 Mn 1BEA Mc 1BED Mn 1BEE Mc 1BEF Mn 1BF2 Mc 1BF4",
     "Cn 1BFC Po 1C00 Lo 1C24 Mc 1C2C Mn 1C34 Mc 1C36 Mn 1C38 Cn 1C3B Po 1C40 Nd 1C4A Cn 1C4D Lo",
     "1C50 Nd 1C5A Lo 1C78 Lm 1C7E Po 1C80 Ll 1C89 Cn 1C90 Lu 1CBB Cn 1CBD Lu 1CC0 Po 1CC8 Cn 1CD0",
     "Mn 1CD3 Po 1CD4 Mn 1CE1 Mc 1CE2 Mn 1CE9 Lo 1CED Mn 1CEE Lo 1CF4 Mn 1CF5 Lo 1CF7 Mc 1CF8 Mn",
     "1CFA Lo 1CFB Cn 1D00 Ll 1D2C Lm 1D6B Ll 1D78 Lm 1D79 Ll 1D9B Lm 1DC0 Mn 1E00 Lu 1E01 Ll 1E02",
     "Lu 1E03 Ll 1E04 Lu 1E05 Ll 1E06 Lu 1E07 Ll 1E08 Lu 1E09 Ll 1E0A Lu 1E0B Ll 1E0C Lu 1E0D Ll",
     "1E0E Lu 1E0F Ll 1E10 Lu 1E11 Ll 1E12 Lu 1E13 Ll 1E14 Lu 1E15 Ll 1E16 Lu 1E17 Ll 1E18 Lu 1E19",
     "Ll 1E1A Lu 1E1B Ll 1E1C Lu 1E1D Ll 1E1E Lu 1E1F Ll 1E20 Lu 1E21 Ll 1E22 Lu 1E23 Ll 1E24 Lu",
     "1E25 Ll 1E26 Lu 1E27 Ll 1E28 Lu 1E29 Ll 1E2A Lu 1E2B Ll 1E2C Lu 1E2D Ll 1E2E Lu 1E2F Ll 1E30",
     "Lu 1E31 Ll 1E32 Lu 1E33 Ll 1E34 Lu 1E35 Ll 1E36 Lu 1E37 Ll 1E38 Lu 1E39 Ll 1E3A Lu 1E3B Ll",
     "1E3C Lu 1E3D Ll 1E3E Lu 1E3F Ll 1E40 Lu 1E41 Ll 1E42 Lu 1E43 Ll 1E44 Lu 1E45 Ll 1E46 Lu 1E47",
     "Ll 1E48 Lu 1E49 Ll 1E4A Lu 1E4B Ll 1E4C Lu 1E4D Ll 1E4E Lu 1E4F Ll 1E50 Lu 1E51 Ll 1E52 Lu",
     "1E53 Ll 1E54 Lu 1E55 Ll 1E56 Lu 1E57 Ll 1E58 Lu 1E59 Ll 1E5A Lu 1E5B Ll 1E5C Lu 1E5D Ll 1E5E",
     "Lu 1E5F Ll 1E60 Lu 1E61 Ll 1E62 Lu 1E63 Ll 1E64 Lu 1E65 Ll 1E66 Lu 1E67 Ll 1E68 Lu 1E69 Ll",
     "1E6A Lu 1E6B Ll 1E6C Lu 1E6D Ll 1E6E Lu 1E6F Ll 1E70 Lu 1E71 Ll 1E72 Lu 1E73 Ll 1E74 Lu 1E75",
     "Ll 1E76 Lu 1E77 Ll 1E78 Lu 1E79 Ll 1E7A Lu 1E7B Ll 1E7C Lu 1E7D Ll 1E7E Lu 1E7F Ll 1E80 Lu",
     "1E81 Ll 1E82 Lu 1E83 Ll 1E84 Lu 1E85 Ll 1E86 Lu 1E87 Ll 1E88 Lu 1E89 Ll 1E8A Lu 1E8B Ll 1E8C",
     "Lu 1E8D Ll 1E8E Lu 1E8F Ll 1E90 Lu 1E91 Ll 1E92 Lu 1E93 Ll 1E94 Lu 1E95 Ll 1E9E Lu 1E9F Ll",
     "1EA0 Lu 1EA1 Ll 1EA2 Lu 1EA3 Ll 1EA4 Lu 1EA5 Ll 1EA6 Lu 1EA7 Ll 1EA8 Lu 1EA9 Ll 1EAA Lu 1EAB",
     "Ll 1EAC Lu 1EAD Ll 1EAE Lu 1EAF Ll 1EB0 Lu 1EB1 Ll 1EB2 Lu 1EB3 Ll 1EB4 Lu 1EB5 Ll 1EB6 Lu",
     "1EB7 Ll 1EB8 Lu 1EB9 Ll 1EBA Lu 1EBB Ll 1EBC Lu 1EBD Ll 1EBE Lu 1EBF Ll 1EC0 Lu 1EC1 Ll 1EC2",
     "Lu 1EC3 Ll 1EC4 Lu 1EC5 Ll 1EC6 Lu 1EC7 Ll 1EC8 Lu 1EC9 Ll 1ECA Lu 1ECB Ll 1ECC Lu 1ECD Ll",
     "1ECE Lu 1ECF Ll 1ED0 Lu 1ED1 Ll 1ED2 Lu 1ED3 Ll 1ED4 Lu 1ED5 Ll 1ED6 Lu 1ED7 Ll 1ED8 Lu 1ED9",
     "Ll 1EDA Lu 1EDB Ll 1EDC Lu 1EDD Ll 1EDE Lu 1EDF Ll 1EE0 Lu 1EE1 Ll 1EE2 Lu 1EE3 Ll 1EE4 Lu",
     "1EE5 Ll 1EE6 Lu 1EE7 Ll 1EE8 Lu 1EE9 Ll 1EEA Lu 1EEB Ll 1EEC Lu 1EED Ll 1EEE Lu 1EEF Ll 1EF0",
     "Lu 1EF1 Ll 1EF2 Lu 1EF3 Ll 1EF4 Lu 1EF5 Ll 1EF6 Lu 1EF7 Ll 1EF8 Lu 1EF9 Ll 1EFA Lu 1EFB Ll",
     "1EFC Lu 1EFD Ll 1EFE Lu 1EFF Ll 1F08 Lu 1F10 Ll 1F16 Cn 1F18 Lu 1F1E Cn 1F20 Ll 1F28 Lu 1F30",
     "Ll 1F38 Lu 1F40 Ll 1F46 Cn 1F48 Lu 1F4E Cn 1F50 Ll 1F58 Cn 1F59 Lu 1F5A Cn 1F5B Lu 1F5C Cn",
     "1F5D Lu 1F5E Cn 1F5F Lu 1F60 Ll 1F68 Lu 1F70 Ll 1F7E Cn 1F80 Ll 1F88 Lt 1F90 Ll 1F98 Lt 1FA0",
     "Ll 1FA8 Lt 1FB0 Ll 1FB5 Cn 1FB6 Ll 1FB8 Lu 1FBC Lt 1FBD Sk 1FBE Ll 1FBF Sk 1FC2 Ll 1FC5 Cn",
     "1FC6 Ll 1FC8 Lu 1FCC Lt 1FCD Sk 1FD0 Ll 1FD4 Cn 1FD6 Ll 1FD8 Lu 1FDC Cn 1FDD Sk 1FE0 Ll 1FE8",
     "Lu 1FED Sk 1FF0 Cn 1FF2 Ll 1FF5 Cn 1FF6 Ll 1FF8 Lu 1FFC Lt 1FFD Sk 1FFF Cn 2000 Zs 200B Cf",
     "2010 Pd 2016 Po 2018 Pi 2019 Pf 201A Ps 201B Pi 201D Pf 201E Ps 201F Pi 2020 Po 2028 Zl 2029",
     "Zp 202A Cf 202F Zs 2030 Po 2039 Pi 203A Pf 203B Po 203F Pc 2041 Po 2044 Sm 2045 Ps 2046 Pe",
     "2047 Po 2052 Sm 2053 Po 2054 Pc 2055 Po 205F Zs 2060 Cf 2065 Cn 2066 Cf 2070 No 2071 Lm 2072",
     "Cn 2074 No 207A Sm 207D Ps 207E Pe 207F Lm 2080 No 208A Sm 208D Ps 208E Pe 208F Cn 2090 Lm",
     "209D Cn 20A0 Sc 20C1 Cn 20D0 Mn 20DD Me 20E1 Mn 20E2 Me 20E5 Mn 20F1 Cn 2100 So 2102 Lu 2103",
     "So 2107 Lu 2108 So 210A Ll 210B Lu 210E Ll 2110 Lu 2113 Ll 2114 So 2115 Lu 2116 So 2118 Sm",
     "2119 Lu 211E So 2124 Lu 2125 So 2126 Lu 2127 So 2128 Lu 2129 So 212A Lu 212E So 212F Ll 2130",
     "Lu 2134 Ll 2135 Lo 2139 Ll 213A So 213C Ll 213E Lu 2140 Sm 2145 Lu 2146 Ll 214A So 214B Sm",
     "214C So 214E Ll 214F So 2150 No 2160 Nl 2183 Lu 2184 Ll 2185 Nl 2189 No 218A So 218C Cn 2190",
     "Sm 2195 So 219A Sm 219C So 21A0 Sm 21A1 So 21A3 Sm 21A4 So 21A6 Sm 21A7 So 21AE Sm 21AF So",
     "21CE Sm 21D0 So 21D2 Sm 21D3 So 21D4 Sm 21D5 So 21F4 Sm 2300 So 2308 Ps 2309 Pe 230A Ps 230B",
     "Pe 230C So 2320 Sm 2322 So 2329 Ps 232A Pe 232B So 237C Sm 237D So 239B Sm 23B4 So 23DC Sm",
     "23E2 So 2427 Cn 2440 So 244B Cn 2460 No 249C So 24EA No 2500 So 25B7 Sm 25B8 So 25C1 Sm 25C2",
     "So 25F8 Sm 2600 So 266F Sm 2670 So 2768 Ps 2769 Pe 276A Ps 276B Pe 276C Ps 276D Pe 276E Ps",
     "276F Pe 2770 Ps 2771 Pe 2772 Ps 2773 Pe 2774 Ps 2775 Pe 2776 No 2794 So 27C0 Sm 27C5 Ps 27C6",
     "Pe 27C7 Sm 27E6 Ps 27E7 Pe 27E8 Ps 27E9 Pe 27EA Ps 27EB Pe 27EC Ps 27ED Pe 27EE Ps 27EF Pe",
     "27F0 Sm 2800 So 2900 Sm 2983 Ps 2984 Pe 2985 Ps 2986 Pe 2987 Ps 2988 Pe 2989 Ps 298A Pe 298B",
     "Ps 298C Pe 298D Ps 298E Pe 298F Ps 2990 Pe 2991 Ps 2992 Pe 2993 Ps 2994 Pe 2995 Ps 2996 Pe",
     "2997 Ps 2998 Pe 2999 Sm 29D8 Ps 29D9 Pe 29DA Ps 29DB Pe 29DC Sm 29FC Ps 29FD Pe 29FE Sm 2B00",
     "So 2B30 Sm 2B45 So 2B47 Sm 2B4D So 2B74 Cn 2B76 So 2B96 Cn 2B97 So 2C00 Lu 2C30 Ll 2C60 Lu",
     "2C61 Ll 2C62 Lu 2C65 Ll 2C67 Lu 2C68 Ll 2C69 Lu 2C6A Ll 2C6B Lu 2C6C Ll 2C6D Lu 2C71 Ll 2C72",
     "Lu 2C73 Ll 2C75 Lu 2C76 Ll 2C7C Lm 2C7E Lu 2C81 Ll 2C82 Lu 2C83 Ll 2C84 Lu 2C85 Ll 2C86 Lu",
     "2C87 Ll 2C88 Lu 2C89 Ll 2C8A Lu 2C8B Ll 2C8C Lu 2C8D Ll 2C8E Lu 2C8F Ll 2C90 Lu 2C91 Ll 2C92",
     "Lu 2C93 Ll 2C94 Lu 2C95 Ll 2C96 Lu 2C97 Ll 2C98 Lu 2C99 Ll 2C9A Lu 2C9B Ll 2C9C Lu 2C9D Ll",
     "2C9E Lu 2C9F Ll 2CA0 Lu 2CA1 Ll 2CA2 Lu 2CA3 Ll 2CA4 Lu 2CA5 Ll 2CA6 Lu 2CA7 Ll 2CA8 Lu 2CA9",
     "Ll 2CAA Lu 2CAB Ll 2CAC Lu 2CAD Ll 2CAE Lu 2CAF Ll 2CB0 Lu 2CB1 Ll 2CB2 Lu 2CB3 Ll 2CB4 Lu",
     "2CB5 Ll 2CB6 Lu 2CB7 Ll 2CB8 Lu 2CB9 Ll 2CBA Lu 2CBB Ll 2CBC Lu 2CBD Ll 2CBE Lu 2CBF Ll 2CC0",
     "Lu 2CC1 Ll 2CC2 Lu 2CC3 Ll 2CC4 Lu 2CC5 Ll 2CC6 Lu 2CC7 Ll 2CC8 Lu 2CC9 Ll 2CCA Lu 2CCB Ll",
     "2CCC Lu 2CCD Ll 2CCE Lu 2CCF Ll 2CD0 Lu 2CD1 Ll 2CD2 Lu 2CD3 Ll 2CD4 Lu 2CD5 Ll 2CD6 Lu 2CD7",
     "Ll 2CD8 Lu 2CD9 Ll 2CDA Lu 2CDB Ll 2CDC Lu 2CDD Ll 2CDE Lu 2CDF Ll 2CE0 Lu 2CE1 Ll 2CE2 Lu",
     "2CE3 Ll 2CE5 So 2CEB Lu 2CEC Ll 2CED Lu 2CEE Ll 2CEF Mn 2CF2 Lu 2CF3 Ll 2CF4 Cn 2CF9 Po 2CFD",
     "No 2CFE Po 2D00 Ll 2D26 Cn 2D27 Ll 2D28 Cn 2D2D Ll 2D2E Cn 2D30 Lo 2D68 Cn 2D6F Lm 2D70 Po",
     "2D71 Cn 2D7F Mn 2D80 Lo 2D97 Cn 2DA0 Lo 2DA7 Cn 2DA8 Lo 2DAF Cn 2DB0 Lo 2DB7 Cn 2DB8 Lo 2DBF",
     "Cn 2DC0 Lo 2DC7 Cn 2DC8 Lo 2DCF Cn 2DD0 Lo 2DD7 Cn 2DD8 Lo 2DDF Cn 2DE0 Mn 2E00 Po 2E02 Pi",
     "2E03 Pf 2E04 Pi 2E05 Pf 2E06 Po 2E09 Pi 2E0A Pf 2E0B Po 2E0C Pi 2E0D Pf 2E0E Po 2E17 Pd 2E18",
     "Po 2E1A Pd 2E1B Po 2E1C Pi 2E1D Pf 2E1E Po 2E20 Pi 2E21 Pf 2E22 Ps 2E23 Pe 2E24 Ps 2E25 Pe",
     "2E26 Ps 2E27 Pe 2E28 Ps 2E29 Pe 2E2A Po 2E2F Lm 2E30 Po 2E3A Pd 2E3C Po 2E40 Pd 2E41 Po 2E42",
     "Ps 2E43 Po 2E50 So 2E52 Po 2E55 Ps 2E56 Pe 2E57 Ps 2E58 Pe 2E59 Ps 2E5A Pe 2E5B Ps 2E5C Pe",
     "2E5D Pd 2E5E Cn 2E80 So 2E9A Cn 2E9B So 2EF4 Cn 2F00 So 2FD6 Cn 2FF0 So 2FFC Cn 3000 Zs 3001",
     "Po 3004 So 3005 Lm 3006 Lo 3007 Nl 3008 Ps 3009 Pe 300A Ps 300B Pe 300C Ps 300D Pe 300E Ps",
     "300F Pe 3010 Ps 3011 Pe 3012 So 3014 Ps 3015 Pe 3016 Ps 3017 Pe 3018 Ps 3019 Pe 301A Ps 301B",
     "Pe 301C Pd 301D Ps 301E Pe 3020 So 3021 Nl 302A Mn 302E Mc 3030 Pd 3031 Lm 3036 So 3038 Nl",
     "303B Lm 303C Lo 303D Po 303E So 3040 Cn 3041 Lo 3097 Cn 3099 Mn 309B Sk 309D Lm 309F Lo 30A0",
     "Pd 30A1 Lo 30FB Po 30FC Lm 30FF Lo 3100 Cn 3105 Lo 3130 Cn 3131 Lo 318F Cn 3190 So 3192 No",
     "3196 So 31A0 Lo 31C0 So 31E4 Cn 31F0 Lo 3200 So 321F Cn 3220 No 322A So 3248 No 3250 So 3251",
     "No 3260 So 3280 No 328A So 32B1 No 32C0 So 3400 Lo 4DC0 So 4E00 Lo A015 Lm A016 Lo A48D Cn",
     "A490 So A4C7 Cn A4D0 Lo A4F8 Lm A4FE Po A500 Lo A60C Lm A60D Po A610 Lo A620 Nd A62A Lo A62C",
     "Cn A640 Lu A641 Ll A642 Lu A643 Ll A644 Lu A645 Ll A646 Lu A647 Ll A648 Lu A649 Ll A64A Lu",
     "A64B Ll A64C Lu A64D Ll A64E Lu A64F Ll A650 Lu A651 Ll A652 Lu A653 Ll A654 Lu A655 Ll A656",
     "Lu A657 Ll A658 Lu A659 Ll A65A Lu A65B Ll A65C Lu A65D Ll A65E Lu A65F Ll A660 Lu A661 Ll",
     "A662 Lu A663 Ll A664 Lu A665 Ll A666 Lu A667 Ll A668 Lu A669 Ll A66A Lu A66B Ll A66C Lu A66D",
     "Ll A66E Lo A66F Mn A670 Me A673 Po A674 Mn A67E Po A67F Lm A680 Lu A681 Ll A682 Lu A683 Ll",
     "A684 Lu A685 Ll A686 Lu A687 Ll A688 Lu A689 Ll A68A Lu A68B Ll A68C Lu A68D Ll A68E Lu A68F",
     "Ll A690 Lu A691 Ll A692 Lu A693 Ll A694 Lu A695 Ll A696 Lu A697 Ll A698 Lu A699 Ll A69A Lu",
     "A69B Ll A69C Lm A69E Mn A6A0 Lo A6E6 Nl A6F0 Mn A6F2 Po A6F8 Cn A700 Sk A717 Lm A720 Sk A722",
     "Lu A723 Ll A724 Lu A725 Ll A726 Lu A727 Ll A728 Lu A729 Ll A72A Lu A72B Ll A72C Lu A72D Ll",
     "A72E Lu A72F Ll A732 Lu A733 Ll A734 Lu A735 Ll A736 Lu A737 Ll A738 Lu A739 Ll A73A Lu A73B",
     "Ll A73C Lu A73D Ll A73E Lu A73F Ll A740 Lu A741 Ll A742 Lu A743 Ll A744 Lu A745 Ll A746 Lu",
     "A747 Ll A748 Lu A749 Ll A74A Lu A74B Ll A74C Lu A74D Ll A74E Lu A74F Ll A750 Lu A751 Ll A752",
     "Lu A753 Ll A754 Lu A755 Ll A756 Lu A757 Ll A758 Lu A759 Ll A75A Lu A75B Ll A75C Lu A75D Ll",
     "A75E Lu A75F Ll A760 Lu A761 Ll A762 Lu A763 Ll A764 Lu A765 Ll A766 Lu A767 Ll A768 Lu A769",
     "Ll A76A Lu A76B Ll A76C Lu A76D Ll A76E Lu A76F Ll A770 Lm A771 Ll A779 Lu A77A Ll A77B Lu",
     "A77C Ll A77D Lu A77F Ll A780 Lu A781 Ll A782 Lu A783 Ll A784 Lu A785 Ll A786 Lu A787 Ll A788",
     "Lm A789 Sk A78B Lu A78C Ll A78D Lu A78E Ll A78F Lo A790 Lu A791 Ll A792 Lu A793 Ll A796 Lu",
     "A797 Ll A798 Lu A799 Ll A79A Lu A79B Ll A79C Lu A79D Ll A79E Lu A79F Ll A7A0 Lu A7A1 Ll A7A2",
     "Lu A7A3 Ll A7A4 Lu A7A5 Ll A7A6 Lu A7A7 Ll A7A8 Lu A7A9 Ll A7AA Lu A7AF Ll A7B0 Lu A7B5 Ll",
     "A7B6 Lu A7B7 Ll A7B8 Lu A7B9 Ll A7BA Lu A7BB Ll A7BC Lu A7BD Ll A7BE Lu A7BF Ll A7C0 Lu A7C1",
     "Ll A7C2 Lu A7C3 Ll A7C4 Lu A7C8 Ll A7C9 Lu A7CA Ll A7CB Cn A7D0 Lu A7D1 Ll A7D2 Cn A7D3 Ll",
     "A7D4 Cn A7D5 Ll A7D6 Lu A7D7 Ll A7D8 Lu A7D9 Ll A7DA Cn A7F2 Lm A7F5 Lu A7F6 Ll A7F7 Lo A7F8",
     "Lm A7FA Ll A7FB Lo A802 Mn A803 Lo A806 Mn A807 Lo A80B Mn A80C Lo A823 Mc A825 Mn A827 Mc",
     "A828 So A82C Mn A82D Cn A830 No A836 So A838 Sc A839 So A83A Cn A840 Lo A874 Po A878 Cn A880",
     "Mc A882 Lo A8B4 Mc A8C4 Mn A8C6 Cn A8CE Po A8D0 Nd A8DA Cn A8E0 Mn A8F2 Lo A8F8 Po A8FB Lo",
     "A8FC Po A8FD Lo A8FF Mn A900 Nd A90A Lo A926 Mn A92E Po A930 Lo A947 Mn A952 Mc A954 Cn A95F",
     "Po A960 Lo A97D Cn A980 Mn A983 Mc A984 Lo A9B3 Mn A9B4 Mc A9B6 Mn A9BA Mc A9BC Mn A9BE Mc",
     "A9C1 Po A9CE Cn A9CF Lm A9D0 Nd A9DA Cn A9DE Po A9E0 Lo A9E5 Mn A9E6 Lm A9E7 Lo A9F0 Nd A9FA",
     "Lo A9FF Cn AA00 Lo AA29 Mn AA2F Mc AA31 Mn AA33 Mc AA35 Mn AA37 Cn AA40 Lo AA43 Mn AA44 Lo",
     "AA4C Mn AA4D Mc AA4E Cn AA50 Nd AA5A Cn AA5C Po AA60 Lo AA70 Lm AA71 Lo AA77 So AA7A Lo AA7B",
     "Mc AA7C Mn AA7D Mc AA7E Lo AAB0 Mn AAB1 Lo AAB2 Mn AAB5 Lo AAB7 Mn AAB9 Lo AABE Mn AAC0 Lo",
     "AAC1 Mn AAC2 Lo AAC3 Cn AADB Lo AADD Lm AADE Po AAE0 Lo AAEB Mc AAEC Mn AAEE Mc AAF0 Po AAF2",
     "Lo AAF3 Lm AAF5 Mc AAF6 Mn AAF7 Cn AB01 Lo AB07 Cn AB09 Lo AB0F Cn AB11 Lo AB17 Cn AB20 Lo",
     "AB27 Cn AB28 Lo AB2F Cn AB30 Ll AB5B Sk AB5C Lm AB60 Ll AB69 Lm AB6A Sk AB6C Cn AB70 Ll ABC0",
     "Lo ABE3 Mc ABE5 Mn ABE6 Mc ABE8 Mn ABE9 Mc ABEB Po ABEC Mc ABED Mn ABEE Cn ABF0 Nd ABFA Cn",
     "AC00 Lo D7A4 Cn D7B0 Lo D7C7 Cn D7CB Lo D7FC Cn D800 Cs E000 Co F900 Lo FA6E Cn FA70 Lo FADA",
     "Cn FB00 Ll FB07 Cn FB13 Ll FB18 Cn FB1D Lo FB1E Mn FB1F Lo FB29 Sm FB2A Lo FB37 Cn FB38 Lo",
     "FB3D Cn FB3E Lo FB3F Cn FB40 Lo FB42 Cn FB43 Lo FB45 Cn FB46 Lo FBB2 Sk FBC3 Cn FBD3 Lo FD3E",
     "Pe FD3F Ps FD40 So FD50 Lo FD90 Cn FD92 Lo FDC8 Cn FDCF So FDD0 Cn FDF0 Lo FDFC Sc FDFD So",
     "FE00 Mn FE10 Po FE17 Ps FE18 Pe FE19 Po FE1A Cn FE20 Mn FE30 Po FE31 Pd FE33 Pc FE35 Ps FE36",
     "Pe FE37 Ps FE38 Pe FE39 Ps FE3A Pe FE3B Ps FE3C Pe FE3D Ps FE3E Pe FE3F Ps FE40 Pe FE41 Ps",
     "FE42 Pe FE43 Ps FE44 Pe FE45 Po FE47 Ps FE48 Pe FE49 Po FE4D Pc FE50 Po FE53 Cn FE54 Po FE58",
     "Pd FE59 Ps FE5A Pe FE5B Ps FE5C Pe FE5D Ps FE5E Pe FE5F Po FE62 Sm FE63 Pd FE64 Sm FE67 Cn",
     "FE68 Po FE69 Sc FE6A Po FE6C Cn FE70 Lo FE75 Cn FE76 Lo FEFD Cn FEFF Cf FF00 Cn FF01 Po FF04",
     "Sc FF05 Po FF08 Ps FF09 Pe FF0A Po FF0B Sm FF0C Po FF0D Pd FF0E Po FF10 Nd FF1A Po FF1C Sm",
     "FF1F Po FF21 Lu FF3B Ps FF3C Po FF3D Pe FF3E Sk FF3F Pc FF40 Sk FF41 Ll FF5B Ps FF5C Sm FF5D",
     "Pe FF5E Sm FF5F Ps FF60 Pe FF61 Po FF62 Ps FF63 Pe FF64 Po FF66 Lo FF70 Lm FF71 Lo FF9E Lm",
     "FFA0 Lo FFBF Cn FFC2 Lo FFC8 Cn FFCA Lo FFD0 Cn FFD2 Lo FFD8 Cn FFDA Lo FFDD Cn FFE0 Sc FFE2",
     "Sm FFE3 Sk FFE4 So FFE5 Sc FFE7 Cn FFE8 So FFE9 Sm FFED So FFEF Cn FFF9 Cf FFFC So FFFE Cn",
     "10000 Lo 1000C Cn 1000D Lo 10027 Cn 10028 Lo 1003B Cn 1003C Lo 1003E Cn 1003F Lo 1004E Cn",
     "10050 Lo 1005E Cn 10080 Lo 100FB Cn 10100 Po 10103 Cn 10107 No 10134 Cn 10137 So 10140 Nl",
     "10175 No 10179 So 1018A No 1018C So 1018F Cn 10190 So 1019D Cn 101A0 So 101A1 Cn 101D0 So",
     "101FD Mn 101FE Cn 10280 Lo 1029D Cn 102A0 Lo 102D1 Cn 102E0 Mn 102E1 No 102FC Cn 10300 Lo",
     "10320 No 10324 Cn 1032D Lo 10341 Nl 10342 Lo 1034A Nl 1034B Cn 10350 Lo 10376 Mn 1037B Cn",
     "10380 Lo 1039E Cn 1039F Po 103A0 Lo 103C4 Cn 103C8 Lo 103D0 Po 103D1 Nl 103D6 Cn 10400 Lu",
     "10428 Ll 10450 Lo 1049E Cn 104A0 Nd 104AA Cn 104B0 Lu 104D4 Cn 104D8 Ll 104FC Cn 10500 Lo",
     "10528 Cn 10530 Lo 10564 Cn 1056F Po 10570 Lu 1057B Cn 1057C Lu 1058B Cn 1058C Lu 10593 Cn",
     "10594 Lu 10596 Cn 10597 Ll 105A2 Cn 105A3 Ll 105B2 Cn 105B3 Ll 105BA Cn 105BB Ll 105BD Cn",
     "10600 Lo 10737 Cn 10740 Lo 10756 Cn 10760 Lo 10768 Cn 10780 Lm 10786 Cn 10787 Lm 107B1 Cn",
     "107B2 Lm 107BB Cn 10800 Lo 10806 Cn 10808 Lo 10809 Cn 1080A Lo 10836 Cn 10837 Lo 10839 Cn",
     "1083C Lo 1083D Cn 1083F Lo 10856 Cn 10857 Po 10858 No 10860 Lo 10877 So 10879 No 10880 Lo",
     "1089F Cn 108A7 No 108B0 Cn 108E0 Lo 108F3 Cn 108F4 Lo 108F6 Cn 108FB No 10900 Lo 10916 No",
     "1091C Cn 1091F Po 10920 Lo 1093A Cn 1093F Po 10940 Cn 10980 Lo 109B8 Cn 109BC No 109BE Lo",
     "109C0 No 109D0 Cn 109D2 No 10A00 Lo 10A01 Mn 10A04 Cn 10A05 Mn 10A07 Cn 10A0C Mn 10A10 Lo",
     "10A14 Cn 10A15 Lo 10A18 Cn 10A19 Lo 10A36 Cn 10A38 Mn 10A3B Cn 10A3F Mn 10A40 No 10A49 Cn",
     "10A50 Po 10A59 Cn 10A60 Lo 10A7D No 10A7F Po 10A80 Lo 10A9D No 10AA0 Cn 10AC0 Lo 10AC8 So",
     "10AC9 Lo 10AE5 Mn 10AE7 Cn 10AEB No 10AF0 Po 10AF7 Cn 10B00 Lo 10B36 Cn 10B39 Po 10B40 Lo",
     "10B56 Cn 10B58 No 10B60 Lo 10B73 Cn 10B78 No 10B80 Lo 10B92 Cn 10B99 Po 10B9D Cn 10BA9 No",
     "10BB0 Cn 10C00 Lo 10C49 Cn 10C80 Lu 10CB3 Cn 10CC0 Ll 10CF3 Cn 10CFA No 10D00 Lo 10D24 Mn",
     "10D28 Cn 10D30 Nd 10D3A Cn 10E60 No 10E7F Cn 10E80 Lo 10EAA Cn 10EAB Mn 10EAD Pd 10EAE Cn",
     "10EB0 Lo 10EB2 Cn 10EFD Mn 10F00 Lo 10F1D No 10F27 Lo 10F28 Cn 10F30 Lo 10F46 Mn 10F51 No",
     "10F55 Po 10F5A Cn 10F70 Lo 10F82 Mn 10F86 Po 10F8A Cn 10FB0 Lo 10FC5 No 10FCC Cn 10FE0 Lo",
     "10FF7 Cn 11000 Mc 11001 Mn 11002 Mc 11003 Lo 11038 Mn 11047 Po 1104E Cn 11052 No 11066 Nd",
     "11070 Mn 11071 Lo 11073 Mn 11075 Lo 11076 Cn 1107F Mn 11082 Mc 11083 Lo 110B0 Mc 110B3 Mn",
     "110B7 Mc 110B9 Mn 110BB Po 110BD Cf 110BE Po 110C2 Mn 110C3 Cn 110CD Cf 110CE Cn 110D0 Lo",
     "110E9 Cn 110F0 Nd 110FA Cn 11100 Mn 11103 Lo 11127 Mn 1112C Mc 1112D Mn 11135 Cn 11136 Nd",
     "11140 Po 11144 Lo 11145 Mc 11147 Lo 11148 Cn 11150 Lo 11173 Mn 11174 Po 11176 Lo 11177 Cn",
     "11180 Mn 11182 Mc 11183 Lo 111B3 Mc 111B6 Mn 111BF Mc 111C1 Lo 111C5 Po 111C9 Mn 111CD Po",
     "111CE Mc 111CF Mn 111D0 Nd 111DA Lo 111DB Po 111DC Lo 111DD Po 111E0 Cn 111E1 No 111F5 Cn",
     "11200 Lo 11212 Cn 11213 Lo 1122C Mc 1122F Mn 11232 Mc 11234 Mn 11235 Mc 11236 Mn 11238 Po",
     "1123E Mn 1123F Lo 11241 Mn 11242 Cn 11280 Lo 11287 Cn 11288 Lo 11289 Cn 1128A Lo 1128E Cn",
     "1128F Lo 1129E Cn 1129F Lo 112A9 Po 112AA Cn 112B0 Lo 112DF Mn 112E0 Mc 112E3 Mn 112EB Cn",
     "112F0 Nd 112FA Cn 11300 Mn 11302 Mc 11304 Cn 11305 Lo 1130D Cn 1130F Lo 11311 Cn 11313 Lo",
     "11329 Cn 1132A Lo 11331 Cn 11332 Lo 11334 Cn 11335 Lo 1133A Cn 1133B Mn 1133D Lo 1133E Mc",
     "11340 Mn 11341 Mc 11345 Cn 11347 Mc 11349 Cn 1134B Mc 1134E Cn 11350 Lo 11351 Cn 11357 Mc",
     "11358 Cn 1135D Lo 11362 Mc 11364 Cn 11366 Mn 1136D Cn 11370 Mn 11375 Cn 11400 Lo 11435 Mc",
     "11438 Mn 11440 Mc 11442 Mn 11445 Mc 11446 Mn 11447 Lo 1144B Po 11450 Nd 1145A Po 1145C Cn",
     "1145D Po 1145E Mn 1145F Lo 11462 Cn 11480 Lo 114B0 Mc 114B3 Mn 114B9 Mc 114BA Mn 114BB Mc",
     "114BF Mn 114C1 Mc 114C2 Mn 114C4 Lo 114C6 Po 114C7 Lo 114C8 Cn 114D0 Nd 114DA Cn 11580 Lo",
     "115AF Mc 115B2 Mn 115B6 Cn 115B8 Mc 115BC Mn 115BE Mc 115BF Mn 115C1 Po 115D8 Lo 115DC Mn",
     "115DE Cn 11600 Lo 11630 Mc 11633 Mn 1163B Mc 1163D Mn 1163E Mc 1163F Mn 11641 Po 11644 Lo",
     "11645 Cn 11650 Nd 1165A Cn 11660 Po 1166D Cn 11680 Lo 116AB Mn 116AC Mc 116AD Mn 116AE Mc",
     "116B0 Mn 116B6 Mc 116B7 Mn 116B8 Lo 116B9 Po 116BA Cn 116C0 Nd 116CA Cn 11700 Lo 1171B Cn",
     "1171D Mn 11720 Mc 11722 Mn 11726 Mc 11727 Mn 1172C Cn 11730 Nd 1173A No 1173C Po 1173F So",
     "11740 Lo 11747 Cn 11800 Lo 1182C Mc 1182F Mn 11838 Mc 11839 Mn 1183B Po 1183C Cn 118A0 Lu",
     "118C0 Ll 118E0 Nd 118EA No 118F3 Cn 118FF Lo 11907 Cn 11909 Lo 1190A Cn 1190C Lo 11914 Cn",
     "11915 Lo 11917 Cn 11918 Lo 11930 Mc 11936 Cn 11937 Mc 11939 Cn 1193B Mn 1193D Mc 1193E Mn",
     "1193F Lo 11940 Mc 11941 Lo 11942 Mc 11943 Mn 11944 Po 11947 Cn 11950 Nd 1195A Cn 119A0 Lo",
     "119A8 Cn 119AA Lo 119D1 Mc 119D4 Mn 119D8 Cn 119DA Mn 119DC Mc 119E0 Mn 119E1 Lo 119E2 Po",
     "119E3 Lo 119E4 Mc 119E5 Cn 11A00 Lo 11A01 Mn 11A0B Lo 11A33 Mn 11A39 Mc 11A3A Lo 11A3B Mn",
     "11A3F Po 11A47 Mn 11A48 Cn 11A50 Lo 11A51 Mn 11A57 Mc 11A59 Mn 11A5C Lo 11A8A Mn 11A97 Mc",
     "11A98 Mn 11A9A Po 11A9D Lo 11A9E Po 11AA3 Cn 11AB0 Lo 11AF9 Cn 11B00 Po 11B0A Cn 11C00 Lo",
     "11C09 Cn 11C0A Lo 11C2F Mc 11C30 Mn 11C37 Cn 11C38 Mn 11C3E Mc 11C3F Mn 11C40 Lo 11C41 Po",
     "11C46 Cn 11C50 Nd 11C5A No 11C6D Cn 11C70 Po 11C72 Lo 11C90 Cn 11C92 Mn 11CA8 Cn 11CA9 Mc",
     "11CAA Mn 11CB1 Mc 11CB2 Mn 11CB4 Mc 11CB5 Mn 11CB7 Cn 11D00 Lo 11D07 Cn 11D08 Lo 11D0A Cn",
     "11D0B Lo 11D31 Mn 11D37 Cn 11D3A Mn 11D3B Cn 11D3C Mn 11D3E Cn 11D3F Mn 11D46 Lo 11D47 Mn",
     "11D48 Cn 11D50 Nd 11D5A Cn 11D60 Lo 11D66 Cn 11D67 Lo 11D69 Cn 11D6A Lo 11D8A Mc 11D8F Cn",
     "11D90 Mn 11D92 Cn 11D93 Mc 11D95 Mn 11D96 Mc 11D97 Mn 11D98 Lo 11D99 Cn 11DA0 Nd 11DAA Cn",
     "11EE0 Lo 11EF3 Mn 11EF5 Mc 11EF7 Po 11EF9 Cn 11F00 Mn 11F02 Lo 11F03 Mc 11F04 Lo 11F11 Cn",
     "11F12 Lo 11F34 Mc 11F36 Mn 11F3B Cn 11F3E Mc 11F40 Mn 11F41 Mc 11F42 Mn 11F43 Po 11F50 Nd",
     "11F5A Cn 11FB0 Lo 11FB1 Cn 11FC0 No 11FD5 So 11FDD Sc 11FE1 So 11FF2 Cn 11FFF Po 12000 Lo",
     "1239A Cn 12400 Nl 1246F Cn 12470 Po 12475 Cn 12480 Lo 12544 Cn 12F90 Lo 12FF1 Po 12FF3 Cn",
     "13000 Lo 13430 Cf 13440 Mn 13441 Lo 13447 Mn 13456 Cn 14400 Lo 14647 Cn 16800 Lo 16A39 Cn",
     "16A40 Lo 16A5F Cn 16A60 Nd 16A6A Cn 16A6E Po 16A70 Lo 16ABF Cn 16AC0 Nd 16ACA Cn 16AD0 Lo",
     "16AEE Cn 16AF0 Mn 16AF5 Po 16AF6 Cn 16B00 Lo 16B30 Mn 16B37 Po 16B3C So 16B40 Lm 16B44 Po",
     "16B45 So 16B46 Cn 16B50 Nd 16B5A Cn 16B5B No 16B62 Cn 16B63 Lo 16B78 Cn 16B7D Lo 16B90 Cn",
     "16E40 Lu 16E60 Ll 16E80 No 16E97 Po 16E9B Cn 16F00 Lo 16F4B Cn 16F4F Mn 16F50 Lo 16F51 Mc",
     "16F88 Cn 16F8F Mn 16F93 Lm 16FA0 Cn 16FE0 Lm 16FE2 Po 16FE3 Lm 16FE4 Mn 16FE5 Cn 16FF0 Mc",
     "16FF2 Cn 17000 Lo 187F8 Cn 18800 Lo 18CD6 Cn 18D00 Lo 18D09 Cn 1AFF0 Lm 1AFF4 Cn 1AFF5 Lm",
     "1AFFC Cn 1AFFD Lm 1AFFF Cn 1B000 Lo 1B123 Cn 1B132 Lo 1B133 Cn 1B150 Lo 1B153 Cn 1B155 Lo",
     "1B156 Cn 1B164 Lo 1B168 Cn 1B170 Lo 1B2FC Cn 1BC00 Lo 1BC6B Cn 1BC70 Lo 1BC7D Cn 1BC80 Lo",
     "1BC89 Cn 1BC90 Lo 1BC9A Cn 1BC9C So 1BC9D Mn 1BC9F Po 1BCA0 Cf 1BCA4 Cn 1CF00 Mn 1CF2E Cn",
     "1CF30 Mn 1CF47 Cn 1CF50 So 1CFC4 Cn 1D000 So 1D0F6 Cn 1D100 So 1D127 Cn 1D129 So 1D165 Mc",
     "1D167 Mn 1D16A So 1D16D Mc 1D173 Cf 1D17B Mn 1D183 So 1D185 Mn 1D18C So 1D1AA Mn 1D1AE So",
     "1D1EB Cn 1D200 So 1D242 Mn 1D245 So 1D246 Cn 1D2C0 No 1D2D4 Cn 1D2E0 No 1D2F4 Cn 1D300 So",
     "1D357 Cn 1D360 No 1D379 Cn 1D400 Lu 1D41A Ll 1D434 Lu 1D44E Ll 1D455 Cn 1D456 Ll 1D468 Lu",
     "1D482 Ll 1D49C Lu 1D49D Cn 1D49E Lu 1D4A0 Cn 1D4A2 Lu 1D4A3 Cn 1D4A5 Lu 1D4A7 Cn 1D4A9 Lu",
     "1D4AD Cn 1D4AE Lu 1D4B6 Ll 1D4BA Cn 1D4BB Ll 1D4BC Cn 1D4BD Ll 1D4C4 Cn 1D4C5 Ll 1D4D0 Lu",
     "1D4EA Ll 1D504 Lu 1D506 Cn 1D507 Lu 1D50B Cn 1D50D Lu 1D515 Cn 1D516 Lu 1D51D Cn 1D51E Ll",
     "1D538 Lu 1D53A Cn 1D53B Lu 1D53F Cn 1D540 Lu 1D545 Cn 1D546 Lu 1D547 Cn 1D54A Lu 1D551 Cn",
     "1D552 Ll 1D56C Lu 1D586 Ll 1D5A0 Lu 1D5BA Ll 1D5D4 Lu 1D5EE Ll 1D608 Lu 1D622 Ll 1D63C Lu",
     "1D656 Ll 1D670 Lu 1D68A Ll 1D6A6 Cn 1D6A8 Lu 1D6C1 Sm 1D6C2 Ll 1D6DB Sm 1D6DC Ll 1D6E2 Lu",
     "1D6FB Sm 1D6FC Ll 1D715 Sm 1D716 Ll 1D71C Lu 1D735 Sm 1D736 Ll 1D74F Sm 1D750 Ll 1D756 Lu",
     "1D76F Sm 1D770 Ll 1D789 Sm 1D78A Ll 1D790 Lu 1D7A9 Sm 1D7AA Ll 1D7C3 Sm 1D7C4 Ll 1D7CA Lu",
     "1D7CB Ll 1D7CC Cn 1D7CE Nd 1D800 So 1DA00 Mn 1DA37 So 1DA3B Mn 1DA6D So 1DA75 Mn 1DA76 So",
     "1DA84 Mn 1DA85 So 1DA87 Po 1DA8C Cn 1DA9B Mn 1DAA0 Cn 1DAA1 Mn 1DAB0 Cn 1DF00 Ll 1DF0A Lo",
     "1DF0B Ll 1DF1F Cn 1DF25 Ll 1DF2B Cn 1E000 Mn 1E007 Cn 1E008 Mn 1E019 Cn 1E01B Mn 1E022 Cn",
     "1E023 Mn 1E025 Cn 1E026 Mn 1E02B Cn 1E030 Lm 1E06E Cn 1E08F Mn 1E090 Cn 1E100 Lo 1E12D Cn",
     "1E130 Mn 1E137 Lm 1E13E Cn 1E140 Nd 1E14A Cn 1E14E Lo 1E14F So 1E150 Cn 1E290 Lo 1E2AE Mn",
     "1E2AF Cn 1E2C0 Lo 1E2EC Mn 1E2F0 Nd 1E2FA Cn 1E2FF Sc 1E300 Cn 1E4D0 Lo 1E4EB Lm 1E4EC Mn",
     "1E4F0 Nd 1E4FA Cn 1E7E0 Lo 1E7E7 Cn 1E7E8 Lo 1E7EC Cn 1E7ED Lo 1E7EF Cn 1E7F0 Lo 1E7FF Cn",
     "1E800 Lo 1E8C5 Cn 1E8C7 No 1E8D0 Mn 1E8D7 Cn 1E900 Lu 1E922 Ll 1E944 Mn 1E94B Lm 1E94C Cn",
     "1E950 Nd 1E95A Cn 1E95E Po 1E960 Cn 1EC71 No 1ECAC So 1ECAD No 1ECB0 Sc 1ECB1 No 1ECB5 Cn",
     "1ED01 No 1ED2E So 1ED2F No 1ED3E Cn 1EE00 Lo 1EE04 Cn 1EE05 Lo 1EE20 Cn 1EE21 Lo 1EE23 Cn",
     "1EE24 Lo 1EE25 Cn 1EE27 Lo 1EE28 Cn 1EE29 Lo 1EE33 Cn 1EE34 Lo 1EE38 Cn 1EE39 Lo 1EE3A Cn",
     "1EE3B Lo 1EE3C Cn 1EE42 Lo 1EE43 Cn 1EE47 Lo 1EE48 Cn 1EE49 Lo 1EE4A Cn 1EE4B Lo 1EE4C Cn",
     "1EE4D Lo 1EE50 Cn 1EE51 Lo 1EE53 Cn 1EE54 Lo 1EE55 Cn 1EE57 Lo 1EE58 Cn 1EE59 Lo 1EE5A Cn",
     "1EE5B Lo 1EE5C Cn 1EE5D Lo 1EE5E Cn 1EE5F Lo 1EE60 Cn 1EE61 Lo 1EE63 Cn 1EE64 Lo 1EE65 Cn",
     "1EE67 Lo 1EE6B Cn 1EE6C Lo 1EE73 Cn 1EE74 Lo 1EE78 Cn 1EE79 Lo 1EE7D Cn 1EE7E Lo 1EE7F Cn",
     "1EE80 Lo 1EE8A Cn 1EE8B Lo 1EE9C Cn 1EEA1 Lo 1EEA4 Cn 1EEA5 Lo 1EEAA Cn 1EEAB Lo 1EEBC Cn",
     "1EEF0 Sm 1EEF2 Cn 1F000 So 1F02C Cn 1F030 So 1F094 Cn 1F0A0 So 1F0AF Cn 1F0B1 So 1F0C0 Cn",
     "1F0C1 So 1F0D0 Cn 1F0D1 So 1F0F6 Cn 1F100 No 1F10D So 1F1AE Cn 1F1E6 So 1F203 Cn 1F210 So",
     "1F23C Cn 1F240 So 1F249 Cn 1F250 So 1F252 Cn 1F260 So 1F266 Cn 1F300 So 1F3FB Sk 1F400 So",
     "1F6D8 Cn 1F6DC So 1F6ED Cn 1F6F0 So 1F6FD Cn 1F700 So 1F777 Cn 1F77B So 1F7DA Cn 1F7E0 So",
     "1F7EC Cn 1F7F0 So 1F7F1 Cn 1F800 So 1F80C Cn 1F810 So 1F848 Cn 1F850 So 1F85A Cn 1F860 So",
     "1F888 Cn 1F890 So 1F8AE Cn 1F8B0 So 1F8B2 Cn 1F900 So 1FA54 Cn 1FA60 So 1FA6E Cn 1FA70 So",
     "1FA7D Cn 1FA80 So 1FA89 Cn 1FA90 So 1FABE Cn 1FABF So 1FAC6 Cn 1FACE So 1FADC Cn 1FAE0 So",
     "1FAE9 Cn 1FAF0 So 1FAF9 Cn 1FB00 So 1FB93 Cn 1FB94 So 1FBCB Cn 1FBF0 Nd 1FBFA Cn 20000 Lo",
     "2A6E0 Cn 2A700 Lo 2B73A Cn 2B740 Lo 2B81E Cn 2B820 Lo 2CEA2 Cn 2CEB0 Lo 2EBE1 Cn 2F800 Lo",
     "2FA1E Cn 30000 Lo 3134B Cn 31350 Lo 323B0 Cn E0001 Cf E0002 Cn E0020 Cf E0080 Cn E0100 Mn",
     "E01F0 Cn F0000 Co FFFFE Cn 100000 Co 10FFFE Cn 110000 Cn"]

def steps : Steps Category := Steps.ofLines (fun s => (ofCode? s).getD .unassigned) table

def ofChar (c : Char) : Category := (steps.valueAt c.toNat).getD .unassigned

def letters : List Category :=
  [.uppercaseLetter, .lowercaseLetter, .titlecaseLetter, .modifierLetter, .otherLetter]

def casedLetters : List Category := [.uppercaseLetter, .lowercaseLetter, .titlecaseLetter]

def marks : List Category := [.nonspacingMark, .spacingMark, .enclosingMark]

def numbers : List Category := [.decimalNumber, .letterNumber, .otherNumber]

def punctuation : List Category :=
  [.connectorPunctuation, .dashPunctuation, .openPunctuation, .closePunctuation,
    .initialPunctuation, .finalPunctuation, .otherPunctuation]

def symbols : List Category := [.mathSymbol, .currencySymbol, .modifierSymbol, .otherSymbol]

def separators : List Category := [.spaceSeparator, .lineSeparator, .paragraphSeparator]

def others : List Category := [.control, .format, .surrogate, .privateUse, .unassigned]

/-- The categories that a name in small letters without separators stands for. -/
def named? : String → Option (List Category)
  | "c" | "other" => some others
  | "cc" | "control" | "cntrl" => some [.control]
  | "cf" | "format" => some [.format]
  | "cn" | "unassigned" => some [.unassigned]
  | "co" | "privateuse" => some [.privateUse]
  | "cs" | "surrogate" => some [.surrogate]
  | "l" | "letter" => some letters
  | "lc" | "casedletter" => some casedLetters
  | "ll" | "lowercaseletter" => some [.lowercaseLetter]
  | "lm" | "modifierletter" => some [.modifierLetter]
  | "lo" | "otherletter" => some [.otherLetter]
  | "lt" | "titlecaseletter" => some [.titlecaseLetter]
  | "lu" | "uppercaseletter" => some [.uppercaseLetter]
  | "m" | "mark" | "combiningmark" => some marks
  | "mc" | "spacingmark" => some [.spacingMark]
  | "me" | "enclosingmark" => some [.enclosingMark]
  | "mn" | "nonspacingmark" => some [.nonspacingMark]
  | "n" | "number" => some numbers
  | "nd" | "decimalnumber" | "digit" => some [.decimalNumber]
  | "nl" | "letternumber" => some [.letterNumber]
  | "no" | "othernumber" => some [.otherNumber]
  | "p" | "punctuation" | "punct" => some punctuation
  | "pc" | "connectorpunctuation" => some [.connectorPunctuation]
  | "pd" | "dashpunctuation" => some [.dashPunctuation]
  | "pe" | "closepunctuation" => some [.closePunctuation]
  | "pf" | "finalpunctuation" => some [.finalPunctuation]
  | "pi" | "initialpunctuation" => some [.initialPunctuation]
  | "po" | "otherpunctuation" => some [.otherPunctuation]
  | "ps" | "openpunctuation" => some [.openPunctuation]
  | "s" | "symbol" => some symbols
  | "sc" | "currencysymbol" => some [.currencySymbol]
  | "sk" | "modifiersymbol" => some [.modifierSymbol]
  | "sm" | "mathsymbol" => some [.mathSymbol]
  | "so" | "othersymbol" => some [.otherSymbol]
  | "z" | "separator" => some separators
  | "zl" | "lineseparator" => some [.lineSeparator]
  | "zp" | "paragraphseparator" => some [.paragraphSeparator]
  | "zs" | "spaceseparator" => some [.spaceSeparator]
  | _ => none

end Category

end Telemetry.Unicode
