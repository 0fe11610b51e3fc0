import Harvest.Text.CaseFold
import Harvest.Text.Category

/-!
Contract: the named sets of characters that patterns speak of.

`wordCodes`, `digitCodes` and `spaceCodes` are the Unicode sets of `\w`, `\d` and
`\s`. `property?` looks a property up by its loosely written name: letter case,
blanks, underscores, hyphens and a leading `is` do not matter.
-/

namespace Harvest.Pattern

open Harvest.Text

/-- Scripts and letter cases, with their code points in hexadecimal. -/
def namedTable : List (String × String) := [
  ("latin", "41-5A 61-7A C0-D6 D8-F6 F8-2AF 1D00-1D25 1D62-1D65 1D6B-1D77 1D79-1D9A 1E00-1EFF 2090-209C " ++
    "2184 2C60-2C7C 2C7E-2C7F A722-A76F A771-A787 A78B-A7CA A7D0-A7D1 A7D3 A7D5-A7D9 A7F5-A7F7 " ++
    "A7FA-A7FF AB30-AB5A AB60-AB64 AB66-AB68 FB00-FB06 FF21-FF3A FF41-FF5A 1DF00-1DF1E"),
  ("greek", "370-377 37A-37F 384-38A 38C 38E-3A1 3A3-3E1 3F0-3FF 1D26-1D2A 1D66-1D6A 1F00-1F15 1F18-1F1D " ++
    "1F20-1F45 1F48-1F4D 1F50-1F57 1F59 1F5B 1F5D 1F5F-1F7D 1F80-1FB4 1FB6-1FC4 1FC6-1FD3 " ++
    "1FD6-1FDB 1FDD-1FEF 1FF2-1FF4 1FF6-1FFE AB65 10140-1018D 101A0 1D200-1D241 1D245"),
  ("cyrillic", "400-482 48A-52F 1C80-1C88 1D2B A640-A66E A67E-A69B"),
  ("arabic", "600-605 608 60D-61A 61C-61E 620-63F 641-65F 66A-6EF 6FA-6FF 750-77F 870-88E 890-891 898-8FF " ++
    "FB50-FBC2 FBD3-FD3D FD40-FD8F FD92-FDC7 FDCF FDF0-FDFB FDFD-FDFF FE70-FE74 FE76-FEFC " ++
    "1EE00-1EE03 1EE05-1EE1F 1EE21-1EE22 1EE24 1EE27 1EE29-1EE32 1EE34-1EE37 1EE39 1EE3B 1EE42 " ++
    "1EE47 1EE49 1EE4B 1EE4D-1EE4F 1EE51-1EE52 1EE54 1EE57 1EE59 1EE5B 1EE5D 1EE5F 1EE61-1EE62 " ++
    "1EE64 1EE67-1EE6A 1EE6C-1EE72 1EE74-1EE77 1EE79-1EE7C 1EE7E 1EE80-1EE89 1EE8B-1EE9B " ++
    "1EEA1-1EEA3 1EEA5-1EEA9 1EEAB-1EEBB 1EEF0-1EEF1"),
  ("hebrew", "591-5C7 5D0-5EA 5EF-5F4 FB1D-FB36 FB38-FB3C FB3E FB40-FB41 FB43-FB44 FB46-FB4F"),
  ("thai", "E01-E3A E40-E4F E5A-E5B"),
  ("hangul", "1100-11FF 302E-302F 3131-318E A960-A97C AC00-D7A3 D7B0-D7C6 D7CB-D7FB FFA0-FFBE FFC2-FFC7 " ++
    "FFCA-FFCF FFD2-FFD7 FFDA-FFDC"),
  ("hiragana", "3041-3096 309D-309F 1B001 1B11F 1B150-1B152"),
  ("katakana", "30A1-30FA 30FD-30FF 31F0-31FF FF66-FF6F FF71-FF9D 1AFF0-1AFF3 1AFF5-1AFFB 1AFFD-1AFFE 1B000 " ++
    "1B120-1B122 1B164-1B167"),
  ("armenian", "531-556 559-58A 58F FB13-FB17"),
  ("devanagari", "900-963 966-97F A8F2-A8FF"),
  ("georgian", "10A0-10C5 10C7 10CD 10D0-10FB 10FD-10FF 1C90-1CBA 1CBD-1CBF 2D00-2D25 2D27 2D2D"),
  ("han", "2E80-2E99 2E9B-2EF3 2F00-2FD5 3005 3007 3021-3029 3038-303B 3400-4DBF 4E00-9FFF F900-FA6D " ++
    "FA70-FAD9 20000-2A6DF 2A700-2B738 2B740-2B81D 2B820-2CEA1 2CEB0-2EBE0 2EBF0-2EE5D " ++
    "2F800-2FA1D 30000-3134A 31350-323AF"),
  ("lowercase", "61-7A AA B5 BA DF-F6 F8-FF 101 103 105 107 109 10B 10D 10F 111 113 115 117 119 11B 11D 11F " ++
    "121 123 125 127 129 12B 12D 12F 131 133 135 137-138 13A 13C 13E 140 142 144 146 148-149 14B " ++
    "14D 14F 151 153 155 157 159 15B 15D 15F 161 163 165 167 169 16B 16D 16F 171 173 175 177 17A " ++
    "17C 17E-180 183 185 188 18C-18D 192 195 199-19B 19E 1A1 1A3 1A5 1A8 1AA-1AB 1AD 1B0 1B4 1B6 " ++
    "1B9-1BA 1BD-1BF 1C6 1C9 1CC 1CE 1D0 1D2 1D4 1D6 1D8 1DA 1DC-1DD 1DF 1E1 1E3 1E5 1E7 1E9 1EB " ++
    "1ED 1EF-1F0 1F3 1F5 1F9 1FB 1FD 1FF 201 203 205 207 209 20B 20D 20F 211 213 215 217 219 21B " ++
    "21D 21F 221 223 225 227 229 22B 22D 22F 231 233-239 23C 23F-240 242 247 249 24B 24D 24F-293 " ++
    "295-2B8 2C0-2C1 2E0-2E4 345 371 373 377 37A-37D 390 3AC-3CE 3D0-3D1 3D5-3D7 3D9 3DB 3DD 3DF " ++
    "3E1 3E3 3E5 3E7 3E9 3EB 3ED 3EF-3F3 3F5 3F8 3FB-3FC 430-45F 461 463 465 467 469 46B 46D 46F " ++
    "471 473 475 477 479 47B 47D 47F 481 48B 48D 48F 491 493 495 497 499 49B 49D 49F 4A1 4A3 4A5 " ++
    "4A7 4A9 4AB 4AD 4AF 4B1 4B3 4B5 4B7 4B9 4BB 4BD 4BF 4C2 4C4 4C6 4C8 4CA 4CC 4CE-4CF 4D1 4D3 " ++
    "4D5 4D7 4D9 4DB 4DD 4DF 4E1 4E3 4E5 4E7 4E9 4EB 4ED 4EF 4F1 4F3 4F5 4F7 4F9 4FB 4FD 4FF 501 " ++
    "503 505 507 509 50B 50D 50F 511 513 515 517 519 51B 51D 51F 521 523 525 527 529 52B 52D 52F " ++
    "560-588 10D0-10FA 10FD-10FF 13F8-13FD 1C80-1C88 1D00-1DBF 1E01 1E03 1E05 1E07 1E09 1E0B 1E0D " ++
    "1E0F 1E11 1E13 1E15 1E17 1E19 1E1B 1E1D 1E1F 1E21 1E23 1E25 1E27 1E29 1E2B 1E2D 1E2F 1E31 " ++
    "1E33 1E35 1E37 1E39 1E3B 1E3D 1E3F 1E41 1E43 1E45 1E47 1E49 1E4B 1E4D 1E4F 1E51 1E53 1E55 " ++
    "1E57 1E59 1E5B 1E5D 1E5F 1E61 1E63 1E65 1E67 1E69 1E6B 1E6D 1E6F 1E71 1E73 1E75 1E77 1E79 " ++
    "1E7B 1E7D 1E7F 1E81 1E83 1E85 1E87 1E89 1E8B 1E8D 1E8F 1E91 1E93 1E95-1E9D 1E9F 1EA1 1EA3 " ++
    "1EA5 1EA7 1EA9 1EAB 1EAD 1EAF 1EB1 1EB3 1EB5 1EB7 1EB9 1EBB 1EBD 1EBF 1EC1 1EC3 1EC5 1EC7 " ++
    "1EC9 1ECB 1ECD 1ECF 1ED1 1ED3 1ED5 1ED7 1ED9 1EDB 1EDD 1EDF 1EE1 1EE3 1EE5 1EE7 1EE9 1EEB " ++
    "1EED 1EEF 1EF1 1EF3 1EF5 1EF7 1EF9 1EFB 1EFD 1EFF-1F07 1F10-1F15 1F20-1F27 1F30-1F37 " ++
    "1F40-1F45 1F50-1F57 1F60-1F67 1F70-1F7D 1F80-1F87 1F90-1F97 1FA0-1FA7 1FB0-1FB4 1FB6-1FB7 " ++
    "1FBE 1FC2-1FC4 1FC6-1FC7 1FD0-1FD3 1FD6-1FD7 1FE0-1FE7 1FF2-1FF4 1FF6-1FF7 2071 207F " ++
    "2090-209C 210A 210E-210F 2113 212F 2134 2139 213C-213D 2146-2149 214E 2170-217F 2184 " ++
    "24D0-24E9 2C30-2C5F 2C61 2C65-2C66 2C68 2C6A 2C6C 2C71 2C73-2C74 2C76-2C7D 2C81 2C83 2C85 " ++
    "2C87 2C89 2C8B 2C8D 2C8F 2C91 2C93 2C95 2C97 2C99 2C9B 2C9D 2C9F 2CA1 2CA3 2CA5 2CA7 2CA9 " ++
    "2CAB 2CAD 2CAF 2CB1 2CB3 2CB5 2CB7 2CB9 2CBB 2CBD 2CBF 2CC1 2CC3 2CC5 2CC7 2CC9 2CCB 2CCD " ++
    "2CCF 2CD1 2CD3 2CD5 2CD7 2CD9 2CDB 2CDD 2CDF 2CE1 2CE3-2CE4 2CEC 2CEE 2CF3 2D00-2D25 2D27 " ++
    "2D2D A641 A643 A645 A647 A649 A64B A64D A64F A651 A653 A655 A657 A659 A65B A65D A65F A661 " ++
    "A663 A665 A667 A669 A66B A66D A681 A683 A685 A687 A689 A68B A68D A68F A691 A693 A695 A697 " ++
    "A699 A69B-A69D A723 A725 A727 A729 A72B A72D A72F-A731 A733 A735 A737 A739 A73B A73D A73F " ++
    "A741 A743 A745 A747 A749 A74B A74D A74F A751 A753 A755 A757 A759 A75B A75D A75F A761 A763 " ++
    "A765 A767 A769 A76B A76D A76F-A778 A77A A77C A77F A781 A783 A785 A787 A78C A78E A791 " ++
    "A793-A795 A797 A799 A79B A79D A79F A7A1 A7A3 A7A5 A7A7 A7A9 A7AF A7B5 A7B7 A7B9 A7BB A7BD " ++
    "A7BF A7C1 A7C3 A7C8 A7CA A7D1 A7D3 A7D5 A7D7 A7D9 A7F6 A7F8-A7FA AB30-AB5A AB5C-AB68 " ++
    "AB70-ABBF FB00-FB06 FB13-FB17 FF41-FF5A 10428-1044F 104D8-104FB 10597-105A1 105A3-105B1 " ++
    "105B3-105B9 105BB-105BC 10780 10783-10785 10787-107B0 107B2-107BA 10CC0-10CF2 118C0-118DF " ++
    "16E60-16E7F 1D41A-1D433 1D44E-1D454 1D456-1D467 1D482-1D49B 1D4B6-1D4B9 1D4BB 1D4BD-1D4C3 " ++
    "1D4C5-1D4CF 1D4EA-1D503 1D51E-1D537 1D552-1D56B 1D586-1D59F 1D5BA-1D5D3 1D5EE-1D607 " ++
    "1D622-1D63B 1D656-1D66F 1D68A-1D6A5 1D6C2-1D6DA 1D6DC-1D6E1 1D6FC-1D714 1D716-1D71B " ++
    "1D736-1D74E 1D750-1D755 1D770-1D788 1D78A-1D78F 1D7AA-1D7C2 1D7C4-1D7C9 1D7CB 1DF00-1DF09 " ++
    "1DF0B-1DF1E 1E922-1E943"),
  ("uppercase", "41-5A C0-D6 D8-DE 100 102 104 106 108 10A 10C 10E 110 112 114 116 118 11A 11C 11E 120 122 " ++
    "124 126 128 12A 12C 12E 130 132 134 136 139 13B 13D 13F 141 143 145 147 14A 14C 14E 150 152 " ++
    "154 156 158 15A 15C 15E 160 162 164 166 168 16A 16C 16E 170 172 174 176 178-179 17B 17D " ++
    "181-182 184 186-187 189-18B 18E-191 193-194 196-198 19C-19D 19F-1A0 1A2 1A4 1A6-1A7 1A9 1AC " ++
    "1AE-1AF 1B1-1B3 1B5 1B7-1B8 1BC 1C4 1C7 1CA 1CD 1CF 1D1 1D3 1D5 1D7 1D9 1DB 1DE 1E0 1E2 1E4 " ++
    "1E6 1E8 1EA 1EC 1EE 1F1 1F4 1F6-1F8 1FA 1FC 1FE 200 202 204 206 208 20A 20C 20E 210 212 214 " ++
    "216 218 21A 21C 21E 220 222 224 226 228 22A 22C 22E 230 232 23A-23B 23D-23E 241 243-246 248 " ++
    "24A 24C 24E 370 372 376 37F 386 388-38A 38C 38E-38F 391-3A1 3A3-3AB 3CF 3D2-3D4 3D8 3DA 3DC " ++
    "3DE 3E0 3E2 3E4 3E6 3E8 3EA 3EC 3EE 3F4 3F7 3F9-3FA 3FD-42F 460 462 464 466 468 46A 46C 46E " ++
    "470 472 474 476 478 47A 47C 47E 480 48A 48C 48E 490 492 494 496 498 49A 49C 49E 4A0 4A2 4A4 " ++
    "4A6 4A8 4AA 4AC 4AE 4B0 4B2 4B4 4B6 4B8 4BA 4BC 4BE 4C0-4C1 4C3 4C5 4C7 4C9 4CB 4CD 4D0 4D2 " ++
    "4D4 4D6 4D8 4DA 4DC 4DE 4E0 4E2 4E4 4E6 4E8 4EA 4EC 4EE 4F0 4F2 4F4 4F6 4F8 4FA 4FC 4FE 500 " ++
    "502 504 506 508 50A 50C 50E 510 512 514 516 518 51A 51C 51E 520 522 524 526 528 52A 52C 52E " ++
    "531-556 10A0-10C5 10C7 10CD 13A0-13F5 1C90-1CBA 1CBD-1CBF 1E00 1E02 1E04 1E06 1E08 1E0A 1E0C " ++
    "1E0E 1E10 1E12 1E14 1E16 1E18 1E1A 1E1C 1E1E 1E20 1E22 1E24 1E26 1E28 1E2A 1E2C 1E2E 1E30 " ++
    "1E32 1E34 1E36 1E38 1E3A 1E3C 1E3E 1E40 1E42 1E44 1E46 1E48 1E4A 1E4C 1E4E 1E50 1E52 1E54 " ++
    "1E56 1E58 1E5A 1E5C 1E5E 1E60 1E62 1E64 1E66 1E68 1E6A 1E6C 1E6E 1E70 1E72 1E74 1E76 1E78 " ++
    "1E7A 1E7C 1E7E 1E80 1E82 1E84 1E86 1E88 1E8A 1E8C 1E8E 1E90 1E92 1E94 1E9E 1EA0 1EA2 1EA4 " ++
    "1EA6 1EA8 1EAA 1EAC 1EAE 1EB0 1EB2 1EB4 1EB6 1EB8 1EBA 1EBC 1EBE 1EC0 1EC2 1EC4 1EC6 1EC8 " ++
    "1ECA 1ECC 1ECE 1ED0 1ED2 1ED4 1ED6 1ED8 1EDA 1EDC 1EDE 1EE0 1EE2 1EE4 1EE6 1EE8 1EEA 1EEC " ++
    "1EEE 1EF0 1EF2 1EF4 1EF6 1EF8 1EFA 1EFC 1EFE 1F08-1F0F 1F18-1F1D 1F28-1F2F 1F38-1F3F " ++
    "1F48-1F4D 1F59 1F5B 1F5D 1F5F 1F68-1F6F 1FB8-1FBB 1FC8-1FCB 1FD8-1FDB 1FE8-1FEC 1FF8-1FFB " ++
    "2102 2107 210B-210D 2110-2112 2115 2119-211D 2124 2126 2128 212A-212D 2130-2133 213E-213F " ++
    "2145 2160-216F 2183 24B6-24CF 2C00-2C2F 2C60 2C62-2C64 2C67 2C69 2C6B 2C6D-2C70 2C72 2C75 " ++
    "2C7E-2C80 2C82 2C84 2C86 2C88 2C8A 2C8C 2C8E 2C90 2C92 2C94 2C96 2C98 2C9A 2C9C 2C9E 2CA0 " ++
    "2CA2 2CA4 2CA6 2CA8 2CAA 2CAC 2CAE 2CB0 2CB2 2CB4 2CB6 2CB8 2CBA 2CBC 2CBE 2CC0 2CC2 2CC4 " ++
    "2CC6 2CC8 2CCA 2CCC 2CCE 2CD0 2CD2 2CD4 2CD6 2CD8 2CDA 2CDC 2CDE 2CE0 2CE2 2CEB 2CED 2CF2 " ++
    "A640 A642 A644 A646 A648 A64A A64C A64E A650 A652 A654 A656 A658 A65A A65C A65E A660 A662 " ++
    "A664 A666 A668 A66A A66C A680 A682 A684 A686 A688 A68A A68C A68E A690 A692 A694 A696 A698 " ++
    "A69A A722 A724 A726 A728 A72A A72C A72E A732 A734 A736 A738 A73A A73C A73E A740 A742 A744 " ++
    "A746 A748 A74A A74C A74E A750 A752 A754 A756 A758 A75A A75C A75E A760 A762 A764 A766 A768 " ++
    "A76A A76C A76E A779 A77B A77D-A77E A780 A782 A784 A786 A78B A78D A790 A792 A796 A798 A79A " ++
    "A79C A79E A7A0 A7A2 A7A4 A7A6 A7A8 A7AA-A7AE A7B0-A7B4 A7B6 A7B8 A7BA A7BC A7BE A7C0 A7C2 " ++
    "A7C4-A7C7 A7C9 A7D0 A7D6 A7D8 A7F5 FF21-FF3A 10400-10427 104B0-104D3 10570-1057A 1057C-1058A " ++
    "1058C-10592 10594-10595 10C80-10CB2 118A0-118BF 16E40-16E5F 1D400-1D419 1D434-1D44D " ++
    "1D468-1D481 1D49C 1D49E-1D49F 1D4A2 1D4A5-1D4A6 1D4A9-1D4AC 1D4AE-1D4B5 1D4D0-1D4E9 " ++
    "1D504-1D505 1D507-1D50A 1D50D-1D514 1D516-1D51C 1D538-1D539 1D53B-1D53E 1D540-1D544 1D546 " ++
    "1D54A-1D550 1D56C-1D585 1D5A0-1D5B9 1D5D4-1D5ED 1D608-1D621 1D63C-1D655 1D670-1D689 " ++
    "1D6A8-1D6C0 1D6E2-1D6FA 1D71C-1D734 1D756-1D76E 1D790-1D7A8 1D7CA 1E900-1E921 1F130-1F149 " ++
    "1F150-1F169 1F170-1F189")]

def spaceCodes : CodeRanges :=
  CodeRanges.read "9-D 20 85 A0 1680 2000-200A 2028 2029 202F 205F 3000"

def digitCodes : CodeRanges :=
  codesOfCategory "Nd"

/-- Letters that are not in a letter category: the circled and squared ones. -/
def circledLetters : CodeRanges :=
  CodeRanges.read "24B6-24E9 1F130-1F149 1F150-1F169 1F170-1F189"

def alphabeticCodes : CodeRanges :=
  CodeRanges.ofList (codesOfCategory "L" ++ codesOfCategory "Nl" ++ circledLetters)

/-- Characters of words: letters, marks, decimal digits, connecting punctuation and joiners. -/
def wordCodes : CodeRanges :=
  CodeRanges.ofList
    (alphabeticCodes ++ codesOfCategory "M" ++ digitCodes ++ codesOfCategory "Pc" ++ [(0x200C, 0x200D)])

def isWordChar (character : Char) : Bool :=
  CodeRanges.holds wordCodes character.toNat

def categoryNames : List (String × String) := [
  ("letter", "L"), ("uppercaseletter", "Lu"), ("lowercaseletter", "Ll"), ("titlecaseletter", "Lt"),
  ("modifierletter", "Lm"), ("otherletter", "Lo"), ("mark", "M"), ("combiningmark", "M"),
  ("nonspacingmark", "Mn"), ("spacingmark", "Mc"), ("enclosingmark", "Me"), ("number", "N"),
  ("decimalnumber", "Nd"), ("digit", "Nd"), ("letternumber", "Nl"), ("othernumber", "No"),
  ("punctuation", "P"), ("punct", "P"), ("connectorpunctuation", "Pc"), ("dashpunctuation", "Pd"),
  ("openpunctuation", "Ps"), ("closepunctuation", "Pe"), ("initialpunctuation", "Pi"),
  ("finalpunctuation", "Pf"), ("otherpunctuation", "Po"), ("symbol", "S"), ("mathsymbol", "Sm"),
  ("currencysymbol", "Sc"), ("modifiersymbol", "Sk"), ("othersymbol", "So"), ("separator", "Z"),
  ("spaceseparator", "Zs"), ("lineseparator", "Zl"), ("paragraphseparator", "Zp"), ("control", "Cc"),
  ("cntrl", "Cc"), ("format", "Cf"), ("privateuse", "Co")]

def categoryCodes : List String := [
  "L", "Lu", "Ll", "Lt", "Lm", "Lo", "M", "Mn", "Mc", "Me", "N", "Nd", "Nl", "No", "P", "Pc", "Pd", "Ps",
  "Pe", "Pi", "Pf", "Po", "S", "Sm", "Sc", "Sk", "So", "Z", "Zs", "Zl", "Zp", "Cc", "Cf", "Co"]

def scriptCodes : List (String × String) := [
  ("latn", "latin"), ("grek", "greek"), ("cyrl", "cyrillic"), ("arab", "arabic"), ("hebr", "hebrew"),
  ("hang", "hangul"), ("hira", "hiragana"), ("kana", "katakana"), ("armn", "armenian"),
  ("deva", "devanagari"), ("geor", "georgian"), ("hani", "han")]

def lowerAsciiChar (character : Char) : Char :=
  if 'A' ≤ character ∧ character ≤ 'Z' then Char.ofNat (character.toNat + 32) else character

def plainName (name : List Char) : String :=
  let letters := (name.filter fun character => character != ' ' && character != '_' && character != '-').map
    lowerAsciiChar
  match letters with
  | 'i' :: 's' :: rest => if rest.isEmpty || rest == ['c'] then String.ofList letters else String.ofList rest
  | _ => String.ofList letters

def category? (name : String) : Option CodeRanges :=
  match categoryNames.lookup name with
  | some short => some (codesOfCategory short)
  | none =>
    match categoryCodes.find? fun short => plainName short.toList == name with
    | some short => some (codesOfCategory short)
    | none =>
      if name == "c" || name == "other" then some (CodeRanges.ofList (codesOfCategory "C" ++ unassigned))
      else if name == "cn" || name == "unassigned" then some unassigned
      else if name == "lc" || name == "casedletter" then
        some (CodeRanges.ofList (codesOfCategory "Lu" ++ codesOfCategory "Ll" ++ codesOfCategory "Lt"))
      else none

def script? (name : String) : Option CodeRanges :=
  let known := (scriptCodes.lookup name).getD name
  if known == "lowercase" || known == "uppercase" then none
  else (namedTable.lookup known).map CodeRanges.read

/-- The property of a plain name that is neither a category nor a script. -/
def binary? (name : String) : Option CodeRanges :=
  if name == "any" then some [(0, CodeRanges.maxCode)]
  else if name == "ascii" then some [(0, 0x7F)]
  else if name == "assigned" then some (CodeRanges.complement unassigned)
  else if name == "alphabetic" || name == "alpha" then some alphabeticCodes
  else if name == "whitespace" || name == "wspace" || name == "space" then some spaceCodes
  else if name == "lowercase" || name == "lower" then (namedTable.lookup "lowercase").map CodeRanges.read
  else if name == "uppercase" || name == "upper" then (namedTable.lookup "uppercase").map CodeRanges.read
  else none

def property? (name : List Char) : Option CodeRanges :=
  let plain := plainName name
  (category? plain).orElse fun _ => (script? plain).orElse fun _ => binary? plain

def propertyWith? (name value : List Char) : Option CodeRanges :=
  let plain := plainName name
  if plain == "generalcategory" || plain == "gc" then category? (plainName value)
  else if plain == "script" || plain == "sc" || plain == "scriptextensions" || plain == "scx" then
    script? (plainName value)
  else none

/-- The ASCII classes written as `[:name:]`. -/
def asciiClass? (name : String) : Option CodeRanges :=
  if name == "alnum" then some [(0x30, 0x39), (0x41, 0x5A), (0x61, 0x7A)]
  else if name == "alpha" then some [(0x41, 0x5A), (0x61, 0x7A)]
  else if name == "ascii" then some [(0, 0x7F)]
  else if name == "blank" then some [(9, 9), (0x20, 0x20)]
  else if name == "cntrl" then some [(0, 0x1F), (0x7F, 0x7F)]
  else if name == "digit" then some [(0x30, 0x39)]
  else if name == "graph" then some [(0x21, 0x7E)]
  else if name == "lower" then some [(0x61, 0x7A)]
  else if name == "print" then some [(0x20, 0x7E)]
  else if name == "punct" then some [(0x21, 0x2F), (0x3A, 0x40), (0x5B, 0x60), (0x7B, 0x7E)]
  else if name == "space" then some [(9, 0xD), (0x20, 0x20)]
  else if name == "upper" then some [(0x41, 0x5A)]
  else if name == "word" then some [(0x30, 0x39), (0x41, 0x5A), (0x5F, 0x5F), (0x61, 0x7A)]
  else if name == "xdigit" then some [(0x30, 0x39), (0x41, 0x46), (0x61, 0x66)]
  else none

end Harvest.Pattern
