/-
The direction that a character is written in, told for characters that do not fold.  Most go from left to right.
-/
import MockBank.Unicode.Table

namespace MockBank.Unicode

/-- how a character takes part in the direction of writing -/
inductive Direction where
  | left
  | right
  | arabic
  | arabicNumber
  | europeanNumber
  | numberSeparator
  | commonSeparator
  | numberTerminator
  | neutral
  | boundary
  | mark
  | space
  deriving DecidableEq

/-- the characters of each direction other than left to right -/
def directions : List (Direction × List Span) :=
  [(.right, spans [
    "5BE 5C0 5C3 5C6 5D0.5F4 7C0.7EA 7F4.7F5 7FA 7FE.815 81A 824 828 830.858 85E 10800.1091B 10920.10A00",
    "10A10.10A35 10A40.10AE4 10AEB.10B35 10B40.10CFF 10E80.10EA9 10EAD.10F27 10FB0.10FF6 1E800.1E8CF 1E922.1E943",
    "1E94B.1E95F"]),
    (.arabic, spans [
    "608 60B 60D 61B.64A 66D.66F 671.6D5 6E5.6E6 6EE.6EF 6FA.710 712.72F 74D.7A5 7B1 860.8C7 FBB2.FBC1 FE73",
    "10D00.10D23 10F30.10F45 10F51.10F59 1EC71.1ED3D"]),
    (.arabicNumber, spans [
    "660.669 66B.66C 10D30.10E7E"]),
    (.europeanNumber, spans [
    "30.39 6F0.6F9 102E1.102FB"]),
    (.numberSeparator, spans [
    "2B 2D 2212"]),
    (.commonSeparator, spans [
    "2C 2E.2F 3A 60C 2044"]),
    (.numberTerminator, spans [
    "23.25 A2.A5 B0.B1 58F 609.60A 66A 9F2.9F3 9FB AF1 BF9 E3F 17DB 2030.2032 20A0.20BF 212E 2213 A838.A839",
    "11FDD.11FE0 1E2FF"]),
    (.neutral, spans [
    "21.22 26.2A 3B.60 7B.7E A1 A6.AE B6.D7 F7 2B9.2BA 2C2.2CF 2D2.2ED 2EF.2FF 375 3F6 58A.58E 606.607 60E.60F 6DE",
    "6E9 7F6.7F9 BF3.BF8 BFA C78.C7E F3A.F3D 1390.1399 1400 169B.169C 17F0.180A 1940.1945 19DE.19FF 2010.2027",
    "2035.2043 2045.205E 2104.2129 213A.214D 218A.2211 2214.2335 237B.2394 2396.26AB 26AD.27FF 2900.2BFF 2CE5.2CEA",
    "2CF9.2CFF 2E00.3004 3008.3020 3030 3037 303D.303F 30A0 30FB 31C0.31E3 4DC0.4DFF A490.A4C6 A60D.A60F A673",
    "A67E.A67F A700.A721 A788 A828.A82B A874.A877 AB6A.AB6B FD3E.FDFD FE45.FE46 10101 10140.1018C 10190.101A0 1091F",
    "10B39.10B3F 11052.11065 11660.1166C 11FD5.11FDC 11FE1.11FF1 16FE2 1D200.1D241 1D245 1D300.1D356 1EEF0.1F12F",
    "1F16D.1F16F 1F1AD 1F260.1FBCA"]),
    (.boundary, spans [
    "0.8 E.1B 7F 200C.200D"]),
    (.mark, spans [
    "300.36F 483.489 591.5BD 5BF 5C1.5C2 5C4.5C5 5C7 610.61A 64B.65F 670 6D6.6DC 6DF.6E4 6E7.6E8 6EA.6ED 711",
    "730.74A 7A6.7B0 7EB.7F3 7FD 816.819 81B.823 825.827 829.82D 859.85B 8D3.902 93A 93C 941.948 94D 951.957",
    "962.963 981 9BC 9C1.9C4 9CD 9E2.9E3 9FE.A02 A3C A41.A51 A70.A71 A75 A81.A82 ABC AC1.AC8 ACD AE2.AE3 AFA.B01",
    "B3C B3F B41.B44 B4D.B56 B62.B63 B82 BC0 BCD C00 C04 C3E.C40 C46.C56 C62.C63 C81 CBC CCC.CCD CE2.CE3 D00.D01",
    "D3B.D3C D41.D44 D4D D62.D63 D81 DCA DD2.DD6 E31 E34.E3A E47.E4E EB1 EB4.EBC EC8.ECD F18.F19 F35 F37 F39",
    "F71.F7E F80.F84 F86.F87 F8D.FBC FC6 102D.1030 1032.1037 1039.103A 103D.103E 1058.1059 105E.1060 1071.1074 1082",
    "1085.1086 108D 109D 135D.135F 1712.1714 1732.1733 1752.1753 1772.1773 17B7.17BD 17C6 17C9.17D3 17DD 1885.1886",
    "18A9 1920.1922 1927.1928 1932 1939.193B 1A17.1A18 1A1B 1A56 1A58.1A60 1A62 1A65.1A6C 1A73.1A7F 1AB0.1B03 1B34",
    "1B36.1B3A 1B3C 1B42 1B6B.1B73 1B80.1B81 1BA2.1BA5 1BA8.1BA9 1BAB.1BAD 1BE6 1BE8.1BE9 1BED 1BEF.1BF1 1C2C.1C33",
    "1C36.1C37 1CD0.1CD2 1CD4.1CE0 1CE2.1CE8 1CED 1CF4 1CF8.1CF9 1DC0.1DFF 20D0.20F0 2CEF.2CF1 2D7F 2DE0.2DFF",
    "302A.302D 3099.309A A66F.A672 A674.A67D A69E.A69F A6F0.A6F1 A802 A806 A80B A825.A826 A82C A8C4.A8C5 A8E0.A8F1",
    "A8FF A926.A92D A947.A951 A980.A982 A9B3 A9B6.A9B9 A9BC.A9BD A9E5 AA29.AA2E AA31.AA32 AA35.AA36 AA43 AA4C AA7C",
    "AAB0 AAB2.AAB4 AAB7.AAB8 AABE.AABF AAC1 AAEC.AAED AAF6 ABE5 ABE8 ABED FB1E FE20.FE2F 101FD 102E0 10376.1037A",
    "10A01.10A0F 10A38.10A3F 10AE5.10AE6 10D24.10D27 10EAB.10EAC 10F46.10F50 11001 11038.11046 1107F.11081",
    "110B3.110B6 110B9.110BA 11100.11102 11127.1112B 1112D.11134 11173 11180.11181 111B6.111BE 111C9.111CC 111CF",
    "1122F.11231 11234 11236.11237 1123E 112DF 112E3.112EA 11300.11301 1133B.1133C 11340 11366.11374 11438.1143F",
    "11442.11444 11446 1145E 114B3.114B8 114BA 114BF.114C0 114C2.114C3 115B2.115B5 115BC.115BD 115BF.115C0",
    "115DC.115DD 11633.1163A 1163D 1163F.11640 116AB 116AD 116B0.116B5 116B7 1171D.1171F 11722.11725 11727.1172B",
    "1182F.11837 11839.1183A 1193B.1193C 1193E 11943 119D4.119DB 119E0 11A01.11A06 11A09.11A0A 11A33.11A38",
    "11A3B.11A3E 11A47 11A51.11A56 11A59.11A5B 11A8A.11A96 11A98.11A99 11C30.11C3D 11C92.11CA7 11CAA.11CB0",
    "11CB2.11CB3 11CB5.11CB6 11D31.11D45 11D47 11D90.11D91 11D95 11D97 11EF3.11EF4 16AF0.16AF4 16B30.16B36 16F4F",
    "16F8F.16F92 16FE4 1BC9D.1BC9E 1D167.1D169 1D17B.1D182 1D185.1D18B 1D1AA.1D1AD 1D242.1D244 1DA00.1DA36",
    "1DA3B.1DA6C 1DA75 1DA84 1DA9B.1E02A 1E130.1E136 1E2EC.1E2EF 1E8D0.1E8D6 1E944.1E94A"]),
    (.space, spans [
    "9.D 1C.20"])]

def direction (c : Char) : Direction :=
  match directions.find? fun d => holds d.2 c with
  | some (d, _) => d
  | none => .left

/-- the marks that have a direction of their own -/
def directedMarks : List Span :=
  spans [
  "903 93B 93E.940 949.94C 94E.94F 982.983 9BE.9C0 9C7.9CC 9D7 A03 A3E.A40 A83 ABE.AC0 AC9.ACC B02.B03 B3E B40",
  "B47.B4C B57 BBE.BBF BC1.BCC BD7 C01.C03 C41.C44 C82.C83 CBE.CCB CD5.CD6 D02.D03 D3E.D40 D46.D4C D57 D82.D83",
  "DCF.DD1 DD8.DDF DF2.DF3 F3E.F3F F7F 102B.102C 1031 1038 103B.103C 1056.1057 1062.1064 1067.106D 1083.1084",
  "1087.108C 108F 109A.109C 1734 17B6 17BE.17C5 17C7.17C8 1923.1926 1929.1931 1933.1938 1A19.1A1A 1A55 1A57 1A61",
  "1A63.1A64 1A6D.1A72 1B04 1B35 1B3B 1B3D.1B41 1B43.1B44 1B82 1BA1 1BA6.1BA7 1BAA 1BE7 1BEA.1BEC 1BEE 1BF2.1BF3",
  "1C24.1C2B 1C34.1C35 1CE1 1CF7 302E.302F A823.A824 A827 A880.A881 A8B4.A8C3 A952.A953 A983 A9B4.A9B5 A9BA.A9BB",
  "A9BE.A9C0 AA2F.AA30 AA33.AA34 AA4D AA7B AA7D AAEB AAEE.AAEF AAF5 ABE3.ABE4 ABE6.ABE7 ABE9.ABEA ABEC 11000 11002",
  "11082 110B0.110B2 110B7.110B8 1112C 11145.11146 11182 111B3.111B5 111BF.111C0 111CE 1122C.1122E 11232.11233",
  "11235 112E0.112E2 11302.11303 1133E.1133F 11341.1134D 11357 11362.11363 11435.11437 11440.11441 11445",
  "114B0.114B2 114B9 114BB.114BE 114C1 115AF.115B1 115B8.115BB 115BE 11630.11632 1163B.1163C 1163E 116AC",
  "116AE.116AF 116B6 11720.11721 11726 1182C.1182E 11838 11930.11938 1193D 11940 11942 119D1.119D3 119DC.119DF",
  "119E4 11A07.11A08 11A39 11A57.11A58 11A97 11C2F 11C3E.11C3F 11CA9 11CB1 11CB4 11D8A.11D8E 11D93.11D94 11D96",
  "11EF5.11EF6 16F51.16F87 16FF0.16FF1 1D165.1D166 1D16D.1D172"]

/-- whether a character is a mark, which cannot stand without a character before it -/
def isMark (c : Char) : Bool :=
  direction c = .mark || holds directedMarks c

end MockBank.Unicode
