import SdkShelf.Text.Blank
import SdkShelf.Text.Table

/-!
The direction in which labels are read. Where some label of a name is read from right to left, each
label has to be of one direction, so that its characters cannot seem to belong to its neighbours.
-/

namespace SdkShelf
namespace Url
namespace Domain

open Text

/-- The direction of a character: a letter has one, digits go with the letters around them, marks
with the character before them, and all others with their surroundings. -/
inductive Direction where
  | left
  | right
  | arabicDigit
  | europeanDigit
  | mark
  | neutral
  deriving DecidableEq, Repr

namespace Direction

/-- Pairs of a code point and the number of the direction that holds from there on. The data are the
bidirectional classes of Unicode 17 for the characters that stand for themselves in names. -/
def changes : List Nat := Table.numbers "
  0 5 30 3 3a 5 61 0 7b 5 df 0 f7 5 f8 0 2b9 5 2bb 0 2c2 5 2d0 0 2d2 5 2ee 0 2ef 5 300 4 371 0 375
  5 377 0 3f6 5 3f8 0 483 4 48b 0 58a 5 591 4 5be 1 5bf 4 5c0 1 5c1 4 5c3 1 5c4 4 5c6 1 5c7 4 5d0
  1 606 5 608 1 609 5 60b 1 60c 5 60d 1 60e 5 610 4 61b 1 64b 4 660 2 66a 5 66b 2 66d 1 670 4 671
  1 6d6 4 6de 5 6df 4 6e5 1 6e7 4 6e9 5 6ea 4 6ee 1 6f0 3 6fa 1 711 4 712 1 730 4 74d 1 7a6 4 7b1
  1 7eb 4 7f4 1 7f6 5 7fa 1 7fd 4 7fe 1 816 4 81a 1 81b 4 824 1 825 4 828 1 829 4 830 1 859 4 85e
  1 897 4 8a0 1 8ca 4 903 0 93a 4 93b 0 93c 4 93d 0 941 4 949 0 94d 4 94e 0 951 4 960 0 962 4 964
  0 981 4 982 0 9bc 4 9bd 0 9c1 4 9c7 0 9cd 4 9ce 0 9e2 4 9e6 0 9f2 5 9f4 0 9fb 5 9fc 0 9fe 4 a03
  0 a3c 4 a3e 0 a41 4 a5c 0 a70 4 a72 0 a75 4 a76 0 a81 4 a83 0 abc 4 abd 0 ac1 4 ac9 0 acd 4 ad0
  0 ae2 4 ae6 0 af1 5 af9 0 afa 4 b02 0 b3c 4 b3d 0 b3f 4 b40 0 b41 4 b47 0 b4d 4 b57 0 b62 4 b66
  0 b82 4 b83 0 bc0 4 bc1 0 bcd 4 bd0 0 bf3 5 c00 4 c01 0 c04 4 c05 0 c3c 4 c3d 0 c3e 4 c41 0 c46
  4 c58 0 c62 4 c66 0 c78 5 c7f 0 c81 4 c82 0 cbc 4 cbd 0 ccc 4 cd5 0 ce2 4 ce6 0 d00 4 d02 0 d3b
  4 d3d 0 d41 4 d46 0 d4d 4 d4e 0 d62 4 d66 0 d81 4 d82 0 dca 4 dcf 0 dd2 4 dd8 0 e31 4 e32 0 e34
  4 e3f 5 e40 0 e47 4 e4f 0 eb1 4 eb2 0 eb4 4 ebd 0 ec8 4 ed0 0 f18 4 f1a 0 f35 4 f36 0 f37 4 f38
  0 f39 4 f3a 5 f3e 0 f71 4 f7f 0 f80 4 f85 0 f86 4 f88 0 f8d 4 fbe 0 fc6 4 fc7 0 102d 4 1031 0
  1032 4 1038 0 1039 4 103b 0 103d 4 103f 0 1058 4 105a 0 105e 4 1061 0 1071 4 1075 0 1082 4 1083
  0 1085 4 1087 0 108d 4 108e 0 109d 4 109e 0 135d 4 1360 0 1390 5 13a0 0 1400 5 1401 0 169b 5
  16a0 0 1712 4 1715 0 1732 4 1734 0 1752 4 1760 0 1772 4 1780 0 17b7 4 17be 0 17c6 4 17c7 0 17c9
  4 17d4 0 17db 5 17dc 0 17dd 4 17e0 0 17f0 5 1810 0 1885 4 1887 0 18a9 4 18aa 0 1920 4 1923 0
  1927 4 1929 0 1932 4 1933 0 1939 4 1940 5 1946 0 19de 5 1a00 0 1a17 4 1a19 0 1a1b 4 1a1e 0 1a56
  4 1a57 0 1a58 4 1a61 0 1a62 4 1a63 0 1a65 4 1a6d 0 1a73 4 1a80 0 1ab0 4 1b04 0 1b34 4 1b35 0
  1b36 4 1b3b 0 1b3c 4 1b3d 0 1b42 4 1b43 0 1b6b 4 1b74 0 1b80 4 1b82 0 1ba2 4 1ba6 0 1ba8 4 1baa
  0 1bab 4 1bae 0 1be6 4 1be7 0 1be8 4 1bea 0 1bed 4 1bee 0 1bef 4 1bf2 0 1c2c 4 1c34 0 1c36 4
  1c3b 0 1cd0 4 1cd3 0 1cd4 4 1ce1 0 1ce2 4 1ce9 0 1ced 4 1cee 0 1cf4 4 1cf5 0 1cf8 4 1cfa 0 1dc0
  4 1e01 0 200c 5 20d0 4 2104 5 214e 0 218a 5 2336 0 237b 5 2395 0 2396 5 26ac 0 26ad 5 2800 0
  2900 5 2c30 0 2ce5 5 2cec 0 2cef 4 2cf3 0 2cf9 5 2d00 0 2d7f 4 2d80 0 2de0 4 2e00 5 3005 0 3008
  5 3021 0 302a 4 302e 0 3030 5 3031 0 3037 5 303b 0 303d 5 3041 0 3099 4 309d 0 30a0 5 30a1 0
  30fb 5 30fc 0 31c0 5 31f0 0 4dc0 5 4e00 0 a490 5 a4d0 0 a60d 5 a610 0 a66f 4 a673 5 a674 4 a67e
  5 a681 0 a69e 4 a6a0 0 a6f0 4 a6f2 0 a700 5 a723 0 a788 5 a789 0 a802 4 a803 0 a806 4 a807 0
  a80b 4 a80c 0 a825 4 a827 0 a828 5 a82c 4 a830 0 a838 5 a840 0 a874 5 a880 0 a8c4 4 a8ce 0 a8e0
  4 a8f2 0 a8ff 4 a900 0 a926 4 a92e 0 a947 4 a952 0 a980 4 a983 0 a9b3 4 a9b4 0 a9b6 4 a9ba 0
  a9bc 4 a9be 0 a9e5 4 a9e6 0 aa29 4 aa2f 0 aa31 4 aa33 0 aa35 4 aa40 0 aa43 4 aa44 0 aa4c 4 aa4d
  0 aa7c 4 aa7d 0 aab0 4 aab1 0 aab2 4 aab5 0 aab7 4 aab9 0 aabe 4 aac0 0 aac1 4 aac2 0 aaec 4
  aaee 0 aaf6 4 ab01 0 ab6a 5 abc0 0 abe5 4 abe6 0 abe8 4 abe9 0 abed 4 abf0 0 fb1e 4 fbb2 1 fbc3
  5 fe20 4 fe45 5 fe73 1 10000 0 10101 5 10102 0 10140 5 1018d 0 10190 5 101d0 0 101fd 4 10280 0
  102e0 4 102e1 3 10300 0 10376 4 10380 0 10800 1 1091f 5 10920 1 10a01 4 10a10 1 10a38 4 10a40 1
  10ae5 4 10aeb 1 10b39 5 10b40 1 10d24 4 10d30 2 10d40 1 10d69 4 10d6e 5 10d6f 1 10e60 2 10e80 1
  10eab 4 10ead 1 10ed0 5 10efa 4 10f00 1 10f46 4 10f51 1 10f82 4 10f86 1 11000 0 11001 4 11002 0
  11038 4 11047 0 11052 5 11066 0 11070 4 11071 0 11073 4 11075 0 1107f 4 11082 0 110b3 4 110b7 0
  110b9 4 110bb 0 110c2 4 110d0 0 11100 4 11103 0 11127 4 1112c 0 1112d 4 11136 0 11173 4 11174 0
  11180 4 11182 0 111b6 4 111bf 0 111c9 4 111cd 0 111cf 4 111d0 0 1122f 4 11232 0 11234 4 11235 0
  11236 4 11238 0 1123e 4 1123f 0 11241 4 11280 0 112df 4 112e0 0 112e3 4 112f0 0 11300 4 11302 0
  1133b 4 1133d 0 11340 4 11341 0 11366 4 11380 0 113bb 4 113c2 0 113ce 4 113cf 0 113d0 4 113d1 0
  113d2 4 113d3 0 113e1 4 11400 0 11438 4 11440 0 11442 4 11445 0 11446 4 11447 0 1145e 4 1145f 0
  114b3 4 114b9 0 114ba 4 114bb 0 114bf 4 114c1 0 114c2 4 114c4 0 115b2 4 115b8 0 115bc 4 115be 0
  115bf 4 115c1 0 115dc 4 11600 0 11633 4 1163b 0 1163d 4 1163e 0 1163f 4 11641 0 11660 5 11680 0
  116ab 4 116ac 0 116ad 4 116ae 0 116b0 4 116b6 0 116b7 4 116b8 0 1171d 4 11720 0 11722 4 11726 0
  11727 4 11730 0 1182f 4 11838 0 11839 4 1183b 0 1193b 4 1193d 0 1193e 4 1193f 0 11943 4 11944 0
  119d4 4 119dc 0 119e0 4 119e1 0 11a01 4 11a07 0 11a09 4 11a0b 0 11a33 4 11a39 0 11a3b 4 11a3f 0
  11a47 4 11a50 0 11a51 4 11a57 0 11a59 4 11a5c 0 11a8a 4 11a97 0 11a98 4 11a9a 0 11b60 4 11b61 0
  11b62 4 11b65 0 11b66 4 11b67 0 11c30 4 11c3e 0 11c92 4 11ca9 0 11caa 4 11cb1 0 11cb2 4 11cb4 0
  11cb5 4 11d00 0 11d31 4 11d46 0 11d47 4 11d50 0 11d90 4 11d93 0 11d95 4 11d96 0 11d97 4 11d98 0
  11ef3 4 11ef5 0 11f00 4 11f02 0 11f36 4 11f3e 0 11f40 4 11f41 0 11f42 4 11f43 0 11f5a 4 11fb0 0
  11fd5 5 11fff 0 13440 4 13441 0 13447 4 13460 0 1611e 4 1612a 0 1612d 4 16130 0 16af0 4 16af5 0
  16b30 4 16b37 0 16f4f 4 16f50 0 16f8f 4 16f93 0 16fe2 5 16fe3 0 16fe4 4 16ff0 0 1bc9d 4 1bc9f 0
  1cc00 5 1cf00 4 1cf50 0 1d167 4 1d16a 0 1d17b 4 1d183 0 1d185 4 1d18c 0 1d1aa 4 1d1ae 0 1d1e9 5
  1d242 4 1d245 5 1d2c0 0 1d300 5 1d360 0 1da00 4 1da37 0 1da3b 4 1da6d 0 1da75 4 1da76 0 1da84 4
  1da85 0 1da9b 4 1df00 0 1e000 4 1e100 0 1e130 4 1e137 0 1e2ae 4 1e2c0 0 1e2ec 4 1e2f0 0 1e2ff 5
  1e4d0 0 1e4ec 4 1e4f0 0 1e5ee 4 1e5f0 0 1e6e3 4 1e6e4 0 1e6e6 4 1e6e7 0 1e6ee 4 1e6f0 0 1e6f5 4
  1e6fe 0 1e800 1 1e8d0 4 1e922 1 1e944 4 1e94b 1 1eef0 5 1f150 0 1f16d 5 1f170 0 1f1ad 5 1f1e6 0
  1f260 5 20000 0"

def ofNumber : Nat → Direction
  | 0 => left
  | 1 => right
  | 2 => arabicDigit
  | 3 => europeanDigit
  | 4 => mark
  | _ => neutral

def of (c : Char) : Direction := ofNumber (Table.changingValue 5 changes c.toNat)

def isRightward (d : Direction) : Bool := d = right || d = arabicDigit

end Direction

/-- A label that is read from left to right: it begins with a letter and ends with a letter or
digit, behind which marks may follow, and has nothing of the other direction. -/
def isLeftLabel (ds : List Direction) : Bool :=
  ds.head? = some .left && ds.all (fun d => !d.isRightward) &&
    match (dropEndWhile (· = .mark) ds).getLast? with
    | some d => d = .left || d = .europeanDigit
    | none => false

/-- A label that is read from right to left: it begins with a letter and ends with a letter or
digit, behind which marks may follow, and has digits of at most one kind. -/
def isRightLabel (ds : List Direction) : Bool :=
  ds.head? = some .right && ds.all (fun d => d ≠ .left) &&
    !(ds.contains .arabicDigit && ds.contains .europeanDigit) &&
    match (dropEndWhile (· = .mark) ds).getLast? with
    | some d => d ≠ .neutral
    | none => false

/-- The labels of a name may stand beside each other: none is read from right to left, or each that
is not empty has one direction. -/
def areDirected (labels : List (List Char)) : Bool :=
  let directions := labels.map fun label => label.map Direction.of
  !directions.any (fun ds => ds.any Direction.isRightward) ||
    directions.all fun ds => ds.isEmpty || isLeftLabel ds || isRightLabel ds

end Domain
end Url
end SdkShelf
