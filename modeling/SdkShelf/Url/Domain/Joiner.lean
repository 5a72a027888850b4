import SdkShelf.Text.Canonical.Table

/-!
Where marks and joiners may stand in a label. A label does not begin with a mark. A joiner is
invisible: it may stand where it changes how its neighbours are written, which is behind a sign
that silences a vowel, and for the one that separates, between letters that would be connected.
-/

namespace SdkShelf
namespace Url
namespace Domain

open Text

/-- The code points at which the set of marks begins or ends, as far as they stand for themselves in
names. -/
def markEdges : List Nat := Table.numbers "
  300 371 483 48b 591 5be 5bf 5c0 5c1 5c3 5c4 5c6 5c7 5d0 610 61b 64b 660 670 671 6d6 6de 6df 6e5
  6e7 6e9 6ea 6ee 711 712 730 74d 7a6 7b1 7eb 7f4 7fd 7fe 816 81a 81b 824 825 828 829 830 859 85e
  897 8a0 8ca 904 93a 93d 93e 950 951 960 962 964 981 985 9bc 9bd 9be 9ce 9d7 9e0 9e2 9e6 9fe a05
  a3c a5c a70 a72 a75 a76 a81 a85 abc abd abe ad0 ae2 ae6 afa b05 b3c b3d b3e b5f b62 b66 b82 b83
  bbe bd0 bd7 be6 c00 c05 c3c c3d c3e c58 c62 c66 c81 c84 cbc cbd cbe cdc ce2 ce6 cf3 d04 d3b d3d
  d3e d4e d57 d58 d62 d66 d81 d85 dca de6 df2 df4 e31 e32 e34 e3f e47 e4f eb1 eb2 eb4 ebd ec8 ed0
  f18 f1a f35 f36 f37 f38 f39 f3a f3e f40 f71 f85 f86 f88 f8d fbe fc6 fc7 102b 103f 1056 105a 105e
  1061 1062 1065 1067 106e 1071 1075 1082 108e 108f 1090 109a 109e 135d 1360 1712 171f 1732 1735
  1752 1760 1772 1780 17b6 17d4 17dd 17e0 1885 1887 18a9 18aa 1920 1940 1a17 1a1e 1a55 1a80 1ab0
  1b05 1b34 1b45 1b6b 1b74 1b80 1b83 1ba1 1bae 1be6 1bfc 1c24 1c3b 1cd0 1cd3 1cd4 1ce9 1ced 1cee
  1cf4 1cf5 1cf7 1cfa 1dc0 1e01 20d0 2104 2cef 2cf3 2d7f 2d80 2de0 2e00 302a 3030 3099 309d a66f
  a673 a674 a67e a69e a6a0 a6f0 a6f2 a802 a803 a806 a807 a80b a80c a823 a828 a82c a830 a880 a882
  a8b4 a8ce a8e0 a8f2 a8ff a900 a926 a92e a947 a95f a980 a984 a9b3 a9c1 a9e5 a9e6 aa29 aa40 aa43
  aa44 aa4c aa50 aa7b aa7e aab0 aab1 aab2 aab5 aab7 aab9 aabe aac0 aac1 aac2 aaeb aaf0 aaf5 ab01
  abe3 abeb abec abf0 fb1e fbb2 fe20 fe45 101fd 10280 102e0 102e1 10376 10380 10a01 10a10 10a38
  10a40 10ae5 10aeb 10d24 10d30 10d69 10d6e 10eab 10ead 10efa 10f00 10f46 10f51 10f82 10f86 11000
  11003 11038 11047 11070 11071 11073 11075 1107f 11083 110b0 110bb 110c2 110d0 11100 11103 11127
  11136 11145 11147 11173 11174 11180 11183 111b3 111c1 111c9 111cd 111ce 111d0 1122c 11238 1123e
  1123f 11241 11280 112df 112f0 11300 11305 1133b 1133d 1133e 11350 11357 1135d 11362 11380 113b8
  113d1 113d2 113d3 113e1 11400 11435 11447 1145e 1145f 114b0 114c4 115af 115c1 115dc 11600 11630
  11641 116ab 116b8 1171d 11730 1182c 1183b 11930 1193f 11940 11941 11942 11944 119d1 119e1 119e4
  11a00 11a01 11a0b 11a33 11a3a 11a3b 11a3f 11a47 11a50 11a51 11a5c 11a8a 11a9a 11b60 11bc0 11c2f
  11c40 11c92 11d00 11d31 11d46 11d47 11d50 11d8a 11d98 11ef3 11ef7 11f00 11f02 11f03 11f04 11f34
  11f43 11f5a 11fb0 13440 13441 13447 13460 1611e 16130 16af0 16af5 16b30 16b37 16f4f 16f50 16f51
  16f93 16fe4 16ff2 1bc9d 1bc9f 1cf00 1cf50 1d165 1d16a 1d16d 1d183 1d185 1d18c 1d1aa 1d1ae 1d242
  1d245 1da00 1da37 1da3b 1da6d 1da75 1da76 1da84 1da85 1da9b 1df00 1e000 1e100 1e130 1e137 1e2ae
  1e2c0 1e2ec 1e2f0 1e4ec 1e4f0 1e5ee 1e5f0 1e6e3 1e6e4 1e6e6 1e6e7 1e6ee 1e6f0 1e6f5 1e6fe 1e8d0
  1e922 1e944 1e94b"

def isMark (c : Char) : Bool := Table.inside markEdges c.toNat

/-- How a letter is connected with its neighbours: on both sides, only to the one before it, only to
the one behind it, or not; others are passed over. -/
inductive Connection where
  | none
  | both
  | before
  | behind
  | passed
  deriving DecidableEq, Repr

namespace Connection

/-- Pairs of a code point and the number of the connection that holds from there on. The data are
the joining types of Unicode 17 for the characters that stand for themselves in names. -/
def changes : List Nat := Table.numbers "
  0 0 300 4 371 0 483 4 48b 0 591 4 5be 0 5bf 4 5c0 0 5c1 4 5c3 0 5c4 4 5c6 0 5c7 4 5d0 0 610 4
  61b 0 620 1 621 0 622 2 626 1 627 2 628 1 629 2 62a 1 62f 2 633 1 640 0 641 1 648 2 649 1 64b 4
  660 0 66e 1 670 4 671 2 674 0 679 1 688 2 69a 1 6c0 2 6c1 1 6c3 2 6cc 1 6cd 2 6ce 1 6cf 2 6d0 1
  6d2 2 6d4 0 6d5 2 6d6 4 6de 0 6df 4 6e5 0 6e7 4 6e9 0 6ea 4 6ee 2 6f0 0 6fa 1 6fd 0 6ff 1 700 0
  710 2 711 4 712 1 715 2 71a 1 71e 2 71f 1 728 2 729 1 72a 2 72b 1 72c 2 72d 1 72f 2 730 4 74d 2
  74e 1 759 2 75c 1 76b 2 76d 1 771 2 772 1 773 2 775 1 778 2 77a 1 780 0 7a6 4 7b1 0 7ca 1 7eb 4
  7f4 0 7fd 4 7fe 0 816 4 81a 0 81b 4 824 0 825 4 828 0 829 4 830 0 840 2 841 1 846 2 848 1 849 2
  84a 1 854 2 855 1 856 2 859 4 85e 0 860 1 861 0 862 1 866 0 867 2 868 1 869 2 883 0 886 1 887 0
  889 1 88e 2 88f 1 897 4 8a0 1 8aa 2 8ad 0 8ae 2 8af 1 8b1 2 8b3 1 8b9 2 8ba 1 8c9 0 8ca 4 903 0
  93a 4 93b 0 93c 4 93d 0 941 4 949 0 94d 4 94e 0 951 4 960 0 962 4 964 0 981 4 982 0 9bc 4 9bd 0
  9c1 4 9c7 0 9cd 4 9ce 0 9e2 4 9e6 0 9fe 4 a03 0 a3c 4 a3e 0 a41 4 a5c 0 a70 4 a72 0 a75 4 a76 0
  a81 4 a83 0 abc 4 abd 0 ac1 4 ac9 0 acd 4 ad0 0 ae2 4 ae6 0 afa 4 b02 0 b3c 4 b3d 0 b3f 4 b40 0
  b41 4 b47 0 b4d 4 b57 0 b62 4 b66 0 b82 4 b83 0 bc0 4 bc1 0 bcd 4 bd0 0 c00 4 c01 0 c04 4 c05 0
  c3c 4 c3d 0 c3e 4 c41 0 c46 4 c58 0 c62 4 c66 0 c81 4 c82 0 cbc 4 cbd 0 cbf 4 cc0 0 cc6 4 cc7 0
  ccc 4 cd5 0 ce2 4 ce6 0 d00 4 d02 0 d3b 4 d3d 0 d41 4 d46 0 d4d 4 d4e 0 d62 4 d66 0 d81 4 d82 0
  dca 4 dcf 0 dd2 4 dd8 0 e31 4 e32 0 e34 4 e3f 0 e47 4 e4f 0 eb1 4 eb2 0 eb4 4 ebd 0 ec8 4 ed0 0
  f18 4 f1a 0 f35 4 f36 0 f37 4 f38 0 f39 4 f3a 0 f71 4 f7f 0 f80 4 f85 0 f86 4 f88 0 f8d 4 fbe 0
  fc6 4 fc7 0 102d 4 1031 0 1032 4 1038 0 1039 4 103b 0 103d 4 103f 0 1058 4 105a 0 105e 4 1061 0
  1071 4 1075 0 1082 4 1083 0 1085 4 1087 0 108d 4 108e 0 109d 4 109e 0 135d 4 1360 0 1712 4 1715
  0 1732 4 1734 0 1752 4 1760 0 1772 4 1780 0 17b7 4 17be 0 17c6 4 17c7 0 17c9 4 17d4 0 17dd 4
  17e0 0 1807 1 1808 0 1820 1 1880 0 1885 4 1887 1 18a9 4 18aa 1 18b0 0 1920 4 1923 0 1927 4 1929
  0 1932 4 1933 0 1939 4 1940 0 1a17 4 1a19 0 1a1b 4 1a1e 0 1a56 4 1a57 0 1a58 4 1a61 0 1a62 4
  1a63 0 1a65 4 1a6d 0 1a73 4 1a80 0 1ab0 4 1b04 0 1b34 4 1b35 0 1b36 4 1b3b 0 1b3c 4 1b3d 0 1b42
  4 1b43 0 1b6b 4 1b74 0 1b80 4 1b82 0 1ba2 4 1ba6 0 1ba8 4 1baa 0 1bab 4 1bae 0 1be6 4 1be7 0
  1be8 4 1bea 0 1bed 4 1bee 0 1bef 4 1bf2 0 1c2c 4 1c34 0 1c36 4 1c3b 0 1cd0 4 1cd3 0 1cd4 4 1ce1
  0 1ce2 4 1ce9 0 1ced 4 1cee 0 1cf4 4 1cf5 0 1cf8 4 1cfa 0 1dc0 4 1e01 0 20d0 4 2104 0 2cef 4
  2cf3 0 2d7f 4 2d80 0 2de0 4 2e00 0 302a 4 302e 0 3099 4 309d 0 a66f 4 a673 0 a674 4 a67e 0 a69e
  4 a6a0 0 a6f0 4 a6f2 0 a802 4 a803 0 a806 4 a807 0 a80b 4 a80c 0 a825 4 a827 0 a82c 4 a830 0
  a840 1 a872 3 a873 0 a8c4 4 a8ce 0 a8e0 4 a8f2 0 a8ff 4 a900 0 a926 4 a92e 0 a947 4 a952 0 a980
  4 a983 0 a9b3 4 a9b4 0 a9b6 4 a9ba 0 a9bc 4 a9be 0 a9e5 4 a9e6 0 aa29 4 aa2f 0 aa31 4 aa33 0
  aa35 4 aa40 0 aa43 4 aa44 0 aa4c 4 aa4d 0 aa7c 4 aa7d 0 aab0 4 aab1 0 aab2 4 aab5 0 aab7 4 aab9
  0 aabe 4 aac0 0 aac1 4 aac2 0 aaec 4 aaee 0 aaf6 4 ab01 0 abe5 4 abe6 0 abe8 4 abe9 0 abed 4
  abf0 0 fb1e 4 fbb2 0 fe20 4 fe45 0 101fd 4 10280 0 102e0 4 102e1 0 10376 4 10380 0 10a01 4 10a10
  0 10a38 4 10a40 0 10ac0 1 10ac5 2 10ac6 0 10ac7 2 10ac8 0 10ac9 2 10acb 0 10acd 3 10ace 2 10ad3
  1 10ad7 3 10ad8 1 10add 2 10ade 1 10ae1 2 10ae2 0 10ae4 2 10ae5 4 10aeb 1 10aef 2 10af0 0 10b80
  1 10b81 2 10b82 1 10b83 2 10b86 1 10b89 2 10b8a 1 10b8c 2 10b8d 1 10b8e 2 10b90 1 10b91 2 10b99
  0 10ba9 2 10bad 1 10baf 0 10d00 3 10d01 1 10d22 2 10d23 1 10d24 4 10d30 0 10d69 4 10d6e 0 10eab
  4 10ead 0 10ec2 2 10ec3 1 10ec5 0 10ec6 1 10ed0 0 10efa 4 10f00 0 10f30 1 10f33 2 10f34 1 10f45
  0 10f46 4 10f51 1 10f54 2 10f55 0 10f70 1 10f74 2 10f76 1 10f82 4 10f86 0 10fb0 1 10fb1 0 10fb2
  1 10fb4 2 10fb7 0 10fb8 1 10fb9 2 10fbb 1 10fbd 2 10fbe 1 10fc0 0 10fc1 1 10fc2 2 10fc4 1 10fc5
  0 10fc9 2 10fca 1 10fcb 3 10fe0 0 11001 4 11002 0 11038 4 11047 0 11070 4 11071 0 11073 4 11075
  0 1107f 4 11082 0 110b3 4 110b7 0 110b9 4 110bb 0 110c2 4 110d0 0 11100 4 11103 0 11127 4 1112c
  0 1112d 4 11136 0 11173 4 11174 0 11180 4 11182 0 111b6 4 111bf 0 111c9 4 111cd 0 111cf 4 111d0
  0 1122f 4 11232 0 11234 4 11235 0 11236 4 11238 0 1123e 4 1123f 0 11241 4 11280 0 112df 4 112e0
  0 112e3 4 112f0 0 11300 4 11302 0 1133b 4 1133d 0 11340 4 11341 0 11366 4 11380 0 113bb 4 113c2
  0 113ce 4 113cf 0 113d0 4 113d1 0 113d2 4 113d3 0 113e1 4 11400 0 11438 4 11440 0 11442 4 11445
  0 11446 4 11447 0 1145e 4 1145f 0 114b3 4 114b9 0 114ba 4 114bb 0 114bf 4 114c1 0 114c2 4 114c4
  0 115b2 4 115b8 0 115bc 4 115be 0 115bf 4 115c1 0 115dc 4 11600 0 11633 4 1163b 0 1163d 4 1163e
  0 1163f 4 11641 0 116ab 4 116ac 0 116ad 4 116ae 0 116b0 4 116b6 0 116b7 4 116b8 0 1171d 4 1171e
  0 1171f 4 11720 0 11722 4 11726 0 11727 4 11730 0 1182f 4 11838 0 11839 4 1183b 0 1193b 4 1193d
  0 1193e 4 1193f 0 11943 4 11944 0 119d4 4 119dc 0 119e0 4 119e1 0 11a01 4 11a0b 0 11a33 4 11a39
  0 11a3b 4 11a3f 0 11a47 4 11a50 0 11a51 4 11a57 0 11a59 4 11a5c 0 11a8a 4 11a97 0 11a98 4 11a9a
  0 11b60 4 11b61 0 11b62 4 11b65 0 11b66 4 11b67 0 11c30 4 11c3e 0 11c3f 4 11c40 0 11c92 4 11ca9
  0 11caa 4 11cb1 0 11cb2 4 11cb4 0 11cb5 4 11d00 0 11d31 4 11d46 0 11d47 4 11d50 0 11d90 4 11d93
  0 11d95 4 11d96 0 11d97 4 11d98 0 11ef3 4 11ef5 0 11f00 4 11f02 0 11f36 4 11f3e 0 11f40 4 11f41
  0 11f42 4 11f43 0 11f5a 4 11fb0 0 13440 4 13441 0 13447 4 13460 0 1611e 4 1612a 0 1612d 4 16130
  0 16af0 4 16af5 0 16b30 4 16b37 0 16f4f 4 16f50 0 16f8f 4 16f93 0 16fe4 4 16ff0 0 1bc9d 4 1bc9f
  0 1cf00 4 1cf50 0 1d167 4 1d16a 0 1d17b 4 1d183 0 1d185 4 1d18c 0 1d1aa 4 1d1ae 0 1d242 4 1d245
  0 1da00 4 1da37 0 1da3b 4 1da6d 0 1da75 4 1da76 0 1da84 4 1da85 0 1da9b 4 1df00 0 1e000 4 1e100
  0 1e130 4 1e137 0 1e2ae 4 1e2c0 0 1e2ec 4 1e2f0 0 1e4ec 4 1e4f0 0 1e5ee 4 1e5f0 0 1e6e3 4 1e6e4
  0 1e6e6 4 1e6e7 0 1e6ee 4 1e6f0 0 1e6f5 4 1e6fe 0 1e8d0 4 1e922 1 1e944 4 1e950 0"

def ofNumber : Nat → Connection
  | 1 => both
  | 2 => before
  | 3 => behind
  | 4 => passed
  | _ => none

def of (c : Char) : Connection := ofNumber (Table.changingValue 0 changes c.toNat)

end Connection

def firstConnection (cs : List Char) : Connection :=
  ((cs.map Connection.of).find? (· ≠ .passed)).getD .none

/-- The class of the signs that silence a vowel. -/
def silencerClass : Nat := 9

def connector : Char := Char.ofNat 0x200D

def separator : Char := Char.ofNat 0x200C

/-- A joiner may stand between the characters before it, the last first, and those behind it. -/
def mayJoin (joiner : Char) (before behind : List Char) : Bool :=
  match before with
  | [] => false
  | c :: _ =>
    Canonical.combiningClass c = silencerClass ||
      (joiner = separator && [.both, .behind].contains (firstConnection before) &&
        [.both, .before].contains (firstConnection behind))

/-- All joiners may stand where they do; `before` are the characters before, the last first. -/
def areJoinersRight (before : List Char) : List Char → Bool
  | [] => true
  | c :: rest =>
    (!(c = connector || c = separator) || mayJoin c before rest) &&
      areJoinersRight (c :: before) rest

end Domain
end Url
end SdkShelf
