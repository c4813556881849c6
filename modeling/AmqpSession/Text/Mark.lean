/-
Combining marks (Unicode 17): which characters are marks, which of them take no room of their own,
and the class that orders several marks on one character.
-/
import AmqpSession.Text.Printable

namespace AmqpSession.Text

/-- Marks with room of their own that start a new grapheme cluster. -/
def spacingMarkRanges : List (Nat × Nat) := ranges "
  903 93b 93e-940 949-94c 94e-94f 982-983 9bf-9c0 9c7-9c8 9cb-9cc a03 a3e-a40 a83 abe-ac0 ac9
  acb-acc b02-b03 b40 b47-b48 b4b-b4c bbf bc1-bc2 bc6-bc8 bca-bcc c01-c03 c41-c44 c82-c83 cbe cc1
  cc3-cc4 cf3 d02-d03 d3f-d40 d46-d48 d4a-d4c d82-d83 dd0-dd1 dd8-dde df2-df3 f3e-f3f f7f 102b-102c
  1031 1038 103b-103c 1056-1057 1062-1064 1067-106d 1083-1084 1087-108c 108f 109a-109c 17b6
  17be-17c5 17c7-17c8 1923-1926 1929-192b 1930-1931 1933-1938 1a19-1a1a 1a55 1a57 1a61 1a63-1a64
  1a6d-1a72 1b04 1b3e-1b41 1b82 1ba1 1ba6-1ba7 1be7 1bea-1bec 1bee 1c24-1c2b 1c34-1c35 1ce1 1cf7
  a823-a824 a827 a880-a881 a8b4-a8c3 a952 a983 a9b4-a9b5 a9ba-a9bb a9be-a9bf aa2f-aa30 aa33-aa34
  aa4d aa7b aa7d aaeb aaee-aaef aaf5 abe3-abe4 abe6-abe7 abe9-abea abec 11000 11002 11082
  110b0-110b2 110b7-110b8 1112c 11145-11146 11182 111b3-111b5 111bf 111ce 1122c-1122e 11232-11233
  112e0-112e2 11302-11303 1133f 11341-11344 11347-11348 1134b-1134c 11362-11363 113b9-113ba 113ca
  113cc-113cd 11435-11437 11440-11441 11445 114b1-114b2 114b9 114bb-114bc 114be 114c1 115b0-115b1
  115b8-115bb 115be 11630-11632 1163b-1163c 1163e 116ac 116ae-116af 1171e 11720-11721 11726
  1182c-1182e 11838 11931-11935 11937-11938 11940 11942 119d1-119d3 119dc-119df 119e4 11a39
  11a57-11a58 11a97 11b61 11b65 11b67 11c2f 11c3e 11ca9 11cb1 11cb4 11d8a-11d8e 11d93-11d94 11d96
  11ef5-11ef6 11f03 11f34-11f35 11f3e-11f3f 1612a-1612c 16f51-16f87"

/-- The character is a mark. Extenders without a visible form are none. -/
def isMark (c : Char) : Bool := isExtender c && isPrintable c || inRanges spacingMarkRanges c

/-- Marks that continue a grapheme cluster and yet read from left to right. -/
def spacingExtenderRanges : List (Nat × Nat) := ranges "
  9be 9d7 b3e b57 bbe bd7 cbf-cc0 cc2 cc6-cc8 cca-ccb cd5-cd6 d3e d57 dcf ddf 1715 1734 1b35 1b3b
  1b3d 1b43-1b44 1baa 1bf2-1bf3 302e-302f a953 a9c0 111c0 11235 1133e 1134d 11357 113b8 113c2 113c5
  113c7-113c9 113cf 114b0 114bd 115af 116b6 11930 1193d 11a07-11a08 11c3f 11f41 16ff0-16ff1
  1d165-1d166 1d16d-1d172"

/-- Marks that take the direction of the character they sit on. -/
def isNonspacing (c : Char) : Bool :=
  isExtender c && isPrintable c && !inRanges spacingExtenderRanges c

/-! ## Order -/

/-- The marks of each class; all other characters are of class 0. -/
def combiningClasses : List (Nat × List (Nat × Nat)) :=
  [(1, ranges "
    334-338 1cd4 1ce2-1ce8 20d2-20d3 20d8-20da 20e5-20e6 20ea-20eb 10a39 16af0-16af4 1bc9e
    1d167-1d169"),
   (6, ranges "16ff0-16ff1"),
   (7, ranges "
    93c 9bc a3c abc b3c c3c cbc 1037 1b34 1be6 1c37 a9b3 110ba 11173 111ca 11236 112e9 1133b-1133c
    11446 114c3 115c0 116b7 1183a 11943 11d42 11f5a 1e94a"),
   (8, ranges "3099-309a"),
   (9, ranges "
    94d 9cd a4d acd b4d bcd c4d ccd d3b-d3c d4d dca e3a eba f84 1039-103a 1714-1715 1734 17d2 1a60
    1b44 1baa-1bab 1bf2-1bf3 2d7f a806 a82c a8c4 a953 a9c0 aaf6 abed 10a3f 11046 11070 1107f 110b9
    11133-11134 111c0 11235 112ea 1134d 113ce-113d0 11442 114c2 115bf 1163f 116b6 1172b 11839
    1193d-1193e 119e0 11a34 11a47 11a99 11c3f 11d44-11d45 11d97 11f41-11f42 1612f"),
   (10, ranges "5b0"),
   (11, ranges "5b1"),
   (12, ranges "5b2"),
   (13, ranges "5b3"),
   (14, ranges "5b4"),
   (15, ranges "5b5"),
   (16, ranges "5b6"),
   (17, ranges "5b7"),
   (18, ranges "5b8 5c7"),
   (19, ranges "5b9-5ba"),
   (20, ranges "5bb"),
   (21, ranges "5bc"),
   (22, ranges "5bd"),
   (23, ranges "5bf"),
   (24, ranges "5c1"),
   (25, ranges "5c2"),
   (26, ranges "fb1e"),
   (27, ranges "64b 8f0"),
   (28, ranges "64c 8f1"),
   (29, ranges "64d 8f2"),
   (30, ranges "618 64e"),
   (31, ranges "619 64f"),
   (32, ranges "61a 650"),
   (33, ranges "651"),
   (34, ranges "652"),
   (35, ranges "670"),
   (36, ranges "711"),
   (84, ranges "c55"),
   (91, ranges "c56"),
   (103, ranges "e38-e39"),
   (107, ranges "e48-e4b"),
   (118, ranges "eb8-eb9"),
   (122, ranges "ec8-ecb"),
   (129, ranges "f71"),
   (130, ranges "f72 f7a-f7d f80"),
   (132, ranges "f74"),
   (202, ranges "321-322 327-328 1dd0"),
   (214, ranges "1dce"),
   (216, ranges "31b f39 1d165-1d166 1d16e-1d172"),
   (218, ranges "1dfa 302a"),
   (220, ranges "
    316-319 31c-320 323-326 329-333 339-33c 347-349 34d-34e 353-356 359-35a 591 596 59b 5a2-5a7 5aa
    5c5 655-656 65c 65f 6e3 6ea 6ed 731 734 737-739 73b-73c 73e 742 744 746 748 7f2 7fd 859-85b
    899-89b 8cf-8d3 8e3 8e6 8e9 8ed-8ef 8f6 8f9-8fa 952 f18-f19 f35 f37 fc6 108d 193b 1a18 1a7f
    1ab5-1aba 1abd 1abf-1ac0 1ac3-1ac4 1aca 1add 1ae6 1b6c 1cd5-1cd9 1cdc-1cdf 1ced 1dc2 1dca 1dcf
    1df9 1dfd 1dff 20e8 20ec-20ef a92b-a92d aab4 fe27-fe2d 101fd 102e0 10a0d 10a3a 10ae6
    10efa-10efb 10efd-10eff 10f46-10f47 10f4b 10f4d-10f50 10f83 10f85 1d17b-1d182 1d18a-1d18b 1e4ee
    1e5ef 1e8d0-1e8d6"),
   (222, ranges "59a 5ad 1939 302d"),
   (224, ranges "302e-302f"),
   (226, ranges "1d16d"),
   (228, ranges "5ae 18a9 1df7-1df8 302b"),
   (230, ranges "
    300-314 33d-33f 342 346 34a-34c 350-352 357 35b 363-36f 483-487 592-595 597-599 59c-5a1 5a8-5a9
    5ab-5ac 5af 5c4 610-617 653-654 657-65b 65d-65e 6d6-6dc 6df-6e2 6e4 6e7-6e8 6eb-6ec 730 732-733
    735-736 73a 73d 73f-741 743 745 747 749-74a 7eb-7f1 7f3 816-819 81b-823 825-827 829-82d 897-898
    89c-89f 8ca-8ce 8d4-8e1 8e4-8e5 8e7-8e8 8ea-8ec 8f3-8f5 8f7-8f8 8fb-8ff 951 953-954 9fe f82-f83
    f86-f87 135d-135f 17dd 193a 1a17 1a75-1a7c 1ab0-1ab4 1abb-1abc 1ac1-1ac2 1ac5-1ac9 1acb-1adc
    1ae0-1ae5 1ae7-1aea 1b6b 1b6d-1b73 1cd0-1cd2 1cda-1cdb 1ce0 1cf4 1cf8-1cf9 1dc0-1dc1 1dc3-1dc9
    1dcb-1dcc 1dd1-1df5 1dfb 1dfe 20d0-20d1 20d4-20d7 20db-20dc 20e1 20e7 20e9 20f0 2cef-2cf1
    2de0-2dff a66f a674-a67d a69e-a69f a6f0-a6f1 a8e0-a8f1 aab0 aab2-aab3 aab7-aab8 aabe-aabf aac1
    fe20-fe26 fe2e-fe2f 10376-1037a 10a0f 10a38 10ae5 10d24-10d27 10d69-10d6d 10eab-10eac
    10f48-10f4a 10f4c 10f82 10f84 11100-11102 11366-1136c 11370-11374 113e1-113e2 1145e 16b30-16b36
    1d185-1d189 1d1aa-1d1ad 1d242-1d244 1e000-1e006 1e008-1e018 1e01b-1e021 1e023-1e024 1e026-1e02a
    1e08f 1e130-1e136 1e2ae 1e2ec-1e2ef 1e4ef 1e5ee 1e6e3 1e6e6 1e6ee-1e6ef 1e6f5 1e944-1e949"),
   (232, ranges "315 31a 358 1df6 302c 1e4ec-1e4ed"),
   (233, ranges "35c 35f 362 1dfc"),
   (234, ranges "35d-35e 360-361 1aeb 1dcd")]

/-- Marks of different classes do not touch, and may change places. -/
def combiningClass (c : Char) : Nat :=
  match combiningClasses.find? fun k => inRanges k.2 c with
  | some k => k.1
  | none => 0

/-- The class of the signs that take the vowel from a letter. -/
def viramaClass : Nat := 9

/-- The sign takes the vowel from a letter. -/
def isVirama (c : Char) : Bool := combiningClass c == viramaClass

end AmqpSession.Text
