import Specimen.Text.Property

/-!
# Lower and upper case

Case mapping of whole texts by the full Unicode mappings: some characters become two or three, and a
capital sigma that ends a word becomes the final small sigma.

Single mappings are kept as runs `start step count image`: the characters `start`, `start + step`, …,
`count` of them, map to characters the same distance away as `image` is from `start`.  Longer
mappings are kept as `code length image₁ … imageₙ`.
-/

namespace Specimen
namespace Text

/-- A run of characters that map to characters at one distance. -/
structure CaseRun where
  start : Nat
  step : Nat
  count : Nat
  image : Nat
  deriving Repr

/-- Case runs from their numbers, four at a time. -/
def caseRuns : List Nat → List CaseRun
  | a :: b :: c :: d :: rest => ⟨a, b, c, d⟩ :: caseRuns rest
  | _ => []

/-- The image of a code point under a list of runs. -/
def mapCode? (runs : List CaseRun) (code : Nat) : Option Nat :=
  (runs.find? fun r =>
      r.start ≤ code && code < r.start + r.step * r.count && (code - r.start) % r.step == 0).map
    fun r => r.image + (code - r.start)

/-- Mappings to several characters, read as `code length images…`; `fuel` bounds their number. -/
def longImages (fuel : Nat) : List Nat → List (Nat × List Nat)
  | code :: length :: rest =>
    match fuel with
    | 0 => []
    | fuel + 1 => (code, rest.take length) :: longImages fuel (rest.drop length)
  | _ => []

def lowerRuns : List CaseRun := caseRuns <| CodeSet.readNumbers
  "65 1 26 97 192 1 23 224 216 1 7 248 256 2 24 257 306 2 3 307 313 2 8 314 330 2 23 331 376 1 1 
  255 377 2 3 378 385 1 1 595 386 2 2 387 390 1 1 596 391 1 1 392 393 1 2 598 395 1 1 396 398 1 1 
  477 399 1 1 601 400 1 1 603 401 1 1 402 403 1 1 608 404 1 1 611 406 1 1 617 407 1 1 616 408 1 1 
  409 412 1 1 623 413 1 1 626 415 1 1 629 416 2 3 417 422 1 1 640 423 1 1 424 425 1 1 643 428 1 1 
  429 430 1 1 648 431 1 1 432 433 1 2 650 435 2 2 436 439 1 1 658 440 1 1 441 444 1 1 445 452 1 1 
  454 453 1 1 454 455 1 1 457 456 1 1 457 458 1 1 460 459 2 9 460 478 2 9 479 497 1 1 499 498 2 2 
  499 502 1 1 405 503 1 1 447 504 2 20 505 544 1 1 414 546 2 9 547 570 1 1 11365 571 1 1 572 573 
  1 1 410 574 1 1 11366 577 1 1 578 579 1 1 384 580 1 1 649 581 1 1 652 582 2 5 583 880 2 2 881 
  886 1 1 887 895 1 1 1011 902 1 1 940 904 1 3 941 908 1 1 972 910 1 2 973 913 1 17 945 931 1 9 
  963 975 1 1 983 984 2 12 985 1012 1 1 952 1015 1 1 1016 1017 1 1 1010 1018 1 1 1019 1021 1 3 
  891 1024 1 16 1104 1040 1 32 1072 1120 2 17 1121 1162 2 27 1163 1216 1 1 1231 1217 2 7 1218 
  1232 2 48 1233 1329 1 38 1377 4256 1 38 11520 4295 1 1 11559 4301 1 1 11565 5024 1 80 43888 
  5104 1 6 5112 7305 1 1 7306 7312 1 43 4304 7357 1 3 4349 7680 2 75 7681 7838 1 1 223 7840 2 48 
  7841 7944 1 8 7936 7960 1 6 7952 7976 1 8 7968 7992 1 8 7984 8008 1 6 8000 8025 2 4 8017 8040 1 
  8 8032 8072 1 8 8064 8088 1 8 8080 8104 1 8 8096 8120 1 2 8112 8122 1 2 8048 8124 1 1 8115 8136 
  1 4 8050 8140 1 1 8131 8152 1 2 8144 8154 1 2 8054 8168 1 2 8160 8170 1 2 8058 8172 1 1 8165 
  8184 1 2 8056 8186 1 2 8060 8188 1 1 8179 8486 1 1 969 8490 1 1 107 8491 1 1 229 8498 1 1 8526 
  8544 1 16 8560 8579 1 1 8580 9398 1 26 9424 11264 1 48 11312 11360 1 1 11361 11362 1 1 619 
  11363 1 1 7549 11364 1 1 637 11367 2 3 11368 11373 1 1 593 11374 1 1 625 11375 1 1 592 11376 1 
  1 594 11378 1 1 11379 11381 1 1 11382 11390 1 2 575 11392 2 50 11393 11499 2 2 11500 11506 1 1 
  11507 42560 2 23 42561 42624 2 14 42625 42786 2 7 42787 42802 2 31 42803 42873 2 2 42874 42877 
  1 1 7545 42878 2 5 42879 42891 1 1 42892 42893 1 1 613 42896 2 2 42897 42902 2 10 42903 42922 1 
  1 614 42923 1 1 604 42924 1 1 609 42925 1 1 620 42926 1 1 618 42928 1 1 670 42929 1 1 647 42930 
  1 1 669 42931 1 1 43859 42932 2 8 42933 42948 1 1 42900 42949 1 1 642 42950 1 1 7566 42951 2 2 
  42952 42955 1 1 612 42956 2 8 42957 42972 1 1 411 42997 1 1 42998 65313 1 26 65345 66560 1 40 
  66600 66736 1 36 66776 66928 1 11 66967 66940 1 15 66979 66956 1 7 66995 66964 1 2 67003 68736 
  1 51 68800 68944 1 22 68976 71840 1 32 71872 93760 1 32 93792 93856 1 25 93883 125184 1 34 
  125218"

def upperRuns : List CaseRun := caseRuns <| CodeSet.readNumbers
  "97 1 26 65 181 1 1 924 224 1 23 192 248 1 7 216 255 1 1 376 257 2 24 256 305 1 1 73 307 2 3 306 
  314 2 8 313 331 2 23 330 378 2 3 377 383 1 1 83 384 1 1 579 387 2 2 386 392 1 1 391 396 1 1 395 
  402 1 1 401 405 1 1 502 409 1 1 408 410 1 1 573 411 1 1 42972 414 1 1 544 417 2 3 416 424 1 1 
  423 429 1 1 428 432 1 1 431 436 2 2 435 441 1 1 440 445 1 1 444 447 1 1 503 453 1 1 452 454 1 1 
  452 456 1 1 455 457 1 1 455 459 1 1 458 460 1 1 458 462 2 8 461 477 1 1 398 479 2 9 478 498 1 1 
  497 499 1 1 497 501 1 1 500 505 2 20 504 547 2 9 546 572 1 1 571 575 1 2 11390 578 1 1 577 583 
  2 5 582 592 1 1 11375 593 1 1 11373 594 1 1 11376 595 1 1 385 596 1 1 390 598 1 2 393 601 1 1 
  399 603 1 1 400 604 1 1 42923 608 1 1 403 609 1 1 42924 611 1 1 404 612 1 1 42955 613 1 1 42893 
  614 1 1 42922 616 1 1 407 617 1 1 406 618 1 1 42926 619 1 1 11362 620 1 1 42925 623 1 1 412 625 
  1 1 11374 626 1 1 413 629 1 1 415 637 1 1 11364 640 1 1 422 642 1 1 42949 643 1 1 425 647 1 1 
  42929 648 1 1 430 649 1 1 580 650 1 2 433 652 1 1 581 658 1 1 439 669 1 1 42930 670 1 1 42928 
  837 1 1 921 881 2 2 880 887 1 1 886 891 1 3 1021 940 1 1 902 941 1 3 904 945 1 17 913 962 1 1 
  931 963 1 9 931 972 1 1 908 973 1 2 910 976 1 1 914 977 1 1 920 981 1 1 934 982 1 1 928 983 1 1 
  975 985 2 12 984 1008 1 1 922 1009 1 1 929 1010 1 1 1017 1011 1 1 895 1013 1 1 917 1016 1 1 
  1015 1019 1 1 1018 1072 1 32 1040 1104 1 16 1024 1121 2 17 1120 1163 2 27 1162 1218 2 7 1217 
  1231 1 1 1216 1233 2 48 1232 1377 1 38 1329 4304 1 43 7312 4349 1 3 7357 5112 1 6 5104 7296 1 1 
  1042 7297 1 1 1044 7298 1 1 1054 7299 1 2 1057 7301 1 1 1058 7302 1 1 1066 7303 1 1 1122 7304 1 
  1 42570 7306 1 1 7305 7545 1 1 42877 7549 1 1 11363 7566 1 1 42950 7681 2 75 7680 7835 1 1 7776 
  7841 2 48 7840 7936 1 8 7944 7952 1 6 7960 7968 1 8 7976 7984 1 8 7992 8000 1 6 8008 8017 2 4 
  8025 8032 1 8 8040 8048 1 2 8122 8050 1 4 8136 8054 1 2 8154 8056 1 2 8184 8058 1 2 8170 8060 1 
  2 8186 8112 1 2 8120 8126 1 1 921 8144 1 2 8152 8160 1 2 8168 8165 1 1 8172 8526 1 1 8498 8560 
  1 16 8544 8580 1 1 8579 9424 1 26 9398 11312 1 48 11264 11361 1 1 11360 11365 1 1 570 11366 1 1 
  574 11368 2 3 11367 11379 1 1 11378 11382 1 1 11381 11393 2 50 11392 11500 2 2 11499 11507 1 1 
  11506 11520 1 38 4256 11559 1 1 4295 11565 1 1 4301 42561 2 23 42560 42625 2 14 42624 42787 2 7 
  42786 42803 2 31 42802 42874 2 2 42873 42879 2 5 42878 42892 1 1 42891 42897 2 2 42896 42900 1 
  1 42948 42903 2 10 42902 42933 2 8 42932 42952 2 2 42951 42957 2 8 42956 42998 1 1 42997 43859 
  1 1 42931 43888 1 80 5024 65345 1 26 65313 66600 1 40 66560 66776 1 36 66736 66967 1 11 66928 
  66979 1 15 66940 66995 1 7 66956 67003 1 2 66964 68800 1 51 68736 68976 1 22 68944 71872 1 32 
  71840 93792 1 32 93760 93883 1 25 93856 125218 1 34 125184"

def upperLongImages : List (Nat × List Nat) := longImages 200 <| CodeSet.readNumbers
  "223 2 83 83 329 2 700 78 496 2 74 780 912 3 921 776 769 944 3 933 776 769 1415 2 1333 1362 7830 
  2 72 817 7831 2 84 776 7832 2 87 778 7833 2 89 778 7834 2 65 702 8016 2 933 787 8018 3 933 787 
  768 8020 3 933 787 769 8022 3 933 787 834 8064 2 7944 921 8065 2 7945 921 8066 2 7946 921 8067 
  2 7947 921 8068 2 7948 921 8069 2 7949 921 8070 2 7950 921 8071 2 7951 921 8072 2 7944 921 8073 
  2 7945 921 8074 2 7946 921 8075 2 7947 921 8076 2 7948 921 8077 2 7949 921 8078 2 7950 921 8079 
  2 7951 921 8080 2 7976 921 8081 2 7977 921 8082 2 7978 921 8083 2 7979 921 8084 2 7980 921 8085 
  2 7981 921 8086 2 7982 921 8087 2 7983 921 8088 2 7976 921 8089 2 7977 921 8090 2 7978 921 8091 
  2 7979 921 8092 2 7980 921 8093 2 7981 921 8094 2 7982 921 8095 2 7983 921 8096 2 8040 921 8097 
  2 8041 921 8098 2 8042 921 8099 2 8043 921 8100 2 8044 921 8101 2 8045 921 8102 2 8046 921 8103 
  2 8047 921 8104 2 8040 921 8105 2 8041 921 8106 2 8042 921 8107 2 8043 921 8108 2 8044 921 8109 
  2 8045 921 8110 2 8046 921 8111 2 8047 921 8114 2 8122 921 8115 2 913 921 8116 2 902 921 8118 2 
  913 834 8119 3 913 834 921 8124 2 913 921 8130 2 8138 921 8131 2 919 921 8132 2 905 921 8134 2 
  919 834 8135 3 919 834 921 8140 2 919 921 8146 3 921 776 768 8147 3 921 776 769 8150 2 921 834 
  8151 3 921 776 834 8162 3 933 776 768 8163 3 933 776 769 8164 2 929 787 8166 2 933 834 8167 3 
  933 776 834 8178 2 8186 921 8179 2 937 921 8180 2 911 921 8182 2 937 834 8183 3 937 834 921 
  8188 2 937 921 64256 2 70 70 64257 2 70 73 64258 2 70 76 64259 3 70 70 73 64260 3 70 70 76 
  64261 2 83 84 64262 2 83 84 64275 2 1348 1350 64276 2 1348 1333 64277 2 1348 1339 64278 2 1358 
  1350 64279 2 1348 1341"

/-- The lower case of a character apart from its surroundings. -/
def lowerChar (c : Char) : List Char :=
  if c.toNat < 128 then [c.toLower]
  else if c.toNat = 0x130 then ['i', Char.ofNat 0x307]
  else match mapCode? lowerRuns c.toNat with
    | some code => [Char.ofNat code]
    | none => [c]

def upperChar (c : Char) : List Char :=
  if c.toNat < 128 then [c.toUpper]
  else match upperLongImages.find? fun p => p.1 = c.toNat with
    | some (_, codes) => codes.map Char.ofNat
    | none =>
      match mapCode? upperRuns c.toNat with
      | some code => [Char.ofNat code]
      | none => [c]

/-- Whether the first character that case rules do not look through has a case. -/
def meetsCased (cs : List Char) : Bool :=
  match cs.dropWhile isCaseIgnorable with
  | [] => false
  | c :: _ => isCased c

/-- Lowers a text; `before` holds the characters already passed, nearest first. -/
def lowerFrom (before : List Char) : List Char → List Char
  | [] => []
  | c :: rest =>
    let image :=
      if c = 'Σ' then
        if meetsCased before && !meetsCased rest then ['ς'] else ['σ']
      else lowerChar c
    image ++ lowerFrom (c :: before) rest

def lower (s : String) : String :=
  String.ofList (lowerFrom [] s.toList)

def upper (s : String) : String :=
  String.ofList (s.toList.flatMap upperChar)

/-- A text with its ASCII letters in lower case. -/
def lowerAscii (s : String) : String :=
  String.ofList (s.toList.map Char.toLower)

/-- Whether two texts agree up to the case of ASCII letters. -/
def eqIgnoringAsciiCase (s t : String) : Bool :=
  lowerAscii s == lowerAscii t

end Text
end Specimen
