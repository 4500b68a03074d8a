import Specimen.Text.Property

/-!
# Categories of characters

The general categories of Unicode, some further properties and some scripts, under the names by which a
pattern refers to them.  Names are compared in lower case, without blanks, hyphens and underscores, and
without a leading `is`.
-/

namespace Specimen
namespace Pattern

/-- The general category Lu: uppercase letter. -/
def uppercaseLetterSet : CodeSet := CodeSet.ofRuns
  "65 26 101 23 1 7 33 1 1 1 1 1 1 1 1 1 1 1 1 1 1 1 1 1 1 1 1 1 1 1 1 1 1 1 1 1 1 1 1 1 1 1 1 1 1 
  1 1 1 1 1 1 1 1 1 1 1 1 1 1 1 1 1 2 1 1 1 1 1 1 1 1 1 1 1 1 1 1 1 2 1 1 1 1 1 1 1 1 1 1 1 1 1 1 
  1 1 1 1 1 1 1 1 1 1 1 1 1 1 1 1 1 1 1 1 1 1 1 1 1 1 1 1 1 1 1 1 2 1 1 1 1 3 2 1 1 1 2 1 3 2 4 1 
  2 1 3 3 2 1 2 1 1 1 1 1 2 1 1 2 1 1 2 1 3 1 1 1 2 3 1 7 1 2 1 2 1 2 1 1 1 1 1 1 1 1 1 1 1 1 1 1 
  1 2 1 1 1 1 1 1 1 1 1 1 1 1 1 1 1 1 1 2 1 2 1 1 3 1 1 1 1 1 1 1 1 1 1 1 1 1 1 1 1 1 1 1 1 1 1 1 
  1 1 1 1 1 1 1 1 1 1 1 1 1 1 1 1 1 1 1 1 1 1 1 1 1 1 1 1 1 1 1 1 1 1 1 7 2 1 2 2 1 1 4 1 1 1 1 1 
  1 1 1 289 1 1 1 3 1 8 1 6 1 1 3 1 1 1 2 1 17 1 9 35 1 2 3 3 1 1 1 1 1 1 1 1 1 1 1 1 1 1 1 1 1 1 
  1 1 1 1 1 5 1 2 1 1 2 2 51 48 1 1 1 1 1 1 1 1 1 1 1 1 1 1 1 1 1 1 1 1 1 1 1 1 1 1 1 1 1 1 1 1 1 
  9 1 1 1 1 1 1 1 1 1 1 1 1 1 1 1 1 1 1 1 1 1 1 1 1 1 1 1 1 1 1 1 1 1 1 1 1 1 1 1 1 1 1 1 1 1 1 1 
  1 1 1 1 1 1 1 2 1 1 1 1 1 1 1 1 1 1 1 1 2 1 1 1 1 1 1 1 1 1 1 1 1 1 1 1 1 1 1 1 1 1 1 1 1 1 1 1 
  1 1 1 1 1 1 1 1 1 1 1 1 1 1 1 1 1 1 1 1 1 1 1 1 1 1 1 1 1 1 1 1 1 1 1 1 1 1 1 1 1 1 1 1 1 1 1 1 
  1 1 1 1 1 1 1 1 1 1 1 1 1 1 1 1 1 1 1 1 2 38 2889 38 1 1 5 1 722 86 2195 1 6 43 2 3 320 1 1 1 1 
  1 1 1 1 1 1 1 1 1 1 1 1 1 1 1 1 1 1 1 1 1 1 1 1 1 1 1 1 1 1 1 1 1 1 1 1 1 1 1 1 1 1 1 1 1 1 1 1 
  1 1 1 1 1 1 1 1 1 1 1 1 1 1 1 1 1 1 1 1 1 1 1 1 1 1 1 1 1 1 1 1 1 1 1 1 1 1 1 1 1 1 1 1 1 1 1 1 
  1 1 1 1 1 1 1 1 1 1 1 1 1 1 1 1 1 1 1 1 1 1 1 1 1 1 1 1 1 1 1 1 1 1 1 1 1 1 1 1 1 1 1 1 1 1 1 1 
  1 9 1 1 1 1 1 1 1 1 1 1 1 1 1 1 1 1 1 1 1 1 1 1 1 1 1 1 1 1 1 1 1 1 1 1 1 1 1 1 1 1 1 1 1 1 1 1 
  1 1 1 1 1 1 1 1 1 1 1 1 1 1 1 1 1 1 1 1 1 1 1 1 1 1 1 1 1 1 1 1 1 1 1 1 1 1 1 1 1 1 1 1 1 1 1 1 
  1 1 1 9 8 8 6 10 8 8 8 8 6 11 1 1 1 1 1 1 1 8 8 72 4 12 4 12 4 12 5 11 4 262 1 4 1 3 3 2 3 2 1 
  3 5 6 1 1 1 1 1 1 4 2 4 10 2 5 1 61 1 2684 48 48 1 1 3 2 1 1 1 1 1 1 4 1 1 2 1 8 3 1 1 1 1 1 1 
  1 1 1 1 1 1 1 1 1 1 1 1 1 1 1 1 1 1 1 1 1 1 1 1 1 1 1 1 1 1 1 1 1 1 1 1 1 1 1 1 1 1 1 1 1 1 1 1 
  1 1 1 1 1 1 1 1 1 1 1 1 1 1 1 1 1 1 1 1 1 1 1 1 1 1 1 1 1 1 1 1 1 1 1 1 1 1 1 1 1 1 1 1 8 1 1 1 
  4 1 31053 1 1 1 1 1 1 1 1 1 1 1 1 1 1 1 1 1 1 1 1 1 1 1 1 1 1 1 1 1 1 1 1 1 1 1 1 1 1 1 1 1 1 1 
  1 1 19 1 1 1 1 1 1 1 1 1 1 1 1 1 1 1 1 1 1 1 1 1 1 1 1 1 1 1 135 1 1 1 1 1 1 1 1 1 1 1 1 1 3 1 
  1 1 1 1 1 1 1 1 1 1 1 1 1 1 1 1 1 1 1 1 1 1 1 1 1 1 1 1 1 1 1 1 1 1 1 1 1 1 1 1 1 1 1 1 1 1 1 1 
  1 1 1 1 1 1 1 1 1 1 1 1 10 1 1 1 1 2 1 1 1 1 1 1 1 1 4 1 1 1 2 1 1 1 3 1 1 1 1 1 1 1 1 1 1 1 1 
  1 1 1 1 1 1 1 1 5 1 5 1 1 1 1 1 1 1 1 1 1 1 1 1 1 1 4 1 1 1 2 1 1 1 1 1 1 1 1 1 1 1 1 1 1 1 1 
  24 1 22315 26 1221 40 136 36 156 11 1 15 1 7 1 2 1770 51 157 22 2874 32 21888 32 64 25 25927 26 
  26 26 26 26 26 1 1 2 2 1 2 2 2 4 1 8 26 26 26 2 1 4 2 8 1 7 27 2 1 4 1 5 1 1 3 7 27 26 26 26 26 
  26 26 26 26 26 26 26 30 25 33 25 33 25 33 25 33 25 33 1 4405 34"

/-- The general category Ll: lowercase letter. -/
def lowercaseLetterSet : CodeSet := CodeSet.ofRuns
  "97 26 58 1 41 24 1 8 1 1 1 1 1 1 1 1 1 1 1 1 1 1 1 1 1 1 1 1 1 1 1 1 1 1 1 1 1 1 1 1 1 1 1 1 1 
  1 1 1 1 1 1 1 1 1 1 1 1 1 1 1 1 1 1 2 1 1 1 1 1 1 1 1 1 1 1 1 1 1 1 2 1 1 1 1 1 1 1 1 1 1 1 1 1 
  1 1 1 1 1 1 1 1 1 1 1 1 1 1 1 1 1 1 1 1 1 1 1 1 1 1 1 1 1 1 1 1 1 2 1 1 1 1 3 2 1 1 1 2 1 3 2 4 
  1 2 1 3 3 2 1 2 1 1 1 1 1 2 1 1 2 1 1 2 1 3 1 1 1 2 2 2 3 6 1 2 1 2 1 1 1 1 1 1 1 1 1 1 1 1 1 1 
  1 1 2 1 1 1 1 1 1 1 1 1 1 1 1 1 1 1 1 1 2 2 1 1 1 3 1 1 1 1 1 1 1 1 1 1 1 1 1 1 1 1 1 1 1 1 1 1 
  1 1 1 1 1 1 1 1 1 1 1 1 1 1 1 1 1 1 1 1 1 1 1 1 1 1 1 1 1 1 1 1 1 1 1 1 7 2 1 2 2 1 1 4 1 1 1 1 
  1 1 1 1 69 2 26 193 1 1 1 3 1 3 3 18 1 27 35 1 2 3 3 1 1 1 1 1 1 1 1 1 1 1 1 1 1 1 1 1 1 1 1 1 
  1 1 5 1 1 2 1 2 2 51 48 1 1 1 1 1 1 1 1 1 1 1 1 1 1 1 1 1 1 1 1 1 1 1 1 1 1 1 1 1 1 1 1 1 1 9 1 
  1 1 1 1 1 1 1 1 1 1 1 1 1 1 1 1 1 1 1 1 1 1 1 1 1 1 1 1 1 1 1 1 1 1 1 1 1 1 1 1 1 1 1 1 1 1 1 1 
  1 1 1 1 2 1 1 1 1 1 1 1 1 1 1 1 1 2 1 1 1 1 1 1 1 1 1 1 1 1 1 1 1 1 1 1 1 1 1 1 1 1 1 1 1 1 1 1 
  1 1 1 1 1 1 1 1 1 1 1 1 1 1 1 1 1 1 1 1 1 1 1 1 1 1 1 1 1 1 1 1 1 1 1 1 1 1 1 1 1 1 1 1 1 1 1 1 
  1 1 1 1 1 1 1 1 1 1 1 1 1 1 1 1 1 1 48 41 2887 43 2 3 760 6 2178 9 1 1 117 44 63 13 1 34 102 1 
  1 1 1 1 1 1 1 1 1 1 1 1 1 1 1 1 1 1 1 1 1 1 1 1 1 1 1 1 1 1 1 1 1 1 1 1 1 1 1 1 1 1 1 1 1 1 1 1 
  1 1 1 1 1 1 1 1 1 1 1 1 1 1 1 1 1 1 1 1 1 1 1 1 1 1 1 1 1 1 1 1 1 1 1 1 1 1 1 1 1 1 1 1 1 1 1 1 
  1 1 1 1 1 1 1 1 1 1 1 1 1 1 1 1 1 1 1 1 1 1 1 1 1 1 1 1 1 1 1 1 1 1 1 1 1 1 1 1 1 1 1 1 1 1 1 1 
  1 1 1 9 1 1 1 1 1 1 1 1 1 1 1 1 1 1 1 1 1 1 1 1 1 1 1 1 1 1 1 1 1 1 1 1 1 1 1 1 1 1 1 1 1 1 1 1 
  1 1 1 1 1 1 1 1 1 1 1 1 1 1 1 1 1 1 1 1 1 1 1 1 1 1 1 1 1 1 1 1 1 1 1 1 1 1 1 1 1 1 1 1 1 1 1 1 
  1 1 1 1 1 9 8 6 10 8 8 8 8 6 10 8 8 8 8 14 2 8 8 8 8 8 8 5 1 2 6 1 3 3 1 2 8 4 2 2 8 8 10 3 1 2 
  274 1 3 2 3 1 27 1 4 1 4 1 2 2 8 4 4 1 53 1 2731 48 1 1 3 2 1 1 1 1 1 1 4 1 1 2 1 6 5 1 1 1 1 1 
  1 1 1 1 1 1 1 1 1 1 1 1 1 1 1 1 1 1 1 1 1 1 1 1 1 1 1 1 1 1 1 1 1 1 1 1 1 1 1 1 1 1 1 1 1 1 1 1 
  1 1 1 1 1 1 1 1 1 1 1 1 1 1 1 1 1 1 1 1 1 1 1 1 1 1 1 1 1 1 1 1 1 1 1 1 1 1 1 1 1 1 1 1 1 2 7 1 
  1 1 4 1 12 38 1 1 5 1 30995 1 1 1 1 1 1 1 1 1 1 1 1 1 1 1 1 1 1 1 1 1 1 1 1 1 1 1 1 1 1 1 1 1 1 
  1 1 1 1 1 1 1 1 1 1 1 19 1 1 1 1 1 1 1 1 1 1 1 1 1 1 1 1 1 1 1 1 1 1 1 1 1 1 1 135 1 1 1 1 1 1 
  1 1 1 1 1 1 3 1 1 1 1 1 1 1 1 1 1 1 1 1 1 1 1 1 1 1 1 1 1 1 1 1 1 1 1 1 1 1 1 1 1 1 1 1 1 1 1 1 
  1 1 1 1 1 1 1 1 1 1 1 1 1 1 1 1 1 1 1 1 1 1 8 1 1 1 1 2 1 1 1 1 1 1 1 1 1 4 1 1 1 2 1 1 3 1 1 1 
  1 1 1 1 1 1 1 1 1 1 1 1 1 1 1 1 1 5 1 5 1 1 1 1 1 1 1 1 1 1 1 1 1 1 1 4 1 1 1 2 1 1 1 1 1 1 1 1 
  1 1 1 1 1 1 1 26 1 3 1 821 43 5 9 7 80 20288 7 12 5 1065 26 1229 40 136 36 155 11 1 15 1 7 1 2 
  1795 51 125 22 2874 32 21888 32 59 25 25926 26 26 7 1 18 26 26 26 4 1 1 1 7 1 11 26 26 26 26 26 
  26 26 26 26 26 26 26 26 26 26 26 26 28 28 25 1 6 26 25 1 6 26 25 1 6 26 25 1 6 26 25 1 6 1 1 
  1844 10 1 20 6 6 2551 34"

/-- The general category Lt: titlecase letter. -/
def titlecaseLetterSet : CodeSet := CodeSet.ofRuns
  "453 1 2 1 2 1 38 1 7573 8 8 8 8 8 12 1 15 1 47 1"

/-- The general category Lm: modifier letter. -/
def modifierLetterSet : CodeSet := CodeSet.ofRuns
  "688 18 4 12 14 5 7 1 1 1 133 1 5 1 478 1 230 1 164 2 269 2 4 1 31 1 9 1 3 1 160 1 167 1 1236 1 
  127 1 565 1 1754 1 107 1 611 1 464 6 174 63 13 1 34 37 689 1 13 1 16 13 3039 2 241 1 191 1 469 
  1 43 5 5 1 97 2 93 3 28438 1 1250 6 270 1 114 1 28 2 121 9 80 1 23 1 104 4 3 2 469 1 22 1 137 1 
  108 1 21 2 103 4 9 1 21510 1 45 2 2016 6 1 42 1 9 1427 1 32 1 341 1 3859 1 19814 4 508 3 40 2 
  550 13 64 2 1 1 14 2 16380 4 1 7 1 2 12337 62 201 7 941 1 531 1 587 1"

/-- The general category Lo: other letter. -/
def otherLetterSet : CodeSet := CodeSet.ofRuns
  "170 1 15 1 256 1 4 4 208 2 826 27 4 4 45 32 1 10 35 2 1 99 1 1 24 2 10 3 2 1 16 1 1 30 29 89 11 
  1 24 33 21 22 42 25 7 11 5 24 1 7 16 41 59 54 3 1 18 1 7 10 16 15 4 8 2 2 2 22 1 7 1 1 3 4 3 1 
  16 1 13 2 1 3 14 2 10 1 8 6 4 2 2 22 1 7 1 2 1 2 1 2 31 4 1 1 19 3 16 9 1 3 1 22 1 7 1 2 1 5 3 
  1 18 1 15 2 23 1 11 8 2 2 2 22 1 7 1 2 1 5 3 1 30 2 1 3 15 1 17 1 1 6 3 3 1 4 3 2 1 1 1 2 3 2 3 
  3 3 12 22 1 52 8 1 3 1 23 1 16 3 1 26 3 1 2 2 2 30 1 4 8 1 3 1 23 1 10 1 5 3 1 30 3 1 2 15 2 17 
  9 1 3 1 41 2 1 16 1 5 3 8 3 24 6 5 18 3 24 1 9 1 1 2 7 58 48 1 2 12 6 59 2 1 1 1 5 1 24 1 1 1 
  10 1 2 9 1 2 5 23 4 32 1 63 8 1 36 27 5 115 43 20 1 16 6 4 4 3 1 3 2 7 3 4 13 12 1 113 329 1 4 
  2 7 1 1 1 4 2 41 1 4 2 33 1 4 2 7 1 1 1 4 2 15 1 57 1 4 2 67 37 16 113 620 2 17 1 26 5 75 6 8 7 
  18 13 19 14 18 14 13 1 3 15 52 40 1 67 35 1 53 7 5 2 34 1 1 5 70 10 31 49 30 2 5 11 44 4 26 54 
  23 9 53 176 47 17 8 54 30 13 2 10 44 26 36 41 3 10 30 113 4 1 6 1 2 3 1 1082 4 3063 56 24 23 9 
  7 1 7 1 7 1 7 1 7 1 7 1 7 1 7 551 1 53 1 4 86 8 1 1 90 4 1 5 43 1 94 17 32 48 16 512 6592 64 
  21013 1 1143 67 40 8 268 4 16 10 2 66 1 49 70 169 1 103 1 3 7 1 3 1 4 1 23 29 52 14 50 62 6 3 1 
  1 2 11 28 10 23 25 29 7 47 45 5 2 9 10 5 1 41 23 3 1 8 20 16 1 6 3 1 3 50 1 1 3 2 2 5 2 1 1 1 
  24 2 3 11 7 1 14 6 2 6 2 6 9 7 1 7 145 35 29 11172 12 23 4 49 8452 366 2 106 67 1 1 10 1 13 1 5 
  1 1 1 2 1 2 1 108 33 363 18 64 2 54 40 12 116 5 1 135 105 10 1 45 2 31 3 6 2 6 2 6 2 3 35 12 1 
  26 1 19 1 2 1 15 2 14 34 123 389 29 3 49 47 32 13 20 1 8 6 38 10 30 2 36 4 8 128 78 98 40 8 52 
  92 52 12 311 9 22 10 8 152 6 2 1 1 44 1 2 3 1 2 23 10 23 9 31 65 19 1 2 10 22 10 26 6 26 38 56 
  6 2 64 1 15 4 1 3 1 29 42 29 3 29 35 8 1 28 27 54 10 22 10 19 13 18 110 73 183 36 38 4 1 1 304 
  42 6 2 16 3 1 2 56 29 10 1 8 22 42 18 46 21 27 23 12 53 57 2 2 1 13 45 32 25 26 36 29 1 2 1 8 
  35 3 1 12 48 14 4 21 1 1 1 35 18 1 25 19 2 63 7 1 1 1 4 1 15 1 10 7 47 38 8 2 2 2 22 1 7 1 2 1 
  5 3 1 18 1 12 5 30 10 1 1 2 1 1 38 1 1 25 1 1 1 44 53 18 4 20 3 30 48 20 2 1 1 184 47 41 4 36 
  48 20 1 59 43 13 1 71 27 37 7 185 44 211 8 2 1 2 8 1 2 1 24 15 1 1 1 94 8 2 39 16 1 1 1 28 1 10 
  40 7 1 21 1 11 46 19 1 18 73 199 33 31 9 1 37 17 1 49 30 112 7 1 2 1 38 21 1 25 6 1 2 1 32 14 1 
  23 41 1 2 260 19 15 1 1 13 1 34 124 1 79 922 230 196 2636 97 15 1072 17 6 25 3995 5 583 6841 30 
  1762 569 7 31 17 79 17 30 18 48 51 21 5 19 435 40 405 75 5 1 175 7382 41 32 97 115 8717 291 15 
  1 29 3 2 1 14 4 8 396 2308 107 5 13 3 9 7 10 8816 1 501 45 33 1 321 30 18 44 484 27 229 30 2 1 
  207 31 1 3 1 2 1 7 2 5 9 1 225 7 1 4 1 2 1 15 1 197 1339 4 1 27 1 2 1 1 2 1 1 10 1 4 1 1 1 1 6 
  1 4 1 1 1 1 1 1 3 1 2 1 1 2 1 1 1 1 1 1 1 1 1 1 2 1 1 2 4 1 7 1 4 1 4 1 1 1 10 1 17 5 3 1 5 1 
  17 4420 42720 32 4382 2 5774 2 7473 15 622 2466 542 1506 4939 5 8490"

/-- The general category Mn: nonspacing mark. -/
def nonspacingMarkSet : CodeSet := CodeSet.ofRuns
  "768 112 275 5 265 45 1 1 1 2 1 2 1 1 72 11 48 21 16 1 101 7 2 6 2 2 1 4 35 1 30 27 91 11 58 9 9 
  1 24 4 1 9 1 3 1 5 43 3 59 9 42 24 1 32 55 1 1 1 4 8 4 1 3 7 10 2 29 1 58 1 4 4 8 1 20 2 26 1 2 
  2 57 1 4 2 4 2 2 3 3 1 30 2 3 1 11 2 57 1 4 5 1 2 4 1 20 2 22 6 1 1 58 1 2 1 1 4 8 1 7 2 11 2 
  30 1 61 1 12 1 50 1 3 1 55 1 1 3 5 3 1 4 7 2 11 2 29 1 58 1 2 1 6 1 5 2 20 2 28 2 57 2 4 4 8 1 
  20 2 29 1 72 1 7 3 1 1 90 1 2 7 12 8 98 1 2 9 11 7 73 2 27 1 1 1 1 1 55 14 1 5 1 2 5 11 1 36 9 
  1 102 4 1 6 1 2 2 2 25 2 4 3 16 4 13 1 2 2 6 1 15 1 703 3 946 3 29 2 30 2 30 2 64 2 1 7 8 1 2 
  11 9 1 45 3 1 1 117 2 34 1 118 3 4 2 9 1 6 3 219 2 2 1 58 1 1 7 1 1 1 1 2 8 6 10 2 1 48 14 1 31 
  2 12 20 4 48 1 1 5 1 1 5 1 40 9 12 2 32 4 2 2 1 3 56 1 1 2 3 1 1 3 58 8 2 2 152 3 1 13 1 7 4 1 
  6 1 3 2 198 64 720 13 4 1 3 12 3070 3 141 1 96 32 554 4 107 2 30164 1 4 10 32 2 80 2 272 1 3 1 
  4 1 25 2 5 1 151 2 26 18 13 1 38 8 25 11 46 3 48 1 2 4 2 2 39 1 67 6 2 2 2 2 12 1 8 1 47 1 51 1 
  1 3 2 2 5 2 1 1 42 2 8 1 238 1 2 1 4 1 20272 1 737 16 16 16 973 1 226 1 149 5 1670 3 1 2 5 4 40 
  3 4 1 165 2 573 4 65 5 317 2 77 6 70 11 49 4 123 1 54 15 41 1 2 2 10 3 49 4 2 2 7 1 61 3 36 5 1 
  8 62 1 12 2 52 9 10 4 2 1 95 3 2 1 1 2 6 1 2 1 157 1 3 8 21 2 57 2 3 1 37 7 3 5 70 6 13 1 1 1 1 
  1 14 2 85 8 2 3 1 1 23 1 84 6 1 1 4 2 1 2 238 4 6 2 1 2 27 2 85 8 2 1 1 2 106 1 1 1 2 6 1 1 101 
  1 1 1 2 4 1 5 259 9 1 2 256 2 1 1 4 1 144 4 2 2 4 1 32 10 40 6 2 4 8 1 9 6 2 3 46 13 1 2 198 1 
  1 3 1 1 201 7 1 6 1 1 82 22 2 7 1 2 1 2 122 6 3 1 1 2 1 7 1 1 72 2 3 1 1 1 347 2 11 2 52 5 5 1 
  1 1 23 1 5349 1 6 15 11464 12 3 3 2496 5 59 7 1048 1 63 4 81 1 19640 2 4705 46 2 23 544 3 17 8 
  2 7 30 4 148 3 1979 55 4 50 8 1 14 1 22 5 1 15 1360 7 1 17 2 7 1 2 1 5 100 1 160 7 375 1 61 4 
  508 4 254 2 243 1 2 1 7 2 5 1 474 7 109 7 792501 240"

/-- The general category Mc: spacing mark. -/
def spacingMarkSet : CodeSet := CodeSet.ofRuns
  "2307 1 55 1 2 3 8 4 1 2 50 2 58 3 6 2 2 2 10 1 43 1 58 3 66 1 58 3 8 1 1 2 53 2 58 1 1 1 6 2 2 
  2 10 1 102 2 1 2 3 3 1 3 10 1 41 3 61 4 61 2 58 1 1 5 2 2 1 2 9 2 28 1 14 2 58 3 5 3 1 3 10 1 
  42 2 75 3 6 8 18 2 330 2 63 1 171 2 4 1 6 1 2 2 25 2 10 3 2 7 21 2 2 6 2 1 10 3 1656 1 30 1 129 
  1 7 8 1 2 346 4 2 3 4 2 1 6 224 2 58 1 1 1 9 1 1 2 8 6 145 1 48 1 5 1 1 5 1 2 61 1 30 1 4 2 2 1 
  60 1 2 3 1 1 3 2 48 8 8 2 171 1 21 1 4918 2 30707 2 2 1 88 2 50 16 142 2 47 1 48 2 4 2 2 3 110 
  2 2 2 24 1 45 1 1 1 109 1 2 2 5 1 237 2 1 2 1 2 1 1 25619 1 1 1 127 1 45 3 4 2 115 1 24 2 59 1 
  48 3 9 2 13 1 93 3 3 2 1 1 170 3 31 2 58 2 1 4 2 2 2 3 9 1 10 2 84 3 7 1 2 1 1 4 1 2 1 1 101 3 
  8 2 3 1 106 3 6 1 1 4 2 1 237 3 6 4 2 1 113 3 8 2 1 1 109 1 1 2 6 1 103 1 1 2 4 1 261 3 9 1 247 
  6 1 2 4 1 2 1 1 1 142 3 8 4 4 1 84 1 29 2 62 1 201 1 3 1 1 1 199 1 14 1 106 1 7 1 2 1 213 5 4 2 
  1 1 350 2 12 1 48 2 8 2 1 1 16872 3 3620 55 104 2 24947 2 6 6"

/-- The general category Me: enclosing mark. -/
def enclosingMarkSet : CodeSet := CodeSet.ofRuns
  "1160 2 5684 1 1566 4 1 3 34187 3"

/-- The general category Nd: decimal number. -/
def decimalNumberSet : CodeSet := CodeSet.ofRuns
  "48 10 1574 10 134 10 198 10 412 10 118 10 118 10 118 10 118 10 118 10 118 10 118 10 118 10 118 
  10 96 10 118 10 70 10 278 10 70 10 1862 10 38 10 300 10 128 10 166 10 6 10 182 10 86 10 134 10 
  6 10 35270 10 678 10 38 10 198 10 22 10 86 10 406 10 21270 10 1414 10 2182 10 6 10 796 10 128 
  10 60 10 144 10 278 10 342 10 118 10 374 10 102 10 6 20 76 10 422 10 102 10 662 10 86 10 246 10 
  70 10 54 10 358 10 16854 10 2342 10 86 10 134 10 534 10 24438 10 2772 50 2368 10 422 10 502 10 
  247 10 853 10 4758 10"

/-- The general category Nl: letter number. -/
def letterNumberSet : CodeSet := CodeSet.ofRuns
  "5870 3 2671 35 2 4 3710 1 25 9 14 3 30379 10 23120 53 460 1 8 1 134 5 8234 111 19333 3"

/-- The general category No: other number. -/
def otherNumberSet : CodeSet := CodeSet.ofRuns
  "178 2 5 1 2 3 2357 6 376 6 120 3 133 7 217 7 17 9 433 10 1077 20 1139 10 480 1 1685 1 3 6 6 10 
  198 16 41 1 726 60 78 22 630 30 1385 1 1172 4 138 10 30 8 1 15 32 10 39 15 30064 6 22737 45 65 
  4 17 2 341 27 36 4 1332 8 25 7 39 9 75 5 22 6 160 2 2 16 2 46 64 9 52 2 30 3 75 5 104 8 24 8 41 
  7 330 6 352 31 158 10 42 4 112 7 134 20 379 20 1349 2 430 9 871 19 851 21 19334 7 798 23 25641 
  20 12 20 108 25 5454 9 929 59 1 3 1 4 76 45 1 15 962 13"

/-- The general category Pc: connector punctuation. -/
def connectorPunctuationSet : CodeSet := CodeSet.ofRuns
  "95 1 8159 2 19 1 56798 2 24 3 239 1"

/-- The general category Pd: dash punctuation. -/
def dashPunctuationSet : CodeSet := CodeSet.ofRuns
  "45 1 1372 1 51 1 3649 1 1029 1 2057 6 3585 1 2 1 31 2 4 1 28 1 446 1 19 1 111 1 52624 2 37 1 10 
  1 169 1 3680 1 318 1"

/-- The general category Ps: open punctuation. -/
def openPunctuationSet : CodeSet := CodeSet.ofRuns
  "40 1 50 1 31 1 3774 1 1 1 1886 1 2430 1 3 1 38 1 55 1 15 1 634 1 1 1 30 1 1086 1 1 1 1 1 1 1 1 
  1 1 1 1 1 80 1 32 1 1 1 1 1 1 1 1 1 404 1 1 1 1 1 1 1 1 1 1 1 1 1 1 1 1 1 1 1 1 1 64 1 1 1 33 1 
  1061 1 1 1 1 1 1 1 25 1 18 1 1 1 1 1 1 1 428 1 1 1 1 1 1 1 1 1 3 1 1 1 1 1 1 1 2 1 52513 1 215 
  1 29 1 1 1 1 1 1 1 1 1 1 1 1 1 1 1 3 1 17 1 1 1 1 1 170 1 50 1 31 1 3 1 2 1"

/-- The general category Pe: close punctuation. -/
def closePunctuationSet : CodeSet := CodeSet.ofRuns
  "41 1 51 1 31 1 3773 1 1 1 1886 1 2473 1 55 1 15 1 634 1 1 1 30 1 1086 1 1 1 1 1 1 1 1 1 1 1 1 1 
  80 1 32 1 1 1 1 1 1 1 1 1 404 1 1 1 1 1 1 1 1 1 1 1 1 1 1 1 1 1 1 1 1 1 64 1 1 1 33 1 1061 1 1 
  1 1 1 1 1 44 1 1 1 1 1 1 1 428 1 1 1 1 1 1 1 1 1 3 1 1 1 1 1 1 1 2 2 52510 1 217 1 29 1 1 1 1 1 
  1 1 1 1 1 1 1 1 1 1 3 1 17 1 1 1 1 1 170 1 51 1 31 1 2 1 2 1"

/-- The general category Pi: initial punctuation. -/
def initialPunctuationSet : CodeSet := CodeSet.ofRuns
  "171 1 8044 1 2 2 2 1 25 1 3528 1 1 1 4 1 2 1 15 1 3 1"

/-- The general category Pf: final punctuation. -/
def finalPunctuationSet : CodeSet := CodeSet.ofRuns
  "187 1 8029 1 3 1 28 1 3528 1 1 1 4 1 2 1 15 1 3 1"

/-- The general category Po: other punctuation. -/
def otherPunctuationSet : CodeSet := CodeSet.ofRuns
  "33 3 1 3 2 1 1 1 1 2 10 2 3 2 27 1 68 1 5 1 14 2 7 1 702 1 8 1 466 6 41 1 54 1 2 1 2 1 44 2 20 
  2 1 2 13 1 1 3 74 4 102 1 43 14 233 3 54 15 31 1 261 2 10 1 140 1 120 1 121 1 390 1 12 1 367 1 
  90 1 10 2 168 15 1 1 112 1 74 5 4 2 111 6 171 1 612 9 773 1 124 3 71 2 157 3 1 3 37 6 1 4 313 2 
  216 2 128 7 1 6 160 2 10 7 28 3 124 4 59 5 62 2 64 8 11 1 834 2 8 8 8 9 2 4 2 3 3 11 1 1 1 10 
  3226 4 1 2 112 1 143 2 4 3 2 1 2 9 1 2 1 1 2 2 10 5 1 10 2 4 1 1 1 13 2 3 428 3 57 1 189 1 
  29698 2 269 3 99 1 10 1 115 6 380 4 86 2 40 3 1 1 49 2 47 1 97 13 16 2 124 4 126 2 16 2 249 1 
  21028 7 2 1 22 1 20 2 2 4 3 3 1 4 7 3 6 1 1 2 149 3 1 3 2 1 1 1 1 2 10 2 3 2 27 1 36 1 2 2 410 
  3 668 1 48 1 414 1 743 1 199 1 31 1 272 9 38 1 112 7 66 7 89 4 819 1 132 5 44 4 189 7 109 2 1 4 
  126 4 48 2 79 4 4 1 13 1 1 3 88 6 107 1 298 2 1 2 114 5 10 2 1 1 104 1 250 23 105 3 28 13 76 1 
  130 3 252 1 264 3 155 1 92 8 83 3 1 5 93 10 215 1 95 5 42 2 645 2 74 13 175 1 1136 5 2940 2 
  14971 2 133 1 65 5 8 1 552 3 295 4 327 1 19644 1 7655 5 2931 1 862 2"

/-- The general category Sm: math symbol. -/
def mathSymbolSet : CodeSet := CodeSet.ofRuns
  "43 1 16 3 61 1 1 1 45 1 4 1 37 1 31 1 766 1 527 3 6715 1 13 1 39 3 13 3 139 1 39 5 6 1 68 5 5 2 
  4 1 2 1 2 1 7 1 31 2 2 1 1 1 31 268 32 2 90 1 30 25 40 6 469 1 9 1 54 8 111 1 336 5 2 31 10 16 
  256 131 22 63 4 32 2 258 48 21 2 6 53212 1 824 1 1 3 164 1 16 3 61 1 1 1 131 1 6 4 3489 2 49504 
  1 2000 1 25 1 31 1 25 1 31 1 25 1 31 1 25 1 31 1 25 1 5932 2 2526 9"

/-- The general category Sc: currency symbol. -/
def currencySymbolSet : CodeSet := CodeSet.ofRuns
  "36 1 125 4 1257 1 123 1 498 2 498 2 7 1 245 1 263 1 581 1 2459 1 2244 34 34678 1 21955 1 108 1 
  154 1 219 2 3 2 8182 4 49950 1 2480 1"

/-- The general category Sk: modifier symbol. -/
def modifierSymbolSet : CodeSet := CodeSet.ofRuns
  "94 1 1 1 71 1 6 1 4 1 3 1 521 4 12 14 5 7 1 1 1 17 117 1 14 2 1282 1 5940 1 1 3 11 3 13 3 13 3 
  13 2 4252 2 30307 23 9 2 103 2 976 1 14 2 20550 17 891 1 1 1 162 1 62487 5"

/-- The general category So: other symbol. -/
def otherSymbolSet : CodeSet := CodeSet.ofRuns
  "166 1 2 1 4 1 1 1 977 1 266 2 127 2 206 1 10 1 19 2 247 1 515 1 373 1 130 6 1 1 132 1 207 1 41 
  1 391 3 15 1 1 3 2 6 20 1 1 1 1 1 133 8 1 6 1 2 5 4 197 2 752 10 723 1 722 1 157 34 353 10 9 9 
  1411 2 1 4 1 2 10 1 1 2 6 6 1 1 1 1 1 1 4 1 11 2 14 1 1 2 1 1 58 2 9 5 2 4 1 2 1 2 1 7 1 31 2 2 
  1 1 1 31 268 8 4 20 2 7 2 81 1 30 25 40 6 72 22 11 81 78 22 183 1 9 1 54 8 111 1 248 44 44 64 
  256 512 48 21 2 6 39 2 138 229 6 357 2 46 26 1 89 12 214 26 16 4 1 13 2 12 1 21 2 6 2 336 2 4 
  10 32 38 9 1 16 31 11 30 8 1 15 32 10 39 15 320 6592 64 22160 55 865 4 10 2 1 1 573 3 20809 16 
  365 16 64 2 54 8 45 3 484 1 3 1 4 2 13 2 313 9 57 17 2 3 1 13 3 1 47 45 1658 2 591 1 1032 8 
  2150 1 2197 8 4 17 19274 4 5 1 20822 1 3939 240 10 3 3 436 6 23 15 16 96 116 60 246 10 39 2 60 
  5 3 22 2 7 30 4 61 21 66 3 1 186 87 1193 512 55 4 50 8 1 14 1 2 1736 1 2908 1 129 1 721 44 4 
  100 12 15 2 15 1 15 1 37 23 161 56 29 13 44 4 9 7 2 14 6 154 251 5 729 3 17 3 13 3 218 6 12 4 1 
  15 12 4 56 8 10 6 40 8 30 2 12 4 2 62 344 8 14 2 13 3 11 3 57 1 1 4 16 2 12 4 10 7 147 1 92 10 
  1"

/-- The general category Zs: space separator. -/
def spaceSeparatorSet : CodeSet := CodeSet.ofRuns
  "32 1 127 1 5599 1 2431 11 36 1 47 1 4000 1"

/-- The general category Zl: line separator. -/
def lineSeparatorSet : CodeSet := CodeSet.ofRuns
  "8232 1"

/-- The general category Zp: paragraph separator. -/
def paragraphSeparatorSet : CodeSet := CodeSet.ofRuns
  "8233 1"

/-- The general category Cc: control. -/
def controlSet : CodeSet := CodeSet.ofRuns
  "0 32 95 33"

/-- The general category Cf: format. -/
def formatSet : CodeSet := CodeSet.ofRuns
  "173 1 1362 6 22 1 192 1 49 1 384 2 80 1 3883 1 2044 5 26 5 49 5 1 10 56975 1 249 3 4289 1 15 1 
  9058 16 34912 4 5327 8 798342 1 30 96"

/-- The general category Co: private use. -/
def privateUseSet : CodeSet := CodeSet.ofRuns
  "57344 6400 919296 65534 2 65534"

def latinSet : CodeSet := CodeSet.ofRuns
  "65 26 6 26 47 1 15 1 5 23 1 31 1 449 39 5 6683 38 6 49 5 4 5 13 1 70 65 256 369 1 13 1 16 13 
  141 2 6 1 27 1 17 41 2775 32 31394 102 3 82 20 15 816 43 1 9 1 4 20374 7 1050 26 6 26 2085 6 1 
  42 1 9 55109 31 6 6"

def greekSet : CodeSet := CodeSet.ofRuns
  "880 4 1 3 2 4 1 1 4 1 1 1 1 3 1 1 1 20 1 63 14 16 6438 5 50 5 4 5 84 1 320 22 2 6 2 38 2 6 2 8 
  1 1 1 1 1 1 1 31 2 53 1 15 1 14 2 6 1 19 2 3 1 9 295 1 35390 1 21978 79 17 1 53343 70"

def cyrillicSet : CodeSet := CodeSet.ofRuns
  "1024 133 2 169 5968 11 160 1 76 1 4199 32 30784 96 22414 2 57856 62 33 1"

def hanSet : CodeSet := CodeSet.ofRuns
  "11904 26 1 89 12 214 47 1 1 1 25 9 14 4 964 6592 64 20992 22784 366 2 106 29960 2 12 7 36873 
  42720 32 4382 2 5774 2 7473 15 622 2466 542 1506 4939 5 8490"

def hiraganaSet : CodeSet := CodeSet.ofRuns
  "12353 86 6 3 98145 287 18 1 29 3 16557 1"

def katakanaSet : CodeSet := CodeSet.ofRuns
  "12449 90 2 3 240 16 208 47 1 88 52238 10 1 45 45138 4 1 7 1 2 1 1 287 3 50 1 14 4"

def arabicSet : CodeSet := CodeSet.ofRuns
  "1536 5 1 6 1 14 1 3 1 32 1 10 11 26 1 108 1 34 80 48 240 34 5 75 1 29 62032 494 2 144 32 16 112 
  5 1 135 3939 31 67 6 8 9 33 6 57088 4 1 27 1 2 1 1 2 1 1 10 1 4 1 1 1 1 6 1 4 1 1 1 1 1 1 3 1 2 
  1 1 2 1 1 1 1 1 1 1 1 1 1 2 1 1 2 4 1 7 1 4 1 4 1 1 1 10 1 17 5 3 1 5 1 17 52 2"

def hebrewSet : CodeSet := CodeSet.ofRuns
  "1425 55 8 27 4 6 62760 26 1 5 1 1 1 2 1 2 1 10"

def thaiSet : CodeSet := CodeSet.ofRuns
  "3585 58 5 28"

def hangulSet : CodeSet := CodeSet.ofRuns
  "4352 256 7726 2 257 94 113 31 65 31 30433 29 643 11172 12 23 4 49 10148 31 3 6 2 6 2 6 2 3"

def devanagariSet : CodeSet := CodeSet.ofRuns
  "2304 81 4 15 2 26 40800 32 29184 10"

def armenianSet : CodeSet := CodeSet.ofRuns
  "1329 38 2 50 2 3 62851 5"

def georgianSet : CodeSet := CodeSet.ofRuns
  "4256 38 1 1 5 1 2 43 1 4 2960 43 2 3 4160 38 1 1 5 1"

def lowercaseSet : CodeSet := CodeSet.ofRuns
  "97 26 47 1 10 1 4 1 36 24 1 8 1 1 1 1 1 1 1 1 1 1 1 1 1 1 1 1 1 1 1 1 1 1 1 1 1 1 1 1 1 1 1 1 1 
  1 1 1 1 1 1 1 1 1 1 1 1 1 1 1 1 1 1 1 1 1 1 2 1 1 1 1 1 1 1 1 1 1 1 1 1 1 1 2 1 1 1 1 1 1 1 1 1 
  1 1 1 1 1 1 1 1 1 1 1 1 1 1 1 1 1 1 1 1 1 1 1 1 1 1 1 1 1 1 1 1 1 1 1 1 1 2 1 1 1 1 3 2 1 1 1 2 
  1 3 2 4 1 2 1 3 3 2 1 2 1 1 1 1 1 2 1 1 2 1 1 2 1 3 1 1 1 2 2 2 3 6 1 2 1 2 1 1 1 1 1 1 1 1 1 1 
  1 1 1 1 1 1 2 1 1 1 1 1 1 1 1 1 1 1 1 1 1 1 1 1 2 2 1 1 1 3 1 1 1 1 1 1 1 1 1 1 1 1 1 1 1 1 1 1 
  1 1 1 1 1 1 1 1 1 1 1 1 1 1 1 1 1 1 1 1 1 1 1 1 1 1 1 1 1 1 1 1 1 1 1 1 1 1 1 1 7 2 1 2 2 1 1 4 
  1 1 1 1 1 1 1 1 69 2 35 7 2 30 5 96 1 43 1 1 1 3 1 2 4 18 1 27 35 1 2 3 3 1 1 1 1 1 1 1 1 1 1 1 
  1 1 1 1 1 1 1 1 1 1 1 1 5 1 1 2 1 2 2 51 48 1 1 1 1 1 1 1 1 1 1 1 1 1 1 1 1 1 1 1 1 1 1 1 1 1 1 
  1 1 1 1 1 1 1 1 9 1 1 1 1 1 1 1 1 1 1 1 1 1 1 1 1 1 1 1 1 1 1 1 1 1 1 1 1 1 1 1 1 1 1 1 1 1 1 1 
  1 1 1 1 1 1 1 1 1 1 1 1 1 1 2 1 1 1 1 1 1 1 1 1 1 1 1 2 1 1 1 1 1 1 1 1 1 1 1 1 1 1 1 1 1 1 1 1 
  1 1 1 1 1 1 1 1 1 1 1 1 1 1 1 1 1 1 1 1 1 1 1 1 1 1 1 1 1 1 1 1 1 1 1 1 1 1 1 1 1 1 1 1 1 1 1 1 
  1 1 1 1 1 1 1 1 1 1 1 1 1 1 1 1 1 1 1 1 1 1 1 1 1 1 1 1 48 41 2887 43 1 4 760 6 2178 9 1 1 117 
  192 65 1 1 1 1 1 1 1 1 1 1 1 1 1 1 1 1 1 1 1 1 1 1 1 1 1 1 1 1 1 1 1 1 1 1 1 1 1 1 1 1 1 1 1 1 
  1 1 1 1 1 1 1 1 1 1 1 1 1 1 1 1 1 1 1 1 1 1 1 1 1 1 1 1 1 1 1 1 1 1 1 1 1 1 1 1 1 1 1 1 1 1 1 1 
  1 1 1 1 1 1 1 1 1 1 1 1 1 1 1 1 1 1 1 1 1 1 1 1 1 1 1 1 1 1 1 1 1 1 1 1 1 1 1 1 1 1 1 1 1 1 1 1 
  1 1 1 1 1 1 1 1 9 1 1 1 1 1 1 1 1 1 1 1 1 1 1 1 1 1 1 1 1 1 1 1 1 1 1 1 1 1 1 1 1 1 1 1 1 1 1 1 
  1 1 1 1 1 1 1 1 1 1 1 1 1 1 1 1 1 1 1 1 1 1 1 1 1 1 1 1 1 1 1 1 1 1 1 1 1 1 1 1 1 1 1 1 1 1 1 1 
  1 1 1 1 1 1 1 1 1 1 9 8 6 10 8 8 8 8 6 10 8 8 8 8 14 2 8 8 8 8 8 8 5 1 2 6 1 3 3 1 2 8 4 2 2 8 
  8 10 3 1 2 121 1 13 1 16 13 109 1 3 2 3 1 27 1 4 1 4 1 2 2 8 4 4 1 33 16 4 1 843 26 1862 48 1 1 
  3 2 1 1 1 1 1 1 4 1 1 2 1 8 3 1 1 1 1 1 1 1 1 1 1 1 1 1 1 1 1 1 1 1 1 1 1 1 1 1 1 1 1 1 1 1 1 1 
  1 1 1 1 1 1 1 1 1 1 1 1 1 1 1 1 1 1 1 1 1 1 1 1 1 1 1 1 1 1 1 1 1 1 1 1 1 1 1 1 1 1 1 1 1 1 1 1 
  1 1 1 1 1 1 1 1 1 1 1 1 1 1 1 1 1 2 7 1 1 1 4 1 12 38 1 1 5 1 30995 1 1 1 1 1 1 1 1 1 1 1 1 1 1 
  1 1 1 1 1 1 1 1 1 1 1 1 1 1 1 1 1 1 1 1 1 1 1 1 1 1 1 1 1 1 1 19 1 1 1 1 1 1 1 1 1 1 1 1 1 1 1 
  1 1 1 1 1 1 1 1 1 1 1 3 133 1 1 1 1 1 1 1 1 1 1 1 1 3 1 1 1 1 1 1 1 1 1 1 1 1 1 1 1 1 1 1 1 1 1 
  1 1 1 1 1 1 1 1 1 1 1 1 1 1 1 1 1 1 1 1 1 1 1 1 1 1 1 1 1 1 1 1 1 1 1 1 1 1 1 1 10 1 1 1 1 2 1 
  1 1 1 1 1 1 1 1 4 1 1 1 2 1 1 3 1 1 1 1 1 1 1 1 1 1 1 1 1 1 1 1 1 1 1 1 5 1 5 1 1 1 1 1 1 1 1 1 
  1 1 1 1 1 1 4 1 1 1 2 1 1 1 1 1 1 1 1 1 1 1 1 1 1 1 21 4 1 1 1 3 821 43 1 14 6 80 20288 7 12 5 
  1065 26 1229 40 136 36 155 11 1 15 1 7 1 2 451 1 2 3 1 42 1 9 1285 51 125 22 2874 32 21888 32 
  59 25 25926 26 26 7 1 18 26 26 26 4 1 1 1 7 1 11 26 26 26 26 26 26 26 26 26 26 26 26 26 26 26 
  26 26 28 28 25 1 6 26 25 1 6 26 25 1 6 26 25 1 6 26 25 1 6 1 1 1844 10 1 20 6 6 261 62 2228 34"

def uppercaseSet : CodeSet := CodeSet.ofRuns
  "65 26 101 23 1 7 33 1 1 1 1 1 1 1 1 1 1 1 1 1 1 1 1 1 1 1 1 1 1 1 1 1 1 1 1 1 1 1 1 1 1 1 1 1 1 
  1 1 1 1 1 1 1 1 1 1 1 1 1 1 1 1 1 2 1 1 1 1 1 1 1 1 1 1 1 1 1 1 1 2 1 1 1 1 1 1 1 1 1 1 1 1 1 1 
  1 1 1 1 1 1 1 1 1 1 1 1 1 1 1 1 1 1 1 1 1 1 1 1 1 1 1 1 1 1 1 1 2 1 1 1 1 3 2 1 1 1 2 1 3 2 4 1 
  2 1 3 3 2 1 2 1 1 1 1 1 2 1 1 2 1 1 2 1 3 1 1 1 2 3 1 7 1 2 1 2 1 2 1 1 1 1 1 1 1 1 1 1 1 1 1 1 
  1 2 1 1 1 1 1 1 1 1 1 1 1 1 1 1 1 1 1 2 1 2 1 1 3 1 1 1 1 1 1 1 1 1 1 1 1 1 1 1 1 1 1 1 1 1 1 1 
  1 1 1 1 1 1 1 1 1 1 1 1 1 1 1 1 1 1 1 1 1 1 1 1 1 1 1 1 1 1 1 1 1 1 1 7 2 1 2 2 1 1 4 1 1 1 1 1 
  1 1 1 289 1 1 1 3 1 8 1 6 1 1 3 1 1 1 2 1 17 1 9 35 1 2 3 3 1 1 1 1 1 1 1 1 1 1 1 1 1 1 1 1 1 1 
  1 1 1 1 1 5 1 2 1 1 2 2 51 48 1 1 1 1 1 1 1 1 1 1 1 1 1 1 1 1 1 1 1 1 1 1 1 1 1 1 1 1 1 1 1 1 1 
  9 1 1 1 1 1 1 1 1 1 1 1 1 1 1 1 1 1 1 1 1 1 1 1 1 1 1 1 1 1 1 1 1 1 1 1 1 1 1 1 1 1 1 1 1 1 1 1 
  1 1 1 1 1 1 1 2 1 1 1 1 1 1 1 1 1 1 1 1 2 1 1 1 1 1 1 1 1 1 1 1 1 1 1 1 1 1 1 1 1 1 1 1 1 1 1 1 
  1 1 1 1 1 1 1 1 1 1 1 1 1 1 1 1 1 1 1 1 1 1 1 1 1 1 1 1 1 1 1 1 1 1 1 1 1 1 1 1 1 1 1 1 1 1 1 1 
  1 1 1 1 1 1 1 1 1 1 1 1 1 1 1 1 1 1 1 1 2 38 2889 38 1 1 5 1 722 86 2195 1 6 43 2 3 320 1 1 1 1 
  1 1 1 1 1 1 1 1 1 1 1 1 1 1 1 1 1 1 1 1 1 1 1 1 1 1 1 1 1 1 1 1 1 1 1 1 1 1 1 1 1 1 1 1 1 1 1 1 
  1 1 1 1 1 1 1 1 1 1 1 1 1 1 1 1 1 1 1 1 1 1 1 1 1 1 1 1 1 1 1 1 1 1 1 1 1 1 1 1 1 1 1 1 1 1 1 1 
  1 1 1 1 1 1 1 1 1 1 1 1 1 1 1 1 1 1 1 1 1 1 1 1 1 1 1 1 1 1 1 1 1 1 1 1 1 1 1 1 1 1 1 1 1 1 1 1 
  1 9 1 1 1 1 1 1 1 1 1 1 1 1 1 1 1 1 1 1 1 1 1 1 1 1 1 1 1 1 1 1 1 1 1 1 1 1 1 1 1 1 1 1 1 1 1 1 
  1 1 1 1 1 1 1 1 1 1 1 1 1 1 1 1 1 1 1 1 1 1 1 1 1 1 1 1 1 1 1 1 1 1 1 1 1 1 1 1 1 1 1 1 1 1 1 1 
  1 1 1 9 8 8 6 10 8 8 8 8 6 11 1 1 1 1 1 1 1 8 8 72 4 12 4 12 4 12 5 11 4 262 1 4 1 3 3 2 3 2 1 
  3 5 6 1 1 1 1 1 1 4 2 4 10 2 5 1 26 16 19 1 818 26 1840 48 48 1 1 3 2 1 1 1 1 1 1 4 1 1 2 1 8 3 
  1 1 1 1 1 1 1 1 1 1 1 1 1 1 1 1 1 1 1 1 1 1 1 1 1 1 1 1 1 1 1 1 1 1 1 1 1 1 1 1 1 1 1 1 1 1 1 1 
  1 1 1 1 1 1 1 1 1 1 1 1 1 1 1 1 1 1 1 1 1 1 1 1 1 1 1 1 1 1 1 1 1 1 1 1 1 1 1 1 1 1 1 1 1 1 1 1 
  1 1 8 1 1 1 4 1 31053 1 1 1 1 1 1 1 1 1 1 1 1 1 1 1 1 1 1 1 1 1 1 1 1 1 1 1 1 1 1 1 1 1 1 1 1 1 
  1 1 1 1 1 1 1 1 19 1 1 1 1 1 1 1 1 1 1 1 1 1 1 1 1 1 1 1 1 1 1 1 1 1 1 1 135 1 1 1 1 1 1 1 1 1 
  1 1 1 1 3 1 1 1 1 1 1 1 1 1 1 1 1 1 1 1 1 1 1 1 1 1 1 1 1 1 1 1 1 1 1 1 1 1 1 1 1 1 1 1 1 1 1 1 
  1 1 1 1 1 1 1 1 1 1 1 1 1 1 1 1 1 1 10 1 1 1 1 2 1 1 1 1 1 1 1 1 4 1 1 1 2 1 1 1 3 1 1 1 1 1 1 
  1 1 1 1 1 1 1 1 1 1 1 1 1 1 5 1 5 1 1 1 1 1 1 1 1 1 1 1 1 1 1 1 4 1 1 1 2 1 1 1 1 1 1 1 1 1 1 1 
  1 1 1 1 1 24 1 22315 26 1221 40 136 36 156 11 1 15 1 7 1 2 1770 51 157 22 2874 32 21888 32 64 
  25 25927 26 26 26 26 26 26 1 1 2 2 1 2 2 2 4 1 8 26 26 26 2 1 4 2 8 1 7 27 2 1 4 1 5 1 1 3 7 27 
  26 26 26 26 26 26 26 26 26 26 26 30 25 33 25 33 25 33 25 33 25 33 1 4405 34 2062 26 6 26 6 26"

def unionAll (sets : List CodeSet) : CodeSet :=
  CodeSet.ofRanges (sets.flatMap (·.ranges))

def casedLetterSet : CodeSet := unionAll [uppercaseLetterSet, lowercaseLetterSet, titlecaseLetterSet]

def letterSet : CodeSet := unionAll [casedLetterSet, modifierLetterSet, otherLetterSet]

def markSet : CodeSet := unionAll [nonspacingMarkSet, spacingMarkSet, enclosingMarkSet]

def numberSet : CodeSet := unionAll [decimalNumberSet, letterNumberSet, otherNumberSet]

def punctuationSet : CodeSet := unionAll [
  connectorPunctuationSet, dashPunctuationSet, openPunctuationSet, closePunctuationSet,
  initialPunctuationSet, finalPunctuationSet, otherPunctuationSet]

def symbolSet : CodeSet :=
  unionAll [mathSymbolSet, currencySymbolSet, modifierSymbolSet, otherSymbolSet]

def separatorSet : CodeSet := unionAll [spaceSeparatorSet, lineSeparatorSet, paragraphSeparatorSet]

def assignedSet : CodeSet := unionAll [
  letterSet, markSet, numberSet, punctuationSet, symbolSet, separatorSet, controlSet, formatSet,
  privateUseSet]

/-- Characters that have not been given a meaning. -/
def unassignedSet : CodeSet := assignedSet.compl

def otherSet : CodeSet := unionAll [controlSet, formatSet, privateUseSet, unassignedSet]

/-- Characters of words: letters, marks, decimal digits, connectors and the two joiners. -/
def wordSet : CodeSet := unionAll [
  Text.alphabeticSet, markSet, decimalNumberSet, connectorPunctuationSet, ⟨[(0x200C, 0x200D)]⟩]

def asciiWordSet : CodeSet := ⟨[(48, 57), (65, 90), (95, 95), (97, 122)]⟩

def isWordCode (code : Nat) : Bool :=
  if code < 128 then asciiWordSet.contains code else wordSet.contains code

/-- A name in the form in which names are compared. -/
def normalName (name : String) : String :=
  let cs := (name.toList.filter fun c => !(c = ' ' || c = '_' || c = '-')).map Char.toLower
  match cs with
  | 'i' :: 's' :: rest => if rest = ['c'] then "isc" else String.ofList rest
  | cs => String.ofList cs

/-- The set with a name that is in its compared form. -/
def namedSet? (name : String) : Option CodeSet :=
  match name with
  | "lc" | "casedletter" => some casedLetterSet
  | "l" | "letter" => some letterSet
  | "m" | "mark" | "combiningmark" => some markSet
  | "n" | "number" => some numberSet
  | "p" | "punctuation" | "punct" => some punctuationSet
  | "s" | "symbol" => some symbolSet
  | "z" | "separator" => some separatorSet
  | "c" | "other" => some otherSet
  | "assigned" => some assignedSet
  | "cn" | "unassigned" => some unassignedSet
  | "lu" | "uppercaseletter" => some uppercaseLetterSet
  | "ll" | "lowercaseletter" => some lowercaseLetterSet
  | "lt" | "titlecaseletter" => some titlecaseLetterSet
  | "lm" | "modifierletter" => some modifierLetterSet
  | "lo" | "otherletter" => some otherLetterSet
  | "mn" | "nonspacingmark" => some nonspacingMarkSet
  | "mc" | "spacingmark" => some spacingMarkSet
  | "me" | "enclosingmark" => some enclosingMarkSet
  | "nd" | "decimalnumber" | "digit" => some decimalNumberSet
  | "nl" | "letternumber" => some letterNumberSet
  | "no" | "othernumber" => some otherNumberSet
  | "pc" | "connectorpunctuation" => some connectorPunctuationSet
  | "pd" | "dashpunctuation" => some dashPunctuationSet
  | "ps" | "openpunctuation" => some openPunctuationSet
  | "pe" | "closepunctuation" => some closePunctuationSet
  | "pi" | "initialpunctuation" => some initialPunctuationSet
  | "pf" | "finalpunctuation" => some finalPunctuationSet
  | "po" | "otherpunctuation" => some otherPunctuationSet
  | "sm" | "mathsymbol" => some mathSymbolSet
  | "sc" | "currencysymbol" => some currencySymbolSet
  | "sk" | "modifiersymbol" => some modifierSymbolSet
  | "so" | "othersymbol" => some otherSymbolSet
  | "zs" | "spaceseparator" => some spaceSeparatorSet
  | "zl" | "lineseparator" => some lineSeparatorSet
  | "zp" | "paragraphseparator" => some paragraphSeparatorSet
  | "cc" | "control" | "cntrl" => some controlSet
  | "cf" | "format" => some formatSet
  | "co" | "privateuse" => some privateUseSet
  | "latin" | "latn" => some latinSet
  | "greek" | "grek" => some greekSet
  | "cyrillic" | "cyrl" => some cyrillicSet
  | "han" | "hani" => some hanSet
  | "hiragana" | "hira" => some hiraganaSet
  | "katakana" | "kana" => some katakanaSet
  | "arabic" | "arab" => some arabicSet
  | "hebrew" | "hebr" => some hebrewSet
  | "thai" => some thaiSet
  | "hangul" | "hang" => some hangulSet
  | "devanagari" | "deva" => some devanagariSet
  | "armenian" | "armn" => some armenianSet
  | "georgian" | "geor" => some georgianSet
  | "lowercase" | "lower" => some lowercaseSet
  | "uppercase" | "upper" => some uppercaseSet
  | "alphabetic" | "alpha" => some Text.alphabeticSet
  | "whitespace" | "space" | "wspace" => some Text.whiteSpaceSet
  | "cased" => some Text.casedSet
  | "caseignorable" | "ci" => some Text.caseIgnorableSet
  | "any" => some CodeSet.all
  | "ascii" => some ⟨[(0, 127)]⟩
  | _ => none

/-- Groups of characters that differ in case only, each as its size and its members. -/
def caseGroupTable : String :=
  "2 65 97 2 66 98 2 67 99 2 68 100 2 69 101 2 70 102 2 71 103 2 72 104 2 73 105 2 74 106 3 75 107 
  8490 2 76 108 2 77 109 2 78 110 2 79 111 2 80 112 2 81 113 2 82 114 3 83 115 383 2 84 116 2 85 
  117 2 86 118 2 87 119 2 88 120 2 89 121 2 90 122 3 181 924 956 2 192 224 2 193 225 2 194 226 2 
  195 227 2 196 228 3 197 229 8491 2 198 230 2 199 231 2 200 232 2 201 233 2 202 234 2 203 235 2 
  204 236 2 205 237 2 206 238 2 207 239 2 208 240 2 209 241 2 210 242 2 211 243 2 212 244 2 213 
  245 2 214 246 2 216 248 2 217 249 2 218 250 2 219 251 2 220 252 2 221 253 2 222 254 2 223 7838 
  2 255 376 2 256 257 2 258 259 2 260 261 2 262 263 2 264 265 2 266 267 2 268 269 2 270 271 2 272 
  273 2 274 275 2 276 277 2 278 279 2 280 281 2 282 283 2 284 285 2 286 287 2 288 289 2 290 291 2 
  292 293 2 294 295 2 296 297 2 298 299 2 300 301 2 302 303 2 306 307 2 308 309 2 310 311 2 313 
  314 2 315 316 2 317 318 2 319 320 2 321 322 2 323 324 2 325 326 2 327 328 2 330 331 2 332 333 2 
  334 335 2 336 337 2 338 339 2 340 341 2 342 343 2 344 345 2 346 347 2 348 349 2 350 351 2 352 
  353 2 354 355 2 356 357 2 358 359 2 360 361 2 362 363 2 364 365 2 366 367 2 368 369 2 370 371 2 
  372 373 2 374 375 2 377 378 2 379 380 2 381 382 2 384 579 2 385 595 2 386 387 2 388 389 2 390 
  596 2 391 392 2 393 598 2 394 599 2 395 396 2 398 477 2 399 601 2 400 603 2 401 402 2 403 608 2 
  404 611 2 405 502 2 406 617 2 407 616 2 408 409 2 410 573 2 411 42972 2 412 623 2 413 626 2 414 
  544 2 415 629 2 416 417 2 418 419 2 420 421 2 422 640 2 423 424 2 425 643 2 428 429 2 430 648 2 
  431 432 2 433 650 2 434 651 2 435 436 2 437 438 2 439 658 2 440 441 2 444 445 2 447 503 3 452 
  453 454 3 455 456 457 3 458 459 460 2 461 462 2 463 464 2 465 466 2 467 468 2 469 470 2 471 472 
  2 473 474 2 475 476 2 478 479 2 480 481 2 482 483 2 484 485 2 486 487 2 488 489 2 490 491 2 492 
  493 2 494 495 3 497 498 499 2 500 501 2 504 505 2 506 507 2 508 509 2 510 511 2 512 513 2 514 
  515 2 516 517 2 518 519 2 520 521 2 522 523 2 524 525 2 526 527 2 528 529 2 530 531 2 532 533 2 
  534 535 2 536 537 2 538 539 2 540 541 2 542 543 2 546 547 2 548 549 2 550 551 2 552 553 2 554 
  555 2 556 557 2 558 559 2 560 561 2 562 563 2 570 11365 2 571 572 2 574 11366 2 575 11390 2 576 
  11391 2 577 578 2 580 649 2 581 652 2 582 583 2 584 585 2 586 587 2 588 589 2 590 591 2 592 
  11375 2 593 11373 2 594 11376 2 604 42923 2 609 42924 2 612 42955 2 613 42893 2 614 42922 2 618 
  42926 2 619 11362 2 620 42925 2 625 11374 2 637 11364 2 642 42949 2 647 42929 2 669 42930 2 670 
  42928 4 837 921 953 8126 2 880 881 2 882 883 2 886 887 2 891 1021 2 892 1022 2 893 1023 2 895 
  1011 2 902 940 2 904 941 2 905 942 2 906 943 2 908 972 2 910 973 2 911 974 2 912 8147 2 913 945 
  3 914 946 976 2 915 947 2 916 948 3 917 949 1013 2 918 950 2 919 951 4 920 952 977 1012 3 922 
  954 1008 2 923 955 2 925 957 2 926 958 2 927 959 3 928 960 982 3 929 961 1009 3 931 962 963 2 
  932 964 2 933 965 3 934 966 981 2 935 967 2 936 968 3 937 969 8486 2 938 970 2 939 971 2 944 
  8163 2 975 983 2 984 985 2 986 987 2 988 989 2 990 991 2 992 993 2 994 995 2 996 997 2 998 999 
  2 1000 1001 2 1002 1003 2 1004 1005 2 1006 1007 2 1010 1017 2 1015 1016 2 1018 1019 2 1024 1104 
  2 1025 1105 2 1026 1106 2 1027 1107 2 1028 1108 2 1029 1109 2 1030 1110 2 1031 1111 2 1032 1112 
  2 1033 1113 2 1034 1114 2 1035 1115 2 1036 1116 2 1037 1117 2 1038 1118 2 1039 1119 2 1040 1072 
  2 1041 1073 3 1042 1074 7296 2 1043 1075 3 1044 1076 7297 2 1045 1077 2 1046 1078 2 1047 1079 2 
  1048 1080 2 1049 1081 2 1050 1082 2 1051 1083 2 1052 1084 2 1053 1085 3 1054 1086 7298 2 1055 
  1087 2 1056 1088 3 1057 1089 7299 4 1058 1090 7300 7301 2 1059 1091 2 1060 1092 2 1061 1093 2 
  1062 1094 2 1063 1095 2 1064 1096 2 1065 1097 3 1066 1098 7302 2 1067 1099 2 1068 1100 2 1069 
  1101 2 1070 1102 2 1071 1103 2 1120 1121 3 1122 1123 7303 2 1124 1125 2 1126 1127 2 1128 1129 2 
  1130 1131 2 1132 1133 2 1134 1135 2 1136 1137 2 1138 1139 2 1140 1141 2 1142 1143 2 1144 1145 2 
  1146 1147 2 1148 1149 2 1150 1151 2 1152 1153 2 1162 1163 2 1164 1165 2 1166 1167 2 1168 1169 2 
  1170 1171 2 1172 1173 2 1174 1175 2 1176 1177 2 1178 1179 2 1180 1181 2 1182 1183 2 1184 1185 2 
  1186 1187 2 1188 1189 2 1190 1191 2 1192 1193 2 1194 1195 2 1196 1197 2 1198 1199 2 1200 1201 2 
  1202 1203 2 1204 1205 2 1206 1207 2 1208 1209 2 1210 1211 2 1212 1213 2 1214 1215 2 1216 1231 2 
  1217 1218 2 1219 1220 2 1221 1222 2 1223 1224 2 1225 1226 2 1227 1228 2 1229 1230 2 1232 1233 2 
  1234 1235 2 1236 1237 2 1238 1239 2 1240 1241 2 1242 1243 2 1244 1245 2 1246 1247 2 1248 1249 2 
  1250 1251 2 1252 1253 2 1254 1255 2 1256 1257 2 1258 1259 2 1260 1261 2 1262 1263 2 1264 1265 2 
  1266 1267 2 1268 1269 2 1270 1271 2 1272 1273 2 1274 1275 2 1276 1277 2 1278 1279 2 1280 1281 2 
  1282 1283 2 1284 1285 2 1286 1287 2 1288 1289 2 1290 1291 2 1292 1293 2 1294 1295 2 1296 1297 2 
  1298 1299 2 1300 1301 2 1302 1303 2 1304 1305 2 1306 1307 2 1308 1309 2 1310 1311 2 1312 1313 2 
  1314 1315 2 1316 1317 2 1318 1319 2 1320 1321 2 1322 1323 2 1324 1325 2 1326 1327 2 1329 1377 2 
  1330 1378 2 1331 1379 2 1332 1380 2 1333 1381 2 1334 1382 2 1335 1383 2 1336 1384 2 1337 1385 2 
  1338 1386 2 1339 1387 2 1340 1388 2 1341 1389 2 1342 1390 2 1343 1391 2 1344 1392 2 1345 1393 2 
  1346 1394 2 1347 1395 2 1348 1396 2 1349 1397 2 1350 1398 2 1351 1399 2 1352 1400 2 1353 1401 2 
  1354 1402 2 1355 1403 2 1356 1404 2 1357 1405 2 1358 1406 2 1359 1407 2 1360 1408 2 1361 1409 2 
  1362 1410 2 1363 1411 2 1364 1412 2 1365 1413 2 1366 1414 2 4256 11520 2 4257 11521 2 4258 
  11522 2 4259 11523 2 4260 11524 2 4261 11525 2 4262 11526 2 4263 11527 2 4264 11528 2 4265 
  11529 2 4266 11530 2 4267 11531 2 4268 11532 2 4269 11533 2 4270 11534 2 4271 11535 2 4272 
  11536 2 4273 11537 2 4274 11538 2 4275 11539 2 4276 11540 2 4277 11541 2 4278 11542 2 4279 
  11543 2 4280 11544 2 4281 11545 2 4282 11546 2 4283 11547 2 4284 11548 2 4285 11549 2 4286 
  11550 2 4287 11551 2 4288 11552 2 4289 11553 2 4290 11554 2 4291 11555 2 4292 11556 2 4293 
  11557 2 4295 11559 2 4301 11565 2 4304 7312 2 4305 7313 2 4306 7314 2 4307 7315 2 4308 7316 2 
  4309 7317 2 4310 7318 2 4311 7319 2 4312 7320 2 4313 7321 2 4314 7322 2 4315 7323 2 4316 7324 2 
  4317 7325 2 4318 7326 2 4319 7327 2 4320 7328 2 4321 7329 2 4322 7330 2 4323 7331 2 4324 7332 2 
  4325 7333 2 4326 7334 2 4327 7335 2 4328 7336 2 4329 7337 2 4330 7338 2 4331 7339 2 4332 7340 2 
  4333 7341 2 4334 7342 2 4335 7343 2 4336 7344 2 4337 7345 2 4338 7346 2 4339 7347 2 4340 7348 2 
  4341 7349 2 4342 7350 2 4343 7351 2 4344 7352 2 4345 7353 2 4346 7354 2 4349 7357 2 4350 7358 2 
  4351 7359 2 5024 43888 2 5025 43889 2 5026 43890 2 5027 43891 2 5028 43892 2 5029 43893 2 5030 
  43894 2 5031 43895 2 5032 43896 2 5033 43897 2 5034 43898 2 5035 43899 2 5036 43900 2 5037 
  43901 2 5038 43902 2 5039 43903 2 5040 43904 2 5041 43905 2 5042 43906 2 5043 43907 2 5044 
  43908 2 5045 43909 2 5046 43910 2 5047 43911 2 5048 43912 2 5049 43913 2 5050 43914 2 5051 
  43915 2 5052 43916 2 5053 43917 2 5054 43918 2 5055 43919 2 5056 43920 2 5057 43921 2 5058 
  43922 2 5059 43923 2 5060 43924 2 5061 43925 2 5062 43926 2 5063 43927 2 5064 43928 2 5065 
  43929 2 5066 43930 2 5067 43931 2 5068 43932 2 5069 43933 2 5070 43934 2 5071 43935 2 5072 
  43936 2 5073 43937 2 5074 43938 2 5075 43939 2 5076 43940 2 5077 43941 2 5078 43942 2 5079 
  43943 2 5080 43944 2 5081 43945 2 5082 43946 2 5083 43947 2 5084 43948 2 5085 43949 2 5086 
  43950 2 5087 43951 2 5088 43952 2 5089 43953 2 5090 43954 2 5091 43955 2 5092 43956 2 5093 
  43957 2 5094 43958 2 5095 43959 2 5096 43960 2 5097 43961 2 5098 43962 2 5099 43963 2 5100 
  43964 2 5101 43965 2 5102 43966 2 5103 43967 2 5104 5112 2 5105 5113 2 5106 5114 2 5107 5115 2 
  5108 5116 2 5109 5117 3 7304 42570 42571 2 7305 7306 2 7545 42877 2 7549 11363 2 7566 42950 2 
  7680 7681 2 7682 7683 2 7684 7685 2 7686 7687 2 7688 7689 2 7690 7691 2 7692 7693 2 7694 7695 2 
  7696 7697 2 7698 7699 2 7700 7701 2 7702 7703 2 7704 7705 2 7706 7707 2 7708 7709 2 7710 7711 2 
  7712 7713 2 7714 7715 2 7716 7717 2 7718 7719 2 7720 7721 2 7722 7723 2 7724 7725 2 7726 7727 2 
  7728 7729 2 7730 7731 2 7732 7733 2 7734 7735 2 7736 7737 2 7738 7739 2 7740 7741 2 7742 7743 2 
  7744 7745 2 7746 7747 2 7748 7749 2 7750 7751 2 7752 7753 2 7754 7755 2 7756 7757 2 7758 7759 2 
  7760 7761 2 7762 7763 2 7764 7765 2 7766 7767 2 7768 7769 2 7770 7771 2 7772 7773 2 7774 7775 3 
  7776 7777 7835 2 7778 7779 2 7780 7781 2 7782 7783 2 7784 7785 2 7786 7787 2 7788 7789 2 7790 
  7791 2 7792 7793 2 7794 7795 2 7796 7797 2 7798 7799 2 7800 7801 2 7802 7803 2 7804 7805 2 7806 
  7807 2 7808 7809 2 7810 7811 2 7812 7813 2 7814 7815 2 7816 7817 2 7818 7819 2 7820 7821 2 7822 
  7823 2 7824 7825 2 7826 7827 2 7828 7829 2 7840 7841 2 7842 7843 2 7844 7845 2 7846 7847 2 7848 
  7849 2 7850 7851 2 7852 7853 2 7854 7855 2 7856 7857 2 7858 7859 2 7860 7861 2 7862 7863 2 7864 
  7865 2 7866 7867 2 7868 7869 2 7870 7871 2 7872 7873 2 7874 7875 2 7876 7877 2 7878 7879 2 7880 
  7881 2 7882 7883 2 7884 7885 2 7886 7887 2 7888 7889 2 7890 7891 2 7892 7893 2 7894 7895 2 7896 
  7897 2 7898 7899 2 7900 7901 2 7902 7903 2 7904 7905 2 7906 7907 2 7908 7909 2 7910 7911 2 7912 
  7913 2 7914 7915 2 7916 7917 2 7918 7919 2 7920 7921 2 7922 7923 2 7924 7925 2 7926 7927 2 7928 
  7929 2 7930 7931 2 7932 7933 2 7934 7935 2 7936 7944 2 7937 7945 2 7938 7946 2 7939 7947 2 7940 
  7948 2 7941 7949 2 7942 7950 2 7943 7951 2 7952 7960 2 7953 7961 2 7954 7962 2 7955 7963 2 7956 
  7964 2 7957 7965 2 7968 7976 2 7969 7977 2 7970 7978 2 7971 7979 2 7972 7980 2 7973 7981 2 7974 
  7982 2 7975 7983 2 7984 7992 2 7985 7993 2 7986 7994 2 7987 7995 2 7988 7996 2 7989 7997 2 7990 
  7998 2 7991 7999 2 8000 8008 2 8001 8009 2 8002 8010 2 8003 8011 2 8004 8012 2 8005 8013 2 8017 
  8025 2 8019 8027 2 8021 8029 2 8023 8031 2 8032 8040 2 8033 8041 2 8034 8042 2 8035 8043 2 8036 
  8044 2 8037 8045 2 8038 8046 2 8039 8047 2 8048 8122 2 8049 8123 2 8050 8136 2 8051 8137 2 8052 
  8138 2 8053 8139 2 8054 8154 2 8055 8155 2 8056 8184 2 8057 8185 2 8058 8170 2 8059 8171 2 8060 
  8186 2 8061 8187 2 8064 8072 2 8065 8073 2 8066 8074 2 8067 8075 2 8068 8076 2 8069 8077 2 8070 
  8078 2 8071 8079 2 8080 8088 2 8081 8089 2 8082 8090 2 8083 8091 2 8084 8092 2 8085 8093 2 8086 
  8094 2 8087 8095 2 8096 8104 2 8097 8105 2 8098 8106 2 8099 8107 2 8100 8108 2 8101 8109 2 8102 
  8110 2 8103 8111 2 8112 8120 2 8113 8121 2 8115 8124 2 8131 8140 2 8144 8152 2 8145 8153 2 8160 
  8168 2 8161 8169 2 8165 8172 2 8179 8188 2 8498 8526 2 8544 8560 2 8545 8561 2 8546 8562 2 8547 
  8563 2 8548 8564 2 8549 8565 2 8550 8566 2 8551 8567 2 8552 8568 2 8553 8569 2 8554 8570 2 8555 
  8571 2 8556 8572 2 8557 8573 2 8558 8574 2 8559 8575 2 8579 8580 2 9398 9424 2 9399 9425 2 9400 
  9426 2 9401 9427 2 9402 9428 2 9403 9429 2 9404 9430 2 9405 9431 2 9406 9432 2 9407 9433 2 9408 
  9434 2 9409 9435 2 9410 9436 2 9411 9437 2 9412 9438 2 9413 9439 2 9414 9440 2 9415 9441 2 9416 
  9442 2 9417 9443 2 9418 9444 2 9419 9445 2 9420 9446 2 9421 9447 2 9422 9448 2 9423 9449 2 
  11264 11312 2 11265 11313 2 11266 11314 2 11267 11315 2 11268 11316 2 11269 11317 2 11270 11318 
  2 11271 11319 2 11272 11320 2 11273 11321 2 11274 11322 2 11275 11323 2 11276 11324 2 11277 
  11325 2 11278 11326 2 11279 11327 2 11280 11328 2 11281 11329 2 11282 11330 2 11283 11331 2 
  11284 11332 2 11285 11333 2 11286 11334 2 11287 11335 2 11288 11336 2 11289 11337 2 11290 11338 
  2 11291 11339 2 11292 11340 2 11293 11341 2 11294 11342 2 11295 11343 2 11296 11344 2 11297 
  11345 2 11298 11346 2 11299 11347 2 11300 11348 2 11301 11349 2 11302 11350 2 11303 11351 2 
  11304 11352 2 11305 11353 2 11306 11354 2 11307 11355 2 11308 11356 2 11309 11357 2 11310 11358 
  2 11311 11359 2 11360 11361 2 11367 11368 2 11369 11370 2 11371 11372 2 11378 11379 2 11381 
  11382 2 11392 11393 2 11394 11395 2 11396 11397 2 11398 11399 2 11400 11401 2 11402 11403 2 
  11404 11405 2 11406 11407 2 11408 11409 2 11410 11411 2 11412 11413 2 11414 11415 2 11416 11417 
  2 11418 11419 2 11420 11421 2 11422 11423 2 11424 11425 2 11426 11427 2 11428 11429 2 11430 
  11431 2 11432 11433 2 11434 11435 2 11436 11437 2 11438 11439 2 11440 11441 2 11442 11443 2 
  11444 11445 2 11446 11447 2 11448 11449 2 11450 11451 2 11452 11453 2 11454 11455 2 11456 11457 
  2 11458 11459 2 11460 11461 2 11462 11463 2 11464 11465 2 11466 11467 2 11468 11469 2 11470 
  11471 2 11472 11473 2 11474 11475 2 11476 11477 2 11478 11479 2 11480 11481 2 11482 11483 2 
  11484 11485 2 11486 11487 2 11488 11489 2 11490 11491 2 11499 11500 2 11501 11502 2 11506 11507 
  2 42560 42561 2 42562 42563 2 42564 42565 2 42566 42567 2 42568 42569 2 42572 42573 2 42574 
  42575 2 42576 42577 2 42578 42579 2 42580 42581 2 42582 42583 2 42584 42585 2 42586 42587 2 
  42588 42589 2 42590 42591 2 42592 42593 2 42594 42595 2 42596 42597 2 42598 42599 2 42600 42601 
  2 42602 42603 2 42604 42605 2 42624 42625 2 42626 42627 2 42628 42629 2 42630 42631 2 42632 
  42633 2 42634 42635 2 42636 42637 2 42638 42639 2 42640 42641 2 42642 42643 2 42644 42645 2 
  42646 42647 2 42648 42649 2 42650 42651 2 42786 42787 2 42788 42789 2 42790 42791 2 42792 42793 
  2 42794 42795 2 42796 42797 2 42798 42799 2 42802 42803 2 42804 42805 2 42806 42807 2 42808 
  42809 2 42810 42811 2 42812 42813 2 42814 42815 2 42816 42817 2 42818 42819 2 42820 42821 2 
  42822 42823 2 42824 42825 2 42826 42827 2 42828 42829 2 42830 42831 2 42832 42833 2 42834 42835 
  2 42836 42837 2 42838 42839 2 42840 42841 2 42842 42843 2 42844 42845 2 42846 42847 2 42848 
  42849 2 42850 42851 2 42852 42853 2 42854 42855 2 42856 42857 2 42858 42859 2 42860 42861 2 
  42862 42863 2 42873 42874 2 42875 42876 2 42878 42879 2 42880 42881 2 42882 42883 2 42884 42885 
  2 42886 42887 2 42891 42892 2 42896 42897 2 42898 42899 2 42900 42948 2 42902 42903 2 42904 
  42905 2 42906 42907 2 42908 42909 2 42910 42911 2 42912 42913 2 42914 42915 2 42916 42917 2 
  42918 42919 2 42920 42921 2 42931 43859 2 42932 42933 2 42934 42935 2 42936 42937 2 42938 42939 
  2 42940 42941 2 42942 42943 2 42944 42945 2 42946 42947 2 42951 42952 2 42953 42954 2 42956 
  42957 2 42958 42959 2 42960 42961 2 42962 42963 2 42964 42965 2 42966 42967 2 42968 42969 2 
  42970 42971 2 42997 42998 2 64261 64262 2 65313 65345 2 65314 65346 2 65315 65347 2 65316 65348 
  2 65317 65349 2 65318 65350 2 65319 65351 2 65320 65352 2 65321 65353 2 65322 65354 2 65323 
  65355 2 65324 65356 2 65325 65357 2 65326 65358 2 65327 65359 2 65328 65360 2 65329 65361 2 
  65330 65362 2 65331 65363 2 65332 65364 2 65333 65365 2 65334 65366 2 65335 65367 2 65336 65368 
  2 65337 65369 2 65338 65370 2 66560 66600 2 66561 66601 2 66562 66602 2 66563 66603 2 66564 
  66604 2 66565 66605 2 66566 66606 2 66567 66607 2 66568 66608 2 66569 66609 2 66570 66610 2 
  66571 66611 2 66572 66612 2 66573 66613 2 66574 66614 2 66575 66615 2 66576 66616 2 66577 66617 
  2 66578 66618 2 66579 66619 2 66580 66620 2 66581 66621 2 66582 66622 2 66583 66623 2 66584 
  66624 2 66585 66625 2 66586 66626 2 66587 66627 2 66588 66628 2 66589 66629 2 66590 66630 2 
  66591 66631 2 66592 66632 2 66593 66633 2 66594 66634 2 66595 66635 2 66596 66636 2 66597 66637 
  2 66598 66638 2 66599 66639 2 66736 66776 2 66737 66777 2 66738 66778 2 66739 66779 2 66740 
  66780 2 66741 66781 2 66742 66782 2 66743 66783 2 66744 66784 2 66745 66785 2 66746 66786 2 
  66747 66787 2 66748 66788 2 66749 66789 2 66750 66790 2 66751 66791 2 66752 66792 2 66753 66793 
  2 66754 66794 2 66755 66795 2 66756 66796 2 66757 66797 2 66758 66798 2 66759 66799 2 66760 
  66800 2 66761 66801 2 66762 66802 2 66763 66803 2 66764 66804 2 66765 66805 2 66766 66806 2 
  66767 66807 2 66768 66808 2 66769 66809 2 66770 66810 2 66771 66811 2 66928 66967 2 66929 66968 
  2 66930 66969 2 66931 66970 2 66932 66971 2 66933 66972 2 66934 66973 2 66935 66974 2 66936 
  66975 2 66937 66976 2 66938 66977 2 66940 66979 2 66941 66980 2 66942 66981 2 66943 66982 2 
  66944 66983 2 66945 66984 2 66946 66985 2 66947 66986 2 66948 66987 2 66949 66988 2 66950 66989 
  2 66951 66990 2 66952 66991 2 66953 66992 2 66954 66993 2 66956 66995 2 66957 66996 2 66958 
  66997 2 66959 66998 2 66960 66999 2 66961 67000 2 66962 67001 2 66964 67003 2 66965 67004 2 
  68736 68800 2 68737 68801 2 68738 68802 2 68739 68803 2 68740 68804 2 68741 68805 2 68742 68806 
  2 68743 68807 2 68744 68808 2 68745 68809 2 68746 68810 2 68747 68811 2 68748 68812 2 68749 
  68813 2 68750 68814 2 68751 68815 2 68752 68816 2 68753 68817 2 68754 68818 2 68755 68819 2 
  68756 68820 2 68757 68821 2 68758 68822 2 68759 68823 2 68760 68824 2 68761 68825 2 68762 68826 
  2 68763 68827 2 68764 68828 2 68765 68829 2 68766 68830 2 68767 68831 2 68768 68832 2 68769 
  68833 2 68770 68834 2 68771 68835 2 68772 68836 2 68773 68837 2 68774 68838 2 68775 68839 2 
  68776 68840 2 68777 68841 2 68778 68842 2 68779 68843 2 68780 68844 2 68781 68845 2 68782 68846 
  2 68783 68847 2 68784 68848 2 68785 68849 2 68786 68850 2 68944 68976 2 68945 68977 2 68946 
  68978 2 68947 68979 2 68948 68980 2 68949 68981 2 68950 68982 2 68951 68983 2 68952 68984 2 
  68953 68985 2 68954 68986 2 68955 68987 2 68956 68988 2 68957 68989 2 68958 68990 2 68959 68991 
  2 68960 68992 2 68961 68993 2 68962 68994 2 68963 68995 2 68964 68996 2 68965 68997 2 71840 
  71872 2 71841 71873 2 71842 71874 2 71843 71875 2 71844 71876 2 71845 71877 2 71846 71878 2 
  71847 71879 2 71848 71880 2 71849 71881 2 71850 71882 2 71851 71883 2 71852 71884 2 71853 71885 
  2 71854 71886 2 71855 71887 2 71856 71888 2 71857 71889 2 71858 71890 2 71859 71891 2 71860 
  71892 2 71861 71893 2 71862 71894 2 71863 71895 2 71864 71896 2 71865 71897 2 71866 71898 2 
  71867 71899 2 71868 71900 2 71869 71901 2 71870 71902 2 71871 71903 2 93760 93792 2 93761 93793 
  2 93762 93794 2 93763 93795 2 93764 93796 2 93765 93797 2 93766 93798 2 93767 93799 2 93768 
  93800 2 93769 93801 2 93770 93802 2 93771 93803 2 93772 93804 2 93773 93805 2 93774 93806 2 
  93775 93807 2 93776 93808 2 93777 93809 2 93778 93810 2 93779 93811 2 93780 93812 2 93781 93813 
  2 93782 93814 2 93783 93815 2 93784 93816 2 93785 93817 2 93786 93818 2 93787 93819 2 93788 
  93820 2 93789 93821 2 93790 93822 2 93791 93823 2 93856 93883 2 93857 93884 2 93858 93885 2 
  93859 93886 2 93860 93887 2 93861 93888 2 93862 93889 2 93863 93890 2 93864 93891 2 93865 93892 
  2 93866 93893 2 93867 93894 2 93868 93895 2 93869 93896 2 93870 93897 2 93871 93898 2 93872 
  93899 2 93873 93900 2 93874 93901 2 93875 93902 2 93876 93903 2 93877 93904 2 93878 93905 2 
  93879 93906 2 93880 93907 2 125184 125218 2 125185 125219 2 125186 125220 2 125187 125221 2 
  125188 125222 2 125189 125223 2 125190 125224 2 125191 125225 2 125192 125226 2 125193 125227 2 
  125194 125228 2 125195 125229 2 125196 125230 2 125197 125231 2 125198 125232 2 125199 125233 2 
  125200 125234 2 125201 125235 2 125202 125236 2 125203 125237 2 125204 125238 2 125205 125239 2 
  125206 125240 2 125207 125241 2 125208 125242 2 125209 125243 2 125210 125244 2 125211 125245 2 
  125212 125246 2 125213 125247 2 125214 125248 2 125215 125249 2 125216 125250 2 125217 125251"

/-- Groups from a list of sizes and members; `fuel` bounds their number. -/
def readGroups (fuel : Nat) : List Nat → List (List Nat)
  | size :: rest =>
    match fuel with
    | 0 => []
    | fuel + 1 => rest.take size :: readGroups fuel (rest.drop size)
  | [] => []

/-- Groups of characters that differ in case only. -/
def caseGroups : List (List Nat) := readGroups 2000 (CodeSet.readNumbers caseGroupTable)

/-- A set with everything that differs from a member in case only. -/
def foldCase (s : CodeSet) : CodeSet :=
  let extra := caseGroups.flatMap fun g => if g.any s.contains then g.map fun c => (c, c) else []
  CodeSet.ofRanges (s.ranges ++ extra)

end Pattern
end Specimen
