import RegexGateway.Unicode.CharSet

namespace RegexGateway

def alphabeticGaps : String :=
  "41 19 6 19 2f 0 a 0 4 0 5 16 1 1e 1 1c9 4 b e 4 7 0 1 0 56 0 1d 11 1 1 2 3 1 0 6 0 1 2 1 0 1
  13 1 52 1 8a 8 a5 1 25 2 0 6 28 27 d 1 0 1 1 1 1 1 0 8 1a 4 3 1d a 5 37 1 6 e 65 1 7 4 7 4 2 a
  2 2 0 10 2f d 64 18 20 9 1 4 0 5 17 2 12 13 18 7 a 5 17 1 6 7 0 8 29 a b 3 6 6 4b 1 f 1 2 4 e
  d 12 1 7 2 1 2 15 1 6 1 0 3 3 3 7 2 1 2 1 1 0 8 0 4 1 1 4 c 1 a 0 4 2 1 5 4 1 2 15 1 6 1 1 1 1
  1 1 4 4 4 1 2 1 4 0 7 3 1 0 11 5 b 2 1 8 1 2 1 15 1 6 1 1 1 4 3 8 1 2 1 1 3 0 f 3 15 3 4 2 1 7
  2 1 2 15 1 6 1 1 1 4 3 7 2 1 2 1 9 1 4 1 1 4 d 0 10 1 1 5 3 2 1 3 3 1 1 0 1 1 3 1 3 2 3 b 4 4
  3 2 1 2 3 0 6 0 28 c 1 2 1 16 1 f 3 7 1 2 1 2 8 1 1 2 1 1 2 3 1c 3 1 7 1 2 1 16 1 9 1 4 3 7 1
  2 1 2 8 1 5 2 1 3 d 2 c c 1 2 1 28 2 7 1 2 1 2 1 0 5 3 7 4 16 5 1 2 1 11 3 17 1 8 1 0 2 6 8 5
  1 0 1 7 12 1 d 39 5 6 6 0 33 1 1 0 1 4 1 17 1 0 1 12 1 2 2 4 1 0 6 0 e 3 20 0 3f 7 1 23 4 12 4
  f 1 23 43 36 1 0 2 4 10 3f a 3 2 25 1 0 5 0 2 2a 1 14c 1 3 2 6 1 0 1 3 2 28 1 3 2 20 1 3 2 6 1
  0 1 3 2 e 1 38 1 3 2 42 25 f 10 55 2 5 3 26b 2 10 1 19 5 4a 3 a 7 13 b 14 c 13 c c 1 2 1 1 c
  33 2 12 e 0 4 0 43 58 7 2a 5 45 a 1e 1 b 4 8 17 1d 2 4 b 2b 4 19 36 1b 4 3e 2 13 32 0 17 1 b 2
  31 33 1 e 1 7 33 29 2 3 a 2b 1 a e 36 16 2 a 23 2 a 5 2a 2 2 29 3 1 5 1 1 3 0 5 bf 13 21 b 115
  2 5 2 25 2 5 2 7 1 0 1 0 1 0 1 1e 2 34 1 6 1 0 3 2 1 6 3 3 2 5 4 c 5 2 1 6 74 0 d 0 10 c 65 0
  4 0 2 9 1 0 3 4 6 0 1 0 1 0 1 3 1 a 2 3 5 4 4 0 11 28 32d 33 716 e4 6 3 3 1 c 25 1 0 5 0 2 37
  7 0 10 16 9 6 1 6 1 6 1 6 1 6 1 6 1 6 1 6 1 1f 2f 0 1d5 2 19 8 7 4 2 4 4 55 6 2 1 59 1 3 5 2a
  1 5d 11 1f 30 f 200 19bf 40 568c 43 2d 2 10c 3 f a 1 14 2e 5 7 3 70 27 8 2 66 2 51 14 14 1 20
  18 33 c 43 1 0 2c 5 3 0 1 2 a 20 5 22 d 1c 3 32 1 b f 0 10 f a 4 1 36 9 d 12 16 3 44 1 0 1 0
  18 2 2 f 2 3 b 5 2 5 2 5 9 6 1 6 1 2a 1 d 6 7a 15 2ba3 c 16 4 30 2104 16d 2 69 26 6 c 4 5 b 1
  c 1 4 1 0 1 1 1 1 1 6b 21 16a 12 3f 2 35 28 b 74 4 1 86 24 19 6 19 b 58 3 5 2 5 2 5 2 2 23 b 1
  19 1 12 1 1 1 e 2 d 22 7a 45 34 10b 1c 3 30 2f 1f d 1d 5 2a 5 1d 2 23 4 7 1 4 2a 9d 12 23 4 23
  4 27 8 33 c a 1 e 1 6 1 1 1 a 1 e 1 6 1 1 3 33 c 136 9 15 a 7 18 5 1 29 1 8 45 5 2 0 1 2b 1 1
  3 0 2 16 a 16 9 1e 41 12 1 1 a 15 a 19 6 19 26 37 6 1 40 3 1 1 5 7 1 2 1 1c 2a 1c 3 1c 23 7 1
  1b 1b 35 a 15 a 12 d 11 6e 48 37 32 d 32 d 27 22 1b 3 0 5 16 fa 29 1 1 3 1 10 5 32 2 3 1c a 0
  8 15 2a 11 2e 14 1b 16 9 45 2b 4 a 38 9 0 d 18 17 32 11 3 8 22 3 0 9 3f 1 3 9 1 a 0 1 0 23 11
  1 21 2 0 6 3 3e 6 1 0 1 3 1 e 1 9 7 38 17 3 1 7 2 1 2 15 1 6 1 1 1 4 3 7 2 1 2 1 3 0 6 0 5 6
  1c 9 1 0 2 0 1 25 1 9 1 0 2 0 1 3 1 1 3 0 1 0 2c 41 1 2 1 3 14 2 1e 41 2 1 1 0 b8 35 2 6 19 5
  22 3e 1 0 3 0 3b 35 2 0 47 1a 2 d 15 6 b9 38 67 3f 1f 7 2 0 2 7 1 1 1 1d 1 1 2 1 2 3 5d 7 2 2d
  2 5 1 0 1 1 1b 32 2 9 11 47 5 0 12 48 67 7 58 20 1f 8 1 2c 1 6 1 0 31 1d 2 15 1 d 49 6 1 1 1
  2b 3 0 1 1 1 2 1 0 2 1 18 5 1 1 1 24 1 1 1 3 1 0 17 2b 104 16 9 10 1 28 3 2 6f 0 4f 399 66 6e
  11 c3 a4c 60 f 42f 11 5 19 f9a 5 246 1ab9 2e 6d1 238 7 1e 11 4e 11 1d 12 2f 10 3 1f 14 5 12
  1b0 2c d3 3f 20 18 2 18 2c 4a 4 38 7 10 40 1 1 0 c 6 9 1cd5 29 1f 61 72 21fd 3 1 6 1 1 1 122 f
  0 1d 2 2 0 e 3 8 18b 904 6a 5 c 3 8 7 9 4 0 1761 54 1 46 1 1 2 0 2 1 2 3 1 b 1 0 1 6 1 40 1 3
  2 7 1 6 1 1b 1 3 1 4 1 0 3 6 1 153 2 18 1 18 1 1e 1 18 1 1e 1 18 1 1e 1 18 1 1e 1 18 1 7 734
  1e 6 5 d5 6 1 10 2 6 1 1 1 4 5 3d 21 0 70 2c a 6 10 0 141 1d 12 2b 1e4 1b e4 1d 2 0 cf 1e 1 15
  8 1 e0 6 1 3 1 1 1 e 1 c4 3b 43 3 0 3 0 4b4 3 1 1a 1 1 1 0 2 0 1 9 1 3 1 0 1 0 6 0 4 0 1 0 1 0
  1 2 1 1 1 0 2 0 1 0 1 0 1 0 1 0 1 1 1 0 2 3 1 6 1 3 1 3 1 0 1 9 1 10 5 2 1 4 1 10 274 19 6 19
  6 19 e76 a6df 20 111d 2 168d 2 1d30 f 26d 9a2 21d 5e2 134a 5 2129"

def numericGaps : String :=
  "30 9 78 1 5 0 2 2 5a1 9 86 9 c6 9 19c 9 76 9 4 5 6c 9 76 9 76 9 2 5 6e c 73 9 8 6 67 9 68 6 7
  12 6d 9 60 9 76 9 46 13 10c 9 46 9 2cf 13 371 2 ef 9 6 9 16 9 12c 9 80 a a5 9 6 9 b6 9 56 9 86
  9 6 9 416 0 3 5 6 9 c6 32 2 4 2d6 3b 4e 15 276 1d 569 0 309 0 19 8 e 2 157 3 8a 9 1e 7 1 e 20
  9 27 e 7360 9 bc 9 140 5 9a 9 26 9 c6 9 16 9 56 9 196 9 5316 9 1ed 2c c 38 11 1 155 1a 24 3 1d
  0 8 0 86 4 ca 9 3ae 7 19 6 27 8 4b 4 16 5 a0 1 2 f 2 2d 40 8 34 1 1e 2 4b 4 68 7 18 7 29 6 14a
  5 30 9 6 9 116 1e 9e 9 2a 3 70 6 86 1d 80 9 3c 9 90 9 7 13 fb 9 156 9 76 9 176 9 66 9 6 13 4c
  b 1a4 12 5d 9 296 9 56 1c e3 9 46 9 36 9 166 9 66 14 42b 6e 3cc1 9 926 9 56 9 86 9 1 6 20e 9
  106 16 15d 2 5cf9 9 5c6 13 c 13 6c 18 455 31 940 9 1a6 9 1f6 9 f7 9 2cc 8 80 9 317 3a 1 2 1 3
  4c 2c 1 e 3c2 c ae3 9"

/-- Characters that nobody can see: unassigned, control, format and private ones, every separator
but the plain space, letters without a glyph, and marks that join the character before them.
Messages follow version 17 of the standard, while patterns are matched by version 16. -/
def hiddenGaps : String :=
  "0 1f 5f 21 c 0 252 6f 8 1 6 3 7 0 1 0 14 0 e0 6 a6 0 26 1 32 1 3 2d 1 0 1 1 1 1 1 8 1b 3 6 10
  a a 1 0 2e 14 10 0 65 7 1 5 2 1 1 3 20 1 1 0 1e 1c 59 a 1 d 2b 8 7 2 18 3 1 8 1 2 1 6 f 0 19 4
  1 0 b 4 20 f 2a 38 37 0 1 0 4 7 4 0 3 6 a 1 1d 0 2 0 8 1 2 1 16 0 7 0 1 2 4 2 1 0 2 5 2 1 2 0
  1 c 2 0 3 3 18 4 1 0 6 3 2 1 16 0 7 0 2 0 2 0 2 3 3 17 4 0 1 6 a 1 3 0 1 b 1 0 9 0 3 0 16 0 7
  0 2 0 5 2 4 7 1 0 2 2 1 e 2 3 c 6 1 7 2 0 8 1 2 1 16 0 7 0 2 0 5 2 1 1 1 5 2 1 2 e 2 0 3 3 12
  a 1 0 6 2 3 0 4 2 2 0 1 0 2 2 2 2 3 2 c 4 1 0 2 2 3 0 3 2 1 14 15 5 3 0 8 0 3 0 17 0 10 2 1 2
  4 12 3 0 2 1 2 3 a 6 a 0 b 0 3 0 17 0 a 0 5 2 2 1 1 0 2 16 3 0 2 3 a 0 3 d b 0 3 0 29 1 1 0 2
  4 3 0 3 0 2 3 3 0 a 3 1a 1 2 0 12 2 18 0 9 0 1 1 7 8 2 5 7 6 a 1 3 b 30 0 2 a 8 7 d 24 2 0 1 0
  5 0 18 0 1 0 a 0 2 8 1 1 5 0 1 8 a 1 4 1f 18 1 1b 0 1 0 1 0 e 0 24 11 1 4 1 1 5 30 8 0 6 0 d
  24 2d 3 1 5 1 1 2 1 19 1 4 2 10 3 d 0 2 1 6 0 f 0 28 0 1 4 1 1 8f 1 e8 0 4 1 7 0 1 0 4 1 29 0
  4 1 21 0 4 1 7 0 1 0 4 1 f 0 39 0 4 1 43 4 1d 2 1a 5 56 1 6 1 280 0 1c 2 59 6 12 c 13 2 2 8 12
  d d 0 3 e 34 1 1 6 8 0 2 a 9 2 a 5 a 5 b 4 a 5 59 6 5 1 22 0 1 4 46 9 1f 3 4 1 3 3 2 0 6 6 1 2
  2a 1 5 a 2c 3 1a 5 b 2 39 1 2 2 38 0 1 8 1 0 2 7 6 c a 5 a 5 e 55 30 9 4 2 8 0 1d 8 c 1 20 3 2
  5 38 0 1 1 3 0 1 c 30 7 2 4 f 2 3e 4 2b 1 b a 1 c 1 6 4 0 6 0 3 1 1 4 c0 3f 116 1 6 1 26 1 6 1
  8 0 1 0 1 0 1 0 1f 1 35 0 f 0 e 1 6 0 13 1 3 0 9 10 18 7 2f 10 2 1 1b 0 d 2 22 3d 8c 3 29a 15
  b 14 714 1 179 2 2 4 2d 0 1 4 1 1 38 6 2 e 17 8 7 0 7 0 7 0 7 0 7 0 7 0 7 0 7 20 5e 21 1a 0 59
  b d6 19 10 0 29 5 10 0 56 3 65 4 2b 0 33 0 2a 0 56 8 30 0 726d 2 37 8 15c 13 2f 3 1 9 20 1 50
  1 6 7 dd 13 11 0 3 0 4 0 19 1 5 3 a 5 38 7 44 9 c 17 d 0 26 7 19 a 1 b 1e 5 30 0 2 3 2 1 2 0 d
  0 b 3 7 0 19 0 29 5 2 1 2 a 3 0 8 0 1 1 a 1 20 0 33 0 1 2 2 1 5 1 1 0 1 17 11 1 8 a 6 1 6 1 6
  8 7 0 7 0 3c 3 75 0 2 0 4 2 a 5 2ba4 b 17 3 31 3 800 18ff 16e 1 6a 25 7 b 5 4 1 0 18 0 5 0 1 0
  2 0 2 0 28a 1f 10 f a 15 23 0 13 0 4 3 5 0 87 3 9f 0 1e 2 6 1 6 1 6 1 3 2 7 0 7 c 2 1 c 0 1a 0
  13 0 2 0 f 1 e 21 7b 4 3 3 2d 2 58 0 d 2 1 2e 2d 82 1d 2 31 f 1b 3 24 8 1e 4 26 9 1e 0 25 3 e
  29 9e 1 a 5 24 3 24 3 28 7 34 a c 0 f 0 7 0 2 0 b 0 f 0 7 0 2 2 34 b 137 8 16 9 8 17 6 0 2a 0
  9 44 6 1 1 0 2c 0 2 2 1 1 17 0 48 7 9 2f 13 0 2 4 21 2 1b 4 1b 25 38 3 14 1 2f e 4 0 3 0 1d 9
  9 6 9 6 40 1f 25 5 c 8 36 2 1d 1 1b 4 1a 6 4 b 7 4f 49 36 33 c 33 6 2a b a 5 26 7 18 7 2 cf 1f
  0 2a 2 1 1 2 f 6 7 9 26 28 7 16 a 9 15 12 3 4 25 1c 13 17 8 1 0 36 e 7 3 1e 0 2 1 1 b 31 3 2 1
  2 0 4 d 19 6 a 8 24 4 1 8 12 7 23 0 3 a 34 8 1 0 8 3 2 0 10 0 14 a 12 0 1c 2 2 3 6 0 2 3e 7 0
  1 0 4 0 f 0 b 5 2f 0 3 c a 7 2 0 8 1 2 1 16 0 7 0 2 0 5 2 1 0 1 0 4 1 2 1 2 2 1 b 7 1b a 0 1 1
  1 0 26 0 1 0 2 e 1 0 2 2 1 0 3 0 2 26 38 7 2 2 1 0 15 0 1 0 3 1d 30 0 2 5 1 0 2 0 1 1 1 1 4 7
  a a5 2f 0 2 5 4 1 1 1 1b 23 33 7 2 0 1 1 4 a a 5 d 12 2b 0 1 0 2 7 2 5 a 5 14 1b 1b 2 1 0 2 3
  1 8 17 b8 2f 8 1 1 1 63 53 b 8 1 1 1 8 0 2 0 18 0 5 0 2 5 4 0 3 8 a 45 8 1 2a 7 4 0 4 1a 1 9
  28 5 2 3 8 8 1 5 2 2 2e c 1 1 9 c 49 6 a 56 1 2 1 0 1 57 22 d a 5 9 0 26 d 1 0 6 9 1d 2 20 18
  1 6 1 1 1 4a 7 0 2 0 26 14 1 8 a 5 6 0 2 0 25 3 2 0 1 0 1 6 a 5 2c 3 a f5 13 1 4 8 f 0 24 7 2
  2 17 55 1 e 32 c 39b 65 6f 0 5 a c4 a4b 63 c 430 10 6 18 f9b 4 247 1ab8 1e b 3 2 a 6c5 239 6
  1f 0 a 3 51 0 a 5 1e 6 1 9 30 6 f 9 a 0 7 0 15 4 13 1af 3a c5 5b 4 19 1 19 2b 4b 4 38 a d 3f 4
  d 5 8 1cd6 28 20 60 73 21fc 4 0 7 0 2 0 123 e 1 1c 3 1 1 d 4 7 18c 903 6b 4 d 2 9 6 a 1 1 1 1
  f5f fd 2 1b4 5 17 e 11 5e 74 3b f6 9 27 1 3c 4 3 15 2 6 1e 3 3d 14 42 2 1 79 14 b 14 b 57 8 19
  86 55 0 47 0 2 1 1 1 2 1 4 0 c 0 1 0 7 0 41 0 4 1 8 0 7 0 1c 0 4 0 5 0 1 2 7 0 154 1 124 1 232
  36 4 31 8 0 e 0 7 473 1f 5 6 104 3e 91 2d 9 7 1 a 3 2 13f 1e 11 2c 3 a 4 1 1cf 1c 3 a d5 1e 1
  b 3 1 bf 1f 0 3 0 2 0 7 1 5 8 2 df 7 0 4 0 2 0 f 0 c5 1 9 2f 44 6 1 3 a 3 2 310 44 4b 3d c1 4
  0 1b 0 2 0 1 1 1 0 a 0 4 0 1 0 1 5 1 3 1 0 1 0 1 0 3 0 2 0 1 1 1 0 1 0 1 0 1 0 1 0 2 0 1 1 4 0
  7 0 4 0 4 0 1 0 a 0 11 4 3 0 5 0 11 33 2 10d 2c 3 64 b f 1 f 0 f 0 25 9 ae 37 1d c 2c 3 9 6 2
  d 6 99 3d9 2 11 2 d 2 da 5 c 3 1 e c 3 38 7 a 5 28 7 1e 1 c 3 2 d 9 26 158 7 e 1 d 2 b 2 39 0
  1 3 10 1 c 3 a 6 93 0 67 404 a6e0 1f 111e 1 168e 1 1d31 e 26e 9a1 21e 5e1 134b 4 212a dcb85"

namespace CharSet

def alphabetic : CharSet := ofGaps alphabeticGaps

def alphanumeric : CharSet := alphabetic.union (ofGaps numericGaps)

def hidden : CharSet := ofGaps hiddenGaps

end CharSet

end RegexGateway
