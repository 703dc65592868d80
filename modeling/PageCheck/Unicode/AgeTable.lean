/-!
# Ages

The runs of the code points that each version of the standard added.
-/

namespace PageCheck
namespace Unicode

/-- The runs that are new in each version. -/
def ageRuns : List (String × String) :=
  [ ("1.1 V1_1",
      "0+1f5 4+1d 38+58 7+2e 1+9 16+45 1a+1 12+1 4 3 5+6 1 1+13 1+2b 1+6 3 1 1 1 1+11 d+b
       1+41 1+b 1+28 9+34 2+1 2+1 3+1b 2+7 2+1 37+25 2+6 1+26 1 26+9 1+8 c+1a 5+4 17 e 3
       1+19 5+12 d+d 2+47 2+4 1+e 1+1d 2+9 207+2 1+34 2+11 2+4 3+18 10+2 1+7 2+1 2+15 1+6
       1 3+3 2 1+6 2+1 2+2 9 4+1 1+4 2+14 7 2+5 4+1 2+15 1+6 1+1 1+1 1+1 2 1+4 4+1 2+2
       b+3 1 7+e c+2 1+6 1 1+2 1+15 1+6 1+1 1+4 2+9 1+2 1+2 2 f 5+9 11+2 1+7 2+1 2+15 1+6
       1+1 2+3 2+7 3+1 2+2 8+1 4+1 1+2 4+a 11+1 1+5 3+2 1+3 3+1 1 1+1 3+1 3+2 3+7 1+2 4+4
       3+2 1+3 9 f+b e+2 1+7 1+2 1+16 1+9 1+4 4+6 1+2 1+3 7+1 9+1 4+9 12+1 1+7 1+2 1+16
       1+9 1+4 4+6 1+2 1+3 7+1 7 1+1 4+9 12+1 1+7 1+2 1+16 1+f 4+5 2+2 1+3 9 8+1 4+9
       91+39 4+1c 25+1 1 2+1 1 2 6+3 1+6 1+2 1 1 2+1 1+c 1+2 2+4 1 1+5 2+9 2+1 1c2+25
       a+26 4 4+59 5+43 5+51 c06+9a 5+59 6+15 2+5 2+25 2+5 2+7 1 1 1 1+1e 2+34 1+e 1+d
       2+5 1+12 2+2 1+8 1+2e 1+16 23+6 3+1a 11+a 25+11 1e+38 1a+2f d+5a 15+f1 e 1+78
       85+24 1b+a 15+8a 15+95 a+4f 10+13 6+55 91+3 1+3 2+1b 1+22 1 1+3 3 1+6 2+6 e+1e
       3+17 1+d 841+37 7 1+53 4+5 2+5d 6+27 4+5d 1+f 60+1c 3+23 1c+1b 3+31 f+b 4+2e 1+76
       4+62 2+1e 1a01+51a5 405a+1a2d d2+6 c+4 6+18 1+4 1 1+1 1+1 1+6b 21+16c 10+3f 2+35
       28+b 24+3 c+14 4+9 1+12 1+3 4+2 1 1+86 2 1+5d 2+5d 3+5 2+5 2+5 2+2 3+6 1+6 e+2"),
    ("2.0 V2_0",
      "591+10 1+c 14 93b+47 1+20 7+1a 4+5 1 1+14 3+6 1 ee1 20f 8b54+2ba3 5c+7ff 11ffe+1
       fffe+1 fffe+1 fffe+1 fffe+1 fffe+1 fffe+1 fffe+1 fffe+1 fffe+1 fffe+1 fffe+1
       fffe+1 fffe+20001"),
    ("2.1 V2_1", "20ac df4f"),
    ("3.0 V3_0",
      "1f6+3 1e+7 2+11 75+4 31 a+4 57+8 13 74 3 1 1 1 1e c 42 c 2a+1 2+3 5c+1 9c c8+2
       62+1 5 f 2a+4 1+d 1+1d 3+1a 35+30 5d1+1 1+11 3+17 1+8 1 2+6 3 4+5 1 1+7 12+2 175
       2b 17+2 7 1+2 1+e 2 30+21 1+4 1+1 1+6 3+3 6+19 1a6+6 1+3e 1 1+3 2+6 1 1+3 2+26 1
       1+3 2+1e 1 1+3 2+6 1 1+3 2+6 1+6 1+16 1+1e 1 1+3 2+6 1+26 1+12 6+1b 23+54 c+275
       9+1c 3+50 8f+5c 3+9 16+e 1+9 6+57 8+29 785 18+5 5f+2 32+1 55+1 48 67+8 10d 79 1+1d
       8a+1 1c9+7 21 56+1 18e+ff 580+19 1+58 c+d5 1a+b 3c+2 3 161+17 248+19b5 524a+48c
       3+11 2+f 1+b 1+2 1 5656 4db+2"),
    ("3.1 V3_1",
      "3f4+1 f9da+1f 510+1e 1+3 c+1a b5+25 2+25 cbb2+f5 a+26 3+b3 222+54 1+46 1+1 2 2+1
       2+3 1+b 1 1+3 1+1 1+40 1+3 2+7 1+6 1+1b 1+3 1+4 1 3+6 1+151 4+121 4+31 2800+a6d6
       5129+21d b05e3 1e+5f"),
    ("3.2 V3_2",
      "220 12e 13+c 68+1 1c 93+1 39+1 2+1 2+1 31+f 15e+1 141 945+1 607+c 1+6 b+16 9+13
       c+c 1+2 1+1 8d3 6+4 4 7+4 d 3e+1 32+6 52+e a8+b f2+d 7c 1e+33 11c+13 97+9 58+7
       16+1 5a+b 2+9 de+d 5a+1b 4+f 100+1ff 53b+2 57+1 8+1 5e f0+f 51+e 51+e 71e2+1 10 c
       3 556a+3a 391 3+f 35+1 2c eb+1"),
    ("4.0 V4_0",
      "221 12+2 77+1 3f+10 50+7 5+2 97+4 204+3 9+8 40+2 95+1 f 2d+2 1d+2 1b4 b8 43 1 88
       54+2 d 43 3b 81+7 c1+1 b1f 12+9 106+1c 3+b 4+b 4 3+29 2+4 6b+1f 300+6b 2e7+1 e6
       293+1 12e 114+1 74+7 e+1 45e+d 70f+1 31 2b+1 4e+3 a7+3 63+1 1f 19c0+3f affd 49+1
       1b7+b 1+19 1+12 1+1 1+e 2+d 22+7a 5+2 4+2c 3+8 240+1d 1 86+1 26+4f 2+9 356+5 2
       1+2b 1+1 3 2 cac0+56 16a c2c3e+ef"),
    ("4.1 V4_1",
      "237+a 116+4 9f+3 f6+1 aa 22+2 43 12 3a+5 f1+1d 20f 50 1e7 2f 3e9+1 127+1 1 10a 3f
       3f 27 1f 1f 1f f 27 17+1 1f+19 5e6+29 6+19 6+9 4+1 20+1b 2+1 34c+57 291+1 1+6 31+4
       1d+3 35 50 f 284+a 23c 65+1 12+a 5+f 10e+6 347+5 ec+2e 1+2e 21+6a e+2c a+35 9
       10+16 9+6 1+6 1+6 1+6 1+6 1+6 1+6 1+6 21+17 4+1 3a2+f ae 6d27+15 744+16 e9+2b
       5244+69 336+9 326+4a 215+23 4+d 62a+3 1+1 5+7 1+2 1+1a 4+2 4+8 8+8 c7a7+45 45e+1"),
    ("5.0 V5_0",
      "242+d 12b+2 151 2a+5 10+3 a6 205+3a 180+1 1+1 362+1 d+1 e0d+4b 4+2c 247+6 33+1
       2ec+3 5d+1 35 257+b 2ca 114+3 349+6 5+3 13c+c 7+3 7a9f+3 5+1 11e+37 6088+19 5
       16e0+36e 91+62 d+3 aeec+11 458+1"),
    ("5.1 V5_1",
      "370+3 2+1 57 b7 8c+f e2+4 b+4 20+4 12e+11 1f1+1 de 23 ce 1d+1 6c 6c 1a+1 8+1 14+7
       bd 6 1d+1 c+5 3+6 1eb+1 61 3+2 4d 5 2 7+2 4+5 1a+3f 4+1 80a 2d5+2a 3+b 46+37 3+e
       3+32 14b+1b b5+3 5a+5 164 8b 5e 35+3 514 15+9 3+3 108 1f+3 32b+4 4+28 3+4 118+2
       1+2 4+5 162+1f 18+3 2+12 2fc a2+13 6dd8+7 53c+12b 14+1f 2+11 8+1b 83+4 2+6a 6e+4
       80+44 9+b 26+53 b a0+36 9+d 2+9 2+3 53c4+2 369+b 34+2d 82+1c 3+30 64f+19 5 c7e9
       1ed6+2b 4+63"),
    ("5.2 V5_2",
      "524+1 2da+2d 2+e c1 4d 6 23+1 80 5d9+3 c1+3 bc+4 44+4 52+5 200 276+8 230+45 b4+1
       2e 45+3e 1+1c 2+a 6+9 6+d 222+22 10a 2b8+2 97+2 36 25e 2b5+1 1d+2 4+9 1+12 1 4+17
       57 3fd+4 116 d+1 6b+6 13f 412+b 6d74+7 504+2f 1a0+57 138+9 a6+1b 64+1c 3+4d 1+a
       4+1 80+1b 4+42 18+4 e0+2d 2+9 2bb6+16 4+30 226f+2 dd2+15 1+8 ba+1 144+1f 80+35
       3+1c 2+1a 5+7 80+48 217+1e 201+41 1f3e+42e bcd1+a 5+1e 2 b 1 2 3 3+4 8 7 19 1+1 2
       a+3 2 6f f+21 e+8 b4b7+1034"),
    ("6.0 V6_0",
      "526+1 f8 3e 1e0+1b 2 db+1 13 6+1 1b+4 1fa+5 1b1 10 13 23d+3 49+1 382+1 861+33 8+3
       1fc 298+7 1c 32f+a 2da 13 1+3 1d 4+1 1c 23 1 4+2 9+1 34+2 18 e e+1 5a0 e 438+2
       74a5+1 12b+1 1+1 e+9 50 306+5 2+5 2+5 9+6 1+6 5083+f 143e+4d 4+1d 5790+238 45c7+1
       409e+e 2+d 2+e 1+e 50 1+a 1 1+1 1+2 1+2 5+7 1+6 1+9 6+8 1 2+1 1+9 4+1 1+9 4b+19
       1+1 2f+8 15+1 ae+20 f+5 1+45 3+13 c+24 1+4 15+10 f+3e 1 1+b5 1+3 3+3d 12+17 93+4
       1+f 1+2 1 1 1 1+2 1+5 2+3 1 2+3 1+b 4+a 30+45 3a+73 bfcc+dd"),
    ("6.1 V6_1",
      "58f 74 29b 1+a 37+1a 1f1 3ed+1 1e7 5 2f+2 aab+2 c+5 100+7 2b+3 ad4 1 524+1 33 5
       38+1 ca+9 7190 6a7+7 23 f2+1 16 4d+1 2e6+16 4f37+1 f50+37 6+1 710+18 7+9 6+34 1+d
       3c+48 7+9 4a6+37 8+9 5836+44 b+2e 10+10 7e60+3 1+1a 1+1 1 2 1+9 1+3 1 1 6 4 1 1
       1+2 1+1 1 2 1 1 1 1 1+1 1 2+3 1+6 1+3 1+3 1 1+9 1+10 5+2 1+4 1+10 34+1 278+1 3d4+3
       bc 10 3 1 1 1 3 6+1 4 1+1 4"),
    ("6.2 V6_2", "20ba"),
    ("6.3 V6_3", "61c 1a49+3"),
    ("7.0 V7_0",
      "37f 1a8+7 5d+1 76 29b b+5 4c 78 7 27f 33 4c 7f e4+9 901+7 224+1 191+e 239+1 ed+e
       2c5+2 336+6 305 44c+2 a+19 2+1f 2+21 3+b 1+7 26a+6 7855+5 f6+b b+2 2+1 45 1e8+1e
       7d+3 b0+2f 4+1 52c1+6 35d+1 13 13f+1b 23 30+2a 185+27 8+33 b 90+136 9+15 a+7 f8+3e
       8+8 1d0+1f 20+26 4+b 89+11 7+3 c+6 4cf d0+26 56 c 6+13 b+11 1+2a 72+3a 5+9 7+2 1+7
       2+1 2+15 1+6 1+1 1+4 2+8 2+1 2+2 9 5+6 2+6 3+4 10b+47 8+9 a6+35 2+11 36+44 b+9
       246+52 c 1c0+38 876+29 ca+b 5 45cb+1e 1+9 4+1 60+1d 2+5 a+45 a+9 1+6 1+14 5+12
       5070+6a 5+c 3+8 7+9 2+7 2b5c+c4 2+f 7e8 20+15 15+1 214+b 9 46 16+b 25 5+3 5+b 11+6
       47 1 b6 4+1 3f+1 4+6 1d+11 1+28 1+55 46+1 d+2f 46+9 10+c 3+3 8c+54 2b+b 4+37 8+9
       6+27 8+1d"),
    ("8.0 V8_0",
      "8b3+1 2e 215 160 104 695 2+5 cc0 cb+1 a60+3 73dd+8 6c8 f0 22+5 144+1 262+3 c+4f
       526e+1 ab0+12 1+1 5+4 bc+1 2+f 2+2d 280+32 d+32 7+5 4c9+3 e+4 a0+6 1 1+3 1+e 1+a
       56 4f 279+13 122+19 3+e 4+f c59 e6+c3 1ebc+246 8b97+a 617+28b f+4 1+e 187d+2 4e+1
       4f+4 24+7 ff 4b+4 f3+1 8b 23f+8 67+4 3b be5f+1681"),
    ("9.0 V9_0",
      "8b6+7 16+e 39d ce 4+2 1+6 17+2 f07+8 172 5ff+3 a44+1 7969 116 58c7+1 321+23 4+23
       d42 1c1+59 1 1 202+c 593+8 1+2c 1+d a+1c 3+1f 2+15 1+d 5329 1f+17ec 13+2f2 550d+6
       1+10 2+6 1+1 1+4 8d5+4a 5+9 4+1 83b+11 8e 33e 29 12c+1 21+2 222+5 1+7 8 2+b 1+b
       4+e 26+c"),
    ("10.0 V10_0",
      "860+a 191+1 fc+5 200 3a+1 fba fe+3 2c5 33f 7d2 272+4 2e4 6ea7+14 6342+2 16d0+47
       8+33 2+16 1+4 25d+6 1+1 1+2b 3 1+1 1+8 8+9 5287 4020+11c 51+18b 3f64+5 46d+1 22+1
       207+b 13 8+7 1+1 19 12+c 26+5 38+16 d4c9+1d30"),
    ("11.0 V11_0",
      "560 27 66 20d+2 d3 12a 77 18d 7f bf3 417+2a 2+2 efa+2 16+18 4+e 24b+4 2e0 6ebb+4
       7bf 8+1 144+1 6134+1 12 2b7+27 8+9 1c6+27 8+29 173 76+2 1f4 122 2bb e5+3b 261
       2c2+5 1+1 1+24 1+1 1+5 7+9 136+18 4f47+5a 1952+4 4aee+13 7e+6 18f8+43 47a 5c9 db+3
       174+2 1c+4 2+3 3 1+3 18+a d+9 7+1 24+18 60+d"),
    ("12.0 V12_0",
      "c77 20e 2 2 1+5 4 7 7+1 2 d e3f ece 35 24f 796a+5 2+4 39f+1 6478+16 468 258 2e7+7
       2+2d 2+a 9f+1 53a+31 d 1430+8 3b0c+5 4 2f+8 5a+1 180e+5 2958+2 11+3 2f98+2c 3+d
       2+9 4+1 170+39 5 64b 3b5+3c 42e 568 24 e5+b 121+2 2f 31 9 29+5 3+1 a+5 3+7 2+2
       30+53 1c+3 4+2 5+2 d+5"),
    ("12.1 V12_1", "32ff"),
    ("13.0 V13_0",
      "8be+9 28d 1ae 7c d3d+1 10d6 2b8+2 368+4 1bf6+9 5230+c 7ca+3 2a+1 35 33b+3 5630
       ce3+29 1+2 2+1 fe+1b 17b 86+1 28a 5+1 49e+6 2 2+7 1+1 1+1d 1+1 2+b 9+9 656 5033
       b+1 1b01+1e2 2a+8 6404+2 5d+2 3d 528+1 23+1 1b3+1 5a 65 4+1 2a+1 6+2 1d a8 e+3
       f+12 7+6 9+2 d+6 29+92 1+36 25+9 aadd+6 5922+134a"),
    ("14.0 V14_0",
      "61d 252+1e 1+1 6+7 15 12+a 369 20 7f a2f 7 9 ef 2b1+d 7d 30+1 27b 2c5 b6e 2f 1f3+a
       719f+2 7c0+1 e+1 1 1+4 18+2 53cd 17d+f 7f 2e+1 770+a 1+e 1+6 1+1 1+a 1+e 1+6 1+1
       1c3+5 1+29 1+8 7b5+19 e6+5 4c 5f6 86+6 369+f 14d0+62 3a7d+4e 1+9 4526+3 1+6 1+1
       120+3 1ddd+2d 2+16 9+73 225+1 d15+1e 371+1e 531+6 1+3 1+1 1+e ede+2 110 188 52
       ae+1 2c+3 a+3 8+2 11+2 6+7 8+6 abe7+1 1055+3"),
    ("15.0 V15_0",
      "cf3 1da 1002e+2 33f+2 8be+9 3f6+10 1+28 3+1b 14d5 9+1c 7cdc 22 216a+13 c51+5
       105+3d 21 440+29 11e2 97+2 4+4 59 29b+2 f+1 24+2 b+2 1 e+1 a+1 c e+1 bc40
       5c16+105f") ]

end Unicode
end PageCheck
