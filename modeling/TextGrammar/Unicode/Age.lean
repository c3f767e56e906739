import TextGrammar.Unicode.Category
/-!
# Ages

The version of the standard that first gave a code point a meaning. Ranks count the versions
from one, and a run of ranks passes over code points that have no meaning yet.
-/
namespace TextGrammar.Unicode.Age

def versions : List String := tokens
  "1.1 2.0 2.1 3.0 3.1 3.2 4.0 4.1 5.0 5.1 5.2 6.0 6.1 6.2 6.3 7.0 8.0 9.0 10.0 11.0 12.0 12.1
    13.0 14.0 15.0 15.1 16.0 17.0"

private def table : RunTable Nat := RunTable.decode (fun tag => ((tag.drop 1).toNat?))
  "0V1 1f6V4 1faV1 218V4 220V6 221V7 222V4 234V7 237V8 242V9 250V1 2a9V4 2aeV7 2b0V1 2dfV4 2e0V1
    2eaV4 2efV7 300V1 346V4 34fV6 350V7 358V8 35dV7 360V1 362V4 363V6 370V10 374V1 376V10 37aV1
    37bV9 37eV1 37fV16 384V1 3cfV10 3d0V1 3d7V4 3d8V6 3daV1 3dbV4 3dcV1 3ddV4 3deV1 3dfV4 3e0V1
    3e1V4 3e2V1 3f4V5 3f6V6 3f7V7 3fcV8 400V4 401V1 40dV4 40eV1 450V4 451V1 45dV4 45eV1 487V10
    488V4 48aV6 48cV4 490V1 4c5V6 4c7V1 4c9V6 4cbV1 4cdV6 4cfV9 4d0V1 4ecV4 4eeV1 4f6V8 4f8V1
    4faV9 500V6 510V9 514V10 524V11 526V12 528V16 531V1 560V20 561V1 588V20 589V1 58aV4 58dV16
    58fV13 591V2 5a2V8 5a3V2 5b0V1 5baV9 5bbV1 5c4V2 5c5V8 5d0V1 5efV20 5f0V1 600V7 604V13 605V16
    606V10 60bV8 60cV1 60dV7 616V10 61bV1 61cV15 61dV24 61eV8 61fV1 620V12 621V1 63bV10 640V1
    653V4 656V7 659V8 65fV12 660V1 66eV6 670V1 6b8V4 6baV1 6bfV4 6c0V1 6cfV4 6d0V1 6eeV7 6f0V1
    6faV4 6ffV7 700V4 72dV7 730V4 74dV7 750V8 76eV10 780V4 7b1V6 7c0V9 7fdV20 800V11 840V12
    860V19 870V24 88fV28 890V24 897V27 898V24 8a0V13 8a1V16 8a2V13 8adV16 8b3V17 8b5V24 8b6V18
    8beV23 8c8V24 8d3V20 8d4V18 8e3V17 8e4V13 8ffV16 900V11 901V1 904V7 905V1 93aV12 93cV1 94eV11
    94fV12 950V1 955V11 956V12 958V1 971V10 973V12 978V16 979V11 97bV9 97dV8 97eV9 980V16 981V1
    9bdV7 9beV1 9ceV8 9d7V1 9fbV11 9fcV19 9feV20 a01V7 a02V1 a03V7 a05V1 a51V10 a59V1 a75V10
    a76V20 a81V1 a8cV7 a8dV1 ae1V7 ae6V1 af0V13 af1V7 af9V17 afaV19 b01V1 b35V7 b36V1 b44V10
    b47V1 b55V23 b56V1 b62V10 b66V1 b71V7 b72V12 b82V1 bb6V8 bb7V1 bd0V10 bd7V1 be6V8 be7V1 bf3V7
    c00V16 c01V1 c04V20 c05V1 c34V16 c35V1 c3cV24 c3dV10 c3eV1 c58V10 c5aV17 c5cV28 c5dV24 c60V1
    c62V10 c66V1 c77V21 c78V10 c80V18 c81V16 c82V1 c84V20 c85V1 cbcV7 cbeV1 cdcV28 cddV24 cdeV1
    ce2V9 ce6V1 cf1V9 cf3V25 d00V19 d01V16 d02V1 d04V23 d05V1 d29V12 d2aV1 d3aV12 d3bV19 d3dV10
    d3eV1 d44V10 d46V1 d4eV12 d4fV18 d57V1 d58V18 d5fV17 d60V1 d62V10 d66V1 d70V10 d76V18 d79V10
    d81V23 d82V4 de6V16 df2V4 e01V1 e86V21 e87V1 e89V21 e8aV1 e8cV21 e8dV1 e8eV21 e94V1 e98V21
    e99V1 ea0V21 ea1V1 ea8V21 eaaV1 eacV21 eadV1 ebaV21 ebbV1 eceV25 ed0V1 edeV13 f00V2 f6aV4
    f6bV10 f71V2 f8cV12 f90V2 f96V4 f97V2 faeV4 fb1V2 fb8V4 fb9V2 fbaV4 fceV10 fcfV4 fd0V8 fd2V10
    fd5V11 fd9V12 1000V4 1022V10 1023V4 1028V10 1029V4 102bV10 102cV4 1033V10 1036V4 103aV10
    1040V4 105aV10 109aV11 109eV10 10a0V1 10c7V13 10d0V1 10f7V6 10f9V8 10fbV1 10fcV8 10fdV13
    1100V1 115aV11 115fV1 11a3V11 11a8V1 11faV11 1200V4 1207V8 1208V4 1247V8 1248V4 1287V8 1288V4
    12afV8 12b0V4 12cfV8 12d0V4 12efV8 12f0V4 130fV8 1310V4 131fV8 1320V4 1347V8 1348V4 135dV12
    135fV8 1361V4 1380V8 13a0V4 13f5V17 1400V11 1401V4 1677V11 1680V4 16f1V16 1700V6 170dV24
    170eV6 1715V24 1720V6 1780V4 17ddV7 17e0V4 17f0V7 1800V4 180fV24 1810V4 1878V20 1880V4
    18aaV10 18b0V11 1900V7 191dV16 1920V7 1980V8 19aaV11 19b0V8 19daV11 19deV8 19e0V7 1a00V8
    1a20V11 1ab0V16 1abfV23 1ac1V24 1acfV28 1b00V9 1b4cV24 1b4eV27 1b50V9 1b7dV24 1b7fV27 1b80V10
    1babV13 1baeV10 1bbaV13 1bc0V12 1c00V10 1c80V18 1c89V27 1c90V20 1cc0V13 1cd0V11 1cf3V13
    1cf7V19 1cf8V16 1cfaV21 1d00V7 1d6cV8 1dc4V9 1dcbV10 1de7V16 1df6V19 1dfaV24 1dfbV18 1dfcV12
    1dfdV11 1dfeV9 1e00V1 1e9bV2 1e9cV10 1ea0V1 1efaV10 1f00V1 202fV4 2030V1 2047V6 2048V4 204eV6
    2053V7 2055V8 2057V6 2058V8 205fV6 2064V10 2066V15 206aV1 2071V6 2074V1 2090V8 2095V12 20a0V1
    20abV2 20acV3 20adV4 20b0V6 20b2V8 20b6V11 20b9V12 20baV14 20bbV16 20beV17 20bfV19 20c0V24
    20c1V28 20d0V1 20e2V4 20e4V6 20ebV8 20ecV9 20f0V10 2100V1 2139V4 213bV7 213cV8 213dV6 214cV8
    214dV9 214fV10 2150V11 2153V1 2183V4 2184V9 2185V10 2189V11 218aV17 2190V1 21ebV4 21f4V6
    2200V1 22f2V6 2300V1 2301V4 2302V1 237bV4 237cV6 237dV4 239bV6 23cfV7 23d1V8 23dcV9 23e8V11
    23e9V12 23f4V16 23fbV18 23ffV19 2400V1 2425V4 2427V27 2440V1 24ebV6 24ffV7 2500V1 2596V6
    25a0V1 25f0V4 25f8V6 2600V1 2614V7 2616V6 2618V8 2619V4 261aV1 2670V4 2672V6 267eV8 2680V6
    268aV7 2692V8 269dV10 269eV11 26a0V7 26a2V8 26b2V9 26b3V10 26bdV11 26c0V10 26c4V11 26ceV12
    26cfV11 26e2V12 26e3V11 26e4V12 26e8V11 2700V16 2701V1 2705V12 2706V1 270aV12 270cV1 2728V12
    2729V1 274cV12 274dV1 274eV12 274fV1 2753V12 2756V1 2757V11 2758V1 275fV12 2761V1 2768V6
    2776V1 2795V12 2798V1 27b0V12 27b1V1 27bfV12 27c0V8 27c7V9 27cbV13 27ccV10 27cdV13 27ceV12
    27d0V6 27ecV10 27f0V6 2800V4 2900V6 2b00V7 2b0eV8 2b14V9 2b1bV10 2b20V9 2b24V10 2b4dV16
    2b50V10 2b55V11 2b5aV16 2b96V28 2b97V23 2b98V16 2bbaV20 2bbdV16 2bc9V21 2bcaV16 2bd2V19
    2bd3V20 2becV17 2bf0V20 2bffV21 2c00V8 2c2fV24 2c30V8 2c5fV24 2c60V9 2c6dV10 2c70V11 2c71V10
    2c74V9 2c78V10 2c7eV11 2c80V8 2cebV11 2cf2V13 2cf9V8 2d27V13 2d30V8 2d66V13 2d6fV8 2d70V12
    2d80V8 2de0V10 2e00V8 2e18V10 2e1cV8 2e1eV10 2e31V11 2e32V13 2e3cV16 2e43V18 2e45V19 2e4aV20
    2e4fV21 2e50V23 2e53V24 2e80V4 2ffcV26 3000V1 3038V4 303bV6 303eV4 303fV1 3095V6 3099V1
    309fV6 30a1V1 30ffV6 3105V1 312dV10 312eV19 312fV20 3131V1 31a0V4 31b8V12 31bbV23 31c0V8
    31d0V10 31e4V27 31efV26 31f0V6 3200V1 321dV7 3220V1 3244V11 3250V7 3251V6 3260V1 327cV7
    327eV8 327fV1 32b1V6 32c0V1 32ccV7 32d0V1 32ffV22 3300V1 3377V7 337bV1 33deV7 33e0V1 33ffV7
    3400V4 4db6V23 4dc0V7 4e00V1 9fa6V8 9fbcV10 9fc4V11 9fccV13 9fcdV17 9fd6V19 9febV20 9ff0V23
    9ffdV24 a000V4 a4a2V6 a4a4V4 a4b4V6 a4b5V4 a4c1V6 a4c2V4 a4c5V6 a4c6V4 a4d0V11 a500V10
    a660V12 a662V10 a674V13 a67cV10 a698V16 a69eV17 a69fV13 a6a0V11 a700V8 a717V9 a71bV10 a720V9
    a722V10 a78dV12 a78fV17 a790V12 a792V13 a794V16 a7a0V12 a7aaV13 a7abV16 a7aeV18 a7afV20
    a7b0V16 a7b2V17 a7b8V20 a7baV21 a7c0V24 a7c2V21 a7c7V23 a7cbV27 a7ceV28 a7d0V24 a7d2V28
    a7d3V24 a7d4V28 a7d5V24 a7daV27 a7f1V28 a7f2V24 a7f5V23 a7f7V16 a7f8V13 a7faV12 a7fbV10
    a800V8 a82cV23 a830V11 a840V9 a880V10 a8c5V18 a8ceV10 a8e0V11 a8fcV17 a8feV20 a900V10 a960V11
    a9e0V16 aa00V10 aa60V11 aa7cV16 aa80V11 aae0V13 ab01V12 ab30V16 ab60V17 ab64V16 ab66V21
    ab68V23 ab70V17 abc0V11 ac00V2 d7b0V11 e000V1 fa2eV13 fa30V6 fa6bV11 fa70V8 fb00V1 fb1dV4
    fb1eV1 fbb2V12 fbc2V24 fbc3V28 fbd3V1 fd40V24 fd50V1 fd90V28 fd92V1 fdc8V28 fdcfV24 fdd0V5
    fdf0V1 fdfcV6 fdfdV7 fdfeV24 fe00V6 fe10V8 fe20V1 fe24V10 fe27V16 fe2eV17 fe30V1 fe45V6
    fe47V7 fe49V1 fe73V6 fe74V1 ff5fV6 ff61V1 fff9V4 fffcV3 fffdV1 10000V7 10140V8 1018bV16
    1018dV18 10190V10 1019cV23 101a0V16 101d0V10 102e0V16 10300V5 1031fV16 10320V5 1032dV19
    10330V5 10350V16 10380V7 103a0V8 10400V5 10426V7 10428V5 1044eV7 104b0V18 10500V16 10570V24
    105c0V27 10600V16 10780V24 10800V7 10840V11 10860V16 108e0V17 10900V9 1091aV11 1091fV9
    10920V10 10940V28 10980V13 109bcV17 109beV13 109c0V17 10a00V8 10a34V20 10a38V8 10a48V20
    10a50V8 10a60V11 10a80V16 10b00V11 10b80V16 10c00V11 10c80V17 10d00V20 10d40V27 10e60V11
    10e80V23 10ec2V27 10ec5V28 10efcV27 10efdV25 10f00V20 10f70V24 10fb0V23 10fe0V21 11000V12
    11070V24 1107fV16 11080V11 110c2V24 110cdV20 110d0V13 11144V20 11147V23 11150V16 11180V13
    111c9V17 111cdV16 111ceV23 111d0V13 111daV16 111dbV17 111e1V16 1123eV18 1123fV25 11280V17
    112b0V16 11300V17 11301V16 1133bV20 1133cV16 11350V17 11357V16 11380V27 11400V18 1145aV23
    1145bV18 1145eV20 1145fV21 11460V23 11480V16 115caV17 11600V16 11660V18 11680V13 116b8V21
    116b9V24 116c0V13 116d0V27 11700V17 1171aV20 1171dV17 11740V24 11800V20 118a0V16 11900V23
    119a0V21 11a00V19 11a84V21 11a86V19 11a9dV20 11a9eV19 11ab0V24 11ac0V16 11b00V25 11b60V28
    11bc0V27 11c00V18 11d00V19 11d60V20 11db0V28 11ee0V20 11f00V25 11f5aV27 11fb0V23 11fc0V21
    12000V9 1236fV16 12399V17 12400V9 12463V16 12470V9 12474V16 12480V17 12f90V24 13000V11
    1342fV25 13430V21 13439V25 13460V27 14400V17 16100V27 16800V12 16a40V16 16a70V24 16ad0V16
    16d40V27 16e40V20 16ea0V28 16f00V13 16f45V21 16f50V13 16f7fV21 16f8fV13 16fe0V18 16fe1V19
    16fe2V21 16fe4V23 16ff2V28 17000V18 187edV20 187f2V21 187f8V28 18800V18 18af3V23 18cffV27
    18d00V23 18d09V28 1aff0V24 1b000V12 1b002V19 1b11fV24 1b132V25 1b150V21 1b155V25 1b164V21
    1b170V19 1bc00V16 1cc00V27 1ccfaV28 1cd00V27 1cebaV28 1cf00V24 1d000V5 1d129V10 1d12aV5
    1d1deV17 1d1e9V24 1d200V8 1d2c0V25 1d2e0V20 1d300V7 1d360V9 1d372V20 1d400V5 1d4c1V7 1d4c2V5
    1d6a4V8 1d6a8V5 1d7caV9 1d7ceV5 1d800V17 1df00V24 1df25V25 1e000V18 1e030V25 1e100V21
    1e290V24 1e2c0V21 1e4d0V25 1e5d0V27 1e6c0V28 1e7e0V24 1e800V16 1e900V18 1e94bV21 1e950V18
    1ec71V20 1ed01V21 1ee00V13 1f000V10 1f0a0V12 1f0bfV16 1f0c1V12 1f0e0V16 1f100V11 1f10bV16
    1f10dV23 1f110V11 1f12fV20 1f130V12 1f131V11 1f132V12 1f13dV11 1f13eV12 1f13fV11 1f140V12
    1f142V11 1f143V12 1f146V11 1f147V12 1f14aV11 1f14fV12 1f157V11 1f158V12 1f15fV11 1f160V12
    1f16aV13 1f16cV21 1f16dV23 1f170V12 1f179V11 1f17aV12 1f17bV11 1f17dV12 1f17fV11 1f180V12
    1f18aV11 1f18eV12 1f190V11 1f191V12 1f19bV18 1f1adV23 1f1e6V12 1f200V11 1f201V12 1f210V11
    1f232V12 1f23bV18 1f240V11 1f250V12 1f260V19 1f300V12 1f321V16 1f32dV17 1f330V12 1f336V16
    1f337V12 1f37dV16 1f37eV17 1f380V12 1f394V16 1f3a0V12 1f3c5V16 1f3c6V12 1f3cbV16 1f3cfV17
    1f3d4V16 1f3e0V12 1f3f1V16 1f3f8V17 1f400V12 1f43fV16 1f440V12 1f441V16 1f442V12 1f4f8V16
    1f4f9V12 1f4fdV16 1f4ffV17 1f500V12 1f53eV16 1f540V13 1f544V16 1f54bV17 1f550V12 1f568V16
    1f57aV18 1f57bV16 1f5a4V18 1f5a5V16 1f5fbV12 1f600V13 1f601V12 1f611V13 1f612V12 1f615V13
    1f616V12 1f617V13 1f618V12 1f619V13 1f61aV12 1f61bV13 1f61cV12 1f61fV13 1f620V12 1f626V13
    1f628V12 1f62cV13 1f62dV12 1f62eV13 1f630V12 1f634V13 1f635V12 1f641V16 1f643V17 1f645V12
    1f650V16 1f680V12 1f6c6V16 1f6d0V17 1f6d1V18 1f6d3V19 1f6d5V21 1f6d6V23 1f6d8V28 1f6dcV25
    1f6ddV24 1f6e0V16 1f6f4V18 1f6f7V19 1f6f9V20 1f6faV21 1f6fbV23 1f700V12 1f774V25 1f777V28
    1f77bV25 1f780V16 1f7d5V20 1f7d9V25 1f7e0V21 1f7f0V24 1f800V16 1f8b0V23 1f8b2V27 1f8d0V28
    1f900V19 1f90cV23 1f90dV21 1f910V17 1f919V18 1f91fV19 1f920V18 1f928V19 1f930V18 1f931V19
    1f933V18 1f93fV21 1f940V18 1f94cV19 1f94dV20 1f950V18 1f95fV19 1f96cV20 1f971V21 1f972V23
    1f973V20 1f977V23 1f979V24 1f97aV20 1f97bV21 1f97cV20 1f980V17 1f985V18 1f992V19 1f998V20
    1f9a3V23 1f9a5V21 1f9abV23 1f9aeV21 1f9b0V20 1f9baV21 1f9c0V17 1f9c1V20 1f9c3V21 1f9cbV23
    1f9ccV24 1f9cdV21 1f9d0V19 1f9e7V20 1fa00V21 1fa54V28 1fa60V20 1fa70V21 1fa74V23 1fa75V25
    1fa78V21 1fa7bV24 1fa80V21 1fa83V23 1fa87V25 1fa89V27 1fa8aV28 1fa8fV27 1fa90V21 1fa96V23
    1faa9V24 1faadV25 1fab0V23 1fab7V24 1fabbV25 1fabeV27 1fabfV25 1fac0V23 1fac3V24 1fac6V27
    1fac8V28 1faceV25 1fad0V23 1fad7V24 1fadaV25 1fadcV27 1fae0V24 1fae8V25 1fae9V27 1faeaV28
    1faf0V24 1faf7V25 1fb00V23 1fbcbV27 1fbf0V23 1fbfaV28 1fffeV2 20000V5 2a6d7V23 2a6deV24
    2a700V11 2b735V24 2b739V25 2b73aV28 2b740V12 2b820V17 2cea2V28 2ceb0V19 2ebf0V26 2f800V5
    2fffeV2 30000V23 31350V25 323b0V28 3fffeV2 e0001V5 e0100V7 efffeV2"

private def isNoncharacter (n : Nat) : Bool :=
  (0xfdd0 ≤ n && n ≤ 0xfdef) || 0xfffe ≤ n % 0x10000

def ofCodePoint? (n : Nat) : Option Nat :=
  if Category.ofCodePoint n == .cn && !isNoncharacter n then none else table.find? n

end TextGrammar.Unicode.Age
