import RegistryAuth.Unicode.Runs

/-!
# Composed texts

A letter with a mark may be one character or two.  A text is composed if it uses the
shorter form wherever there is one, with marks in a fixed order.  `compose` brings a
text into this form: every character is taken apart (`decompose`), the marks on each
letter are put in order (`orderMarks`), and what can be joined is joined
(`joinMarks`).  Host names must be composed.
-/

namespace RegistryAuth
namespace Unicode

/-- What separates the two parts of a pair written as one number. -/
def pairBase : Nat := 0x200000

/-- The characters that can be taken apart, each with its two parts as one number; the number is
negative where the parts are not joined again. -/
def decompositionRuns : Runs := Runs.ofText "
  C0.0.8200300 1.0.8200301 1.0.8200302 1.0.8200303 1.0.8200308 1.0.820030A 2.0.8600327 1.0.8A00300
  1.0.8A00301 1.0.8A00302 1.0.8A00308 1.0.9200300 1.0.9200301 1.0.9200302 1.0.9200308 2.0.9C00303
  1.0.9E00300 1.0.9E00301 1.0.9E00302 1.0.9E00303 1.0.9E00308 3.0.AA00300 1.0.AA00301 1.0.AA00302
  1.0.AA00308 1.0.B200301 3.0.C200300 1.0.C200301 1.0.C200302 1.0.C200303 1.0.C200308 1.0.C20030A
  2.0.C600327 1.0.CA00300 1.0.CA00301 1.0.CA00302 1.0.CA00308 1.0.D200300 1.0.D200301 1.0.D200302
  1.0.D200308 2.0.DC00303 1.0.DE00300 1.0.DE00301 1.0.DE00302 1.0.DE00303 1.0.DE00308 3.0.EA00300
  1.0.EA00301 1.0.EA00302 1.0.EA00308 1.0.F200301 2.0.F200308 1.0.8200304 1.0.C200304 1.0.8200306
  1.0.C200306 1.0.8200328 1.0.C200328 1.0.8600301 1.0.C600301 1.0.8600302 1.0.C600302 1.0.8600307
  1.0.C600307 1.0.860030C 1.0.C60030C 1.0.880030C 1.0.C80030C 3.0.8A00304 1.0.CA00304 1.0.8A00306
  1.0.CA00306 1.0.8A00307 1.0.CA00307 1.0.8A00328 1.0.CA00328 1.0.8A0030C 1.0.CA0030C 1.0.8E00302
  1.0.CE00302 1.0.8E00306 1.0.CE00306 1.0.8E00307 1.0.CE00307 1.0.8E00327 1.0.CE00327 1.0.9000302
  1.0.D000302 3.0.9200303 1.0.D200303 1.0.9200304 1.0.D200304 1.0.9200306 1.0.D200306 1.0.9200328
  1.0.D200328 1.0.9200307 4.0.9400302 1.0.D400302 1.0.9600327 1.0.D600327 2.0.9800301 1.0.D800301
  1.0.9800327 1.0.D800327 1.0.980030C 1.0.D80030C 5.0.9C00301 1.0.DC00301 1.0.9C00327 1.0.DC00327
  1.0.9C0030C 1.0.DC0030C 4.0.9E00304 1.0.DE00304 1.0.9E00306 1.0.DE00306 1.0.9E0030B 1.0.DE0030B
  3.0.A400301 1.0.E400301 1.0.A400327 1.0.E400327 1.0.A40030C 1.0.E40030C 1.0.A600301 1.0.E600301
  1.0.A600302 1.0.E600302 1.0.A600327 1.0.E600327 1.0.A60030C 1.0.E60030C 1.0.A800327 1.0.E800327
  1.0.A80030C 1.0.E80030C 3.0.AA00303 1.0.EA00303 1.0.AA00304 1.0.EA00304 1.0.AA00306 1.0.EA00306
  1.0.AA0030A 1.0.EA0030A 1.0.AA0030B 1.0.EA0030B 1.0.AA00328 1.0.EA00328 1.0.AE00302 1.0.EE00302
  1.0.B200302 1.0.F200302 1.0.B200308 1.0.B400301 1.0.F400301 1.0.B400307 1.0.F400307 1.0.B40030C
  1.0.F40030C 22.0.9E0031B 1.0.DE0031B E.0.AA0031B 1.0.EA0031B 1D.0.820030C 1.0.C20030C
  1.0.920030C 1.0.D20030C 1.0.9E0030C 1.0.DE0030C 1.0.AA0030C 1.0.EA0030C 1.0.1B800304
  1.0.1F800304 1.0.1B800301 1.0.1F800301 1.0.1B80030C 1.0.1F80030C 1.0.1B800300 1.0.1F800300
  2.0.18800304 1.0.1C800304 1.0.44C00304 1.0.44E00304 1.0.18C00304 1.0.1CC00304 3.0.8E0030C
  1.0.CE0030C 1.0.960030C 1.0.D60030C 1.0.9E00328 1.0.DE00328 1.0.3D400304 1.0.3D600304
  1.0.36E0030C 1.0.5240030C 1.0.D40030C 4.0.8E00301 1.0.CE00301 3.0.9C00300 1.0.DC00300
  1.0.18A00301 1.0.1CA00301 1.0.18C00301 1.0.1CC00301 1.0.1B000301 1.0.1F000301 1.0.820030F
  1.0.C20030F 1.0.8200311 1.0.C200311 1.0.8A0030F 1.0.CA0030F 1.0.8A00311 1.0.CA00311 1.0.920030F
  1.0.D20030F 1.0.9200311 1.0.D200311 1.0.9E0030F 1.0.DE0030F 1.0.9E00311 1.0.DE00311 1.0.A40030F
  1.0.E40030F 1.0.A400311 1.0.E400311 1.0.AA0030F 1.0.EA0030F 1.0.AA00311 1.0.EA00311 1.0.A600326
  1.0.E600326 1.0.A800326 1.0.E800326 3.0.900030C 1.0.D00030C 7.0.8200307 1.0.C200307 1.0.8A00327
  1.0.CA00327 1.0.1AC00304 1.0.1EC00304 1.0.1AA00304 1.0.1EA00304 1.0.9E00307 1.0.DE00307
  1.0.45C00304 1.0.45E00304 1.0.B200304 1.0.F200304 10D.0.m60000000 1.0.m60200000 2.0.m62600000
  1.0.m61000301 30.0.m57200000 A.0.m7600000 7.0.15000301 1.0.72200301 1.0.m16E00000 1.0.72A00301
  1.0.72E00301 1.0.73200301 2.0.73E00301 2.0.74A00301 1.0.75200301 1.0.79400301 1A.0.73200308
  1.0.74A00308 1.0.76200301 1.0.76A00301 1.0.76E00301 1.0.77200301 1.0.79600301 1A.0.77200308
  1.0.78A00308 1.0.77E00301 1.0.78A00301 1.0.79200301 5.0.7A400301 1.0.7A400308 2C.0.82A00300
  1.0.82A00308 2.0.82600301 4.0.80C00308 5.0.83400301 1.0.83000300 1.0.84600306 B.0.83000306
  20.0.87000306 17.0.86A00300 1.0.86A00308 2.0.86600301 4.0.8AC00308 5.0.87400301 1.0.87000300
  1.0.88600306 18.0.8E80030F 1.0.8EA0030F 4A.0.82C00306 1.0.86C00306 E.0.82000306 1.0.86000306
  1.0.82000308 1.0.86000308 3.0.82A00306 1.0.86A00306 3.0.9B000308 1.0.9B200308 1.0.82C00308
  1.0.86C00308 1.0.82E00308 1.0.86E00308 3.0.83000304 1.0.87000304 1.0.83000308 1.0.87000308
  1.0.83C00308 1.0.87C00308 3.0.9D000308 1.0.9D200308 1.0.85A00308 1.0.89A00308 1.0.84600304
  1.0.88600304 1.0.84600308 1.0.88600308 1.0.8460030B 1.0.8860030B 1.0.84E00308 1.0.88E00308
  3.0.85600308 1.0.89600308 129.0.C4E00653 1.0.C4E00654 1.0.C9000654 1.0.C4E00655 1.0.C9400654
  9A.0.DAA00654 2.0.D8200654 11.0.DA400654 256.0.12500093C 8.0.12600093C 3.0.12660093C
  24.0.m122A0093C 1.0.m122C0093C 1.0.m122E0093C 1.0.m12380093C 1.0.m12420093C 1.0.m12440093C
  1.0.m12560093C 1.0.m125E0093C 6C.0.138E009BE 1.0.138E009D7 10.0.m1342009BC 1.0.m1344009BC
  2.0.m135E009BC 54.0.m146400A3C 3.0.m147000A3C 23.0.m142C00A3C 1.0.m142E00A3C 1.0.m143800A3C
  3.0.m145600A3C EA.0.168E00B56 3.0.168E00B3E 1.0.168E00B57 10.0.m164200B3C 1.0.m164400B3C
  37.0.172400BD7 36.0.178C00BBE 1.0.178E00BBE 1.0.178C00BD7 7C.0.188C00C56 78.0.197E00CD5
  7.0.198C00CD5 1.0.198C00CD6 2.0.198C00CC2 1.0.199400CD5 7F.0.1A8C00D3E 1.0.1A8E00D3E
  1.0.1A8C00D57 8E.0.1BB200DCA 2.0.1BB200DCF 1.0.1BB800DCA 1.0.1BB200DDF 165.0.m1E8400FB7
  A.0.m1E9800FB7 5.0.m1EA200FB7 5.0.m1EAC00FB7 5.0.m1EB600FB7 D.0.m1E8000FB5 A.0.m1EE200F72
  2.0.m1EE200F74 1.0.m1F6400F80 2.0.m1F6600F80 9.0.m1EE200F80 12.0.m1F2400FB7 A.0.m1F3800FB7
  5.0.m1F4200FB7 5.0.m1F4C00FB7 5.0.m1F5600FB7 D.0.m1F2000FB5 6D.0.204A0102E AE0.0.360A01B35
  2.0.360E01B35 2.0.361201B35 2.0.361601B35 2.0.361A01B35 4.0.362201B35 29.0.367401B35
  2.0.367801B35 3.0.367C01B35 1.0.367E01B35 2.0.368401B35 2BD.0.8200325 1.0.C200325 1.0.8400307
  1.0.C400307 1.0.8400323 1.0.C400323 1.0.8400331 1.0.C400331 1.0.18E00301 1.0.1CE00301
  1.0.8800307 1.0.C800307 1.0.8800323 1.0.C800323 1.0.8800331 1.0.C800331 1.0.8800327 1.0.C800327
  1.0.880032D 1.0.C80032D 1.0.22400300 1.0.22600300 1.0.22400301 1.0.22600301 1.0.8A0032D
  1.0.CA0032D 1.0.8A00330 1.0.CA00330 1.0.45000306 1.0.45200306 1.0.8C00307 1.0.CC00307
  1.0.8E00304 1.0.CE00304 1.0.9000307 1.0.D000307 1.0.9000323 1.0.D000323 1.0.9000308 1.0.D000308
  1.0.9000327 1.0.D000327 1.0.900032E 1.0.D00032E 1.0.9200330 1.0.D200330 1.0.19E00301
  1.0.1DE00301 1.0.9600301 1.0.D600301 1.0.9600323 1.0.D600323 1.0.9600331 1.0.D600331 1.0.9800323
  1.0.D800323 1.0.3C6C00304 1.0.3C6E00304 1.0.9800331 1.0.D800331 1.0.980032D 1.0.D80032D
  1.0.9A00301 1.0.DA00301 1.0.9A00307 1.0.DA00307 1.0.9A00323 1.0.DA00323 1.0.9C00307 1.0.DC00307
  1.0.9C00323 1.0.DC00323 1.0.9C00331 1.0.DC00331 1.0.9C0032D 1.0.DC0032D 1.0.1AA00301
  1.0.1EA00301 1.0.1AA00308 1.0.1EA00308 1.0.29800300 1.0.29A00300 1.0.29800301 1.0.29A00301
  1.0.A000301 1.0.E000301 1.0.A000307 1.0.E000307 1.0.A400307 1.0.E400307 1.0.A400323 1.0.E400323
  1.0.3CB400304 1.0.3CB600304 1.0.A400331 1.0.E400331 1.0.A600307 1.0.E600307 1.0.A600323
  1.0.E600323 1.0.2B400307 1.0.2B600307 1.0.2C000307 1.0.2C200307 1.0.3CC400307 1.0.3CC600307
  1.0.A800307 1.0.E800307 1.0.A800323 1.0.E800323 1.0.A800331 1.0.E800331 1.0.A80032D 1.0.E80032D
  1.0.AA00324 1.0.EA00324 1.0.AA00330 1.0.EA00330 1.0.AA0032D 1.0.EA0032D 1.0.2D000301
  1.0.2D200301 1.0.2D400308 1.0.2D600308 1.0.AC00303 1.0.EC00303 1.0.AC00323 1.0.EC00323
  1.0.AE00300 1.0.EE00300 1.0.AE00301 1.0.EE00301 1.0.AE00308 1.0.EE00308 1.0.AE00307 1.0.EE00307
  1.0.AE00323 1.0.EE00323 1.0.B000307 1.0.F000307 1.0.B000308 1.0.F000308 1.0.B200307 1.0.F200307
  1.0.B400302 1.0.F400302 1.0.B400323 1.0.F400323 1.0.B400331 1.0.F400331 1.0.D000331 1.0.E800308
  1.0.EE0030A 1.0.F20030A 2.0.2FE00307 5.0.8200323 1.0.C200323 1.0.8200309 1.0.C200309
  1.0.18400301 1.0.1C400301 1.0.18400300 1.0.1C400300 1.0.18400309 1.0.1C400309 1.0.18400303
  1.0.1C400303 1.0.3D4000302 1.0.3D4200302 1.0.20400301 1.0.20600301 1.0.20400300 1.0.20600300
  1.0.20400309 1.0.20600309 1.0.20400303 1.0.20600303 1.0.3D4000306 1.0.3D4200306 1.0.8A00323
  1.0.CA00323 1.0.8A00309 1.0.CA00309 1.0.8A00303 1.0.CA00303 1.0.19400301 1.0.1D400301
  1.0.19400300 1.0.1D400300 1.0.19400309 1.0.1D400309 1.0.19400303 1.0.1D400303 1.0.3D7000302
  1.0.3D7200302 1.0.9200309 1.0.D200309 1.0.9200323 1.0.D200323 1.0.9E00323 1.0.DE00323
  1.0.9E00309 1.0.DE00309 1.0.1A800301 1.0.1E800301 1.0.1A800300 1.0.1E800300 1.0.1A800309
  1.0.1E800309 1.0.1A800303 1.0.1E800303 1.0.3D9800302 1.0.3D9A00302 1.0.34000301 1.0.34200301
  1.0.34000300 1.0.34200300 1.0.34000309 1.0.34200309 1.0.34000303 1.0.34200303 1.0.34000323
  1.0.34200323 1.0.AA00323 1.0.EA00323 1.0.AA00309 1.0.EA00309 1.0.35E00301 1.0.36000301
  1.0.35E00300 1.0.36000300 1.0.35E00309 1.0.36000309 1.0.35E00303 1.0.36000303 1.0.35E00323
  1.0.36000323 1.0.B200300 1.0.F200300 1.0.B200323 1.0.F200323 1.0.B200309 1.0.F200309 1.0.B200303
  1.0.F200303 7.0.76200313 1.0.76200314 1.0.3E0000300 1.0.3E0200300 1.0.3E0000301 1.0.3E0200301
  1.0.3E0000342 1.0.3E0200342 1.0.72200313 1.0.72200314 1.0.3E1000300 1.0.3E1200300 1.0.3E1000301
  1.0.3E1200301 1.0.3E1000342 1.0.3E1200342 1.0.76A00313 1.0.76A00314 1.0.3E2000300 1.0.3E2200300
  1.0.3E2000301 1.0.3E2200301 3.0.72A00313 1.0.72A00314 1.0.3E3000300 1.0.3E3200300 1.0.3E3000301
  1.0.3E3200301 3.0.76E00313 1.0.76E00314 1.0.3E4000300 1.0.3E4200300 1.0.3E4000301 1.0.3E4200301
  1.0.3E4000342 1.0.3E4200342 1.0.72E00313 1.0.72E00314 1.0.3E5000300 1.0.3E5200300 1.0.3E5000301
  1.0.3E5200301 1.0.3E5000342 1.0.3E5200342 1.0.77200313 1.0.77200314 1.0.3E6000300 1.0.3E6200300
  1.0.3E6000301 1.0.3E6200301 1.0.3E6000342 1.0.3E6200342 1.0.73200313 1.0.73200314 1.0.3E7000300
  1.0.3E7200300 1.0.3E7000301 1.0.3E7200301 1.0.3E7000342 1.0.3E7200342 1.0.77E00313 1.0.77E00314
  1.0.3E8000300 1.0.3E8200300 1.0.3E8000301 1.0.3E8200301 3.0.73E00313 1.0.73E00314 1.0.3E9000300
  1.0.3E9200300 1.0.3E9000301 1.0.3E9200301 3.0.78A00313 1.0.78A00314 1.0.3EA000300 1.0.3EA200300
  1.0.3EA000301 1.0.3EA200301 1.0.3EA000342 1.0.3EA200342 2.0.74A00314 2.0.3EB200300 2.0.3EB200301
  2.0.3EB200342 1.0.79200313 1.0.79200314 1.0.3EC000300 1.0.3EC200300 1.0.3EC000301 1.0.3EC200301
  1.0.3EC000342 1.0.3EC200342 1.0.75200313 1.0.75200314 1.0.3ED000300 1.0.3ED200300 1.0.3ED000301
  1.0.3ED200301 1.0.3ED000342 1.0.3ED200342 1.0.76200300 1.0.m75800000 1.0.76A00300 1.0.m75A00000
  1.0.76E00300 1.0.m75C00000 1.0.77200300 1.0.m75E00000 1.0.77E00300 1.0.m79800000 1.0.78A00300
  1.0.m79A00000 1.0.79200300 1.0.m79C00000 3.0.3E0000345 1.0.3E0200345 1.0.3E0400345 1.0.3E0600345
  1.0.3E0800345 1.0.3E0A00345 1.0.3E0C00345 1.0.3E0E00345 1.0.3E1000345 1.0.3E1200345
  1.0.3E1400345 1.0.3E1600345 1.0.3E1800345 1.0.3E1A00345 1.0.3E1C00345 1.0.3E1E00345
  1.0.3E4000345 1.0.3E4200345 1.0.3E4400345 1.0.3E4600345 1.0.3E4800345 1.0.3E4A00345
  1.0.3E4C00345 1.0.3E4E00345 1.0.3E5000345 1.0.3E5200345 1.0.3E5400345 1.0.3E5600345
  1.0.3E5800345 1.0.3E5A00345 1.0.3E5C00345 1.0.3E5E00345 1.0.3EC000345 1.0.3EC200345
  1.0.3EC400345 1.0.3EC600345 1.0.3EC800345 1.0.3ECA00345 1.0.3ECC00345 1.0.3ECE00345
  1.0.3ED000345 1.0.3ED200345 1.0.3ED400345 1.0.3ED600345 1.0.3ED800345 1.0.3EDA00345
  1.0.3EDC00345 1.0.3EDE00345 1.0.76200306 1.0.76200304 1.0.3EE000345 1.0.76200345 1.0.75800345
  2.0.76200342 1.0.3F6C00345 1.0.72200306 1.0.72200304 1.0.72200300 1.0.m70C00000 1.0.72200345
  2.0.m77200000 3.0.15000342 1.0.3EE800345 1.0.76E00345 1.0.75C00345 2.0.76E00342 1.0.3F8C00345
  1.0.72A00300 1.0.m71000000 1.0.72E00300 1.0.m71200000 1.0.72E00345 1.0.3F7E00300 1.0.3F7E00301
  1.0.3F7E00342 1.0.77200306 1.0.77200304 1.0.79400300 1.0.m72000000 3.0.77200342 1.0.79400342
  1.0.73200306 1.0.73200304 1.0.73200300 1.0.m71400000 2.0.3FFC00300 1.0.3FFC00301 1.0.3FFC00342
  1.0.78A00306 1.0.78A00304 1.0.79600300 1.0.m76000000 1.0.78200313 1.0.78200314 1.0.78A00342
  1.0.79600342 1.0.74A00306 1.0.74A00304 1.0.74A00300 1.0.m71C00000 1.0.74200314 1.0.15000300
  1.0.m70A00000 1.0.mC000000 3.0.3EF800345 1.0.79200345 1.0.79C00345 2.0.79200342 1.0.3FEC00345
  1.0.73E00300 1.0.m71800000 1.0.75200300 1.0.m71E00000 1.0.75200345 1.0.m16800000 3.0.m400400000
  1.0.m400600000 125.0.m75200000 4.0.m9600000 1.0.m18A00000 6F.0.432000338 1.0.432400338
  13.0.432800338 1F.0.43A000338 1.0.43A800338 1.0.43A400338 35.0.440600338 5.0.441000338
  3.0.441600338 18.0.444600338 2.0.444A00338 1B.0.447800338 3.0.448600338 3.0.448A00338
  2.0.449000338 17.0.7A00338 2.0.44C200338 B.0.449A00338 1.0.7800338 1.0.7C00338 1.0.44C800338
  1.0.44CA00338 3.0.44E400338 1.0.44E600338 3.0.44EC00338 1.0.44EE00338 7.0.44F400338
  1.0.44F600338 3.0.450400338 1.0.450600338 3.0.450C00338 1.0.450E00338 23.0.454400338
  1.0.455000338 1.0.455200338 1.0.455600338 31.0.44F800338 1.0.44FA00338 1.0.452200338
  1.0.452400338 7.0.456400338 1.0.456600338 1.0.456800338 1.0.456A00338 3C.0.m601000000
  1.0.m601200000 7B2.0.m55BA00338 570.0.609603099 2.0.609A03099 2.0.609E03099 2.0.60A203099
  2.0.60A603099 2.0.60AA03099 2.0.60AE03099 2.0.60B203099 2.0.60B603099 2.0.60BA03099
  2.0.60BE03099 2.0.60C203099 3.0.60C803099 2.0.60CC03099 2.0.60D003099 7.0.60DE03099
  1.0.60DE0309A 2.0.60E403099 1.0.60E40309A 2.0.60EA03099 1.0.60EA0309A 2.0.60F003099
  1.0.60F00309A 2.0.60F603099 1.0.60F60309A 17.0.608C03099 A.0.613A03099 E.0.615603099
  2.0.615A03099 2.0.615E03099 2.0.616203099 2.0.616603099 2.0.616A03099 2.0.616E03099
  2.0.617203099 2.0.617603099 2.0.617A03099 2.0.617E03099 2.0.618203099 3.0.618803099
  2.0.618C03099 2.0.619003099 7.0.619E03099 1.0.619E0309A 2.0.61A403099 1.0.61A40309A
  2.0.61AA03099 1.0.61AA0309A 2.0.61B003099 1.0.61B00309A 2.0.61B603099 1.0.61B60309A
  17.0.614C03099 3.0.61DE03099 1.0.61E003099 1.0.61E203099 1.0.61E403099 4.0.61FA03099
  C802.0.m1189000000 1.0.mCDE800000 1.0.m11D9400000 1.0.m1199000000 1.0.mDDA200000 1.0.m9C6400000
  1.0.mA7CA00000 1.0.m13F3800000 1.0.m13F3800000 1.0.mB2A200000 1.0.m123A200000 1.0.mAB0E00000
  1.0.mB29000000 1.0.mC3EC00000 1.0.mECD200000 1.0.mFF0A00000 1.0.m10C7E00000 1.0.m10F7400000
  1.0.m111F000000 1.0.m1211E00000 1.0.mD40400000 1.0.mDA3600000 1.0.mE1B200000 1.0.mE7BC00000
  1.0.m1087A00000 1.0.m122D400000 1.0.m133E200000 1.0.m9D0400000 1.0.mA6EA00000 1.0.mD60800000
  1.0.mE43600000 1.0.m10C5A00000 1.0.m13C3C00000 1.0.mBAA000000 1.0.mDFD600000 1.0.m10B9A00000
  1.0.m112C800000 1.0.mC59200000 1.0.m103B000000 1.0.m1103E00000 1.0.mBD9400000 1.0.mCE2E00000
  1.0.mDAD400000 1.0.mE5F800000 1.0.m1219C00000 1.0.m9F0C00000 1.0.mA36E00000 1.0.mA5BC00000
  1.0.mC98800000 1.0.mD5A600000 1.0.mE42000000 1.0.mEDCE00000 1.0.m1000200000 1.0.m10C0C00000
  1.0.m10CB800000 1.0.m11BDE00000 1.0.m12E6400000 1.0.m136DE00000 1.0.m13BF400000 1.0.mF11800000
  1.0.mF2FE00000 1.0.mFB4000000 1.0.m1079200000 1.0.m1260800000 1.0.m13CFE00000 1.0.m115AC00000
  1.0.mB1BE00000 1.0.mBE0800000 1.0.mF8C000000 1.0.m100FC00000 1.0.mE4C400000 1.0.mF19400000
  1.0.m1198400000 1.0.m12DEE00000 1.0.mB1B000000 1.0.mB8C400000 1.0.mD42600000 1.0.mDBB400000
  1.0.mDE1E00000 1.0.mFA5E00000 1.0.mFC6E00000 1.0.m12C9600000 1.0.mA5A400000 1.0.m1011600000
  1.0.mA3B800000 1.0.mA39800000 1.0.mF43800000 1.0.mFB7C00000 1.0.m107E200000 1.0.m12CEA00000
  1.0.m1170000000 1.0.mC59E00000 1.0.mD40400000 1.0.m115FC00000 1.0.m9C7200000 1.0.mB7CE00000
  1.0.mC02400000 1.0.mE70E00000 1.0.mEAE000000 1.0.mA62E00000 1.0.mF1F600000 1.0.m9F7E00000
  1.0.mBF5200000 1.0.m9C1A00000 1.0.mD99800000 1.0.mCAF000000 1.0.mFA4400000 1.0.mA78600000
  1.0.mB0BC00000 1.0.mEE0200000 1.0.m1089200000 1.0.m1155400000 1.0.mD77400000 1.0.m11F6000000
  1.0.mD91000000 1.0.mC5FC00000 1.0.m105CA00000 1.0.mC74000000 1.0.mEACA00000 1.0.m9D5C00000
  1.0.mA2D200000 1.0.mA39200000 1.0.mD10200000 1.0.mF9CE00000 1.0.m104DE00000 1.0.m115A400000
  1.0.m1239E00000 1.0.mA5EA00000 1.0.mA88400000 1.0.mB2E600000 1.0.mBDD800000 1.0.mCB8A00000
  1.0.mDFFC00000 1.0.mF25400000 1.0.m12B5A00000 1.0.m134D400000 1.0.m13D2E00000 1.0.m13D9C00000
  1.0.mA53600000 1.0.mCD8C00000 1.0.mD6EE00000 1.0.m11EC400000 1.0.mBCE800000 1.0.mC32000000
  1.0.mC40000000 1.0.mC93400000 1.0.mDE4600000 1.0.mE29200000 1.0.mE91200000 1.0.mF39400000
  1.0.mFBE800000 1.0.m100DE00000 1.0.m11E4C00000 1.0.m109DC00000 1.0.m1204600000 1.0.m1269400000
  1.0.mA42E00000 1.0.mA54600000 1.0.mA97A00000 1.0.mE19000000 1.0.m1118400000 1.0.m1155400000
  1.0.mBD9200000 1.0.mBFEA00000 1.0.mC6F600000 1.0.mD75C00000 1.0.mF87C00000 1.0.mE6EA00000
  1.0.m9DC800000 1.0.mADF200000 1.0.mB7CE00000 1.0.mBB7400000 1.0.mC03800000 1.0.mE76400000
  1.0.mE8D200000 1.0.mFF3400000 1.0.m1008C00000 1.0.m1246800000 1.0.m12DEC00000 1.0.m12E9000000
  1.0.m1303000000 1.0.m9F1600000 1.0.mF35C00000 1.0.m1236800000 1.0.m12D7000000 1.0.mC1C200000
  1.0.m9D0C00000 1.0.mA1B400000 1.0.mB7DC00000 1.0.mB87E00000 1.0.mCB3200000 1.0.mD40400000
  1.0.mE39C00000 1.0.mEC8400000 1.0.m109F800000 1.0.m120F800000 1.0.m13F1A00000 1.0.mCD1000000
  1.0.m12C5C00000 1.0.mA51200000 1.0.mCEF600000 1.0.mCFE600000 1.0.mDA8200000 1.0.mDD3800000
  1.0.mE81200000 1.0.mEAB200000 1.0.mF0D600000 1.0.mFA2000000 1.0.m130BC00000 1.0.mA2DA00000
  1.0.mC45C00000 1.0.m12CF000000 1.0.mA05600000 1.0.mBA3200000 1.0.mDBD400000 1.0.m11E5400000
  1.0.mBF1600000 1.0.mC28800000 1.0.mD02E00000 1.0.mE70E00000 1.0.m12D0C00000 1.0.mA45200000
  1.0.mA81E00000 1.0.mB8CA00000 1.0.mCC2600000 1.0.mCE9C00000 1.0.mD15000000 1.0.mD9CA00000
  1.0.mE80C00000 1.0.mEBC400000 1.0.mFEF200000 1.0.m1119E00000 1.0.m111C200000 1.0.m1239800000
  1.0.m12DC400000 1.0.mA67E00000 1.0.mDD7400000 1.0.mA83A00000 1.0.mE3A000000 1.0.mE93000000
  1.0.m10BF400000 1.0.m12D4600000 1.0.m138AE00000 1.0.m13D3E00000 1.0.mCF2E00000 1.0.mDB9600000
  1.0.m103D000000 1.0.mF59600000 1.0.mF64000000 1.0.mF92400000 1.0.mE58000000 1.0.mE13200000
  1.0.m116B000000 1.0.m9D8000000 1.0.m1066C00000 1.0.mA47400000 1.0.mA40E00000 1.0.mBD4C00000
  1.0.mC5A600000 1.0.mF9AC00000 1.0.mB70A00000 1.0.mDA3C00000 1.0.mCD6800000 1.0.m11E7600000
  1.0.m1109800000 1.0.m12C9A00000 1.0.m1131600000 1.0.mBDA600000 1.0.mA28000000 1.0.mAB8000000
  3.0.mB0B400000 2.0.mCCE800000 3.0.mA3BC00000 1.0.mE65400000 1.0.mED9400000 1.0.mF27800000
  1.0.mF2BC00000 1.0.mF2CA00000 1.0.mF31E00000 1.0.m12EAC00000 1.0.mF97C00000 1.0.mFF7A00000
  2.0.m10C2400000 2.0.m115F000000 3.0.m1207000000 1.0.m121FA00000 4.0.m131DE00000 1.0.m131F800000
  1.0.m1325000000 1.0.m13B6800000 1.0.m121BC00000 1.0.m12D6E00000 1.0.m9F5C00000 1.0.mA1CE00000
  1.0.mA29A00000 1.0.mA59200000 1.0.mA5C800000 1.0.mA6A200000 1.0.mAB3A00000 1.0.mAC0C00000
  1.0.mACD000000 1.0.mB08000000 1.0.mB15000000 1.0.mB8C800000 1.0.mB8DC00000 1.0.mC12800000
  1.0.mC2D000000 1.0.mC31C00000 1.0.mC3E400000 1.0.mCA9E00000 1.0.mCBC400000 1.0.mCD2200000
  1.0.mD10A00000 1.0.mDAEE00000 1.0.mDC3400000 1.0.mDE4400000 1.0.mE2DC00000 1.0.mE45600000
  1.0.mE84400000 1.0.mF12200000 1.0.mF27C00000 1.0.mF29200000 1.0.mF29000000 1.0.mF2A000000
  1.0.mF2AC00000 1.0.mF2BA00000 1.0.mF31A00000 1.0.mF31C00000 1.0.mF48000000 1.0.mF50200000
  1.0.mF78000000 1.0.mFBE800000 1.0.mFC1200000 1.0.mFC8200000 1.0.mFEE400000 1.0.m1000A00000
  1.0.m103DA00000 1.0.m104F200000 1.0.m104F200000 1.0.m108AE00000 1.0.m1122000000 1.0.m1132C00000
  1.0.m1160200000 1.0.m1167200000 1.0.m119A600000 1.0.m11A1000000 1.0.m11F6C00000 1.0.m1207000000
  1.0.m12DC600000 1.0.m12FFE00000 1.0.m1307600000 1.0.mC0EA00000 1.0.m485DC00000 1.0.m1043000000
  3.0.m9C4C00000 1.0.mA36A00000 1.0.mA2D000000 1.0.m9F0000000 1.0.mA28A00000 1.0.mA30000000
  1.0.mA58E00000 1.0.mA5F400000 1.0.mAB3A00000 1.0.mAAAA00000 1.0.mAB3200000 1.0.mABC400000
  1.0.mB0B400000 1.0.mB16600000 1.0.mB28800000 1.0.mB2A800000 1.0.mB4C400000 1.0.mB65000000
  1.0.mBDA400000 1.0.mBDB200000 1.0.mBED200000 1.0.mBF5A00000 1.0.mC1B000000 1.0.mC29C00000
  1.0.mC21000000 1.0.mC31C00000 1.0.mC2C000000 1.0.mC3E400000 1.0.mC46800000 1.0.mC78800000
  1.0.mC83800000 1.0.mC8A400000 1.0.mCAAC00000 1.0.mCCE800000 1.0.mCE2E00000 1.0.mCE3600000
  1.0.mCEAC00000 1.0.mD6F200000 1.0.mD77400000 1.0.mDA8200000 1.0.mDDB600000 1.0.mDD9600000
  1.0.mDE4400000 1.0.mE03C00000 1.0.mE2DC00000 1.0.mEF4E00000 1.0.mE46A00000 1.0.mE55E00000
  1.0.mE65400000 1.0.mE8E200000 1.0.mEA0C00000 1.0.mEA7600000 1.0.mEC3A00000 1.0.mEC3E00000
  1.0.mED9400000 1.0.mEDB600000 1.0.mEDE800000 1.0.mEE9400000 1.0.mEE8000000 1.0.mF19800000
  1.0.mF56200000 1.0.mF78000000 1.0.mF8F600000 1.0.mFAB600000 1.0.mFBE800000 1.0.mFE7C00000
  1.0.m1000A00000 1.0.m106A400000 1.0.m107DE00000 1.0.m10EF200000 1.0.m1128200000 1.0.m1130C00000
  1.0.m1132C00000 1.0.m1157E00000 1.0.m115F000000 1.0.m1159600000 1.0.m1160200000 1.0.m115FC00000
  1.0.m115DA00000 1.0.m1167200000 1.0.m1171400000 1.0.m11A1000000 1.0.m11E7000000 1.0.m120E400000
  1.0.m1233200000 1.0.m124EC00000 1.0.m12CF800000 1.0.m12DC600000 1.0.m12EAC00000 1.0.m12FB600000
  1.0.m12FFE00000 1.0.m1301600000 1.0.m1307600000 1.0.m1362400000 1.0.m13F3800000 1.0.m4509400000
  1.0.m4508800000 1.0.m467AA00000 1.0.m773A00000 1.0.m803000000 1.0.m807200000 1.0.m4A49200000
  1.0.m4B9A000000 1.0.m4FDA600000 1.0.m13E8600000 1.0.m13F1C00000 44.0.mBB2005B4 2.0.mBE4005B7
  B.0.mBD2005C1 1.0.mBD2005C2 1.0.m1F692005C1 1.0.m1F692005C2 1.0.mBA0005B7 1.0.mBA0005B8
  1.0.mBA0005BC 1.0.mBA2005BC 1.0.mBA4005BC 1.0.mBA6005BC 1.0.mBA8005BC 1.0.mBAA005BC
  1.0.mBAC005BC 2.0.mBB0005BC 1.0.mBB2005BC 1.0.mBB4005BC 1.0.mBB6005BC 1.0.mBB8005BC
  2.0.mBBC005BC 2.0.mBC0005BC 1.0.mBC2005BC 2.0.mBC6005BC 1.0.mBC8005BC 2.0.mBCC005BC
  1.0.mBCE005BC 1.0.mBD0005BC 1.0.mBD2005BC 1.0.mBD4005BC 1.0.mBAA005B9 1.0.mBA2005BF
  1.0.mBB6005BF 1.0.mBC8005BF 154C.0.22132110BA 2.0.22136110BA F.0.2214A110BA 83.0.2226211127
  1.0.2226411127 21C.0.2268E1133E 1.0.2268E11357 16F.0.22972114BA 1.0.22972114B0 2.0.22972114BD
  FC.0.22B70115AF 1.0.22B72115AF 37D.0.2326A11930 B826.0.m3A2AE1D165 1.0.m3A2B01D165
  1.0.m3A2BE1D16E 1.0.m3A2BE1D16F 1.0.m3A2BE1D170 1.0.m3A2BE1D171 1.0.m3A2BE1D172 57.0.m3A3721D165
  1.0.m3A3741D165 1.0.m3A3761D16E 1.0.m3A3781D16E 1.0.m3A3761D16F 1.0.m3A3781D16F
  12640.0.m9C7A00000 1.0.m9C7000000 1.0.m9C8200000 1.0.m4024400000 1.0.m9EC000000 1.0.m9F5C00000
  1.0.m9F7600000 1.0.mA00400000 1.0.mA0F400000 1.0.mA13200000 1.0.mA1CE00000 1.0.mA19E00000
  1.0.m693C00000 1.0.m40C7400000 1.0.mA29A00000 1.0.mA2A800000 1.0.mA2C800000 1.0.mA2EE00000
  1.0.m40A3800000 1.0.m697200000 1.0.mA2CE00000 1.0.mA31A00000 1.0.m40A9600000 1.0.mA32E00000
  1.0.mA34800000 1.0.m9D9800000 1.0.mA35800000 1.0.mA36A00000 1.0.m523BE00000 1.0.mA3EA00000
  1.0.mA40600000 1.0.m69BE00000 1.0.mA47600000 1.0.mA48C00000 1.0.mA4E400000 1.0.mA4EE00000
  1.0.m6A2A00000 1.0.mA58E00000 1.0.mA59200000 1.0.mA5C800000 1.0.mA5F400000 1.0.mA60A00000
  1.0.mA60C00000 1.0.mA62E00000 1.0.mA69200000 1.0.mA6A200000 1.0.mA6B400000 1.0.mA6E600000
  1.0.mA6FA00000 1.0.mA6FE00000 1.0.mA6FE00000 1.0.mA6FE00000 1.0.m4145800000 1.0.mE0E000000
  1.0.mA79400000 1.0.mA7BE00000 1.0.m416C600000 1.0.mA7D600000 1.0.mA7E200000 1.0.mA80C00000
  1.0.mA93C00000 1.0.mA87000000 1.0.mA89000000 1.0.mA8D000000 1.0.mA94400000 1.0.mA9EC00000
  1.0.mAA2000000 1.0.mAAA600000 1.0.mAAC600000 1.0.mAB0800000 1.0.mAB0800000 1.0.mAB3200000
  1.0.mAB5600000 1.0.mAB6600000 1.0.mAB8400000 1.0.mAE2C00000 1.0.mAC0C00000 1.0.mAE2E00000
  1.0.mACA200000 1.0.mACE800000 1.0.mA40E00000 1.0.mB1DC00000 1.0.mAF9C00000 1.0.mAFE800000
  1.0.mB01A00000 1.0.mAF1600000 1.0.mB06400000 1.0.mB06200000 1.0.mB15800000 1.0.m429C800000
  1.0.mB1E400000 1.0.mB1EE00000 1.0.mB20C00000 1.0.mB23400000 1.0.mB24400000 1.0.mB2C400000
  1.0.m42D5000000 1.0.m42DD400000 1.0.mB3D800000 1.0.mB43600000 1.0.mB44E00000 1.0.mB3B000000
  1.0.mB4CC00000 1.0.m6DDC00000 1.0.m6DF800000 1.0.mB61000000 1.0.mB67C00000 1.0.mB67C00000
  1.0.m4339000000 1.0.mB78600000 1.0.mB7B000000 1.0.mB7CE00000 1.0.mB7E600000 1.0.m4363000000
  1.0.mB7FE00000 1.0.mB80C00000 1.0.mBEA600000 1.0.mB84400000 1.0.m6F0200000 1.0.mB8C000000
  1.0.mB8DC00000 1.0.mB98000000 1.0.mB91A00000 1.0.m43BC800000 1.0.mBA8600000 1.0.m43BCC00000
  1.0.mBADC00000 1.0.mBAD600000 1.0.mBAF800000 1.0.mBBC200000 1.0.mBBC400000 1.0.m705E00000
  1.0.mBBFA00000 1.0.mBC5000000 1.0.mBC7A00000 1.0.mBCD200000 1.0.m70C400000 1.0.m4430600000
  1.0.m70F800000 1.0.mBD6000000 1.0.mBD6600000 1.0.mBD6C00000 1.0.mBD9400000 1.0.m5472400000
  1.0.mBDFC00000 1.0.m4466200000 1.0.m4466200000 1.0.m1040200000 1.0.mBE4400000 1.0.mBE4400000
  1.0.m718E00000 1.0.m4657000000 1.0.m4C3B400000 1.0.mBEC400000 1.0.mBED600000 1.0.m71C600000
  1.0.mBF3400000 1.0.mBF9A00000 1.0.mBFAE00000 1.0.mBFF200000 1.0.mC10200000 1.0.m727400000
  1.0.m723800000 1.0.mC12800000 1.0.m44DA800000 1.0.mC18E00000 1.0.mC29000000 1.0.mC29800000
  1.0.mC29C00000 1.0.mC29800000 1.0.mC2F400000 1.0.mC31C00000 1.0.mC36400000 1.0.mC34800000
  1.0.mC35E00000 1.0.mC3BC00000 1.0.mC3E400000 1.0.mC3EC00000 1.0.mC42000000 1.0.mC43600000
  1.0.mC4BA00000 1.0.mC56200000 1.0.mC5A800000 1.0.mC6A000000 1.0.m4561800000 1.0.mC67A00000
  1.0.mC5F800000 1.0.mC6D000000 1.0.mC70600000 1.0.mC7C800000 1.0.m457E200000 1.0.mC84400000
  1.0.mC78A00000 1.0.mC75200000 1.0.m745C00000 1.0.mC8D200000 1.0.mC8FC00000 1.0.mC93A00000
  1.0.mC8EE00000 1.0.m74D800000 1.0.mCA9E00000 1.0.mCAD800000 1.0.m4601400000 1.0.mCBC600000
  1.0.mCDF000000 1.0.mCC9200000 1.0.m763200000 1.0.mCD2200000 1.0.m761000000 1.0.m75C800000
  1.0.mA32400000 1.0.mA32A00000 1.0.mCE0000000 1.0.mCD3800000 1.0.m1015A00000 1.0.m87B200000
  1.0.mCE2E00000 1.0.mCE3600000 1.0.mCE4200000 1.0.mCEBC00000 1.0.mCEA600000 1.0.m4678600000
  1.0.m769200000 1.0.mCFF400000 1.0.mCF0A00000 1.0.mD0A400000 1.0.mD10A00000 1.0.m468DA00000
  1.0.mD11C00000 1.0.mD03E00000 1.0.mD22800000 1.0.m773A00000 1.0.mD28400000 1.0.mD34600000
  1.0.mD3D400000 1.0.mD55000000 1.0.m46D4600000 1.0.mD5B600000 1.0.m783000000 1.0.mD64200000
  1.0.m4714E00000 1.0.mD6A800000 1.0.m789C00000 1.0.mD6E400000 1.0.mD73E00000 1.0.mD77400000
  1.0.mD77600000 1.0.m4751A00000 1.0.m43A1600000 1.0.m475F400000 1.0.mD89C00000 1.0.m4797800000
  1.0.mD97E00000 1.0.mD99A00000 1.0.mD8CE00000 1.0.mDA2C00000 1.0.mDA7C00000 1.0.mDAEE00000
  1.0.mDA8200000 1.0.mDAD200000 1.0.mDAF000000 1.0.mDB0A00000 1.0.m47A3C00000 1.0.mDA6800000
  1.0.mDC5E00000 1.0.mDCDC00000 1.0.m7A6600000 1.0.mDD9600000 1.0.mDD8E00000 1.0.m47DA200000
  1.0.mDBF200000 1.0.mDEDC00000 1.0.m47EBC00000 1.0.m47F1C00000 1.0.mDF8C00000 1.0.mE07200000
  1.0.mE03C00000 1.0.mE03600000 1.0.m7B2C00000 1.0.mE09400000 1.0.mE0FA00000 1.0.mE0EE00000
  1.0.mE15A00000 1.0.m40A4A00000 1.0.mE28A00000 1.0.m484C600000 1.0.mE33800000 1.0.m4875600000
  1.0.mE45000000 1.0.mE46A00000 1.0.mE4A000000 1.0.m48C1000000 1.0.mE50000000 1.0.mE52A00000
  1.0.m48E6A00000 1.0.m4902800000 1.0.mE6F400000 1.0.mE71600000 1.0.m7D5800000 1.0.mE74A00000
  1.0.m7D7000000 1.0.m7D7000000 1.0.mE88E00000 1.0.mE8B800000 1.0.mE8E200000 1.0.mE90A00000
  1.0.mE99400000 1.0.m7E3600000 1.0.mEA4800000 1.0.m4986C00000 1.0.mEA7C00000 1.0.m4992400000
  1.0.mEAE000000 1.0.m4433E00000 1.0.mEC2000000 1.0.m49F4200000 1.0.m49F7000000 1.0.m4A08800000
  1.0.m7FF800000 1.0.m801000000 1.0.mEDE800000 1.0.m4A1E600000 1.0.m4A1E400000 1.0.m4A23200000
  1.0.m4A26600000 1.0.mEE3C00000 1.0.mEE3E00000 1.0.mEE3E00000 1.0.mEE9400000 1.0.m807200000
  1.0.mEF1600000 1.0.m808C00000 1.0.m812C00000 1.0.m4A83A00000 1.0.mF09C00000 1.0.mF11800000
  1.0.mF19800000 1.0.m81C600000 1.0.m4AC4C00000 1.0.mF2AC00000 1.0.m4AD3400000 1.0.m4AD8A00000
  1.0.mF31E00000 1.0.mF3D600000 1.0.m825E00000 1.0.mF48000000 1.0.mF49400000 1.0.mF49E00000
  1.0.m4B2F800000 1.0.m4B54E00000 1.0.m4B54E00000 1.0.mF5DC00000 1.0.m840400000 1.0.m4B75600000
  1.0.mF78C00000 1.0.mF79200000 1.0.m844E00000 1.0.m4B90000000 1.0.mF9A400000 1.0.m854000000
  1.0.mF9D000000 1.0.mF9C600000 1.0.mFA0000000 1.0.m4BF0C00000 1.0.mFAC600000 1.0.m860200000
  1.0.mFB8E00000 1.0.mFC0400000 1.0.mFC8A00000 1.0.m866800000 1.0.m4C45000000 1.0.m4C48E00000
  1.0.m86B200000 1.0.m4C5B200000 1.0.mFEF400000 1.0.m4C67C00000 1.0.mFF2A00000 1.0.mFFF400000
  1.0.m1000A00000 1.0.m4C9B400000 1.0.m4CA4600000 1.0.m100C000000 1.0.m4CB5000000 1.0.m100E000000
  1.0.m466BE00000 1.0.m87AA00000 1.0.m1016400000 1.0.m1020600000 1.0.m881600000 1.0.m1027C00000
  1.0.mB56A00000 1.0.m4CF4E00000 1.0.m4CF6A00000 1.0.m4672600000 1.0.m4673800000 1.0.m1040200000
  1.0.m1040800000 1.0.m11F3C00000 1.0.m88D600000 1.0.m1052200000 1.0.m1051600000 1.0.m1053A00000
  1.0.mA56600000 1.0.m1056200000 1.0.m1056600000 1.0.m1057A00000 1.0.m105CC00000 1.0.m4D67800000
  1.0.m105CA00000 1.0.m1063A00000 1.0.m106C600000 1.0.m1075A00000 1.0.m1064600000 1.0.m1077A00000
  1.0.m107CE00000 1.0.m108AE00000 1.0.m106A600000 1.0.m1079400000 1.0.m1079800000 1.0.m107B800000
  1.0.m4D86C00000 1.0.m4DAD600000 1.0.m4D9AA00000 1.0.m8A5600000 1.0.m109E200000 1.0.m109E600000
  1.0.m10A2C00000 1.0.m4E79400000 1.0.m10AC800000 1.0.m4DE5800000 1.0.m8ABA00000 1.0.m8AC200000
  1.0.m4DF6200000 1.0.m4E1A400000 1.0.m8AD600000 1.0.m10CA000000 1.0.m10CB800000 1.0.m10CCE00000
  1.0.m10CD200000 1.0.m10D5200000 1.0.m10D1000000 1.0.m10E1C00000 1.0.m10DC400000 1.0.m10EF200000
  1.0.m10E5000000 1.0.m10ED600000 1.0.m10F0C00000 1.0.m8BAE00000 1.0.m10FC200000 1.0.m1100200000
  1.0.m8BF200000 1.0.m110C000000 1.0.m110C600000 1.0.m4ECCE00000 1.0.m111AE00000 1.0.m111BC00000
  1.0.m8C6A00000 1.0.m111F400000 1.0.m697600000 1.0.m4F15C00000 1.0.m4F2CC00000 1.0.m8D7C00000
  1.0.m8D8E00000 1.0.m1154000000 1.0.m115DA00000 1.0.m1171400000 1.0.m118AA00000 1.0.m4F95000000
  1.0.m1195600000 1.0.m1198200000 1.0.m11A3600000 1.0.m11AEE00000 1.0.m4FE5E00000 1.0.m4100800000
  1.0.m11B9600000 1.0.m11B7800000 1.0.m11BE000000 1.0.m411BC00000 1.0.m11DA800000 1.0.m11E7000000
  1.0.m50BA400000 1.0.m50BDA00000 1.0.m1212800000 1.0.m121E200000 1.0.m1222200000 1.0.m50E5C00000
  1.0.m1223600000 1.0.m1247000000 1.0.m125AE00000 1.0.m125B000000 1.0.m124F800000 1.0.m127F200000
  1.0.m1282A00000 1.0.m517F400000 1.0.m12B1600000 1.0.m932A00000 1.0.m12B6E00000 1.0.m51AEE00000
  1.0.m93CC00000 1.0.m12D8600000 1.0.mBB6400000 1.0.m12E4600000 1.0.m5228A00000 1.0.m5243400000
  1.0.m94DC00000 1.0.m94EC00000 1.0.m12FC000000 1.0.m5281400000 1.0.m956400000 1.0.m5292C00000
  1.0.m1301600000 1.0.m1301600000 1.0.m1305200000 1.0.m52B6C00000 1.0.m131C400000 1.0.m966600000
  1.0.m1325200000 1.0.m1334E00000 1.0.m1338400000 1.0.m133FC00000 1.0.m979C00000 1.0.m5366000000
  1.0.m1362400000 1.0.m1388000000 1.0.m139FA00000 1.0.m999C00000 1.0.m99DA00000 1.0.m13ACE00000
  1.0.m5419C00000 1.0.m99F000000 1.0.m5420A00000 1.0.m5441C00000 1.0.m5452200000 1.0.m13D7600000
  1.0.m9AAC00000 1.0.m13DF200000 1.0.m13DFC00000 1.0.m13E0A00000 1.0.m13E1E00000 1.0.m13E2C00000
  1.0.m13E7600000 1.0.m54C0000000"

/-- The order of marks: those with a greater number stand further back. -/
def markOrderRuns : Runs := Runs.ofText "
  300.14.E6 1.0.E8 1.3.DC 1.0.E8 1.0.D8 1.4.DC 1.1.CA 1.3.DC 1.1.CA 1.A.DC 1.4.1 1.3.DC 1.7.E6
  1.0.F0 1.0.E6 1.2.DC 1.2.E6 1.1.DC 2.2.E6 1.3.DC 1.0.E6 1.0.E8 1.1.DC 1.0.E6 1.0.E9 1.1.EA
  1.0.E9 1.1.EA 1.0.E9 1.C.E6 114.4.E6 10A.0.DC 1.3.E6 1.0.DC 1.2.E6 1.0.DE 1.0.DC 1.5.E6 1.5.DC
  1.1.E6 1.0.DC 1.1.E6 1.0.DE 1.0.E4 1.0.E6 1.0.A 1.0.B 1.0.C 1.0.D 1.0.E 1.0.F 1.0.10 1.0.11
  1.0.12 1.1.13 1.0.14 1.0.15 1.0.16 2.0.17 2.0.18 1.0.19 2.0.E6 1.0.DC 2.0.12 49.7.E6 1.0.1E
  1.0.1F 1.0.20 31.0.1B 1.0.1C 1.0.1D 1.0.1E 1.0.1F 1.0.20 1.0.21 1.0.22 1.1.E6 1.1.DC 1.4.E6
  1.0.DC 1.1.E6 1.0.DC 11.0.23 66.6.E6 3.3.E6 1.0.DC 1.0.E6 3.1.E6 2.0.DC 1.1.E6 1.0.DC 24.0.24
  1F.0.E6 1.0.DC 1.1.E6 1.0.DC 1.1.E6 1.2.DC 1.0.E6 1.1.DC 1.0.E6 1.0.DC 1.2.E6 1.0.DC 1.0.E6
  1.0.DC 1.0.E6 1.0.DC 1.0.E6 1.0.DC 1.1.E6 A1.6.E6 1.0.DC 1.0.E6 A.0.DC 19.3.E6 2.8.E6 2.2.E6
  2.4.E6 2C.2.DC 3D.0.E6 1.2.DC 1.3.E6 2B.4.E6 1.4.DC 1.D.E6 2.0.DC 1.1.E6 1.0.DC 1.1.E6 1.0.DC
  1.2.E6 1.2.DC 1.0.1B 1.0.1C 1.0.1D 1.2.E6 1.0.DC 1.1.E6 1.1.DC 1.4.E6 3D.0.7 11.0.9 4.0.E6
  1.0.DC 1.1.E6 68.0.7 11.0.9 31.0.E6 3E.0.7 11.0.9 6F.0.7 11.0.9 6F.0.7 11.0.9 80.0.9 6F.0.7
  11.0.9 8.0.54 1.0.5B 66.0.7 11.0.9 6E.1.9 11.0.9 7D.0.9 6E.1.67 1.0.9 E.3.6B 6D.1.76 1.0.9
  E.3.7A 4D.1.DC 1C.0.DC 2.0.DC 2.0.D8 38.0.81 1.0.82 2.0.84 6.3.82 3.0.82 2.1.E6 1.0.9 2.1.E6
  3F.0.DC 71.0.7 2.1.9 53.0.DC 2D0.2.E6 3B5.1.9 1F.0.9 9E.0.9 B.0.E6 CC.0.E4 90.0.DE 1.0.E6 1.0.DC
  DC.0.E6 1.0.DC 48.0.9 15.7.E6 3.0.DC 31.4.E6 1.5.DC 1.1.E6 1.0.DC 2.1.DC 1.1.E6 1.1.DC 1.4.E6
  1.0.DC 1.3.E6 66.0.7 10.0.9 27.0.E6 1.0.DC 1.6.E6 37.1.9 3B.0.7 C.1.9 44.0.7 99.2.E6 2.0.1
  1.4.DC 1.1.E6 1.3.DC 1.0.E6 2.6.1 5.0.DC 7.0.E6 4.1.E6 C7.1.E6 1.0.DC 1.6.E6 1.0.DC 1.1.E6
  1.0.EA 1.0.D6 1.0.DC 1.0.CA 1.24.E6 1.0.E8 1.1.E4 1.0.DC 1.0.DA 1.0.E6 1.0.E9 1.0.DC 1.0.E6
  1.0.DC 2D1.1.E6 1.1.1 1.3.E6 1.2.1 1.1.E6 5.0.E6 4.1.1 1.0.E6 1.0.DC 1.0.E6 1.1.1 1.3.DC 1.0.E6
  BFF.2.E6 8E.0.9 61.1F.E6 22B.0.DA 1.0.E4 1.0.E8 1.0.DE 1.1.E0 6A.1.8 75D5.0.E6 5.9.E6 21.1.E6
  51.1.E6 115.0.9 26.0.9 98.0.9 1C.11.E6 3A.2.DC 26.0.9 60.0.7 D.0.9 F0.0.E6 2.1.E6 1.0.DC 3.1.E6
  6.1.E6 2.0.E6 35.0.9 F7.0.9 4F31.0.1A 302.6.E6 1.6.DC 1.1.E6 3CE.0.DC E3.0.DC 96.4.E6 693.0.DC
  2.0.E6 29.0.E6 1.0.1 1.0.DC 5.0.9 A6.0.E6 1.0.DC 23E.3.E6 184.1.E6 9A.1.DC 1.2.E6 1.0.DC 1.0.E6
  1.3.DC 32.0.E6 1.0.DC 1.0.E6 1.0.DC C1.0.9 2A.0.9 F.0.9 3A.0.9 1.0.7 46.2.E6 31.1.9 3F.0.7
  4D.0.9 A.0.7 6B.0.9 1.0.7 B3.0.7 1.0.9 51.1.7 11.0.9 19.6.E6 4.4.E6 CE.0.9 4.0.7 18.0.E6 64.0.9
  1.0.7 FC.0.9 1.0.7 7F.0.9 77.0.9 1.0.7 74.0.9 10E.0.9 1.0.7 103.1.9 5.0.7 9D.0.9 54.0.9 13.0.9
  52.0.9 1A6.0.9 103.0.7 2.1.9 52.0.9 4D59.4.1 3C.6.E6 4BA.1.6 4CAD.0.1 14C7.1.D8 1.2.1 4.0.E2
  1.4.D8 9.7.DC 3.4.E6 1.1.DC 1F.3.E6 95.2.E6 DBC.6.E6 2.10.E6 3.6.E6 2.1.E6 2.4.E6 106.6.E6
  178.0.E6 3E.3.E6 5E1.6.DC 6E.5.E6 1.0.7"

/-- The place of a mark among the marks on a letter; zero for what is no mark. -/
def markOrder (n : Nat) : Nat :=
  match markOrderRuns.find? n with
  | some run => run.value.toNat
  | none => 0

/-- The first of the syllables that are composed by rule. -/
def syllableBase : Nat := 0xAC00

/-- Whether `n` is a syllable that is composed by rule. -/
def isSyllable (n : Nat) : Bool := syllableBase ≤ n && n < syllableBase + 11172

/-- The parts of a character, taken apart as far as possible. -/
def decomposeCode : Nat → Nat → List Nat
  | 0, n => [n]
  | fuel + 1, n =>
    if isSyllable n then
      let i := n - syllableBase
      [0x1100 + i / 588, 0x1161 + i % 588 / 28] ++ if i % 28 = 0 then [] else [0x11A7 + i % 28]
    else
      match decompositionRuns.find? n with
      | none => [n]
      | some run =>
        let pair := run.value.natAbs
        decomposeCode fuel (pair / pairBase) ++
          if pair % pairBase = 0 then [] else decomposeCode fuel (pair % pairBase)

/-- A text with every character taken apart. -/
def decompose (codes : List Nat) : List Nat := codes.flatMap (decomposeCode 8)

/-- Puts a mark at its place behind the characters that are given, the last first. -/
def insertMark (n : Nat) : List Nat → List Nat
  | [] => [n]
  | m :: rest =>
    if markOrder n < markOrder m && markOrder n ≠ 0 then m :: insertMark n rest else n :: m :: rest

/-- A text with the marks on each letter in order. -/
def orderMarks (codes : List Nat) : List Nat :=
  (codes.foldl (fun back n => insertMark n back) []).reverse

/-- The character that a pair is joined to. -/
def joinPair? (a b : Nat) : Option Nat :=
  if 0x1100 ≤ a ∧ a < 0x1113 ∧ 0x1161 ≤ b ∧ b < 0x1176 then
    some (syllableBase + ((a - 0x1100) * 21 + (b - 0x1161)) * 28)
  else if isSyllable a ∧ (a - syllableBase) % 28 = 0 ∧ 0x11A8 ≤ b ∧ b < 0x11C3 then
    some (a + (b - 0x11A7))
  else
    let pair : Int := (a * pairBase + b : Nat)
    (Array.find? (fun run => run.value = pair) decompositionRuns).map Run.first

/-- Joins to the letter `start` the marks that follow; `back` are those that stay, the
last first. -/
def joinMarks (start : Nat) (back : List Nat) : List Nat → List Nat
  | [] => start :: back.reverse
  | n :: rest =>
    let free := match back with
      | [] => true
      | m :: _ => markOrder m < markOrder n
    match if free then joinPair? start n else none with
    | some joined => joinMarks joined back rest
    | none =>
      if markOrder n = 0 then start :: back.reverse ++ joinMarks n [] rest
      else joinMarks start (n :: back) rest

/-- Joins what can be joined; marks at the front stand on no letter. -/
def joinAll (codes : List Nat) : List Nat :=
  let front := codes.takeWhile fun n => markOrder n ≠ 0
  match codes.dropWhile fun n => markOrder n ≠ 0 with
  | [] => front
  | n :: rest => front ++ joinMarks n [] rest

/-- A text in its composed form. -/
def compose (codes : List Nat) : List Nat := joinAll (orderMarks (decompose codes))

/-- Whether a text is in its composed form. -/
def isComposed (cs : List Char) : Bool :=
  let codes := cs.map Char.toNat
  codes.all (· < 128) || compose codes == codes

end Unicode
end RegistryAuth
