import RegistryAuth.Unicode.Runs

/-!
# Characters of host names

Which characters a host name may hold: most letters and digits anywhere, a few joiners
and signs only in the right company.  What company that is depends on how a letter
joins its neighbours and on the script it belongs to.
-/

namespace RegistryAuth
namespace Unicode

/-- The characters that a host name may hold anywhere. -/
def hostRuns : Runs := Runs.ofText "
  2D 3.9 28.19 65.17 2.7 2 2 2 2 2 2 2 2 2 2 2 2 2 2 2 2 2 2 2 2 2 2 2 2 2 4 2.1 2 2 2 4 2 2 2 3 2
  2 2 2 2 2 2 2 2 2 2 2 2 2 2 2 2 2 2 2 2 2 3 2 2 2 3 2 3 4.1 5 3 4.2 3 3 2 2 3 2.1 2 3 4 2 3.2
  2.6 B 2 2 2 2 2 2 2.1 2 2 2 2 2 2 2 2 2.1 5 4 2 2 2 2 2 2 2 2 2 2 2 2 2 2 2 2 2 2 2 2 2 2 2 2 2
  2 2 2 2.6 3 3.1 2 5 2 2 2 2.60 A.8 5.B 1B 2 12.3F 3 4.8 2.1F 2 2 4 4.2 13 1C.22 9 2 2 2 2 2 2 2
  2 2 2 2 2 4 5 3.1 34.2F 2 2 2 2 2 2 2 2 2 2 2 2 2 2 2 2 2 2.4 4 2 2 2 2 2 2 2 2 2 2 2 2 2 2 2 2
  2 2 2 2 2 2 2 2 2 2 3 2 2 2 2 2 2.1 2 2 2 2 2 2 2 2 2 2 2 2 2 2 2 2 2 2 2 2 2 2 2 2 2 2 2 2 2 2
  2 2 2 2 2 2 2 2 2 2 2 2 2 2 2 2 2 2 2A 7.26 2 9.2C 2 2.1 2.1 2.2 7.1A 5.3 1E.A 6.1F 2.1E F.6
  5.5A 2.7 3.9 2.5 B.5 11.3A 3.64 F.35 8 3.2D 13.1B 5.A 6.17 2.6 8.4A 2.74 9.3 3.9 2.12 2.7 3.1
  3.15 2.6 2 4.3 3.8 3.1 3.3 9 9.3 3.B B 2 3.2 2.5 5.1 3.15 2.6 2 3 3.1 3 2.4 5.1 3.2 4 B A.F C.2
  2.8 2.2 2.15 2.6 2.1 2.4 3.9 2.2 2.2 3 10.3 3.9 A.6 2.2 2.7 3.1 3.15 2.6 2.1 2.4 3.8 3.1 3.2 6.4
  8.4 3.9 2 11.1 2.5 4.2 2.3 4.1 2 2.1 4.1 4.2 4.B 5.4 4.2 2.3 3 7 F.9 11.C 2.2 2.16 2.F 3.8 2.2
  2.3 8.1 2.2 2.1 3.3 3.9 11.3 2.7 2.2 2.16 2.9 2.4 3.8 2.2 2.3 8.1 6.2 2.3 3.9 2.2 D.C 2.2 2.32
  2.2 2.4 6.3 8.4 3.9 B.5 2.2 2.11 4.17 2.8 2 3.6 4 5.5 2 2.7 7.9 3.1 E.31 2.6 6.E 2.9 28.1 2 2.4
  2.17 2 2.B 2.9 3.4 2 2.6 2.9 5.1 21 B D.1 7.9 C 2 2 5.4 2.3 2.3 2.3 2.3 2.3 2.B 2.2 5.1 2 6.6
  2.2 2.C 2.3 2.3 2.3 2.3 2.3 2.B 2.2 A 3A.49 7.4D 33.2A 3.2 101.48 2.3 3.6 2 2.3 3.28 2.3 3.20
  2.3 3.6 2 2.3 3.E 2.38 2.3 3.42 3.2 21.F 11.55 C.26B 3.10 2.19 6.4A 7.7 8.15 A.15 C.13 D.C 2.2
  2.1 D.33 3.1D 4 5.1 3.9 27.9 7.58 8.2A 6.45 B.1E 2.B 5.B B.27 3.4 C.2B 5.19 7.9 27.1B 5.3E 2.1C
  3.A 7.9 E 9.D 2.1F 2.B 15.4C 4.9 12.8 D.73 D.37 9.9 4.30 D 46.2 2.26 6.2B 4 C 13 1D.C 2.21 26.3F
  2 2 2 2 2 2 2 2 2 2 2 2 2 2 2 2 2 2 2 2 2 2 2 2 2 2 2 2 2 2 2 2 2 2 2 2 2 2 2 2 2 2 2 2 2 2 2 2
  2 2 2 2 2 2 2 2 2 2 2 2 2 2 2 2 2 2 2 2 2 2 2 2 2 2 2.4 3.1 2 2 2 2 2 2 2 2 2 2 2 2 2 2 2 2 2 2
  2 2 2 2 2 2 2 2 2 2 2 2 2 2 2 2 2 2 2 2 2 2 2 2 2 2 2 2 2 2 2.8 9.5 B.7 9.7 9.5 B.7 9.7 9 2 2 2
  2 2 2 34.1 5 10 A.2 4.1 9.2 2.3 F 99 BF 36 AAC.2F 2 4.1 2 2 2 5 2.1 2.5 6 2 2 2 2 2 2 2 2 2 2 2
  2 2 2 2 2 2 2 2 2 2 2 2 2 2 2 2 2 2 2 2 2 2 2 2 2 2 2 2 2 2 2 2 2 2 2 2 2 2.1 8 2.3 2 D.25 2 6
  3.37 18.17 A.6 2.6 2.6 2.6 2.6 2.6 2.6 2.6 2.1F 30 1D6.2 23.3 F 5.55 3.1 3.1 3.59 2.2 7.2A 71.1F
  31.F 201.19BF 41.568C 44.2D 3.10C 4.1B 16 2 2 2 2 2 2 2 2 2 2 2 2 2 2 2 2 2 2 2 2 2 2.2 5.9 2 2
  2 2 2 2 2 2 2 2 2 2 2 2 2 3.47 B.1 26.8 4 2 2 2 2 2 2.2 2 2 2 2 2 2 2 2 2 2 2 2 2 2 2 2 2 2 2 2
  2 2 2 2 2 2 2 2 2 2 2 2.7 2 2 3 2 2 2 2.1 4 2.1 2 2.2 2 2 2 2 2 2 2 2 2 2 6 6 2 2 2 2 2 2 2 5 2
  3 2 2 2 2 2 2 2 1B.1 3.2D 5 14.33 D.45 B.9 7.17 4 2.30 3.23 2D.40 F.A 7.1E 2.36 A.D 3.9 7.16
  4.48 19.2 3.F 3.4 B.5 3.5 3.5 A.6 2.6 2.2A 6.8 58.2A 2.1 3.9 7.2BA3 226B.1 2 2.1 B 2 2.1 3.2 F5
  302.F 44 18D.B 2.19 2.12 2.1 2.E 3.D 23.7A 103 83.1C 4.30 10 20.1F E.13 2.7 7.2A 6.1D 3.23 5.7
  59.75 3.9 2F.23 5.27 9.33 34.A 2.E 2.6 2.1 4.33 D.136 A.15 B.7 19 80.5 3 2.2B 2.1 4 3.16 B.16
  A.1E 42.12 2.1 B.15 B.19 7.19 27.37 7.1 41.3 2.1 6.7 2.2 2.1C 3.2 5 21.1C 4.1C 24.7 2.1D 1A.35
  B.15 B.12 E.11 6F.48 78.32 E.27 9.9 7.F 1A.4 2.16 FB.29 2.1 4.1 11.5 4 E 21.22 B 9.20 20.15
  2B.14 1C.16 A.46 20.F A.3B 8 E.18 8.9 7.34 2.9 5.3 9.23 3 A.44 5.3 2.C 2 24.11 2.24 7.3 3F.6 2
  2.3 2.E 2.9 8.3A 6.9 7.3 2.7 3.1 3.15 2.6 2.1 2.4 2.9 3.1 3.2 3 7 6.6 3.6 4.4 C.9 2 3 2.25 2.9 2
  3 2.3 2.7 E.1 1E.4A 6.9 5.3 1F.45 2 9.9 A7.35 3.8 18.5 23.40 4 C.9 27.38 8.9 7.13 1D.1A 3.E 5.9
  7.6 BA.3A 86.29 16.7 3 3.7 2.1 2.1D 2.1 3.8 D.9 47.7 3.2D 3.7 2.1 1C.3E 9 9.49 4 13.48 68.7
  59.20 10.9 7.8 2.2C 2.8 10.9 19.1D 3.15 2.D 4A.6 2.1 2.2B 4 2.1 2.8 9.9 7.5 2.1 2.24 2.1 2.5 8.9
  7.2B 5.9 F7.16 A.10 2.28 4.4 E.A 56 50.399 E7.C3 A4D.60 10.42F 11.15 B.F9A 6.246 1ABA.39 6C7.238
  8.1E 2.9 7.4E 2.9 7.1D 3.4 C.36 A.3 D.9 A.14 6.12 1B1.2C 4.9 E7.1F 3C.18 2D.4A 5.38 8.10 41.1
  2.1 C.3 D.1CD5 2A.1F 62.72 21FE.3 2.6 2.1 2.122 10 1E.2 3 F.3 9.18B 905.6A 6.C 4.8 8.9 4.1
  1262.2D 3.16 ABA.36 5.31 9 F 17.4 2.E 451.1E 7.5 D6.6 2.10 3.6 2.1 2.4 65 71.2C 4.D 3.9 5 142.1E
  12.39 1D7.29 D7.2A C6.1E 2.15 9.1 E1.6 2.3 2.1 2.E 2.C4 C.6 4C.29 5.9 16A7.A6DF 21.111E 2.168D
  3.1D30 10.26D 11A3.134A 6.2129 9B87.2C3F"

/-- The joiners. -/
def joinerRuns : Runs := Runs.ofText "
  200C.1"

/-- The signs that need the right company. -/
def companyRuns : Runs := Runs.ofText "
  B7 2BE 27E.1 6C.9 87.9 2A02"

/-- How letters join their neighbours: not at all and without parting them (1), the next
one (2), the last one (3), both (4), or otherwise. -/
def joiningRuns : Runs := Runs.ofText "
  AD.0.1 253.6F.1 114.6.1 108.2C.1 2.0.1 2.1.1 2.1.1 2.0.1 49.A.1 2.0.1 4.0.4 2.3.3 1.0.4 1.0.3
  1.0.4 1.0.3 1.4.4 1.3.3 1.C.4 1.0.5 1.6.4 1.0.3 1.1.4 1.14.1 F.1.4 1.0.1 1.2.3 2.2.3 1.F.4
  1.11.3 1.25.4 1.0.3 1.1.4 1.8.3 1.0.4 1.0.3 1.0.4 1.0.3 1.1.4 1.1.3 2.0.3 1.6.1 3.5.1 3.1.1
  2.3.1 1.1.3 B.2.4 3.0.4 10.0.1 1.0.3 1.0.1 1.2.4 1.4.3 1.3.4 1.0.3 1.8.4 1.0.3 1.0.4 1.0.3 1.0.4
  1.0.3 1.1.4 1.0.3 1.1A.1 3.0.3 1.A.4 1.2.3 1.E.4 1.1.3 1.3.4 1.0.3 1.0.4 1.1.3 1.2.4 1.1.3 1.5.4
  27.A.1 1A.20.4 1.8.1 7.0.5 3.0.1 19.3.1 2.8.1 2.2.1 2.4.1 13.0.3 1.4.4 1.1.3 1.0.4 1.0.3 1.9.4
  1.0.3 1.0.4 1.2.3 1.2.1 5.0.4 2.3.4 2.0.3 1.0.4 1.1.3 6.12.3 1.2.5 1.0.4 3.4.4 1.0.3 1.0.4 8.8.1
  1.9.4 1.2.3 2.0.3 1.1.4 1.1.3 1.5.4 1.0.3 1.E.4 2.17.1 2.1F.1 38.0.1 2.0.1 5.7.1 5.0.1 4.6.1
  B.1.1 1E.0.1 3B.0.1 5.3.1 9.0.1 15.1.1 1B.0.1 3.1.1 3A.0.1 5.1.1 5.1.1 3.2.1 4.0.1 1F.1.1 4.0.1
  C.1.1 3A.0.1 5.4.1 2.1.1 5.0.1 15.1.1 17.5.1 2.0.1 3B.0.1 3.0.1 2.3.1 9.0.1 8.1.1 C.1.1 1F.0.1
  3E.0.1 D.0.1 33.0.1 4.0.1 38.0.1 2.2.1 6.2.1 2.3.1 8.1.1 C.1.1 1E.0.1 3B.0.1 3.0.1 7.0.1 6.1.1
  15.1.1 1D.1.1 3A.1.1 5.3.1 9.0.1 15.1.1 1E.0.1 49.0.1 8.2.1 2.0.1 5B.0.1 3.6.1 D.7.1 63.0.1
  3.8.1 C.6.1 4A.1.1 1C.0.1 2.0.1 2.0.1 38.D.1 2.4.1 2.1.1 6.A.1 2.23.1 A.0.1 67.3.1 2.5.1 2.1.1
  3.1.1 1A.1.1 5.2.1 11.3.1 E.0.1 3.1.1 7.0.1 10.0.1 2C0.2.1 3B3.2.1 1E.1.1 1F.1.1 1F.1.1 41.1.1
  2.6.1 9.0.1 3.A.1 A.0.1 2A.0.4 3.0.5 1.2.1 2.0.1 11.58.4 D.1.1 1.21.4 1.0.1 1.0.4 76.2.1 5.1.1
  A.0.1 7.2.1 DC.1.1 3.0.1 3B.0.1 2.6.1 2.0.1 2.0.1 3.7.1 7.9.1 3.0.1 31.2D.1 3.B.1 15.3.1 31.0.1
  2.4.1 2.0.1 6.0.1 29.8.1 D.1.1 21.3.1 3.1.1 2.2.1 39.0.1 2.1.1 4.0.1 2.2.1 3B.7.1 3.1.1 99.2.1
  2.C.1 2.6.1 5.0.1 7.0.1 4.1.1 C7.3F.1 20C.0.1 2.0.5 1.1.1 1B.4.1 32.4.1 6.5.1 61.20.1 BFF.2.1
  8E.0.1 61.1F.1 22B.3.1 6C.1.1 75D5.3.1 2.9.1 21.1.1 51.1.1 111.0.1 4.0.1 5.0.1 1A.1.1 6.0.1
  14.31.4 1.0.2 52.1.1 1B.11.1 E.0.1 27.7.1 1A.A.1 2F.2.1 31.0.1 3.3.1 3.1.1 28.0.1 44.5.1 3.1.1
  3.1.1 D.0.1 9.0.1 30.0.1 34.0.1 2.2.1 3.1.1 6.1.1 2.0.1 2B.1.1 9.0.1 EF.0.1 3.0.1 5.0.1 4F31.0.1
  2E2.F.1 11.F.1 D0.0.1 FA.2.1 202.0.1 E3.0.1 96.4.1 687.2.1 2.1.1 6.3.1 29.2.1 5.0.1 81.4.4 1.0.3
  2.0.3 2.1.3 3.0.2 1.4.3 1.3.4 1.0.2 1.4.4 1.0.3 1.2.4 1.0.3 3.0.3 1.1.1 5.3.4 1.0.3 91.0.4 1.0.3
  1.0.4 1.2.3 1.2.4 1.0.3 1.1.4 1.0.3 1.0.4 1.1.3 1.0.4 1.0.3 18.3.3 1.1.4 152.0.2 1.20.4 1.0.3
  1.0.4 1.3.1 42.4.1 13E.1.1 16.0.3 1.1.4 2.1.4 33.5.1 31.2.4 1.0.3 1.10.4 2.A.1 1.2.4 1.0.3
  1C.3.4 1.1.3 1.B.4 1.3.1 2B.0.4 2.1.4 1.2.3 2.0.4 1.1.3 1.1.4 1.0.3 1.1.4 2.0.4 1.1.3 1.0.4
  5.0.3 1.0.4 1.0.2 36.0.1 37.E.1 2A.0.1 3.1.1 B.2.1 32.3.1 3.1.1 8.0.1 3E.2.1 25.4.1 2.7.1 3F.0.1
  D.1.1 35.8.1 B.3.1 3.0.1 60.2.1 3.0.1 2.1.1 7.0.1 3.0.1 9E.0.1 4.7.1 16.1.1 3A.1.1 4.0.1 26.6.1
  4.4.1 47.5.1 E.0.1 2.0.1 2.0.1 F.1.1 56.7.1 3.2.1 2.0.1 18.0.1 55.5.1 2.0.1 5.1.1 2.1.1 EF.3.1
  7.1.1 2.1.1 1C.1.1 56.7.1 3.0.1 2.1.1 6B.0.1 2.0.1 3.5.1 2.0.1 66.0.1 2.0.1 3.3.1 2.4.1 104.8.1
  2.1.1 101.1.1 2.0.1 5.0.1 91.3.1 3.1.1 5.0.1 21.9.1 29.5.1 3.3.1 9.0.1 A.5.1 3.2.1 2F.C.1 2.1.1
  C7.0.1 2.2.1 2.0.1 CA.6.1 2.5.1 2.0.1 53.15.1 3.6.1 2.1.1 2.1.1 7B.5.1 4.0.1 2.1.1 2.6.1 2.0.1
  49.1.1 4.0.1 2.0.1 15C.1.1 C.1.1 35.4.1 6.0.1 2.0.1 18.0.1 14D6.10.1 7.E.1 2CC9.B.1 4.2.1
  9C1.4.1 3C.6.1 419.0.1 40.3.1 52.0.1 4CB9.1.1 2.3.1 125D.2D.1 3.16.1 221.2.1 A.F.1 3.6.1 1F.3.1
  95.2.1 7BC.36.1 5.31.1 9.0.1 F.0.1 17.4.1 2.E.1 551.6.1 2.10.1 3.6.1 2.1.1 2.4.1 65.0.1 A1.6.1
  178.0.1 3E.3.1 1FD.3.1 FF.1.1 F4.0.1 3.0.1 8.1.1 6.0.1 1DB.6.1 2A.43.4 1.7.1 C16B6.0.1 1F.5F.1
  81.EF.1"

/-- The characters that stand on the one before. -/
def markRuns : Runs := Runs.ofText "
  300.6F 114.6 108.2C 2 2.1 2.1 2 49.A 31.14 11 66.6 3.5 3.1 2.3 24 1F.1A 5C.A 3B.8 A 19.3 2.8 2.2
  2.4 2C.2 3D.7 2B.17 2.20 37.2 2.11 2.6 B.1 1E.2 39 2.6 3.1 3.2 A B.1 1B 3.2 39 2.4 5.1 3.2 4
  1F.1 4 C.2 39 2.7 2.2 2.2 15.1 17.5 2.2 39 2.6 3.1 3.2 8.2 B.1 1F 3C.4 4.2 2.3 A 29.4 38 2.6 2.2
  2.3 8.1 C.1 1E.2 39 2.6 2.2 2.3 8.1 C.1 1D.3 38.1 2.6 2.2 2.3 A B.1 1E.2 47 5.5 2 2.7 13.1 3E
  3.6 D.7 63 3.8 C.5 4B.1 1C 2 2 5.1 32.13 2.1 6.A 2.23 A 65.13 18.3 5.2 2.2 3.6 4.3 E.B 2 B.3
  2C0.2 3B3.3 1D.2 1E.1 1F.1 41.1F A 2E.2 2 76.1 23 77.B 5.B DC.4 3A.9 2.1C 3 31.1E 32.4 30.10
  27.8 D.2 1F.C 39.D 31.13 99.2 2.14 5 7 3.2 C7.3F 2D1.20 BFF.2 8E 61.1F 22B.5 6A.1 75D5.3 2.9
  21.1 51.1 111 4 5 18.4 5 54.1 33.11 1B.11 E 27.7 1A.C 2D.3 30.D 25 44.D D 9.1 2E.2 33 2.2 3.1
  6.1 2 2A.4 6.1 ED.7 2.1 4F31 2E2.F 11.F 3CE E3 96.4 687.2 2.1 6.3 29.2 5 A6.1 23E.3 184.1 9A.A
  32.3 7B.2 36.E 2A 3.1 B.3 2E.A 8 3E.2 25.D 11.1 2D D.2 31.D 9.3 2.1 5D.B 7 A1.B 16.3 38.1 2.6
  3.1 3.2 A B.1 3.6 4.4 C1.11 18 52.13 EC.6 3.8 1C.1 53.10 6B.C 66.E 101.E F6.5 2.1 3.3 2 2.1 8E.6
  3.6 4 1D.9 29.6 2.3 9 A.A 2F.F 196.7 2.7 53.15 2.D 7B.5 4 2.1 2.6 2 43.4 2.1 2.4 15C.3 4BFA.4
  3C.6 419 2.36 8.3 52 C.1 4CAC.1 1262.2D 3.16 21F.4 4.5 9.7 3.6 1F.3 95.2 7BC.36 5.31 9 F 17.4
  2.E 551.6 2.10 3.6 2.1 2.4 106.6 178 3E.3 5E1.6 6E.6 C17B6.EF"

/-- The Greek script. -/
def greekRuns : Runs := Runs.ofText "
  370.3 2.2 3.3 2 5 2 2.2 2 2.13 2.3E F.F 1927.4 33.4 5.4 55 141.15 3.5 3.25 3.5 3.7 2 2 2 2.1E
  3.34 2.E 2.D 3.5 2.12 3.2 2.8 128 8A3F 55DB.4E 12 D060.45"

/-- The Hebrew script. -/
def hebrewRuns : Runs := Runs.ofText "
  591.36 9.1A 5.5 F529.19 2.4 2 2.1 2.1 2.9"

/-- The Hiragana script. -/
def hiraganaRuns : Runs := Runs.ofText "
  3041.55 7.2 17F62.11E 13 1E.2 40AE"

/-- The Katakana script. -/
def katakanaRuns : Runs := Runs.ofText "
  30A1.59 3.2 F1.F D1.2E 2.57 CC0F.9 2.2C B053.3 2.6 2.1 2 120.2 33 F.3"

/-- The Han script. -/
def hanRuns : Runs := Runs.ofText "
  2E80.19 2.58 D.D5 30 2 1A.8 F.3 3C5.19BF 41.51FF 5901.16D 3.69 7509.1 D.6 900A.A6DF 21.111D
  3.168D 3.1D30 10.26D 9A3.21D 5E3.134A 6.2129"


end Unicode
end RegistryAuth
