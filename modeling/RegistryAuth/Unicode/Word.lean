import RegistryAuth.Unicode.Runs

/-!
# Word characters

The names of challenge parameters are runs of word characters: letters and numbers of
every script, and the underscore.
-/

namespace RegistryAuth
namespace Unicode

/-- The letters and numbers of every script, and the underscore. -/
def wordRuns : Runs := Runs.ofText "
  30.9 8.19 5 2.19 30 8.1 2 4.1 2.2 2.16 2.1E 2.1C9 5.B F.4 8 2 82.4 2.1 3.3 2 7 2.2 2 2.13 2.52
  2.8A 9.A5 2.25 3 7.28 48.1A 5.3 2E.2A 16.9 5.1 2.62 2 10.1 8.E 3 11 2.1D 1E.58 C F.2A A.1 5 6.15
  5 A 4 18.18 8.A 6.17 2.5 12.29 3B.35 4 13 8.9 5.9 2.F 5.7 3.1 3.15 2.6 2 4.3 4 11 E.1 2.2 5.B
  3.5 3 9.5 5.1 3.15 2.6 2.1 2.1 2.1 20.3 2 8.9 3.2 11.8 2.2 2.15 2.6 2.1 2.4 4 13 10.1 5.9 A C.7
  3.1 3.15 2.6 2.1 2.4 4 1F.1 2.2 5.9 2.6 C 2.5 4.2 2.3 4.1 2 2.1 4.1 4.2 4.B 17 16.C 13.7 2.2
  2.16 2.F 4 1B.2 3 3.1 5.9 9.6 2 5.7 2.2 2.16 2.9 2.4 4 20.1 2.1 5.9 2.1 12.8 2.2 2.28 3 11 6.2
  2.9 5.12 2.5 6.11 4.17 2.8 2 3.6 20.9 12.2F 2.1 D.6 A.9 28.1 2 2.4 2.17 2 2.9 2.1 A 3.4 2 A.9
  3.3 21 20.13 D.7 2.23 1C.4 74.2A 15.A 7.5 5.3 4 4.1 8.2 5.C D 2.9 7.25 2 6 3.2A 2.14C 2.3 3.6 2
  2.3 3.28 2.3 3.20 2.3 3.6 2 2.3 3.E 2.38 2.3 3.42 F.13 4.F 11.55 3.5 4.26B 3.10 2.19 6.4A 4.A
  8.11 E.12 F.11 F.C 2.2 10.33 24 5 4.9 7.9 17.9 7.58 8.4 3.21 2 6.45 B.1E 28.27 3.4 C.2B 5.19 7.A
  26.16 A.34 2C.9 7.9 E 5E.2E 12.7 4.9 2A.1D E.37 1B.23 1D.9 4.30 3.8 8.2A 3.2 2A.3 2.5 2.1 4 6.BF
  41.115 3.5 3.25 3.5 3.7 2 2 2 2.1E 3.34 2.6 2 4.2 2.6 4.3 3.5 5.C 6.2 2.6 74.1 3.5 6.A 7.C 66 5
  3.9 2 4.4 7 2 2 2.3 2.A 3.3 6.4 5 2.39 2D7.3B 4F.15 277.1D 46D.E4 7.3 4.1 A 3.25 2 6 3.37 8
  11.16 A.6 2.6 2.6 2.6 2.6 2.6 2.6 2.6 51 1D6.2 1A.8 8.4 3.4 5.55 7.2 2.59 2.3 6.2A 2.5D 4.3 B.1F
  31.F 21.9 1F.7 2.E 21.9 28.E 141.19BF 41.568C 44.2D 3.10C 4.1B 15.2E 11.1E 3.4F 28.8 3.66 3.3F
  6.1 2 2.4 19.F 2.2 2.3 2.16 E.5 B.33 F.31 1D.9 19.5 4 2.1 2.25 B.16 1A.1C 8.2E 1D.A 7.4 2.18
  2.28 18.2 2.7 5.9 7.16 4 4.31 2 4.1 3.4 3 2 19.2 3.A 8.2 D.5 3.5 3.5 A.6 2.6 2.2A 2.D 7.72 E.9
  7.2BA3 D.16 5.30 2105.16D 3.69 27.6 D.4 6 2.9 2.C 2.4 2 2.1 2.1 2.6B 22.16A 13.3F 3.35 29.B 75.4
  2.86 14.9 8.19 7.19 C.58 4.5 3.5 3.5 3.2 24.B 2.19 2.12 2.1 2.E 3.D 23.7A D.2C D.38 12.1 F5.1C
  4.30 11.1A 5.23 A.1D 6.25 B.1D 3.23 5.7 2.4 2B.9D 3.9 7.23 5.23 5.27 9.33 D.A 2.E 2.6 2.1 2.A
  2.E 2.6 2.1 44.136 A.15 B.7 19.5 2.29 2.8 46.5 3 2.2B 2.1 4 3.16 3.1E 3.25 9.8 31.12 2.1 6.20
  5.19 47.37 5.13 3.2E 10.3 2.2 2.1C B.8 18.1E 2.1F 21.7 2.1B 7.4 11.35 B.15 3.1A 6.19 18.6 51.48
  38.32 E.32 8.29 D.9 127.1E 2.29 7.1 4F.27 9.15 C.3 1C.11 2F.1B 15.16 D.34 1B.1D 2.1 3 E.2C 21.18
  8.9 A.23 10.9 5 3 9.22 4 D.2F F.3 C.A 2 5.13 C.11 2.18 55.6 2 2.3 2.E 2.9 8.2E 12.9 C.7 3.1 3.15
  2.6 2.1 2.4 4 13 D.4 9F.34 13.3 6.9 6.2 1F.2F 15.1 2 9.9 A7.2E 2A.3 25.2F 15 C.9 27.2A E 8.9
  37.1A 16.B 5.6 BA.2B 75.52 D.7 3 3.7 2.1 2.17 10 2 F.9 47.7 3.26 11 2 1D B.27 8 16 C.2D 14 13.48
  108.8 2.24 12 10.1C 6.1D 71.6 2.1 2.25 16 A.9 7.5 2.1 2.1F F 8.9 137.12 BE 10.14 2C.399 67.6E
  12.C3 A4D.60 10.42E FD2.246 21BA.238 8.1E 2.9 7.4E 2.9 7.1D 13.2F 11.3 D.9 2.6 2.14 6.12 2B1.56
  6A.4A 6 43.C 41.1 2 1D.17F7 9.4D5 2B.8 22E8.3 2.6 2.1 2.122 2E.2 12.3 9.18B 905.6A 6.C 4.8 8.9
  1647.13 6D.18 88.54 2.46 2.1 3 3.1 3.3 2.B 2 2.6 2.40 2.3 3.7 2.6 2.1B 2.3 2.4 2 4.6 2.153 3.18
  2.18 2.1E 2.18 2.1E 2.18 2.1E 2.18 2.1E 2.18 2.7 3.31 701.1E 1E2.2C B.6 3.9 5 142.1D 13.2B 5.9
  4E7.6 2.3 2.1 2.E 2.C4 3.8 31.43 8 5.9 318.3A 2.2 2.3 4D.2C 2.E C3.3 2.1A 2.1 2 3 2.9 2.3 2 2 7
  5 2 2 2.2 2.1 2 3 2 2 2 2 2.1 2 3.3 2.6 2.3 2.3 2 2.9 2.10 6.2 2.4 2.10 245.C AE4.9 407.A6DF
  21.1038 8.DD 3.1681 F.1D30 C20.21D 5E3.134A"

/-- Letters and digits of the Latin alphabet, and the underscore. -/
def isAsciiWord (c : Char) : Bool := c.isAlphanum || c = '_'

/-- Whether `c` can stand in a name. -/
def isWord (c : Char) : Bool :=
  if c.toNat < 128 then isAsciiWord c else wordRuns.holds c

end Unicode
end RegistryAuth
