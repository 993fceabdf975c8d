import RegistryAuth.Unicode.Runs

/-!
# Letter case

Host names, schemes and parameter names are compared in lower case, and request
methods are sent in upper case.  The maps are those of the whole character set: one
letter becomes two in lower case, a hundred become two or three in upper case, and the
capital sigma becomes the final form at the end of a word.
-/

namespace RegistryAuth
namespace Unicode

/-- How far the lower-case form of a letter lies from it. -/
def lowerRuns : Runs := Runs.ofText "
  41.19.20 66.16.20 2.6.20 22.0.1 2.0.1 2.0.1 2.0.1 2.0.1 2.0.1 2.0.1 2.0.1 2.0.1 2.0.1 2.0.1
  2.0.1 2.0.1 2.0.1 2.0.1 2.0.1 2.0.1 2.0.1 2.0.1 2.0.1 2.0.1 2.0.1 2.0.1 2.0.1 4.0.1 2.0.1 2.0.1
  3.0.1 2.0.1 2.0.1 2.0.1 2.0.1 2.0.1 2.0.1 2.0.1 3.0.1 2.0.1 2.0.1 2.0.1 2.0.1 2.0.1 2.0.1 2.0.1
  2.0.1 2.0.1 2.0.1 2.0.1 2.0.1 2.0.1 2.0.1 2.0.1 2.0.1 2.0.1 2.0.1 2.0.1 2.0.1 2.0.1 2.0.1
  2.0.m79 1.0.1 2.0.1 2.0.1 4.0.D2 1.0.1 2.0.1 2.0.CE 1.0.1 2.1.CD 1.0.1 3.0.4F 1.0.CA 1.0.CB
  1.0.1 2.0.CD 1.0.CF 2.0.D3 1.0.D1 1.0.1 4.0.D3 1.0.D5 2.0.D6 1.0.1 2.0.1 2.0.1 2.0.DA 1.0.1
  2.0.DA 3.0.1 2.0.DA 1.0.1 2.1.D9 1.0.1 2.0.1 2.0.DB 1.0.1 4.0.1 8.0.2 1.0.1 2.0.2 1.0.1 2.0.2
  1.0.1 2.0.1 2.0.1 2.0.1 2.0.1 2.0.1 2.0.1 2.0.1 2.0.1 3.0.1 2.0.1 2.0.1 2.0.1 2.0.1 2.0.1 2.0.1
  2.0.1 2.0.1 3.0.2 1.0.1 2.0.1 2.0.m61 1.0.m38 1.0.1 2.0.1 2.0.1 2.0.1 2.0.1 2.0.1 2.0.1 2.0.1
  2.0.1 2.0.1 2.0.1 2.0.1 2.0.1 2.0.1 2.0.1 2.0.1 2.0.1 2.0.1 2.0.1 2.0.1 2.0.m82 2.0.1 2.0.1
  2.0.1 2.0.1 2.0.1 2.0.1 2.0.1 2.0.1 2.0.1 8.0.2A2B 1.0.1 2.0.mA3 1.0.2A28 3.0.1 2.0.mC3 1.0.45
  1.0.47 1.0.1 2.0.1 2.0.1 2.0.1 2.0.1 122.0.1 2.0.1 4.0.1 9.0.74 7.0.26 2.2.25 2.0.40 2.1.3F
  2.10.20 2.8.20 24.0.8 9.0.1 2.0.1 2.0.1 2.0.1 2.0.1 2.0.1 2.0.1 2.0.1 2.0.1 2.0.1 2.0.1 2.0.1
  6.0.m3C 3.0.1 2.0.m7 1.0.1 3.2.m82 1.F.50 1.1F.20 31.0.1 2.0.1 2.0.1 2.0.1 2.0.1 2.0.1 2.0.1
  2.0.1 2.0.1 2.0.1 2.0.1 2.0.1 2.0.1 2.0.1 2.0.1 2.0.1 2.0.1 A.0.1 2.0.1 2.0.1 2.0.1 2.0.1 2.0.1
  2.0.1 2.0.1 2.0.1 2.0.1 2.0.1 2.0.1 2.0.1 2.0.1 2.0.1 2.0.1 2.0.1 2.0.1 2.0.1 2.0.1 2.0.1 2.0.1
  2.0.1 2.0.1 2.0.1 2.0.1 2.0.1 2.0.F 1.0.1 2.0.1 2.0.1 2.0.1 2.0.1 2.0.1 2.0.1 3.0.1 2.0.1 2.0.1
  2.0.1 2.0.1 2.0.1 2.0.1 2.0.1 2.0.1 2.0.1 2.0.1 2.0.1 2.0.1 2.0.1 2.0.1 2.0.1 2.0.1 2.0.1 2.0.1
  2.0.1 2.0.1 2.0.1 2.0.1 2.0.1 2.0.1 2.0.1 2.0.1 2.0.1 2.0.1 2.0.1 2.0.1 2.0.1 2.0.1 2.0.1 2.0.1
  2.0.1 2.0.1 2.0.1 2.0.1 2.0.1 2.0.1 2.0.1 2.0.1 2.0.1 2.0.1 2.0.1 2.0.1 2.0.1 3.25.30
  B4A.25.1C60 2.0.1C60 6.0.1C60 2D3.4F.97D0 1.5.8 89B.2A.mBC0 3.2.mBC0 141.0.1 2.0.1 2.0.1 2.0.1
  2.0.1 2.0.1 2.0.1 2.0.1 2.0.1 2.0.1 2.0.1 2.0.1 2.0.1 2.0.1 2.0.1 2.0.1 2.0.1 2.0.1 2.0.1 2.0.1
  2.0.1 2.0.1 2.0.1 2.0.1 2.0.1 2.0.1 2.0.1 2.0.1 2.0.1 2.0.1 2.0.1 2.0.1 2.0.1 2.0.1 2.0.1 2.0.1
  2.0.1 2.0.1 2.0.1 2.0.1 2.0.1 2.0.1 2.0.1 2.0.1 2.0.1 2.0.1 2.0.1 2.0.1 2.0.1 2.0.1 2.0.1 2.0.1
  2.0.1 2.0.1 2.0.1 2.0.1 2.0.1 2.0.1 2.0.1 2.0.1 2.0.1 2.0.1 2.0.1 2.0.1 2.0.1 2.0.1 2.0.1 2.0.1
  2.0.1 2.0.1 2.0.1 2.0.1 2.0.1 2.0.1 2.0.1 A.0.m1DBF 2.0.1 2.0.1 2.0.1 2.0.1 2.0.1 2.0.1 2.0.1
  2.0.1 2.0.1 2.0.1 2.0.1 2.0.1 2.0.1 2.0.1 2.0.1 2.0.1 2.0.1 2.0.1 2.0.1 2.0.1 2.0.1 2.0.1 2.0.1
  2.0.1 2.0.1 2.0.1 2.0.1 2.0.1 2.0.1 2.0.1 2.0.1 2.0.1 2.0.1 2.0.1 2.0.1 2.0.1 2.0.1 2.0.1 2.0.1
  2.0.1 2.0.1 2.0.1 2.0.1 2.0.1 2.0.1 2.0.1 2.0.1 2.0.1 A.7.m8 9.5.m8 B.7.m8 9.7.m8 9.5.m8 C.0.m8
  2.0.m8 2.0.m8 2.0.m8 9.7.m8 19.7.m8 9.7.m8 9.7.m8 9.1.m8 1.1.m4A 1.0.m9 C.3.m56 1.0.m9 C.1.m8
  1.1.m64 D.1.m8 1.1.m70 1.0.m7 C.1.m80 1.1.m7E 1.0.m9 12A.0.m1D5D 4.0.m20BF 1.0.m2046 7.0.1C
  2E.F.10 14.0.1 333.19.1A 731.2F.30 31.0.1 2.0.m29F7 1.0.mEE6 1.0.m29E7 3.0.1 2.0.1 2.0.1
  2.0.m2A1C 1.0.m29FD 1.0.m2A1F 1.0.m2A1E 2.0.1 3.0.1 9.1.m2A3F 1.0.1 2.0.1 2.0.1 2.0.1 2.0.1
  2.0.1 2.0.1 2.0.1 2.0.1 2.0.1 2.0.1 2.0.1 2.0.1 2.0.1 2.0.1 2.0.1 2.0.1 2.0.1 2.0.1 2.0.1 2.0.1
  2.0.1 2.0.1 2.0.1 2.0.1 2.0.1 2.0.1 2.0.1 2.0.1 2.0.1 2.0.1 2.0.1 2.0.1 2.0.1 2.0.1 2.0.1 2.0.1
  2.0.1 2.0.1 2.0.1 2.0.1 2.0.1 2.0.1 2.0.1 2.0.1 2.0.1 2.0.1 2.0.1 2.0.1 2.0.1 9.0.1 2.0.1 5.0.1
  794E.0.1 2.0.1 2.0.1 2.0.1 2.0.1 2.0.1 2.0.1 2.0.1 2.0.1 2.0.1 2.0.1 2.0.1 2.0.1 2.0.1 2.0.1
  2.0.1 2.0.1 2.0.1 2.0.1 2.0.1 2.0.1 2.0.1 2.0.1 14.0.1 2.0.1 2.0.1 2.0.1 2.0.1 2.0.1 2.0.1 2.0.1
  2.0.1 2.0.1 2.0.1 2.0.1 2.0.1 2.0.1 88.0.1 2.0.1 2.0.1 2.0.1 2.0.1 2.0.1 2.0.1 4.0.1 2.0.1 2.0.1
  2.0.1 2.0.1 2.0.1 2.0.1 2.0.1 2.0.1 2.0.1 2.0.1 2.0.1 2.0.1 2.0.1 2.0.1 2.0.1 2.0.1 2.0.1 2.0.1
  2.0.1 2.0.1 2.0.1 2.0.1 2.0.1 2.0.1 2.0.1 2.0.1 2.0.1 2.0.1 2.0.1 2.0.1 B.0.1 2.0.1 2.0.m8A04
  1.0.1 2.0.1 2.0.1 2.0.1 2.0.1 5.0.1 2.0.mA528 3.0.1 2.0.1 4.0.1 2.0.1 2.0.1 2.0.1 2.0.1 2.0.1
  2.0.1 2.0.1 2.0.1 2.0.1 2.0.mA544 1.0.mA54F 1.0.mA54B 1.0.mA541 1.0.mA544 2.0.mA512 1.0.mA52A
  1.0.mA515 1.0.3A0 1.0.1 2.0.1 2.0.1 2.0.1 2.0.1 2.0.1 2.0.1 2.0.1 2.0.m30 1.0.mA543 1.0.m8A38
  1.0.1 2.0.1 7.0.1 6.0.1 2.0.1 1D.0.1 572C.19.20 4C6.27.28 89.23.28 9D.A.27 2.E.27 2.6.27 2.1.27
  6EB.32.40 BEE.1F.20 5581.1F.20 7AA1.21.22"

/-- How far the upper-case form of a letter lies from it. -/
def upperRuns : Runs := Runs.ofText "
  61.19.m20 3B.0.2E7 2B.16.m20 2.6.m20 1.0.79 2.0.m1 2.0.m1 2.0.m1 2.0.m1 2.0.m1 2.0.m1 2.0.m1
  2.0.m1 2.0.m1 2.0.m1 2.0.m1 2.0.m1 2.0.m1 2.0.m1 2.0.m1 2.0.m1 2.0.m1 2.0.m1 2.0.m1 2.0.m1
  2.0.m1 2.0.m1 2.0.m1 2.0.m1 2.0.mE8 2.0.m1 2.0.m1 2.0.m1 3.0.m1 2.0.m1 2.0.m1 2.0.m1 2.0.m1
  2.0.m1 2.0.m1 2.0.m1 3.0.m1 2.0.m1 2.0.m1 2.0.m1 2.0.m1 2.0.m1 2.0.m1 2.0.m1 2.0.m1 2.0.m1
  2.0.m1 2.0.m1 2.0.m1 2.0.m1 2.0.m1 2.0.m1 2.0.m1 2.0.m1 2.0.m1 2.0.m1 2.0.m1 2.0.m1 2.0.m1
  3.0.m1 2.0.m1 2.0.m1 1.0.m12C 1.0.C3 3.0.m1 2.0.m1 3.0.m1 4.0.m1 6.0.m1 3.0.61 4.0.m1 1.0.A3
  4.0.82 3.0.m1 2.0.m1 2.0.m1 3.0.m1 5.0.m1 3.0.m1 4.0.m1 2.0.m1 3.0.m1 4.0.m1 2.0.38 6.0.m1
  1.0.m2 2.0.m1 1.0.m2 2.0.m1 1.0.m2 2.0.m1 2.0.m1 2.0.m1 2.0.m1 2.0.m1 2.0.m1 2.0.m1 2.0.m1
  1.0.m4F 2.0.m1 2.0.m1 2.0.m1 2.0.m1 2.0.m1 2.0.m1 2.0.m1 2.0.m1 2.0.m1 3.0.m1 1.0.m2 2.0.m1
  4.0.m1 2.0.m1 2.0.m1 2.0.m1 2.0.m1 2.0.m1 2.0.m1 2.0.m1 2.0.m1 2.0.m1 2.0.m1 2.0.m1 2.0.m1
  2.0.m1 2.0.m1 2.0.m1 2.0.m1 2.0.m1 2.0.m1 2.0.m1 4.0.m1 2.0.m1 2.0.m1 2.0.m1 2.0.m1 2.0.m1
  2.0.m1 2.0.m1 2.0.m1 9.0.m1 3.1.2A3F 2.0.m1 5.0.m1 2.0.m1 2.0.m1 2.0.m1 2.0.m1 1.0.2A1F 1.0.2A1C
  1.0.2A1E 1.0.mD2 1.0.mCE 2.1.mCD 2.0.mCA 2.0.mCB 1.0.A54F 4.0.mCD 1.0.A54B 2.0.mCF 2.0.A528
  1.0.A544 2.0.mD1 1.0.mD3 1.0.A544 1.0.29F7 1.0.A541 3.0.mD3 2.0.29FD 1.0.mD5 3.0.mD6 8.0.29E7
  3.0.mDA 2.0.A543 1.0.mDA 4.0.A52A 1.0.mDA 1.0.m45 1.1.mD9 1.0.m47 6.0.mDB B.0.A515 1.0.A512
  A7.0.54 2C.0.m1 2.0.m1 4.0.m1 4.2.82 2F.0.m26 1.2.m25 2.10.m20 1.0.m1F 1.8.m20 1.0.m40 1.1.m3F
  2.0.m3E 1.0.m39 4.0.m2F 1.0.m36 1.0.m8 2.0.m1 2.0.m1 2.0.m1 2.0.m1 2.0.m1 2.0.m1 2.0.m1 2.0.m1
  2.0.m1 2.0.m1 2.0.m1 2.0.m1 1.0.m56 1.0.m50 1.0.7 1.0.m74 2.0.m60 3.0.m1 3.0.m1 35.1F.m20
  1.F.m50 2.0.m1 2.0.m1 2.0.m1 2.0.m1 2.0.m1 2.0.m1 2.0.m1 2.0.m1 2.0.m1 2.0.m1 2.0.m1 2.0.m1
  2.0.m1 2.0.m1 2.0.m1 2.0.m1 2.0.m1 A.0.m1 2.0.m1 2.0.m1 2.0.m1 2.0.m1 2.0.m1 2.0.m1 2.0.m1
  2.0.m1 2.0.m1 2.0.m1 2.0.m1 2.0.m1 2.0.m1 2.0.m1 2.0.m1 2.0.m1 2.0.m1 2.0.m1 2.0.m1 2.0.m1
  2.0.m1 2.0.m1 2.0.m1 2.0.m1 2.0.m1 2.0.m1 3.0.m1 2.0.m1 2.0.m1 2.0.m1 2.0.m1 2.0.m1 2.0.m1
  1.0.mF 2.0.m1 2.0.m1 2.0.m1 2.0.m1 2.0.m1 2.0.m1 2.0.m1 2.0.m1 2.0.m1 2.0.m1 2.0.m1 2.0.m1
  2.0.m1 2.0.m1 2.0.m1 2.0.m1 2.0.m1 2.0.m1 2.0.m1 2.0.m1 2.0.m1 2.0.m1 2.0.m1 2.0.m1 2.0.m1
  2.0.m1 2.0.m1 2.0.m1 2.0.m1 2.0.m1 2.0.m1 2.0.m1 2.0.m1 2.0.m1 2.0.m1 2.0.m1 2.0.m1 2.0.m1
  2.0.m1 2.0.m1 2.0.m1 2.0.m1 2.0.m1 2.0.m1 2.0.m1 2.0.m1 2.0.m1 2.0.m1 32.25.m30 B4A.2A.BC0
  3.2.BC0 2F9.5.m8 883.0.m186E 1.0.m186D 1.0.m1864 1.1.m1862 1.0.m1863 1.0.m185C 1.0.m1825
  1.0.89C2 F1.0.8A04 4.0.EE6 11.0.8A38 73.0.m1 2.0.m1 2.0.m1 2.0.m1 2.0.m1 2.0.m1 2.0.m1 2.0.m1
  2.0.m1 2.0.m1 2.0.m1 2.0.m1 2.0.m1 2.0.m1 2.0.m1 2.0.m1 2.0.m1 2.0.m1 2.0.m1 2.0.m1 2.0.m1
  2.0.m1 2.0.m1 2.0.m1 2.0.m1 2.0.m1 2.0.m1 2.0.m1 2.0.m1 2.0.m1 2.0.m1 2.0.m1 2.0.m1 2.0.m1
  2.0.m1 2.0.m1 2.0.m1 2.0.m1 2.0.m1 2.0.m1 2.0.m1 2.0.m1 2.0.m1 2.0.m1 2.0.m1 2.0.m1 2.0.m1
  2.0.m1 2.0.m1 2.0.m1 2.0.m1 2.0.m1 2.0.m1 2.0.m1 2.0.m1 2.0.m1 2.0.m1 2.0.m1 2.0.m1 2.0.m1
  2.0.m1 2.0.m1 2.0.m1 2.0.m1 2.0.m1 2.0.m1 2.0.m1 2.0.m1 2.0.m1 2.0.m1 2.0.m1 2.0.m1 2.0.m1
  2.0.m1 2.0.m1 6.0.m3B 6.0.m1 2.0.m1 2.0.m1 2.0.m1 2.0.m1 2.0.m1 2.0.m1 2.0.m1 2.0.m1 2.0.m1
  2.0.m1 2.0.m1 2.0.m1 2.0.m1 2.0.m1 2.0.m1 2.0.m1 2.0.m1 2.0.m1 2.0.m1 2.0.m1 2.0.m1 2.0.m1
  2.0.m1 2.0.m1 2.0.m1 2.0.m1 2.0.m1 2.0.m1 2.0.m1 2.0.m1 2.0.m1 2.0.m1 2.0.m1 2.0.m1 2.0.m1
  2.0.m1 2.0.m1 2.0.m1 2.0.m1 2.0.m1 2.0.m1 2.0.m1 2.0.m1 2.0.m1 2.0.m1 2.0.m1 2.0.m1 1.7.8 9.5.8
  B.7.8 9.7.8 9.5.8 C.0.8 2.0.8 2.0.8 2.0.8 9.7.8 9.1.4A 1.3.56 1.1.64 1.1.80 1.1.70 1.1.7E 33.1.8
  D.0.m1C25 12.1.8 F.1.8 4.0.7 169.0.m1C 22.F.m10 5.0.m1 34C.19.m1A 747.2F.m30 2.0.m1 4.0.m2A2B
  1.0.m2A28 2.0.m1 2.0.m1 2.0.m1 7.0.m1 3.0.m1 B.0.m1 2.0.m1 2.0.m1 2.0.m1 2.0.m1 2.0.m1 2.0.m1
  2.0.m1 2.0.m1 2.0.m1 2.0.m1 2.0.m1 2.0.m1 2.0.m1 2.0.m1 2.0.m1 2.0.m1 2.0.m1 2.0.m1 2.0.m1
  2.0.m1 2.0.m1 2.0.m1 2.0.m1 2.0.m1 2.0.m1 2.0.m1 2.0.m1 2.0.m1 2.0.m1 2.0.m1 2.0.m1 2.0.m1
  2.0.m1 2.0.m1 2.0.m1 2.0.m1 2.0.m1 2.0.m1 2.0.m1 2.0.m1 2.0.m1 2.0.m1 2.0.m1 2.0.m1 2.0.m1
  2.0.m1 2.0.m1 2.0.m1 2.0.m1 9.0.m1 2.0.m1 5.0.m1 D.25.m1C60 2.0.m1C60 6.0.m1C60 7914.0.m1 2.0.m1
  2.0.m1 2.0.m1 2.0.m1 2.0.m1 2.0.m1 2.0.m1 2.0.m1 2.0.m1 2.0.m1 2.0.m1 2.0.m1 2.0.m1 2.0.m1
  2.0.m1 2.0.m1 2.0.m1 2.0.m1 2.0.m1 2.0.m1 2.0.m1 2.0.m1 14.0.m1 2.0.m1 2.0.m1 2.0.m1 2.0.m1
  2.0.m1 2.0.m1 2.0.m1 2.0.m1 2.0.m1 2.0.m1 2.0.m1 2.0.m1 2.0.m1 88.0.m1 2.0.m1 2.0.m1 2.0.m1
  2.0.m1 2.0.m1 2.0.m1 4.0.m1 2.0.m1 2.0.m1 2.0.m1 2.0.m1 2.0.m1 2.0.m1 2.0.m1 2.0.m1 2.0.m1
  2.0.m1 2.0.m1 2.0.m1 2.0.m1 2.0.m1 2.0.m1 2.0.m1 2.0.m1 2.0.m1 2.0.m1 2.0.m1 2.0.m1 2.0.m1
  2.0.m1 2.0.m1 2.0.m1 2.0.m1 2.0.m1 2.0.m1 2.0.m1 2.0.m1 B.0.m1 2.0.m1 3.0.m1 2.0.m1 2.0.m1
  2.0.m1 2.0.m1 5.0.m1 5.0.m1 2.0.m1 1.0.30 3.0.m1 2.0.m1 2.0.m1 2.0.m1 2.0.m1 2.0.m1 2.0.m1
  2.0.m1 2.0.m1 2.0.m1 C.0.m1 2.0.m1 2.0.m1 2.0.m1 2.0.m1 2.0.m1 2.0.m1 2.0.m1 5.0.m1 2.0.m1
  7.0.m1 6.0.m1 2.0.m1 1D.0.m1 35D.0.m3A0 1D.4F.m97D0 5382.19.m20 4CE.27.m28 89.23.m28 9C.A.m27
  2.E.m27 2.6.m27 2.1.m27 704.32.m40 BCE.1F.m20 5581.1F.m20 7AA3.21.m22"

/-- Letters whose upper-case form is several letters, each with these behind a colon. -/
def upperWords : String := id "
  DF:53,53 149:2BC,4E 1F0:4A,30C 390:399,308,301 3B0:3A5,308,301 587:535,552 1E96:48,331
  1E97:54,308 1E98:57,30A 1E99:59,30A 1E9A:41,2BE 1F50:3A5,313 1F52:3A5,313,300 1F54:3A5,313,301
  1F56:3A5,313,342 1F80:1F08,399 1F81:1F09,399 1F82:1F0A,399 1F83:1F0B,399 1F84:1F0C,399
  1F85:1F0D,399 1F86:1F0E,399 1F87:1F0F,399 1F88:1F08,399 1F89:1F09,399 1F8A:1F0A,399
  1F8B:1F0B,399 1F8C:1F0C,399 1F8D:1F0D,399 1F8E:1F0E,399 1F8F:1F0F,399 1F90:1F28,399
  1F91:1F29,399 1F92:1F2A,399 1F93:1F2B,399 1F94:1F2C,399 1F95:1F2D,399 1F96:1F2E,399
  1F97:1F2F,399 1F98:1F28,399 1F99:1F29,399 1F9A:1F2A,399 1F9B:1F2B,399 1F9C:1F2C,399
  1F9D:1F2D,399 1F9E:1F2E,399 1F9F:1F2F,399 1FA0:1F68,399 1FA1:1F69,399 1FA2:1F6A,399
  1FA3:1F6B,399 1FA4:1F6C,399 1FA5:1F6D,399 1FA6:1F6E,399 1FA7:1F6F,399 1FA8:1F68,399
  1FA9:1F69,399 1FAA:1F6A,399 1FAB:1F6B,399 1FAC:1F6C,399 1FAD:1F6D,399 1FAE:1F6E,399
  1FAF:1F6F,399 1FB2:1FBA,399 1FB3:391,399 1FB4:386,399 1FB6:391,342 1FB7:391,342,399 1FBC:391,399
  1FC2:1FCA,399 1FC3:397,399 1FC4:389,399 1FC6:397,342 1FC7:397,342,399 1FCC:397,399
  1FD2:399,308,300 1FD3:399,308,301 1FD6:399,342 1FD7:399,308,342 1FE2:3A5,308,300
  1FE3:3A5,308,301 1FE4:3A1,313 1FE6:3A5,342 1FE7:3A5,308,342 1FF2:1FFA,399 1FF3:3A9,399
  1FF4:38F,399 1FF6:3A9,342 1FF7:3A9,342,399 1FFC:3A9,399 FB00:46,46 FB01:46,49 FB02:46,4C
  FB03:46,46,49 FB04:46,46,4C FB05:53,54 FB06:53,54 FB13:544,546 FB14:544,535 FB15:544,53B
  FB16:54E,546 FB17:544,53D"

/-- Characters that are passed over in deciding whether a word goes on. -/
def caselessRuns : Runs := Runs.ofText "
  27 7 C 24 2 48 5 2 5 3.1 1F8.BF 5.1 5 A.1 2 FC.6 D0 6 32.2C 2 2.1 2.1 2 2D C.5 B.A 2 24 B.14 11
  66.7 2.9 2.3 22 2 1F.1A 5C.A 3B.A 5 3 19.17 2C.2 2D 8.1 7.7 2A.39 38 2 5.7 5 4.6 B.1 E 10 3B 5.3
  9 15.1 1B 3.1 3A 5.1 5.1 3.2 4 1F.1 4 C.1 3A 5.4 2.1 5 15.1 17.5 2 3B 3 2.3 9 8.1 C.1 1F 3E D 33
  4 38 2.2 6.2 2.3 8.1 C.1 1E 3B 3 7 6.1 15.1 1D.1 3A.1 5.3 9 15.1 1E 49 8.2 2 5B 3.6 C.8 63 3.8 A
  2.5 4B.1 1C 2 2 38.D 2.4 2.1 6.A 2.23 A 67.3 2.5 2.1 3.1 1A.1 5.2 11.3 E 3.1 7 10 5F 261.2 3B3.2
  1E.1 1F.1 1F.1 41.1 2.6 9 3.A 4 6 2E.4 34 42.1 23 77.2 5.1 A 7.2 DC.1 3 3B 2.6 2 2 3.7 7.9 3 28
  9.1E 32.3 31 2.4 2 6 29.8 D.1 21.3 3.1 2.2 39 2.1 4 2.2 3B.7 3.1 41.5 53.2 2.C 2.6 5 7 4.1 33.3E
  E 23.64 1BE 2.2 C.2 E.2 E.2 E.1 D.4 9.1 B 3 3.4 32.4 2.9 2 E 11.C 34.20 B8C.1 72.2 7E 10 61.1F
  30 1D6 25.3 4.4 6 5E.5 5E.2 6F17 4E3.5 10F 63.3 2.9 2 1D.3 51.1 F.21 4F 18.2 68.2 4.1 9 4 5 1A.1
  6 98.1 1B.11 E 27.7 1A.A 2F.2 31 3.3 3.1 12 16.1 43.5 3.1 3.1 D 9 24 C 34 2.2 3.1 6.1 2 1C F.1
  6.1 2 65.4 A.2 7A 3 5 4F31 94.10 23E.F 4 D.F 23 3 AA 8 7 C 24 2 30 2E.1 44 16.2 202 E3 96.4
  406.5 2.29 2.8 247.2 2.1 6.3 29.2 5 A6.1 23E.3 184.1 9A.A 32.3 7C 37.E 2A 3.1 B.2 32.3 3.1 3 5 B
  33.2 25.4 2.7 3F D.1 35.8 B.3 3 60.2 3 2.1 7 A1 4.7 16.1 3A.1 4 26.6 4.4 C4.7 3.2 2 18 55.5 2
  5.1 2.1 EF.3 7.1 2.1 1C.1 56.7 3 2.1 6B 2 3.5 2 66.2 3.3 2.4 104.8 2.1 101.1 2 5 91.3 3.1 5 21.9
  29.5 3.3 9 A.5 3.2 2F.C 2.1 197.6 2.5 2 53.15 3.6 2.1 2.1 7B.5 4 2.1 2.6 2 49.1 4 2 15C.1 153C.8
  36B8.4 3C.6 A.3 40C 40.10 41.1 2.1 400C.3 2.6 2.1 C9F.1 2.3 125D.2D 3.16 221.2 A.F 3.6 1F.3 95.2
  7BC.36 5.31 9 F 17.4 2.E 551.6 2.10 3.6 2.1 2.4 106.D 171 3E.3 5E1.6 6E.7 AB0.4 C0C02 1F.5F
  81.EF"

/-- Letters that have a case, those passed over apart. -/
def casedRuns : Runs := Runs.ofText "
  41.19 7.19 30 B 5 6.16 2.1E 2.C2 2.3 5.CF 2.1A C1.3 3.1 4.2 2 7 2.2 2 2.13 2.52 2.8A 9.A5 2.25
  A.28 B18.25 2 6 3.2A 3.2 2A1.55 3.5 883.8 8.2A 3.2 41.2B 40.C 2.21 66.115 3.5 3.25 3.5 3.7 2 2 2
  2.1E 3.34 2.6 2 4.2 2.6 4.3 3.5 5.C 6.2 2.6 106 5 3.9 2 4.4 7 2 2 2.3 2.5 5 3.3 6.4 5 12.1F 4.1
  332.33 717.7B 3.66 7.3 4.1 D.25 2 6 7913.2D 13.1B 87.4D 2.16 4.3 2.3A 6.1 2 2.4 1C.1 4 336.2A
  6.8 8.4F 4F41.6 D.4 40A.19 7.19 4A6.4F 61.23 5.23 75.A 2.E 2.6 2.1 2.A 2.E 2.6 2.1 6C4.32 E.32
  BAE.3F 5561.3F 6581.54 2.46 2.1 3 3.1 3.3 2.B 2 2.6 2.40 2.3 3.7 2.6 2.1B 2.3 2.4 2 4.6 2.153
  3.18 2.18 2.1E 2.18 2.1E 2.18 2.1E 2.18 2.1E 2.18 2.7 735.9 2.13 9E2.43 7ED.19 7.19 7.19"

/-- The upper-case forms that are several letters. -/
def upperSpecials : List (Nat × List Char) :=
  ((Text.splitOn ' ' (upperWords.toList.map fun c => if c = '\n' then ' ' else c)).filter
    fun w => !w.isEmpty).map fun word =>
      match Text.cut? (· = ':') word with
      | some (c, forms) => (hexNat c, (Text.splitOn ',' forms).map fun f => Char.ofNat (hexNat f))
      | none => (hexNat word, [])

/-- The letter `c` moved by the distance a table gives. -/
def shift (runs : Runs) (c : Char) : Char :=
  Char.ofNat ((c.toNat : Int) + runs.valueAt 0 c).toNat

/-- The small form of a capital sigma between the characters `before`, nearest first,
and `after`: final where a word ends with it. -/
def lowerSigma (before after : List Char) : Char :=
  let ends (cs : List Char) : Bool :=
    match cs.dropWhile caselessRuns.holds with
    | [] => true
    | c :: _ => !casedRuns.holds c
  if ends before then 'σ' else if ends after then 'ς' else 'σ'

/-- The lower-case form of one character that stands between `before`, nearest first,
and `after`. -/
def lowerChar (before : List Char) (c : Char) (after : List Char) : List Char :=
  if c.toNat < 128 then [c.toLower]
  else if c = 'Σ' then [lowerSigma before after]
  else if c = 'İ' then ['i', Char.ofNat 0x307]
  else [shift lowerRuns c]

/-- Lower case of `cs` behind the characters `before`, nearest first. -/
def lowerFrom (before : List Char) : List Char → List Char
  | [] => []
  | c :: cs => lowerChar before c cs ++ lowerFrom (c :: before) cs

/-- The text in lower case. -/
def lower (cs : List Char) : List Char := lowerFrom [] cs

/-- The upper-case form of one character. -/
def upperChar (c : Char) : List Char :=
  if c.toNat < 128 then [c.toUpper]
  else match upperSpecials.lookup c.toNat with
    | some forms => forms
    | none => [shift upperRuns c]

/-- The text in upper case. -/
def upper (cs : List Char) : List Char := cs.flatMap upperChar

/-- The text in lower case. -/
def lowerString (s : String) : String := String.ofList (lower s.toList)

/-- The text in upper case. -/
def upperString (s : String) : String := String.ofList (upper s.toList)

end Unicode
end RegistryAuth
