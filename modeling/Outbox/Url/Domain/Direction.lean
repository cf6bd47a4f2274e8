import Outbox.Url.Domain.Mark

/-!
Names in scripts that run from right to left. If one label of a name has a character of such a
script, each label has to run in one direction only, so that a name cannot be shown in two ways.
Of the characters that no name may hold nothing is said.
-/

set_option autoImplicit false

namespace Outbox.Domain

inductive Direction where
  | left
  | right
  | europeanNumber
  | arabicNumber
  /-- That of the character before it. -/
  | mark
  | neutral
  deriving DecidableEq, Repr

/-- The letters that run from right to left, and what goes with them. -/
def rightToLeft : Ranges :=
  .ofRows
    ["5BE-5F4 608 60B 60D 61B-64A 66D-6D5 6E5-6E6 6EE-6EF 6FA-7F5 7FA-8C9 FBB2-FBC2 FE73",
     "10800-1091B 10920-10B35 10B40-10D23 10D4A-10D4F 10D6F-10D8F 10E80-10EC7 10F00-10FF6",
     "1E800-1ED3D"]

/-- The digits that run from right to left among letters that do. -/
def arabicNumbers : Ranges :=
  .ofRows
    ["660-669 66B-66C 10D30-10D49 10E60-10E7E"]

/-- The digits beyond ASCII that run from left to right. -/
def europeanNumbers : Ranges :=
  .ofRows
    ["6F0-6F9 102E1-102FB"]

/-- The characters that run as what is around them. -/
def neutrals : Ranges :=
  .ofRows
    ["A1-D7 F7 2B9-2BA 2C2-2CF 2D2-2ED 2EF-2FF 375 3F6 58A-58F 606-607 609-60A 60C 60E-60F 66A",
     "6DE 6E9 7F6-7F9 9F2-9F3 9FB AF1 BF3-BFA C78-C7E E3F F3A-F3D 1390-1399 1400 169B-169C",
     "17DB 17F0-180A 1940-1945 19DE-19FF 200C-214D 218A-2335 237B-2394 2396-26AB 26AD-27FF",
     "2900-2BFF 2CE5-2CEA 2CF9-2CFF 2E00-3004 3008-3020 3030 3037 303D-303F 30A0 30FB",
     "31C0-31E5 4DC0-4DFF A490-A4C6 A60D-A60F A673-A67F A700-A721 A788 A828-A82B A838-A839",
     "A874-A877 AB6A-AB6B FBC3-FE46 10101 10140-1018C 10190-101A0 1091F 10B39-10B3F 10D6E",
     "10ED0-10ED8 11052-11065 11660-1166C 11FD5-11FF1 16FE2 1CC00-1CEF0 1D1E9-1D245",
     "1D300-1D356 1E2FF 1EEF0-1F12F 1F16D-1F16F 1F1AD 1F260-1FBFA"]

/-- Marks that take no room and yet run from left to right. -/
def exceptions : Ranges :=
  .ofRows
    ["CBF CC6 11A07 11A08 11C3F"]

def asciiDirection (c : Char) : Direction :=
  if c.isAlpha then .left else if c.isDigit then .europeanNumber else .neutral

def direction (c : Char) : Direction :=
  if c.toNat < 128 then asciiDirection c
  else if exceptions.has c then .left
  else if isNonspacing c || c.toNat = 0x1171E then .mark
  else if rightToLeft.has c then .right
  else if arabicNumbers.has c then .arabicNumber
  else if europeanNumbers.has c then .europeanNumber
  else if neutrals.has c then .neutral
  else .left

def hasRight (label : Text) : Bool :=
  label.any fun c => direction c = .right || direction c = .arabicNumber

/-- Whether a label of a name with characters that run from right to left runs in one direction: it
starts with a letter, all runs as that letter does, and it ends in a letter or a number; digits of
one kind only go with letters that run from right to left. -/
def runsOneWay (label : Text) : Bool :=
  let all := label.map direction
  let last := (all.reverse.dropWhile (· = .mark)).headD .neutral
  match all with
  | [] => true
  | .left :: rest =>
    rest.all (fun d => d ≠ .right && d ≠ .arabicNumber)
      && (last = .left || last = .europeanNumber)
  | .right :: rest =>
    rest.all (· ≠ .left) && last ≠ .neutral
      && !(rest.contains .europeanNumber && rest.contains .arabicNumber)
  | _ => false

end Outbox.Domain
