import Conformance.Text.Emoji
import Conformance.Text.Printable

/-!
The number of terminal columns a text takes: two for an East Asian wide or fullwidth character and
for an emoji, none for extenders, formats and jamo within a syllable, and one for everything else,
controls included.
-/

namespace Conformance.Text

/-- East Asian wide and fullwidth characters. -/
def wideTable : List String := [
  "1100-115F 231A-231B 2329-232A 23E9-23EC 23F0 23F3 25FD-25FE 2614-2615 2630-2637 2648-2653 267F",
  "268A-268F 2693 26A1 26AA-26AB 26BD-26BE 26C4-26C5 26CE 26D4 26EA 26F2-26F3 26F5 26FA 26FD 2705",
  "270A-270B 2728 274C 274E 2753-2755 2757 2795-2797 27B0 27BF 2B1B-2B1C 2B50 2B55 2E80-303E",
  "3041-3247 3250-A4C6 A960-A97C AC00-D7A3 F900-FAD9 FE10-FE19 FE30-FE6B FF01-FF60 FFE0-FFE6",
  "16FE0-1B2FB 1D15E-1D15F 1D1BB-1D1BC 1D300-1D376 1F004 1F0CF 1F18E 1F191-1F19A 1F1E6-1F320",
  "1F32D-1F335 1F337-1F37C 1F37E-1F393 1F3A0-1F3CA 1F3CF-1F3D3 1F3E0-1F3F0 1F3F4 1F3F8-1F43E",
  "1F440 1F442-1F4FC 1F4FF-1F53D 1F54B-1F54E 1F550-1F567 1F57A 1F595-1F596 1F5A4 1F5FB-1F64F",
  "1F680-1F6C5 1F6CC 1F6D0-1F6D2 1F6D5-1F6DF 1F6EB-1F6EC 1F6F4-1F6FC 1F7E0-1F7F0 1F90C-1F93A",
  "1F93C-1F945 1F947-1F9FF 1FA70-1FAF8 20000-33479"]

/-- Formats and combining jamo. -/
def columnlessTable : List String := [
  "AD 605 61C 70F 890-891 8E2 1160-11FF 180E 200B 200D-200F 202A-202E 2060-206F 3164 A8FA",
  "D7B0-D7FB FEFF FFA0 FFF0-FFF8 1BCA0-1BCA3 1D173-1D17A E0000-E001F E0080-E00FF E01F0-E0FFF"]

def wide : CodePoints := .read wideTable

def columnless : CodePoints := .read columnlessTable

def charColumns (c : Char) : Nat :=
  if c.toNat < 0x80 then 1
  else if isExtender c || columnless.contains c then 0
  else if wide.contains c then 2
  else 1

/-- A picture that a selector turns into text takes one column. -/
def isTextPicture (c : Char) (rest : List Char) : Bool :=
  rest.head? = some textSelector && pictures.contains c
    && !(0x1F200 ≤ c.toNat && c.toNat ≤ 0x1F2FF)

def columnsOf (cs : List Char) : Nat :=
  match h : cutEmoji cs with
  | some rest =>
    have := length_cutEmoji h
    have := length_skipJoined_le rest
    2 + columnsOf (skipJoined rest)
  | none =>
    match cs with
    | [] => 0
    | c :: rest => (if isTextPicture c rest then 1 else charColumns c) + columnsOf rest
termination_by cs.length
decreasing_by
  · omega
  · simp

def columns (s : String) : Nat :=
  columnsOf s.toList

/-- `s` followed by the spaces that fill `width` columns. -/
def padColumns (width : Nat) (s : String) : String :=
  s ++ String.ofList (List.replicate (width - columns s) ' ')

/-- `s` followed by the spaces that make it `width` characters long. -/
def padChars (width : Nat) (s : String) : String :=
  s ++ String.ofList (List.replicate (width - s.length) ' ')

end Conformance.Text
