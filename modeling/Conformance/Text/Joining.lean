import Conformance.Text.Mark

/-!
Which letters are joined to their neighbours in writing. A joiner between letters makes sense after
a mark that joins, and the one that keeps letters apart also between letters that would be joined.
-/

namespace Conformance.Text

/-- Letters that are joined to the one after them. -/
def joinsNextTable : List String := [
  "620 626 628 62A-62E 633-63F 641-647 649-64A 66E-66F 679-687 69A-6BF 6C1-6C2 6CC 6CE 6D0-6D1",
  "6FA-6FC 6FF 712-714 71A-71D 71F-727 729 72B 72D-72E 74E-758 75C-766 850-853 855 8A0 8A2-8A9",
  "1807 1820-1877 1887-18A8 18AA A840-A872"]

/-- Letters that are joined to the one before them. -/
def joinsPreviousTable : List String := [
  "620 622-63F 641-64A 66E-66F 671-673 679-6D3 6D5 6EE-6EF 6FA-6FC 6FF 710 712-72F 74D-766",
  "850-855 8A0 8A2-8AC 1807 1820-1877 1887-18A8 18AA A840-A871"]

def joinsNext : CodePoints := .read joinsNextTable

def joinsPrevious : CodePoints := .read joinsPreviousTable

/-- Whether a joiner may stand after `before`, given from its end, and in front of `after`. -/
def mayStand (joinerChar : Char) (before after : List Char) : Bool :=
  before.head?.any isVirama
    || (joinerChar = '\u200C'
      && (before.dropWhile isNonspacing).head?.any joinsNext.contains
      && (after.dropWhile isNonspacing).head?.any joinsPrevious.contains)

/-- Every joiner in a text has its place. -/
def joinersStand (before : List Char) : List Char → Bool
  | [] => true
  | c :: after =>
    (!(c = '\u200C' || c = '\u200D') || mayStand c before after)
      && joinersStand (c :: before) after

end Conformance.Text
