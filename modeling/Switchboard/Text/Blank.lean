import Switchboard.Text.Ranges

namespace Switchboard.Text

def blankRanges : List (Nat × Nat) :=
  [(0x09, 0x0D), (0x20, 0x20), (0x85, 0x85), (0xA0, 0xA0), (0x1680, 0x1680), (0x2000, 0x200A),
   (0x2028, 0x2029), (0x202F, 0x202F), (0x205F, 0x205F), (0x3000, 0x3000)]

def isBlank (c : Char) : Bool := inRanges blankRanges c.toNat

/-- What parts words: white space and the four information separators. -/
def isBreak (c : Char) : Bool := isBlank c || inRanges [(0x1C, 0x1F)] c.toNat

def trimBy (p : Char → Bool) (cs : List Char) : List Char :=
  ((cs.dropWhile p).reverse.dropWhile p).reverse

def trim (cs : List Char) : List Char := trimBy isBlank cs

def splitRun (p : Char → Bool) : List Char → List Char → List (List Char)
  | run, [] => if run.isEmpty then [] else [run]
  | run, c :: cs =>
      if p c then (if run.isEmpty then splitRun p [] cs else run :: splitRun p [] cs)
      else splitRun p (run ++ [c]) cs

def splitOnBlocks (p : Char → Bool) (cs : List Char) : List (List Char) := splitRun p [] cs

def wordCount (s : String) : Nat := (splitOnBlocks isBreak s.toList).length

end Switchboard.Text
