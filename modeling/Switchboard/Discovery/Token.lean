import Switchboard.Text.Blank

namespace Switchboard.Discovery

def isTokenChar (c : Char) : Bool :=
  ('a' ≤ c && c ≤ 'z') || ('0' ≤ c && c ≤ '9') || c = '_'

/-- Small letters. Outside ASCII only the Kelvin sign and the dotted capital I have a small form
with an ASCII letter in it; the small forms of all others separate tokens, as their capitals do. -/
def fold (c : Char) : List Char :=
  if 'A' ≤ c ∧ c ≤ 'Z' then [Char.ofNat (c.toNat + 32)]
  else if c = '\u212A' then ['k']
  else if c = '\u0130' then ['i', '\u0307']
  else [c]

def stopWords : List String :=
  ["a", "an", "the", "is", "are", "was", "were", "be", "been", "being", "have", "has", "had", "do",
   "does", "did", "will", "would", "could", "should", "may", "might", "shall", "can", "to", "of",
   "in", "for", "on", "with", "at", "by", "from", "as", "into", "through", "during", "before",
   "after", "and", "but", "or", "nor", "not", "so", "yet", "both", "either", "neither", "each",
   "every", "all", "any", "few", "more", "most", "other", "some", "such", "no", "only", "own",
   "same", "than", "too", "very", "just", "because", "if", "when", "where", "how", "what", "which",
   "who", "whom", "this", "that", "these", "those", "it", "its", "i", "me", "my", "we", "our",
   "you", "your", "he", "him", "his", "she", "her", "they", "them", "their"]

def isNoise (cs : List Char) : Bool := cs.length ≤ 1 || stopWords.contains (String.ofList cs)

def tokenChars (cs : List Char) : List (List Char) :=
  (Text.splitOnBlocks (fun c => !isTokenChar c) (cs.flatMap fold)).filter (fun t => !isNoise t)

def tokenize (s : String) : List String := (tokenChars s.toList).map String.ofList

def bump (t : String) : List (String × Nat) → List (String × Nat)
  | [] => [(t, 1)]
  | (u, n) :: rest => if u = t then (u, n + 1) :: rest else (u, n) :: bump t rest

def tally (ts : List String) : List (String × Nat) := ts.foldl (fun m t => bump t m) []

def occurrences (m : List (String × Nat)) (t : String) : Nat := (m.lookup t).getD 0

end Switchboard.Discovery
