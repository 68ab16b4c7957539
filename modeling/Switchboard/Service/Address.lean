import Switchboard.Text.Hex
import Switchboard.Text.Utf8

namespace Switchboard.Service

def percentBytes : List Char → List Nat
  | '%' :: a :: b :: cs => match Text.hexDigit? a, Text.hexDigit? b with
      | some x, some y => (x * 16 + y) :: percentBytes cs
      | _, _ => Text.encodeUtf8 '%' ++ percentBytes (a :: b :: cs)
  | c :: cs => Text.encodeUtf8 c ++ percentBytes cs
  | [] => []

def percentDecode (cs : List Char) : List Char := Text.decodeUtf8 (percentBytes cs)

def pieces (sep : Char) : List Char → List (List Char)
  | [] => [[]]
  | c :: cs =>
      if c = sep then [] :: pieces sep cs
      else match pieces sep cs with
        | [] => [[c]]
        | p :: ps => (c :: p) :: ps

def withoutDots (segments : List (List Char)) : List (List Char) :=
  segments.foldl (fun out s =>
    if s = ['.'] then out else if s = ['.', '.'] then out.dropLast else out ++ [s]) []

/-- Two slashes in front lead in a host, which is no part of the path. -/
def withoutHost : List Char → List Char
  | '/' :: '/' :: cs => cs.dropWhile (· ≠ '/')
  | cs => cs

def settle (segments : List (List Char)) : List Char := ['/'].intercalate (withoutDots segments)

/-- A path is decoded where it is sent and once more where it arrives. -/
def pathSegments (cs : List Char) : List String :=
  let sent := settle (pieces '/' ((withoutHost cs).dropWhile (· = '/')))
  (pieces '/' (percentDecode (percentDecode sent))).map String.ofList

def queryPair (cs : List Char) : String × String :=
  let plain := fun cs => String.ofList (percentDecode (cs.map (fun c => if c = '+' then ' ' else c)))
  (plain (cs.takeWhile (· ≠ '=')), plain ((cs.dropWhile (· ≠ '=')).drop 1))

def queryPairs (cs : List Char) : List (String × String) :=
  ((pieces '&' cs).filter (fun p => !p.isEmpty)).map queryPair

structure Address where
  path : List String
  query : List (String × String)
  deriving DecidableEq, Repr

namespace Address

def parse (s : String) : Address :=
  let cs := s.toList.takeWhile (· ≠ '#')
  ⟨pathSegments (cs.takeWhile (· ≠ '?')), queryPairs ((cs.dropWhile (· ≠ '?')).drop 1)⟩

def parameter? (a : Address) (name : String) : Option String := a.query.reverse.lookup name

def trimmed (a : Address) : Address :=
  { a with path := (a.path.reverse.dropWhile (fun s => s = "")).reverse }

/-- The address as a caller sends it who was told of it: encoded once, and decoded twice. -/
def resent (a : Address) : Address :=
  let cs := percentDecode (settle (a.path.map String.toList))
  { a with path := (pieces '/' cs).map String.ofList }

end Address

end Switchboard.Service
