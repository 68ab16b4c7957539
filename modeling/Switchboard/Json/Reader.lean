import Switchboard.Json
import Switchboard.Number.Reading
import Switchboard.Text.Encoding
import Switchboard.Text.Hex

namespace Switchboard.Json

inductive Unreadable where
  | malformed (pos : Nat)
  | undecodable
  | tooDeep
  | tooLong
  deriving DecidableEq, Repr

def nestingLimit : Nat := 960

structure Cursor where
  pos : Nat
  rest : List Char

namespace Cursor

def isSpace (c : Char) : Bool := c = ' ' || c = '\t' || c = '\n' || c = '\r'

def advance (c : Cursor) (n : Nat) : Cursor := ⟨c.pos + n, c.rest.drop n⟩

def skipSpaces (c : Cursor) : Cursor := c.advance (c.rest.takeWhile isSpace).length

end Cursor

def hexUnit? (cs : List Char) : Option Nat :=
  (cs.take 4).foldl (fun n c => do some ((← n) * 16 + (← Text.hexDigit? c))) (some 0)

def plainEscape? : Char → Option Char
  | '"' => some '"'
  | '\\' => some '\\'
  | '/' => some '/'
  | 'b' => some '\x08'
  | 'f' => some '\x0c'
  | 'n' => some '\n'
  | 'r' => some '\r'
  | 't' => some '\t'
  | _ => none

/-- The character that four hexadecimal digits, or a pair of such escapes, stand for, and how many
characters behind the `u` they take. The closing quote must still follow. -/
def escapedUnit (pos : Nat) (cs : List Char) : Except Unreadable (Char × Nat) :=
  if cs.length ≤ 4 then .error (.malformed (pos + 1))
  else match hexUnit? cs with
    | none => .error (.malformed (pos + 1))
    | some high => match Text.isHigh high, cs.drop 4 with
        | true, '\\' :: 'u' :: ds =>
            if ds.length ≤ 4 then .ok (Text.ofUnit high, 4)
            else match hexUnit? ds with
              | none => .error (.malformed (pos + 7))
              | some low =>
                  if Text.isLow low then .ok (Text.ofPair high low, 10)
                  else .ok (Text.ofUnit high, 4)
        | _, _ => .ok (Text.ofUnit high, 4)

/-- Reads up to the closing quote; `start` is the place of the opening one. -/
def readString (start : Nat) : Nat → Cursor → List Char → Except Unreadable (String × Cursor)
  | 0, c, _ => .error (.malformed c.pos)
  | fuel + 1, c, out =>
      match c.rest with
      | [] => .error (.malformed start)
      | '"' :: _ => .ok (String.ofList out.reverse, c.advance 1)
      | ['\\'] => .error (.malformed start)
      | '\\' :: 'u' :: cs => do
          let (ch, n) ← escapedUnit c.pos cs
          readString start fuel (c.advance (n + 2)) (ch :: out)
      | '\\' :: e :: _ => match plainEscape? e with
          | some ch => readString start fuel (c.advance 2) (ch :: out)
          | none => .error (.malformed c.pos)
      | ch :: _ =>
          if ch.toNat < 0x20 then .error (.malformed c.pos) else readString start fuel (c.advance 1) (ch :: out)

def readNumber (c : Cursor) : Except Unreadable (Json × Cursor) :=
  let negative := c.rest.head? = some '-'
  let body := if negative then c.advance 1 else c
  let whole := match body.rest with
    | '0' :: _ => ['0']
    | cs => cs.takeWhile Number.isDigit
  if whole = [] then .error (.malformed c.pos)
  else
    let c := body.advance whole.length
    let behind := match c.rest with
      | '.' :: cs => cs.takeWhile Number.isDigit
      | _ => []
    let c := if behind = [] then c else c.advance (behind.length + 1)
    let mark := match c.rest with
      | e :: s :: cs =>
          if e = 'e' ∨ e = 'E' then
            let ds := (if s = '+' ∨ s = '-' then cs else s :: cs).takeWhile Number.isDigit
            if ds = [] then [] else if s = '+' ∨ s = '-' then e :: s :: ds else e :: ds
          else []
      | _ => []
    let c := c.advance mark.length
    if behind = [] ∧ mark = [] then
      if Number.digitLimit < whole.length then .error .tooLong
      else .ok (.whole (Number.signedInt negative (Number.digitsValue whole)), c)
    else
      let e := (Number.readExponent? mark).getD 0
      let x := Number.ofDecimal (Number.digitsValue (whole ++ behind)) (e - behind.length)
      .ok (.real (if negative then -x else x), c)

def words : List (String × Json) :=
  [("null", .null), ("true", .bool true), ("false", .bool false), ("NaN", .real (0.0 / 0.0)),
   ("Infinity", .real Number.infinity), ("-Infinity", .real (-Number.infinity))]

def readWord? (c : Cursor) : Option (Json × Cursor) :=
  (words.find? (fun w => w.1.toList.isPrefixOf c.rest)).map (fun w => (w.2, c.advance w.1.length))

mutual
/-- `room` is how many more containers may be opened in one another. -/
def readValue : Nat → Nat → Cursor → Except Unreadable (Json × Cursor)
  | 0, _, c => .error (.malformed c.pos)
  | fuel + 1, room, c =>
      match c.rest, room with
      | '"' :: _, _ => do
          let (s, c) ← readString c.pos (c.rest.length + 1) (c.advance 1) []
          .ok (.str s, c)
      | '[' :: _, 0 | '\x7b' :: _, 0 => .error .tooDeep
      | '[' :: _, room + 1 => do
          let c := (c.advance 1).skipSpaces
          if c.rest.head? = some ']' then .ok (.arr [], c.advance 1)
          else
            let (items, c) ← readItems fuel room c
            .ok (.arr items, c)
      | '\x7b' :: _, room + 1 => do
          let c := (c.advance 1).skipSpaces
          if c.rest.head? = some '\x7d' then .ok (.obj [], c.advance 1)
          else
            let (members, c) ← readMembers fuel room c []
            .ok (.obj members, c)
      | _, _ => match readWord? c with
          | some r => .ok r
          | none => readNumber c

def readItems : Nat → Nat → Cursor → Except Unreadable (List Json × Cursor)
  | 0, _, c => .error (.malformed c.pos)
  | fuel + 1, room, c => do
      let (item, c) ← readValue fuel room c
      let c := c.skipSpaces
      match c.rest with
      | ']' :: _ => .ok ([item], c.advance 1)
      | ',' :: _ => do
          let (items, c) ← readItems fuel room (c.advance 1).skipSpaces
          .ok (item :: items, c)
      | _ => .error (.malformed c.pos)

def readMembers : Nat → Nat → Cursor → List (String × Json) →
    Except Unreadable (List (String × Json) × Cursor)
  | 0, _, c, _ => .error (.malformed c.pos)
  | fuel + 1, room, c, members =>
      match c.rest with
      | '"' :: _ => do
          let (key, c) ← readString c.pos (c.rest.length + 1) (c.advance 1) []
          let c := c.skipSpaces
          match c.rest with
          | ':' :: _ => do
              let (value, c) ← readValue fuel room (c.advance 1).skipSpaces
              let members := setKey key value members
              let c := c.skipSpaces
              match c.rest with
              | '\x7d' :: _ => .ok (members, c.advance 1)
              | ',' :: _ => readMembers fuel room (c.advance 1).skipSpaces members
              | _ => .error (.malformed c.pos)
          | _ => .error (.malformed c.pos)
      | _ => .error (.malformed c.pos)
end

def parseChars (cs : List Char) : Except Unreadable Json := do
  let cs := match cs with
    | '\uFEFF' :: cs => cs
    | cs => cs
  let (value, c) ← readValue (2 * cs.length + 2) nestingLimit (Cursor.skipSpaces ⟨0, cs⟩)
  let c := c.skipSpaces
  if c.rest = [] then .ok value else .error (.malformed c.pos)

def parse (s : String) : Except Unreadable Json := parseChars s.toList

def parseBytes (bytes : List Nat) : Except Unreadable Json :=
  match Text.decode? bytes with
  | none => .error .undecodable
  | some cs => parseChars cs

end Switchboard.Json
