import PageAtlas.Json.Value
import PageAtlas.Text.Quoted

namespace PageAtlas.Json

/-!
# Writing JSON

A text keeps every character above U+001F except quotes and backslashes, so a
written value holds a line break only where the layout puts one. `compact`
puts everything on one line; `pretty` indents by two spaces a level. A value
with an integer of too many digits is not written at all.
-/

def escapeChar (c : Char) : List Char :=
  if c = '"' then ['\\', '"']
  else if c = '\\' then ['\\', '\\']
  else if c = '\n' then ['\\', 'n']
  else if c = '\r' then ['\\', 'r']
  else if c = '\t' then ['\\', 't']
  else if c = '\x08' then ['\\', 'b']
  else if c = '\x0c' then ['\\', 'f']
  else if c.toNat < 0x20 then
    '\\' :: 'u' :: Text.hexDigits 4 c.toNat
  else [c]

def escape : List Char → List Char
  | [] => []
  | c :: cs => escapeChar c ++ escape cs

def quoted (s : String) : List Char := '"' :: escape s.toList ++ ['"']

def scalar : Json → List Char
  | bool true => "true".toList
  | bool false => "false".toList
  | int i => (Text.Numeral.ofInt i).toList
  | real x => (Decimal.Format.structured.write x).toList
  | str s => quoted s
  | _ => "null".toList

mutual

def line : Json → List Char
  | arr [] => "[]".toList
  | arr (x :: xs) => '[' :: line x ++ lineItems xs
  | obj [] => "\x7b\x7d".toList
  | obj ((k, v) :: ms) => '\x7b' :: quoted k ++ ':' :: ' ' :: line v ++ lineMembers ms
  | v => scalar v

def lineItems : List Json → List Char
  | [] => [']']
  | x :: xs => ',' :: ' ' :: line x ++ lineItems xs

def lineMembers : List (String × Json) → List Char
  | [] => ['\x7d']
  | (k, v) :: ms => ',' :: ' ' :: quoted k ++ ':' :: ' ' :: line v ++ lineMembers ms

end

def newline (level : Nat) : List Char := '\n' :: List.replicate (2 * level) ' '

mutual

def block (level : Nat) : Json → List Char
  | arr [] => "[]".toList
  | arr (x :: xs) =>
      '[' :: newline (level + 1) ++ block (level + 1) x ++ blockItems level xs
  | obj [] => "\x7b\x7d".toList
  | obj ((k, v) :: ms) =>
      '\x7b' :: newline (level + 1) ++ quoted k ++ ':' :: ' ' :: block (level + 1) v ++
        blockMembers level ms
  | v => scalar v

def blockItems (level : Nat) : List Json → List Char
  | [] => newline level ++ [']']
  | x :: xs => ',' :: newline (level + 1) ++ block (level + 1) x ++ blockItems level xs

def blockMembers (level : Nat) : List (String × Json) → List Char
  | [] => newline level ++ ['\x7d']
  | (k, v) :: ms =>
      ',' :: newline (level + 1) ++ quoted k ++ ':' :: ' ' :: block (level + 1) v ++
        blockMembers level ms

end

def compact (v : Json) : String := String.ofList (line v)

mutual

def isWritable : Json → Bool
  | int i => !Text.Numeral.isOversized i
  | arr items => areWritable items
  | obj members => haveWritable members
  | _ => true

def areWritable : List Json → Bool
  | [] => true
  | v :: vs => isWritable v && areWritable vs

def haveWritable : List (String × Json) → Bool
  | [] => true
  | (_, v) :: ms => isWritable v && haveWritable ms

end

/-- Why a value is not written: an integer in it has too many digits. -/
inductive WriteFault where
  | oversizedInteger
  deriving DecidableEq, Repr

def WriteFault.message : WriteFault → String
  | oversizedInteger => Text.Numeral.unwritable

def write (v : Json) : Except WriteFault String :=
  if v.isWritable then .ok v.compact else .error .oversizedInteger

def pretty (v : Json) : String := String.ofList (block 0 v)

end PageAtlas.Json
