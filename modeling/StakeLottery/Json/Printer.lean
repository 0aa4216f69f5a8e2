import StakeLottery.Json.Basic
import StakeLottery.Bytes.Hex
import StakeLottery.Number.Shortest

/-!
JSON values as text on one line, without blanks.
-/

namespace StakeLottery.Json

def escaped (char : Char) : List Char :=
  if char = '"' then ['\\', '"']
  else if char = '\\' then ['\\', '\\']
  else if char.toNat < 0x20 then
    ['\\', 'u', '0', '0', Hex.digit (char.toNat / 16), Hex.digit (char.toNat % 16)]
  else [char]

def quoted (value : String) : List Char :=
  '"' :: (value.toList.flatMap escaped ++ ['"'])

def realCharacters (value : Binary64) : List Char :=
  match nonFinite.find? fun entry => entry.2 = value with
  | some (name, _) => name
  | none => if value.isNaN then ['N', 'a', 'N'] else value.render.toList

mutual

def characters : Json → List Char
  | null => ['n', 'u', 'l', 'l']
  | boolean value => if value then ['t', 'r', 'u', 'e'] else ['f', 'a', 'l', 's', 'e']
  | integer value => Decimal.characters value
  | real value => realCharacters value
  | string value => quoted value
  | array items => '[' :: itemCharacters items
  | object members => '{' :: memberCharacters members

def itemCharacters : List Json → List Char
  | [] => [']']
  | [item] => characters item ++ [']']
  | item :: next :: rest => characters item ++ ',' :: itemCharacters (next :: rest)

def memberCharacters : List (String × Json) → List Char
  | [] => ['}']
  | [(name, value)] => quoted name ++ ':' :: (characters value ++ ['}'])
  | (name, value) :: next :: rest =>
    quoted name ++ ':' :: (characters value ++ ',' :: memberCharacters (next :: rest))

end

mutual

def isWritable : Json → Bool
  | integer value => Decimal.hasText value
  | array items => areWritable items
  | object members => areWritableMembers members
  | _ => true

def areWritable : List Json → Bool
  | [] => true
  | item :: rest => isWritable item && areWritable rest

def areWritableMembers : List (String × Json) → Bool
  | [] => true
  | (_, value) :: rest => isWritable value && areWritableMembers rest

end

def render? (value : Json) : Option String :=
  if value.isWritable then some (String.ofList value.characters) else none

end StakeLottery.Json
