/-!
Text as bytes in UTF-8, and bytes read as text, where some of them may be none.

What cannot be read is marked by a replacement character, one for every stretch of bytes that a
character could have begun with, and one for every byte that no character begins with.
-/

namespace Dirlang.Text

def utf8 (s : String) : List UInt8 := s.toList.flatMap String.utf8EncodeChar

def replacement : Char := '\uFFFD'

/-- The character that bytes begin with. -/
def first? (bytes : List UInt8) : Option Char := (bytes.take 4).toByteArray.utf8DecodeChar? 0

def isContinuation (b : UInt8) : Bool := 0x80 ≤ b && b ≤ 0xBF

/-- Two bytes that a character of three bytes or four may begin with. -/
def opens (lead second : UInt8) : Bool :=
  if lead = 0xE0 then 0xA0 ≤ second && second ≤ 0xBF
  else if lead = 0xED then 0x80 ≤ second && second ≤ 0x9F
  else if lead = 0xF0 then 0x90 ≤ second && second ≤ 0xBF
  else if lead = 0xF4 then 0x80 ≤ second && second ≤ 0x8F
  else 0xE1 ≤ lead && lead ≤ 0xF3 && isContinuation second

/-- The number of bytes under one mark, where no character is. -/
def unreadable : List UInt8 → Nat
  | lead :: second :: rest =>
    if !opens lead second then 1
    else if 0xF0 ≤ lead && rest.head?.any isContinuation then 3
    else 2
  | _ => 1

/-- The characters of bytes of which the first ones have been read. -/
def read : Nat → List UInt8 → List Char
  | _, [] => []
  | done + 1, _ :: bytes => read done bytes
  | 0, b :: bytes =>
    match first? (b :: bytes) with
    | some c => c :: read (c.utf8Size - 1) bytes
    | none => replacement :: read (unreadable (b :: bytes) - 1) bytes

def lossy (bytes : List UInt8) : String := String.ofList (read 0 bytes)

end Dirlang.Text
