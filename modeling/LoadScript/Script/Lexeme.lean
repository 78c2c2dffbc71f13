/-!
# Literals and comments of scripts

How arbitrary text is put into a script: as a single-quoted string literal, or on the one line of a
comment. Line terminators are the line feed, the carriage return, and the line and paragraph
separators; none of them appears raw in either.
-/

set_option autoImplicit false

namespace LoadScript

namespace Chars

def lineSeparator : Char := Char.ofNat 0x2028

def paragraphSeparator : Char := Char.ofNat 0x2029

def isLineTerminator (c : Char) : Bool :=
  c == '\n' || c == '\r' || c == lineSeparator || c == paragraphSeparator

def literalChar (c : Char) : List Char :=
  if c = '\\' then ['\\', '\\']
  else if c = '\'' then ['\\', '\'']
  else if c = '\n' then ['\\', 'n']
  else if c = '\r' then ['\\', 'r']
  else if c = '\t' then ['\\', 't']
  else if c = lineSeparator then ['\\', 'u', '2', '0', '2', '8']
  else if c = paragraphSeparator then ['\\', 'u', '2', '0', '2', '9']
  else [c]

def literal (s : List Char) : List Char := '\'' :: (s.flatMap literalChar ++ ['\''])

def onOneLine (s : List Char) : List Char := s.map fun c => if isLineTerminator c then ' ' else c

end Chars

namespace Script

def literal (s : String) : String := String.ofList (Chars.literal s.toList)

def commentText (s : String) : String := String.ofList (Chars.onOneLine s.toList)

end Script

end LoadScript
