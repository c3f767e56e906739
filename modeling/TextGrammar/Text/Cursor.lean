import TextGrammar.Text.Location
/-!
# Cursors

A cursor is a position in a text: the bytes before it and the characters after it.
-/
namespace TextGrammar

structure Cursor where
  offset : Nat
  rest : List Char
deriving DecidableEq, Repr

namespace Cursor

def start (text : List Char) : Cursor := ⟨0, text⟩

def isAtEnd (cursor : Cursor) : Bool := cursor.rest.isEmpty

def advance (cursor : Cursor) (count : Nat) : Cursor :=
  ⟨cursor.offset + byteLength (cursor.rest.take count), cursor.rest.drop count⟩

def advanceBytes? (cursor : Cursor) (bytes : Nat) : Option Cursor :=
  (dropBytes? bytes cursor.rest).map fun rest => ⟨cursor.offset + bytes, rest⟩

end Cursor

end TextGrammar
