/-!
# Requests for programs

A session asks its host for a program by title. Every request has a ticket of its own, and the host
reports back with that ticket.
-/

namespace HexPlayer.Cartridge

/-- Names one request. -/
structure Ticket where
  number : Nat
  deriving DecidableEq, Repr

/-- The name of the ticket in the journal. -/
def Ticket.text (t : Ticket) : String := s!"RomTicket({t.number})"

/-- Asks for the program with this title. -/
structure Request where
  ticket : Ticket
  title : String
  deriving DecidableEq, Repr

/-- The bytes of a program. -/
abbrev Program := Array UInt8

end HexPlayer.Cartridge
