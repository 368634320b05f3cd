import HexPlayer.Journal

/-!
# Sources of programs

A source answers requests, in one way or another, with a program or a reason why there is none.
-/

namespace HexPlayer.Cartridge

/-- The answer to a request, and what the source wrote to the journal on the way. -/
structure Delivery where
  result : Except Error Program
  entries : List Journal.Entry := []

/-- Somewhere programs can be had. The answer may differ between two requests for one title. -/
structure Source where
  deliver : Request → Delivery

namespace Source

/-- A source that looks titles up in a list, earlier pairs before later ones. -/
def ofPrograms (programs : List (String × Program)) : Source where
  deliver r :=
    match programs.lookup r.title with
    | some program => ⟨.ok program, []⟩
    | none => ⟨.error (.notFound r.title), []⟩

end Source

end HexPlayer.Cartridge
