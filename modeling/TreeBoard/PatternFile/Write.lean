import TreeBoard.Link.Channel
import TreeBoard.PatternFile

/-!
# Sending a pattern file

A pattern file can be sent over a channel as it can be saved under a name.
-/

namespace TreeBoard.PatternFile

/-- Sends the text of a pattern file over a channel. -/
def write {m : Type → Type} [Monad m] [Link.Channel m] (records : List Record) :
    ExceptT Error m Unit := do
  Link.send (Text.encode (render records))
  Link.flush

end TreeBoard.PatternFile
