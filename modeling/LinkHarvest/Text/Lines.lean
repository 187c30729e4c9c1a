import LinkHarvest.Text.Blank

/-!
# Lines

Text as lines, in two readings: the trimmed, non-blank lines of a subscription, cut at line feeds
only, and the raw lines of a log file, each with its line end read as a line feed.
-/

namespace LinkHarvest.Text

/-- The lines of a text, trimmed, without the blank ones. -/
def nonBlankLines (t : Text) : List Text :=
  ((split '\n' t).map trim).filter (!·.isEmpty)

/-- The text with every line end (CR LF, CR or LF) written as a line feed. -/
def withLineFeeds : Text → Text
  | [] => []
  | '\r' :: '\n' :: rest => '\n' :: withLineFeeds rest
  | '\r' :: rest => '\n' :: withLineFeeds rest
  | c :: rest => c :: withLineFeeds rest

/-- The lines of a text, each with its line feed; the last one may lack it. -/
def rawLines : Text → List Text
  | [] => []
  | c :: rest =>
    if c = '\n' then ['\n'] :: rawLines rest
    else
      match rawLines rest with
      | [] => [[c]]
      | line :: more => (c :: line) :: more

end LinkHarvest.Text
