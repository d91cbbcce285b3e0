/-!
# Pattern engines

Rules test names against written patterns.  How a pattern is written, which ones are refused and
where one is found is settled by an engine, of which the rules only use what is here: they hold for
every engine.
-/

namespace FontScores

/-- What reads patterns and finds them in texts. -/
class PatternEngine where
  /-- The test of texts that a written pattern stands for; nothing if the pattern is refused. -/
  read? (written : String) : Option (String → Bool)

end FontScores
