/-
# Quoted strings

A string inside an SQL text stands between apostrophes, and an apostrophe of its own is written
twice. So the first single apostrophe ends the string, whatever it contains.
-/

namespace TableQuery
namespace Text

/-- A text with every apostrophe written twice. -/
def doubleQuotes (cs : List Char) : List Char :=
  cs.flatMap fun c => if c = '\'' then ['\'', '\''] else [c]

/-- A text between apostrophes. -/
def quote (cs : List Char) : List Char := '\'' :: (doubleQuotes cs ++ ['\''])

end Text
end TableQuery
