import EventLedger.Audit.Filter

/-!
# Patterns

In a pattern `%` stands for any text and `_` for any character; a backslash takes that meaning from
the character behind it.

* `escape`: a text that stands for itself;
* `startPattern`, `partPattern`: texts that start with, or contain, a given one;
* `likes`: a pattern matches a text.
-/

namespace EventLedger.Sql.Pattern

/-- One character that stands for itself. -/
def escapeChar (c : Char) : List Char := if c = '%' ∨ c = '_' ∨ c = '\\' then ['\\', c] else [c]

/-- A text that stands for itself. -/
def escape (cs : List Char) : List Char := cs.flatMap escapeChar

/-- The pattern of all texts that start with `s`. -/
def startPattern (s : String) : String := String.ofList (escape s.toList ++ ['%'])

/-- The pattern of all texts that contain `s`. -/
def partPattern (s : String) : String := String.ofList ('%' :: escape s.toList ++ ['%'])

/-- Some end of `cs`, the whole of it included, satisfies `p`. -/
def someEnd (p : List Char → Bool) : List Char → Bool
  | [] => p []
  | c :: cs => p (c :: cs) || someEnd p cs

/-- The first character is one that satisfies `p`, and what is behind it satisfies `q`. -/
def firstIs (p : Char → Bool) (q : List Char → Bool) : List Char → Bool
  | [] => false
  | c :: cs => p c && q cs

/-- A pattern matches a text. A backslash at the end of a pattern matches nothing. -/
def likes : (pattern text : List Char) → Bool
  | [], cs => cs.isEmpty
  | ['\\'], _ => false
  | '\\' :: c :: pattern, cs => firstIs (· == c) (likes pattern) cs
  | '%' :: pattern, cs => someEnd (likes pattern) cs
  | '_' :: pattern, cs => firstIs (fun _ => true) (likes pattern) cs
  | c :: pattern, cs => firstIs (· == c) (likes pattern) cs

end EventLedger.Sql.Pattern
