import StoryForge.Chapters.Models
import StoryForge.Library.Dict
import StoryForge.Library.Pattern
import StoryForge.Providers.Gateway

/-!
# Redaction

Texts are redacted before they reach a log, an audit or a provider that gets as little as it can.
Three patterns are applied one after another, each to what the one before it has left: values of
authorization headers, keys, and passwords in database addresses. E-mail addresses, telephone
numbers and terms of one's own may be replaced after them.

A text is the list of its characters. The patterns ignore case.
-/

namespace StoryForge

open Regex

/-! ### Characters -/

/-- The characters that Unicode counts to words, and as decimal digits. -/
structure UnicodeClasses where
  isWord : Char → Bool
  isDigit : Char → Bool
  isWord_ascii : ∀ c, c.toNat < 128 → isWord c = (c.isAlphanum || c == '_')
  isWord_space : ∀ c, isSpace c = true → isWord c = false

/-- A character is a small letter, if case is ignored. -/
def letter (c x : Char) : Bool :=
  x == c || x == c.toUpper || (c == 'i' && (x == '\u0130' || x == '\u0131')) ||
    (c == 's' && x == '\u017f') || (c == 'k' && x == '\u212a')

/-- The characters of a word, if case is ignored. -/
def letters (text : String) : List (Char → Bool) := text.toList.map letter

/-- `[^\s,;]`. -/
def isValueChar (c : Char) : Bool := !isSpace c && c != ',' && c != ';'

/-- `[A-Za-z0-9_-]`, if case is ignored. -/
def isKeyChar (c : Char) : Bool :=
  c.isAlphanum || c == '_' || c == '-' || ['\u0130', '\u0131', '\u017f', '\u212a'].contains c

/-- `[^:\s/@]`. -/
def isUserChar (c : Char) : Bool := !isSpace c && c != ':' && c != '/' && c != '@'

/-- `[^@\s/]`. -/
def isPasswordChar (c : Char) : Bool := !isSpace c && c != '@' && c != '/'

/-- `[:=]`. -/
def isAssignment (c : Char) : Bool := c == ':' || c == '='

/-! ### Patterns -/

/-- `\s*`. -/
def spaces : Regex := many isSpace 0

/-- The prefix of an authorization value behind its colon. -/
def afterColon : Regex := seq spaces (opt (seq (word (letters "bearer")) (many isSpace 1)))

/-- `_PATTERNS["authorization"]`. -/
def authorization : Pattern where
  kept := seq (seq (word (letters "authorization")) spaces) (seq (word [isAssignment]) afterColon)
  hidden := many isValueChar 1
  closing := word []

/-- `api[_-]?key|token|secret`. -/
def keyNames : Regex :=
  alt (alt (seq (word (letters "api"))
      (seq (opt (word [fun c => c == '_' || c == '-'])) (word (letters "key"))))
    (word (letters "token"))) (word (letters "secret"))

/-- The name of a key and its colon. -/
def assigned : Regex := seq (seq keyNames spaces) (seq (word [isAssignment]) spaces)

/-- `_PATTERNS["api_key"]`. -/
def apiKey : Pattern where
  kept := word []
  hidden := seq (opt assigned) (seq (word (letters "sk-")) (many isKeyChar 12))
  closing := word []

/-- The prefix of a database address before the colon of its password. -/
def address (unicode : UnicodeClasses) : Regex :=
  seq (seq (word (letters "postgres")) (seq (opt (word (letters "ql")))
      (opt (seq (word (letters "+")) (many unicode.isWord 1)))))
    (seq (word (letters "://")) (many isUserChar 1))

/-- `_PATTERNS["database_url"]`. -/
def databaseUrl (unicode : UnicodeClasses) : Pattern where
  kept := seq (address unicode) (word (letters ":"))
  hidden := many isPasswordChar 1
  closing := word (letters "@")

/-- `"[REDACTED]"`. -/
def mask : List Char := "[REDACTED]".toList

namespace RedactionService

/-- What may be replaced besides the patterns. The terms are sorted by their length; terms of one
length come in the order given. -/
structure RedactOptions where
  redactEmail : Bool := false
  redactPhone : Bool := false
  customTerms : List (List Char) := []

/-- A text with the amounts of its replacements so far. -/
abbrev Rendered := List Char × List (String × ℕ)

/-- One substitution: `subn`, and the counter of its category. -/
def substitute (category : String) (replace : List Char → List Piece) (rendered : Rendered) :
    Rendered :=
  (textOf (replace rendered.1), rendered.2 ++ [(category, amountOf (replace rendered.1))])

/-- What an expression finds, if neither the character before nor the one behind is of a
class. -/
def findBetween (expression : Regex) (cls : Char → Bool) : Matcher := fun before text =>
  if before.any cls then none
  else ((expression.rests text).find? fun rest => !rest.head?.any cls).map fun rest => (mask, rest)

/-- The expression of an e-mail address. -/
def email (unicode : UnicodeClasses) : Regex :=
  seq (many (fun c => unicode.isWord c || ['.', '+', '-'].contains c) 1)
    (seq (word [(· == '@')]) (seq (many (fun c => unicode.isWord c || ['.', '-'].contains c) 1)
      (seq (word [(· == '.')]) (many Char.isAlpha 2))))

/-- The expression of a telephone number. -/
def phone (unicode : UnicodeClasses) : Regex :=
  seq (opt (word [(· == '+')])) (seq (word [unicode.isDigit])
    (seq (many (fun c => unicode.isDigit c || [' ', '-'].contains c) 7) (word [unicode.isDigit])))

/-- `rendered.replace(term, "[REDACTED]")`. -/
def replaceTerm (term text : List Char) : List Piece :=
  sub (fun text => (readWord (term.map fun c => (· == c)) text).map fun rest => (mask, rest)) text

/-- The terms in the order in which they are replaced. -/
def sortedTerms (terms : List (List Char)) : List (List Char) :=
  (terms.filter (· != [])).dedup.insertionSort fun a b => b.length ≤ a.length

/-- The replacements that are asked for. -/
def redactOptional (unicode : UnicodeClasses) (options : RedactOptions) (rendered : Rendered) :
    Rendered :=
  let mailed := if options.redactEmail then substitute "email" (subFrom (findBetween
    (email unicode) fun c => unicode.isWord c || ['.', '-'].contains c) none 0) rendered
    else rendered
  let phoned := if options.redactPhone then substitute "phone" (subFrom (findBetween
    (phone unicode) unicode.isDigit) none 0) mailed else mailed
  (sortedTerms options.customTerms).foldl
    (fun rendered term => substitute "custom" (replaceTerm term) rendered) phoned

/-- The patterns, one after another. -/
def redactPatterns (unicode : UnicodeClasses) (value : List Char) : Rendered :=
  substitute "database_url" (sub ((databaseUrl unicode).replaceAt mask))
    (substitute "api_key" (sub (apiKey.replaceAt mask))
      (substitute "authorization" (sub (authorization.replaceAt mask)) (value, [])))

/-- The amounts of the categories that are not zero. -/
def summary (amounts : List (String × ℕ)) : List (String × ℕ) :=
  (Dict.group amounts).filterMap fun entry =>
    if entry.2.sum = 0 then none else some (entry.1, entry.2.sum)

/-- `redact`. -/
def redact (unicode : UnicodeClasses) (options : RedactOptions) (value : List Char) : Rendered :=
  let rendered := redactOptional unicode options (redactPatterns unicode value)
  (rendered.1, summary rendered.2)

end RedactionService

end StoryForge
