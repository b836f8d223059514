/-!
# Request methods

* `Http.isTokenChar` — the characters of a token.
* `Http.Method` — a request method: any non-empty token, compared with regard to case.
* `Http.Method.ofString?` — the method of a given name.
-/

namespace StandIn.Http

/-- The characters of which tokens such as method names consist. -/
def isTokenChar (c : Char) : Bool :=
  c.isAlphanum || "!#$%&'*+-.^_\x60|~".toList.contains c

/-- Whether the text is a token. -/
def isToken (s : String) : Bool :=
  !s.isEmpty && s.toList.all isTokenChar

/-- A request method. -/
structure Method where
  name : String
  token : isToken name = true
  deriving DecidableEq, Repr

namespace Method

/-- The method of the given name, if that is a token. -/
def ofString? (name : String) : Option Method :=
  if h : isToken name = true then some ⟨name, h⟩ else none

/-- The method for fetching. -/
def get : Method := ⟨"GET", by decide⟩

/-- The method for submitting. -/
def post : Method := ⟨"POST", by decide⟩

end Method

end StandIn.Http
