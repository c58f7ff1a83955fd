import TanDialog.Dictionary
import TanDialog.Property.Path

/-!
# Property sets

Bank parameters, user parameters, replies and the fields of a request are property sets: texts
under dotted paths, in path order. Beside the look-ups of a dictionary there are three searches:
the entries below a path (`below`), the entries whose whole path matches a query (`findAll`), and
the entries below a query that may match anywhere within the path (`find`).
-/

namespace TanDialog

/-- Values under dotted paths. -/
abbrev PropertySet := Dictionary String

namespace PropertySet

/-- The value at a path, if it is not the empty text. -/
def getNonEmpty? (s : PropertySet) (path : String) : Option String :=
  (s.get? path).filter (!·.isEmpty)

/-- The entries below a path, with their full paths. -/
def below (s : PropertySet) (base : String) : List (String × String) :=
  s.entries.filter fun e => Path.isBelow e.1 base

/-- Whether a query matches a whole path. -/
def matchesWhole (query : List String) (path : String) : Bool :=
  Path.afterMatch? query (Path.components path) == some []

/-- The entries whose whole path matches a query, with their full paths. -/
def findAll (s : PropertySet) (query : String) : List (String × String) :=
  let query := Path.components query
  s.entries.filter fun e => matchesWhole query e.1

/-- The first value whose whole path matches a query. -/
def findValue? (s : PropertySet) (query : String) : Option String :=
  (s.findAll query).head?.map Prod.snd

/-! ### The search within paths -/

/-- What marks the path of a property that a reply merely echoes from the request. -/
def echoMark : List Char := "orig_".toList

/-- Whether a path belongs to an echoed property. -/
def isEcho (path : String) : Bool := echoMark.isPrefixOf path.toList

/-- The components of a query, of which one point at the end is ignored. -/
def queryComponents (query : String) : List String :=
  let cs := query.toList
  Path.components (if cs.getLast? = some '.' then String.ofList cs.dropLast else query)

/-- The path of an entry relative to the leftmost match of a query within it. Echoed properties
have none. -/
def relativePath? (query : List String) (path : String) : Option String :=
  if isEcho path then none
  else (Path.remainder? query (Path.components path)).map Path.ofComponents

/-- The entries below a query, under the rest of their paths. Of entries with the same rest the
last one in path order counts. -/
def find (s : PropertySet) (query : String) : PropertySet :=
  let query := queryComponents query
  Dictionary.ofList <| s.entries.filterMap fun e =>
    (relativePath? query e.1).map fun path => (path, e.2)

end PropertySet

end TanDialog
